/-!
# Cutting a text at a separator

`splitOn sep cs` are the parts of `cs` between the occurrences of `sep`, empty ones included; there
is one part more than there are separators. Joining the parts gives the text back
(`joinWith_splitOn`).
-/

namespace TreeAssist.Text

/-- Puts `x` at the front of the first list. -/
def consFirst {α : Type} (x : α) : List (List α) → List (List α)
  | [] => [[x]]
  | l :: ls => (x :: l) :: ls

/-- The parts of `cs` between the occurrences of `sep`. -/
def splitOn (sep : Char) : List Char → List (List Char)
  | [] => [[]]
  | c :: cs => if c = sep then [] :: splitOn sep cs else consFirst c (splitOn sep cs)

/-- The parts with `sep` between them. -/
def joinWith (sep : Char) : List (List Char) → List Char
  | [] => []
  | [p] => p
  | p :: q :: rest => p ++ sep :: joinWith sep (q :: rest)

/-- There is at least one part. -/
theorem splitOn_ne_nil (sep : Char) (cs : List Char) : splitOn sep cs ≠ [] := by
  cases cs with
  | nil => simp [splitOn]
  | cons c cs =>
    by_cases h : c = sep
    · simp [splitOn, h]
    · cases hs : splitOn sep cs <;> simp [splitOn, h, hs, consFirst]

/-- The parts make up the text. -/
theorem joinWith_splitOn (sep : Char) (cs : List Char) : joinWith sep (splitOn sep cs) = cs := by
  induction cs with
  | nil => rfl
  | cons c cs ih =>
    have hne := splitOn_ne_nil sep cs
    cases hs : splitOn sep cs with
    | nil => exact absurd hs hne
    | cons p ps =>
      rw [hs] at ih
      by_cases h : c = sep
      · simp [splitOn, h, hs, joinWith, ih]
      · cases ps with
        | nil =>
          simp only [joinWith] at ih
          simp [splitOn, h, hs, consFirst, joinWith, ih]
        | cons q rest =>
          simp only [joinWith] at ih
          simp [splitOn, h, hs, consFirst, joinWith, ih]

end TreeAssist.Text
