/-!
# Blank characters

The Unicode property `White_Space`, and the cutting of a text into words at blanks.

* `isBlank c` — `c` has the property.
* `words cs` — the maximal runs of `cs` without a blank, in order.

Every word is nonempty and free of blanks (`ne_nil_of_mem_words`, `not_isBlank_of_mem_words`).
-/

namespace TreeAssist.Text

/-- `c` has the Unicode property `White_Space`: the ASCII controls from tab to carriage return, the
space, NEL, the no-break space, the spaces of the general punctuation block with their line and
paragraph separators, and the Ogham and ideographic spaces. -/
def isBlank (c : Char) : Bool :=
  let n := c.toNat
  (0x09 ≤ n && n ≤ 0x0D) || n == 0x20 || n == 0x85 || n == 0xA0 || n == 0x1680 ||
    (0x2000 ≤ n && n ≤ 0x200A) || n == 0x2028 || n == 0x2029 || n == 0x202F || n == 0x205F ||
    n == 0x3000

/-- What `dropWhile` leaves is no longer than what it was given. -/
theorem length_dropWhile_le {α : Type} (p : α → Bool) (l : List α) :
    (l.dropWhile p).length ≤ l.length :=
  (List.dropWhile_sublist p).length_le

/-- The maximal runs of characters that are not blank, in order. -/
def words : List Char → List (List Char)
  | [] => []
  | c :: cs =>
    if isBlank c then words cs
    else (c :: cs.takeWhile (!isBlank ·)) :: words (cs.dropWhile (!isBlank ·))
termination_by cs => cs.length
decreasing_by
  · simp
  · have := length_dropWhile_le (!isBlank ·) cs
    simp only [List.length_cons]
    omega

/-- `words`, on and into strings. -/
def wordsOf (s : String) : List String :=
  (words s.toList).map String.ofList

/-- No word is empty. -/
theorem ne_nil_of_mem_words {cs w : List Char} (h : w ∈ words cs) : w ≠ [] := by
  fun_induction words cs with
  | case1 => simp at h
  | case2 c cs hc ih => exact ih h
  | case3 c cs hc ih =>
    rcases List.mem_cons.mp h with rfl | h
    · simp
    · exact ih h

/-- A word holds no blank. -/
theorem not_isBlank_of_mem_words {cs w : List Char} (h : w ∈ words cs) :
    ∀ c ∈ w, isBlank c = false := by
  fun_induction words cs with
  | case1 => simp at h
  | case2 c cs hc ih => exact ih h
  | case3 c cs hc ih =>
    rcases List.mem_cons.mp h with rfl | h
    · intro d hd
      rcases List.mem_cons.mp hd with rfl | hd
      · simpa using hc
      · have := List.all_takeWhile (p := (!isBlank ·)) (l := cs)
        simpa using List.all_eq_true.mp this d hd
    · exact ih h

end TreeAssist.Text
