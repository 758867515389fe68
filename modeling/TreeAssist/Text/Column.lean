/-!
# Columns

The visual width of a text in which a tab reaches to the next multiple of the tab size.

* `advance tab col c` — the column after a character `c` that stands at column `col`.
* `columnAfter tab cs` — the column after all of `cs`, counted from column `0`.
* `leadingWidth tab cs` — the column after the leading spaces and tabs of `cs`.

A tab size of `0` counts as `1`. Every other character, of whatever length in bytes, is one column
wide.
-/

namespace TreeAssist.Text

/-- The column after `c`, where `c` stands at column `col` and tab stops are `tab` apart. -/
def advance (tab col : Nat) (c : Char) : Nat :=
  if c = '\t' then col + (tab - col % tab) else col + 1

/-- The column after all of `cs`, counted from `0`. -/
def columnAfter (tab : Nat) (cs : List Char) : Nat :=
  cs.foldl (advance (max tab 1)) 0

/-- `c` is a space or a tab, the two characters that make up indentation. -/
def isIndent (c : Char) : Bool :=
  c == ' ' || c == '\t'

/-- The column after the leading spaces and tabs of `cs`. -/
def leadingWidth (tab : Nat) (cs : List Char) : Nat :=
  columnAfter tab (cs.takeWhile isIndent)

/-- The empty text is no column wide. -/
@[simp]
theorem columnAfter_nil (tab : Nat) : columnAfter tab [] = 0 := rfl

/-- The columns of a text continue those of its first part. -/
theorem columnAfter_append (tab : Nat) (cs ds : List Char) :
    columnAfter tab (cs ++ ds) = ds.foldl (advance (max tab 1)) (columnAfter tab cs) := by
  simp [columnAfter]

/-- A character moves the column on. -/
theorem lt_advance {tab : Nat} (h : 0 < tab) (col : Nat) (c : Char) : col < advance tab col c := by
  have := Nat.mod_lt col h
  unfold advance
  split <;> omega

end TreeAssist.Text
