import TreeAssist.Text.Blank
import TreeAssist.Text.Bytes
import TreeAssist.Text.Column
import TreeAssist.Text.Split

/-!
# Documents and their lines

A document is a list of characters, addressed by byte offsets. An offset past the end counts as the
end, and one inside a character as that character's start (`Document.snap`).

Offsets are kept in 32 bits, like those of the nodes of a tree, so documents have fewer than
`addressLimit` bytes. The offsets in such a document are the natural numbers that the definitions
below give; those in a longer one, which would be cut off to 32 bits, are not modelled.

A line ends after a line feed, a carriage return, the two together, a vertical tab, a form feed,
NEL, or the line or paragraph separator (`rawLines`). Of these breaks only a line feed, with the
carriage return before it, is left out of the line's own text (`stripBreak`): a line that ends in
any other way keeps that character.

The module introduces:

* `Document.lines` — all lines, with number, offsets and text; there is always at least one.
* `Document.nthLine n` — the line numbered `n`, or the last one.
* `Document.lineHolding pos` — the line that holds `pos`; it starts at or before `pos`
  (`Document.start_lineHolding_le`).
* `Document.restOfLine`, `Document.onlyBlanksFrom`, `Document.endOfTextBefore`,
  `Document.indentOfLine`, `Document.columnOf` — what stands around a position.
-/

namespace TreeAssist

open Text

namespace Text

/-- A character that ends a line. -/
def isBreak (c : Char) : Bool :=
  let n := c.toNat
  (0x0A ≤ n && n ≤ 0x0D) || n == 0x85 || n == 0x2028 || n == 0x2029

/-- Cuts a text after each line break. A carriage return and the line feed after it are one break.
The last line has no break and may be empty. -/
def rawLines : List Char → List (List Char)
  | [] => [[]]
  | '\r' :: '\n' :: cs => ['\r', '\n'] :: rawLines cs
  | c :: cs => if isBreak c then [c] :: rawLines cs else consFirst c (rawLines cs)

/-- A text has at least one line. -/
theorem rawLines_ne_nil (cs : List Char) : rawLines cs ≠ [] := by
  fun_cases rawLines cs with
  | case4 c cs => cases rawLines cs <;> simp [consFirst]
  | _ => simp

/-- The lines with their breaks make up the text. -/
theorem flatten_rawLines (cs : List Char) : (rawLines cs).flatten = cs := by
  fun_induction rawLines cs with
  | case1 => rfl
  | case2 cs ih => simp [ih]
  | case3 c cs _ h ih => simp [ih]
  | case4 c cs _ h ih =>
    have hne := rawLines_ne_nil cs
    cases hl : rawLines cs with
    | nil => exact absurd hl hne
    | cons l ls =>
      rw [hl] at ih
      simpa [consFirst] using ih

/-- A line without its line feed, or carriage return and line feed. Other breaks stay. -/
def stripBreak (raw : List Char) : List Char :=
  match raw.reverse with
  | '\n' :: '\r' :: cs => cs.reverse
  | '\n' :: cs => cs.reverse
  | _ => raw

end Text

/-- One line of a document. -/
structure Line where
  /-- The line's index, counted from `0`. -/
  number : Nat
  /-- Offset of the first character. -/
  start : Nat
  /-- Offset of the end of the line's own text. -/
  stop : Nat
  /-- The line's own text. -/
  chars : List Char
deriving DecidableEq

namespace Line

/-- The line's own text, as a string. -/
def text (l : Line) : String :=
  String.ofList l.chars

/-- The line holds only blanks. -/
def isBlank (l : Line) : Bool :=
  l.chars.all Text.isBlank

/-- Width of the line's leading spaces and tabs. -/
def leadingWidth (l : Line) (tab : Nat) : Nat :=
  Text.leadingWidth tab l.chars

end Line

/-- A document, as the list of its characters. -/
structure Document where
  /-- The characters of the document. -/
  chars : List Char := []
deriving DecidableEq

namespace Document

/-- The document with the given text. -/
def ofString (s : String) : Document :=
  ⟨s.toList⟩

/-- Length in bytes. -/
def size (d : Document) : Nat :=
  byteLength d.chars

/-- Numbers the lines `raws` from `number` on, the first of them starting at `start`. -/
def linesFrom (number start : Nat) : List (List Char) → List Line
  | [] => []
  | raw :: raws =>
    { number, start, stop := start + byteLength (stripBreak raw), chars := stripBreak raw } ::
      linesFrom (number + 1) (start + byteLength raw) raws

/-- All lines of the document. -/
def lines (d : Document) : List Line :=
  linesFrom 0 0 (rawLines d.chars)

/-- Number of lines: one more than the number of line breaks. -/
def numLines (d : Document) : Nat :=
  d.lines.length

@[simp]
theorem length_linesFrom (number start : Nat) (raws : List (List Char)) :
    (linesFrom number start raws).length = raws.length := by
  induction raws generalizing number start with
  | nil => rfl
  | cons raw raws ih => simp [linesFrom, ih]

/-- A document has at least one line. -/
theorem numLines_pos (d : Document) : 0 < d.numLines := by
  simpa [numLines, lines] using List.length_pos_iff.mpr (rawLines_ne_nil d.chars)

/-- The greatest offset of a character, or of the end, that is not above `pos`. -/
def snap (d : Document) (pos : Nat) : Nat :=
  byteLength (takeBytes pos d.chars)

/-- Snapping never moves a position forward. -/
theorem snap_le (d : Document) (pos : Nat) : d.snap pos ≤ pos :=
  byteLength_takeBytes_le pos d.chars

/-- The line numbered `n`, or the last line if there are not so many. -/
def nthLine (d : Document) (n : Nat) : Line :=
  d.lines.get ⟨min n (d.numLines - 1), by
    have := d.numLines_pos
    unfold numLines at *
    omega⟩

/-- Number of the line that holds `pos`: how many later lines start at or before it. -/
def lineNumberOf (d : Document) (pos : Nat) : Nat :=
  let p := d.snap pos
  (d.lines.tail.takeWhile (·.start ≤ p)).length

/-- The line that holds `pos`. -/
def lineHolding (d : Document) (pos : Nat) : Line :=
  d.nthLine (d.lineNumberOf pos)

/-- The text from `pos` to the end of its line. -/
def restOfLine (d : Document) (pos : Nat) : List Char :=
  let l := d.lineHolding pos
  dropBytes (d.snap pos - l.start) l.chars

/-- Nothing but blanks follows `pos` in the document. -/
def onlyBlanksFrom (d : Document) (pos : Nat) : Bool :=
  (dropBytes pos d.chars).all isBlank

/-- End of the last character before `pos` that is not blank, or `0`. -/
def endOfTextBefore (d : Document) (pos : Nat) : Nat :=
  byteLength ((takeBytes pos d.chars).reverse.dropWhile isBlank)

/-- Indentation of the line that holds `pos`. -/
def indentOfLine (d : Document) (pos tab : Nat) : Nat :=
  (d.lineHolding pos).leadingWidth tab

/-- Column of `pos` in its line; past the line's own text it is the column of that text's end. -/
def columnOf (d : Document) (pos tab : Nat) : Nat :=
  let l := d.lineHolding pos
  columnAfter tab (takeBytes (d.snap pos - l.start) l.chars)

/-- The first line of `linesFrom` starts where it was told to. -/
theorem start_linesFrom_zero {number start : Nat} {raws : List (List Char)}
    (h : 0 < (linesFrom number start raws).length) :
    ((linesFrom number start raws)[0]).start = start := by
  cases raws with
  | nil => simp at h
  | cons raw raws => rfl

/-- The line that holds `pos` starts at or before it. -/
theorem start_lineHolding_le_snap (d : Document) (pos : Nat) :
    (d.lineHolding pos).start ≤ d.snap pos := by
  have hpos := d.numLines_pos
  have hpre := List.takeWhile_prefix (l := d.lines.tail) (·.start ≤ d.snap pos)
  have hle : d.lineNumberOf pos ≤ d.lines.length - 1 := by
    simpa [lineNumberOf] using hpre.length_le
  unfold numLines at hpos
  cases hn : d.lineNumberOf pos with
  | zero =>
    -- The first line starts at `0`.
    have : (d.lines[0]).start = 0 := start_linesFrom_zero hpos
    simp [lineHolding, nthLine, hn, this]
  | succ k =>
    -- A later line was counted because it starts at or before the position.
    have hk : k < (d.lines.tail.takeWhile (·.start ≤ d.snap pos)).length := by
      have : d.lineNumberOf pos = (d.lines.tail.takeWhile (·.start ≤ d.snap pos)).length := rfl
      omega
    have hmem := List.getElem_mem hk
    have hall := List.all_eq_true.mp
      (List.all_takeWhile (p := (·.start ≤ d.snap pos)) (l := d.lines.tail)) _ hmem
    have hget := hpre.getElem hk
    have hmin : min (k + 1) (d.numLines - 1) = k + 1 := by
      unfold numLines
      omega
    simp only [List.getElem_tail] at hget
    simp only [lineHolding, nthLine, hn, hmin, List.get_eq_getElem]
    rw [← hget]
    simpa using hall

/-- The line that holds `pos` starts at or before it. -/
theorem start_lineHolding_le (d : Document) (pos : Nat) : (d.lineHolding pos).start ≤ pos :=
  Nat.le_trans (d.start_lineHolding_le_snap pos) (d.snap_le pos)

end Document

end TreeAssist
