import TreeAssist.Indent.Request

/-!
# Widths inside constructs

How far a line goes in inside a construct of one of three sorts.

* `IndentRequest.blockWidth` is for blocks that a colon opens. A line after a statement that leaves
  the block goes back to the level of the block's construct, a line after the colon goes one level
  deeper, and any other line stays as it is.
* `IndentRequest.documentWidth` is for the whole document. Its blank end belongs to the block in
  which its last text lies, however many lines it has.
* `IndentRequest.bracketedWidth` is for bracketed constructs. A line that begins with the closing
  delimiter goes back to the level of the construct, any other line goes deeper. With alignment,
  lines are put under the opening delimiter if something follows it on its line.
-/

namespace TreeAssist

/-- The kind of blocks. -/
def blockKind : String := "Body"

/-- The kind of the token that opens a block. -/
def colonKind : String := ":"

/-- The kind of comments. -/
def commentKind : String := "Comment"

namespace Tree.Node

variable {t : Tree}

/-- A line behind the statement `n` goes back to the enclosing level. A statement with an
expression leaves its block only once `pos` is past that expression. -/
def leavesBlock (n : t.Node) (pos : Nat) : Bool :=
  if n.name ∈ ["BreakStatement", "ContinueStatement", "PassStatement"] then true
  else if n.name ∈ ["ReturnStatement", "RaiseStatement"] then n.stop ≤ pos
  else false

/-- The first child behind offset `pos` that is not a comment, unless the last child comes first. -/
def firstContent (n : t.Node) (pos : Nat) : Option t.Node :=
  match _h : n.childEndingAfter pos with
  | none => none
  | some c =>
    if n.lastChild? = some c then none
    else if c.name = commentKind then n.firstContent c.stop
    else some c
termination_by n.stop - pos
decreasing_by
  have := stop_of_childEndingAfter _h
  omega

theorem firstContent_eq (n : t.Node) (pos : Nat) :
    n.firstContent pos = (n.childEndingAfter pos).bind fun c =>
      if n.lastChild? = some c then none
      else if c.name = commentKind then n.firstContent c.stop
      else some c := by
  rw [firstContent]
  split <;> simp [*]

end Tree.Node

namespace IndentRequest

variable {t : Tree}

/-- Indentation in the block of `req.node`, where `anchor` is the position that decides which
statement comes before. With `trailing`, the request lies in the blank end of the document, and
`anchor` is the end of its text. -/
def widthInBlock (req : IndentRequest t) (anchor : Nat) (trailing : Bool) : Nat :=
  let before := req.node.childStartingBefore anchor
  if before.any (·.leavesBlock anchor) then req.baseWidth
  else if (req.node.innermostAt anchor .left).name = colonKind then req.baseWidth + req.level
  else if trailing ∧ (req.doc.lineHolding req.pos).isBlank then
    match before.filter (·.name != colonKind) with
    | some statement => req.indentOfLine statement.start
    | none => req.baseWidth + req.level
  else req.indentOfLine req.pos

/-- Indentation in a block. -/
def blockWidth (req : IndentRequest t) : Nat :=
  req.widthInBlock req.pos false

/-- Indentation in a document. -/
def documentWidth (req : IndentRequest t) : Nat :=
  if req.doc.onlyBlanksFrom req.pos then
    let anchor := req.doc.endOfTextBefore req.pos
    match (req.node.innermostAt anchor .left).ancestors.find? (·.name == blockKind) with
    | some block => (req.forNode block).widthInBlock anchor true
    | none => req.indentOfLine req.pos
  else req.indentOfLine req.pos

/-- The opening delimiter, if something other than a comment or the last child follows it on its
line and before the position. -/
def alignmentOpener (req : IndentRequest t) : Option t.Node := do
  let opener ← req.node.childEndingAfter req.node.start
  let line := req.doc.lineHolding opener.start
  let stop := if line.start < req.pos then min line.stop req.pos else line.stop
  let content ← req.node.firstContent opener.stop
  if content.start < stop then some opener else none

/-- The text behind the position begins with `closing`, blanks apart. -/
def startsWithClosing (req : IndentRequest t) (closing : String) : Bool :=
  closing != "" &&
    closing.toList.isPrefixOf ((req.doc.restOfLine req.pos).dropWhile Text.isBlank)

/-- Indentation in a bracketed construct. -/
def bracketedWidth (req : IndentRequest t) (closing : String) (align : Bool) (levels : Nat) : Nat :=
  let closed := req.startsWithClosing closing
  match if align then req.alignmentOpener else none with
  | some opener => req.columnOf (if closed then opener.start else opener.stop)
  | none => if closed then req.baseWidth else req.baseWidth + req.level * levels

end IndentRequest

end TreeAssist
