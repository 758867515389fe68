import TreeAssist.Text.Document
import TreeAssist.Tree.Locate

/-!
# What an indentation rule sees

A rule decides how far a line is indented from the position of the request, the node whose rule it
is, and the document. Widths are mostly relative to the node's *base line*: the line on which the
construct begins. If that line itself begins inside some earlier construct, then it continues that
construct, and the line on which the earlier one begins is taken instead, and so on
(`Tree.Node.baseLine`).
-/

namespace TreeAssist

namespace Tree.Node

variable {t : Tree}

/-- The outermost node that starts where `n` does. -/
def outermostFromStart (n : t.Node) : t.Node :=
  match _h : n.parent? with
  | none => n
  | some p => if p.start = n.start then p.outermostFromStart else n
termination_by n.id
decreasing_by exact id_lt_of_parent? _h

theorem outermostFromStart_eq (n : t.Node) :
    n.outermostFromStart =
      n.parent?.elim n fun p => if p.start = n.start then p.outermostFromStart else n := by
  rw [outermostFromStart]
  split <;> simp [*]

/-- The construct inside which an offset at the start of a line lies, seen from `n`: the innermost
node there, or the outermost one that starts where that node does. -/
def constructAt (n : t.Node) (offset : Nat) : t.Node :=
  (n.innermostAt offset .strict).outermostFromStart

/-- Goes back from `line` to the line on which the construct of `n` begins, over all lines that
begin inside a construct other than those around `n`. -/
def baseLineFrom (d : Document) (n : t.Node) (line : Line) : Line :=
  if (n.constructAt line.start).encloses n ∨ line.start ≤ (n.constructAt line.start).start then
    line
  else n.baseLineFrom d (d.lineHolding (n.constructAt line.start).start)
termination_by line.start
decreasing_by
  have := d.start_lineHolding_le (n.constructAt line.start).start
  omega

/-- The line on which the construct of `n` begins. -/
def baseLine (d : Document) (n : t.Node) : Line :=
  n.baseLineFrom d (d.lineHolding n.start)

/-- Indentation of the line on which the construct of `n` begins. -/
def baseWidth (d : Document) (tab : Nat) (n : t.Node) : Nat :=
  (n.baseLine d).leadingWidth tab

end Tree.Node

/-- A request for an indentation. -/
structure IndentRequest (t : Tree) where
  /-- The node whose rule decides. -/
  node : t.Node
  /-- The position that the indentation is for. -/
  pos : Nat
  /-- The document. -/
  doc : Document
  /-- Width of one level. -/
  level : Nat
  /-- Distance of tab stops. -/
  tab : Nat

namespace IndentRequest

variable {t : Tree}

/-- The same request for another node. -/
def forNode (req : IndentRequest t) (n : t.Node) : IndentRequest t :=
  { req with node := n }

/-- Indentation of the line on which the node's construct begins. -/
def baseWidth (req : IndentRequest t) : Nat :=
  req.node.baseWidth req.doc req.tab

/-- Indentation of the line that holds `pos`. -/
def indentOfLine (req : IndentRequest t) (pos : Nat) : Nat :=
  req.doc.indentOfLine pos req.tab

/-- Column of `pos`. -/
def columnOf (req : IndentRequest t) (pos : Nat) : Nat :=
  req.doc.columnOf pos req.tab

end IndentRequest

end TreeAssist
