import TreeAssist.Proofs.Tree.Children
import TreeAssist.Tree.Shape
import TreeAssist.Tree.Walk

/-!
# Outlines

An `Outline` is what a tree says about a text, free of tables: each node has a name, a span and its
children in order. `Node.outline` reads it off an arena by following the child table, and
`Shape.outline` forgets how a parser announced the nodes: a leaf is a node without children.
-/

namespace TreeAssist

/-- An ordered tree of names and spans. -/
inductive Outline where
  /-- A node with its children in order. -/
  | node (name : String) (span : Span) (children : List Outline)

namespace Tree.Node

variable {t : Tree}

/-- The outline of the subtree under `n`. -/
def outline (n : t.Node) : Outline :=
  .node n.name n.span (List.ofFn fun k : Fin n.childCount => (n.child k.val k.isLt).outline)
termination_by t.nodes.size - n.id
decreasing_by
  have := n.id_lt_child k.val k.isLt
  have := n.isLt
  omega

/-- The outline of a node is made of those of its children. -/
theorem outline_eq (n : t.Node) : n.outline = .node n.name n.span (n.children.map outline) := by
  rw [outline, ofFn_child]

end Tree.Node

namespace Shape

mutual

/-- The outline of the tree. -/
def outline : Shape → Outline
  | leaf name span => .node name span []
  | group name span children => .node name span (outlineAll children)

/-- The outlines of the given trees. -/
def outlineAll : List Shape → List Outline
  | [] => []
  | s :: rest => s.outline :: outlineAll rest

end

theorem outlineAll_eq_map (l : List Shape) : outlineAll l = l.map outline := by
  induction l with
  | nil => rfl
  | cons s rest ih => simp [outlineAll, ih]

end Shape

end TreeAssist
