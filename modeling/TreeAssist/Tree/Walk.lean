import TreeAssist.Tree.Node

/-!
# Walks through a tree

* `Node.ancestors` — the node, its parent, and so on up to the root.
* `Node.encloses` — whether one node is the other or lies above it.
* `Node.preorder` — the nodes of a subtree, each before its children and these in order.
* `Node.childrenFromEnds` — the children taken one by one from either end.
-/

namespace TreeAssist.Tree.Node

variable {t : Tree}

/-- The node and all nodes above it, innermost first. -/
def ancestors (n : t.Node) : List t.Node :=
  n :: match _h : n.parent? with
    | none => []
    | some p => p.ancestors
termination_by n.id
decreasing_by exact id_lt_of_parent? _h

/-- The ancestors of a node with a parent are the node and the ancestors of the parent. -/
theorem ancestors_of_parent? {n p : t.Node} (h : n.parent? = some p) :
    n.ancestors = n :: p.ancestors := by
  rw [ancestors]
  split
  · rename_i hnone
    rw [h] at hnone
    cases hnone
  · rename_i q hq
    rw [h] at hq
    cases hq
    rfl

/-- The root is its only ancestor. -/
theorem ancestors_of_parent?_eq_none {n : t.Node} (h : n.parent? = none) : n.ancestors = [n] := by
  rw [ancestors]
  split
  · rfl
  · rename_i q hq
    rw [h] at hq
    cases hq

/-- `n` is `m` or lies above it. -/
def encloses (n m : t.Node) : Bool :=
  m.ancestors.contains n

/-- The nodes of the subtree under `n`: `n`, then the subtrees of its children in order. -/
def preorder (n : t.Node) : List t.Node :=
  n :: (List.ofFn fun k : Fin n.childCount => (n.child k.val k.isLt).preorder).flatten
termination_by t.nodes.size - n.id
decreasing_by
  have := n.id_lt_child k.val k.isLt
  have := n.isLt
  omega

/-- A subtree is walked through child by child. -/
theorem preorder_eq (n : t.Node) : n.preorder = n :: n.children.flatMap preorder := by
  rw [preorder, ofFn_child, List.flatMap]

/-- An end of a list. -/
inductive End where
  /-- The end with the first member. -/
  | front
  /-- The end with the last member. -/
  | back

/-- Takes one member from an end of `l`: that member, if there is one, and the rest. -/
def End.take {α : Type} (e : End) (l : List α) : Option α × List α :=
  match e with
  | front => (l.head?, l.tail)
  | back => (l.getLast?, l.dropLast)

/-- Takes a member from each of the ends in turn, and says how many are left each time. -/
def End.takeAll {α : Type} (l : List α) : List End → List (Option α × Nat)
  | [] => []
  | e :: es =>
    let (x, rest) := e.take l
    (x, rest.length) :: takeAll rest es

/-- Takes children one by one from the given ends, and says how many are left each time. -/
def childrenFromEnds (n : t.Node) (ends : List End) : List (Option t.Node × Nat) :=
  End.takeAll n.children ends

end TreeAssist.Tree.Node
