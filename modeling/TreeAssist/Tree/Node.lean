import TreeAssist.Tree.Check

/-!
# Trees and their nodes

A `Tree` is an arena that passes all checks, and a `Tree.Node` is the index of one of its records.
Every look-up from a node is therefore total: kind and span are there, the parent and the children
are nodes of the same tree.

The module introduces:

* `Tree.ofArena` — the tree held by an arena, or the first violation.
* `Tree.root`, `Tree.node?`, `Tree.all` — the nodes of a tree.
* `Node.kind`, `Node.span`, `Node.parent?`, `Node.child`, `Node.children` and the siblings — what is
  known about a node.

Parents come before their children (`Node.id_lt_of_parent?`, `Node.id_lt_child`), so walks up and
down end, and the two directions agree (`Node.parent?_child`, `Node.index_child`).
-/

namespace TreeAssist

/-- An arena that is a tree. -/
structure Tree extends Arena where
  /-- The tables fit together. -/
  wellFormed : toArena.WellFormed

namespace Tree

/-- The tree held by the arena `a`, or the first thing that is wrong with it. -/
def ofArena (a : Arena) : Except Violation Tree :=
  match h : a.check with
  | .ok _ => .ok ⟨a, Arena.check_eq_ok_iff.mp h⟩
  | .error e => .error e

/-- The tree held by an arena has that arena, and every well-formed arena holds one. -/
theorem ofArena_eq_ok_iff {a : Arena} {t : Tree} : ofArena a = .ok t ↔ t.toArena = a := by
  unfold ofArena
  split
  · rename_i u h
    constructor
    · intro e
      cases e
      rfl
    · rintro rfl
      rfl
  · rename_i e h
    simp only [reduceCtorEq, false_iff]
    rintro rfl
    have hok : t.toArena.check = .ok () := Arena.check_eq_ok_iff.mpr t.wellFormed
    rw [h] at hok
    cases hok

/-- Number of nodes. -/
def size (t : Tree) : Nat :=
  t.nodes.size

/-- A tree has at least its root. -/
theorem nodes_size_pos (t : Tree) : 0 < t.nodes.size := by
  obtain ⟨r, hr, -⟩ := t.wellFormed.root
  exact (Array.getElem?_eq_some_iff.mp hr).1

/-- A node of the tree `t`, named by the index of its record. -/
structure Node (t : Tree) where
  /-- Index of the node's record. -/
  id : Nat
  /-- There is such a record. -/
  isLt : id < t.nodes.size
deriving DecidableEq

/-- The root. -/
def root (t : Tree) : t.Node :=
  ⟨0, t.nodes_size_pos⟩

/-- The node with the index `id`, if there is one. -/
def node? (t : Tree) (id : Nat) : Option t.Node :=
  if h : id < t.nodes.size then some ⟨id, h⟩ else none

/-- All nodes, in the order of their indices. -/
def all (t : Tree) : List t.Node :=
  List.ofFn fun i : Fin t.nodes.size => ⟨i.val, i.isLt⟩

namespace Node

variable {t : Tree}

/-! ### Kind and span -/

/-- The node's record. -/
def record (n : t.Node) : NodeRecord :=
  have := n.isLt
  t.nodes[n.id]

/-- The node's record stands in the table under its index. -/
theorem nodes_getElem?_id (n : t.Node) : t.nodes[n.id]? = some n.record :=
  Array.getElem?_eq_getElem n.isLt

/-- The node's record fits into the arena. -/
theorem fits (n : t.Node) : t.toArena.Fits n.id n.record :=
  t.wellFormed.fits _ _ n.nodes_getElem?_id

/-- The type of the node. -/
def kind (n : t.Node) : Kind :=
  have := n.fits.kind_lt
  t.kinds[n.record.kind]

/-- The name of the node's type. -/
def name (n : t.Node) : String :=
  n.kind.name

/-- The node stands for a recovered error. -/
def isError (n : t.Node) : Bool :=
  n.kind.isError

/-- The offsets that the node covers. -/
def span (n : t.Node) : Span :=
  n.record.span

/-- Where the node starts. -/
def start (n : t.Node) : Nat :=
  n.span.start

/-- Where the node ends. -/
def stop (n : t.Node) : Nat :=
  n.span.stop

/-- The node covers nothing. -/
def isEmpty (n : t.Node) : Bool :=
  n.start == n.stop

/-- The node written as `name@start..stop`. -/
def text (n : t.Node) : String :=
  n.name ++ "@" ++ n.span.text

/-- A node does not end before it starts. -/
theorem start_le_stop (n : t.Node) : n.start ≤ n.stop :=
  n.fits.span_le

/-! ### Links -/

/-- The node's place among its parent's children. -/
def index (n : t.Node) : Nat :=
  n.record.index

/-- A node with a parent comes after it. -/
theorem parent_lt {n : t.Node} {p : Nat} (h : n.record.parent = some p) : p < n.id := by
  by_cases h0 : 0 < n.id
  · obtain ⟨q, parent, hq, hlt, -⟩ := n.fits.placed h0
    rw [h] at hq
    cases hq
    exact hlt
  · -- The root's record names no parent.
    obtain ⟨r, hr, hnone⟩ := t.wellFormed.root
    have hid : n.id = 0 := by omega
    have hrec := n.nodes_getElem?_id
    rw [hid, hr] at hrec
    cases hrec
    rw [h] at hnone
    cases hnone

/-- The parent, which only the root lacks. -/
def parent? (n : t.Node) : Option t.Node :=
  match h : n.record.parent with
  | none => none
  | some p => some ⟨p, Nat.lt_trans (parent_lt h) n.isLt⟩

/-- The parent is the node that the record names. -/
theorem parent?_eq_some_iff {n p : t.Node} : n.parent? = some p ↔ n.record.parent = some p.id := by
  unfold parent?
  split
  · rename_i h
    simp [h]
  · rename_i q h
    constructor
    · intro e
      cases e
      exact h
    · intro e
      rw [h] at e
      cases e
      rfl

/-- A parent comes before its children. -/
theorem id_lt_of_parent? {n p : t.Node} (h : n.parent? = some p) : p.id < n.id :=
  parent_lt (parent?_eq_some_iff.mp h)

/-- The stretch of the child table that lists the node's children. -/
def slice (n : t.Node) : t.Slice :=
  ⟨n.record.children, n.fits.children_le, n.fits.children_inside⟩

/-- Number of children. -/
def childCount (n : t.Node) : Nat :=
  n.slice.size

/-- What the node lists as a child names the node as its parent. -/
theorem linksBack_get (n : t.Node) (k : Nat) (h : k < n.childCount) :
    t.toArena.LinksBack n.id k (n.slice.get k h) := by
  have hk : n.record.children.start + k < n.record.children.stop := by
    have h' : k < n.record.children.stop - n.record.children.start := h
    omega
  have hin : n.record.children.start + k < t.childTable.size :=
    Nat.lt_of_lt_of_le hk n.fits.children_inside
  exact n.fits.children_link k _ hk (Array.getElem?_eq_getElem hin)

/-- The child numbered `k`. -/
def child (n : t.Node) (k : Nat) (h : k < n.childCount) : t.Node :=
  ⟨n.slice.get k h, by
    obtain ⟨-, r, hr, -⟩ := n.linksBack_get k h
    exact (Array.getElem?_eq_some_iff.mp hr).1⟩

/-- The child numbered `k`, if there are so many. -/
def child? (n : t.Node) (k : Nat) : Option t.Node :=
  if h : k < n.childCount then some (n.child k h) else none

/-- The children, in order. -/
def children (n : t.Node) : List t.Node :=
  List.ofFn fun k : Fin n.childCount => n.child k.val k.isLt

/-- The children, as the values of a function on their numbers. -/
theorem ofFn_child {α : Type} (n : t.Node) (f : t.Node → α) :
    (List.ofFn fun k : Fin n.childCount => f (n.child k.val k.isLt)) = n.children.map f := by
  simp [children, List.map_ofFn, Function.comp_def]

/-- The first child. -/
def firstChild? (n : t.Node) : Option t.Node :=
  n.child? 0

/-- The last child. -/
def lastChild? (n : t.Node) : Option t.Node :=
  if h : 0 < n.childCount then some (n.child (n.childCount - 1) (by omega)) else none

/-- The sibling in front of the node. -/
def prev? (n : t.Node) : Option t.Node :=
  n.parent?.bind fun p => if 0 < n.index then p.child? (n.index - 1) else none

/-- The sibling behind the node. -/
def next? (n : t.Node) : Option t.Node :=
  n.parent?.bind fun p => p.child? (n.index + 1)

/-- A child comes after its parent. -/
theorem id_lt_child (n : t.Node) (k : Nat) (h : k < n.childCount) : n.id < (n.child k h).id :=
  (n.linksBack_get k h).1

/-- The record of a child names the node and the place where the node lists it. -/
theorem record_child (n : t.Node) (k : Nat) (h : k < n.childCount) :
    (n.child k h).record.parent = some n.id ∧ (n.child k h).record.index = k := by
  obtain ⟨-, r, hr, hp, hi⟩ := n.linksBack_get k h
  have hrec := (n.child k h).nodes_getElem?_id
  rw [show (n.child k h).id = n.slice.get k h from rfl, hr] at hrec
  cases hrec
  exact ⟨hp, hi⟩

/-- The parent of a child is the node itself. -/
@[simp]
theorem parent?_child (n : t.Node) (k : Nat) (h : k < n.childCount) :
    (n.child k h).parent? = some n :=
  parent?_eq_some_iff.mpr (n.record_child k h).1

/-- The place of the child numbered `k` is `k`. -/
@[simp]
theorem index_child (n : t.Node) (k : Nat) (h : k < n.childCount) : (n.child k h).index = k :=
  (n.record_child k h).2

/-- A child lies inside the node. -/
theorem child_within (n : t.Node) (k : Nat) (h : k < n.childCount) :
    n.start ≤ (n.child k h).start ∧ (n.child k h).stop ≤ n.stop := by
  -- A child is not the root, so it has a place in its parent, which is `n`.
  have hpos : 0 < (n.child k h).id := Nat.lt_of_le_of_lt (Nat.zero_le _) (n.id_lt_child k h)
  obtain ⟨p, parent, hp, -, hparent, -, -, hstart, hstop, -⟩ := (n.child k h).fits.placed hpos
  rw [(n.record_child k h).1] at hp
  cases hp
  rw [n.nodes_getElem?_id] at hparent
  cases hparent
  exact ⟨hstart, hstop⟩

/-- `child?` gives children. -/
theorem child?_eq_some_iff {n c : t.Node} {k : Nat} :
    n.child? k = some c ↔ ∃ h : k < n.childCount, n.child k h = c := by
  unfold child?
  split
  · rename_i h
    simp [h]
  · rename_i h
    simp [h]

/-- A child comes after its parent. -/
theorem id_lt_of_child? {n c : t.Node} {k : Nat} (h : n.child? k = some c) : n.id < c.id := by
  obtain ⟨hk, rfl⟩ := child?_eq_some_iff.mp h
  exact n.id_lt_child k hk

/-- The sibling in front of the child numbered `k` is the child numbered `k - 1`. -/
theorem prev?_child (n : t.Node) (k : Nat) (h : k < n.childCount) :
    (n.child k h).prev? = if 0 < k then n.child? (k - 1) else none := by
  simp [prev?]

/-- `lastChild?` gives the child with the greatest number. -/
theorem lastChild?_eq_some_iff {n c : t.Node} :
    n.lastChild? = some c ↔ ∃ h : n.childCount - 1 < n.childCount, n.child _ h = c := by
  unfold lastChild?
  split
  · rename_i h
    have : n.childCount - 1 < n.childCount := by omega
    simp [this]
  · rename_i h
    have : ¬ n.childCount - 1 < n.childCount := by omega
    simp [this]

end Node

/-- Length of the text that the tree covers. -/
def extent (t : Tree) : Nat :=
  t.root.stop

end Tree

end TreeAssist
