import TreeAssist.Style.Table

/-!
# Highlighting

The tagged stretches of a document that lie in a window, in the order in which they are to be
painted: a node comes before its descendants, so that inner tags are painted over outer ones.

* `Bound`, `Span.ofBounds` — the window, from bounds that may be open or closed.
* `StyledSpan` — a stretch with its tag.
* `StyledWalk` — a walk through a tree on its way, and `StyledWalk.next?`, its next stretch. The
  stretches are cut to the window, nodes that cover nothing are left out, and nothing below a node
  outside the window is looked at.
* `StyleTable.highlight` — all stretches of a tree.
-/

namespace TreeAssist

/-- The greatest offset, of 32 bits. -/
def maxOffset : Nat := 4294967295

/-- One end of a window. -/
inductive Bound where
  /-- The window is open at this end. -/
  | unbounded
  /-- The offset belongs to the window. -/
  | included (n : Nat)
  /-- The offset does not belong to the window. -/
  | excluded (n : Nat)
deriving DecidableEq

namespace Bound

/-- The first offset of a window that starts here. There is none after `maxOffset`. -/
def first : Bound → Nat
  | unbounded => 0
  | included n => n
  | excluded n => min (n + 1) maxOffset

/-- The offset behind a window that ends here. An open window ends at `extent`. -/
def last (extent : Nat) : Bound → Nat
  | unbounded => extent
  | included n => min (n + 1) maxOffset
  | excluded n => n

end Bound

/-- The window between two bounds over a text; it may be empty or inverted. -/
def Span.ofBounds (extent : Nat) (lower upper : Bound) : Span :=
  ⟨lower.first, upper.last extent⟩

/-- A stretch of text with its tag. -/
structure StyledSpan where
  /-- Where it lies. -/
  span : Span
  /-- How it is styled. -/
  tag : Tag
deriving DecidableEq

/-- A walk through the nodes of a tree that lie at least partly in a window, on its way. -/
structure StyledWalk (t : Tree) where
  /-- Where the tags come from. -/
  table : StyleTable
  /-- The window. -/
  window : Span
  /-- The nodes to come whose parents have been passed, the next one first. -/
  pending : List t.Node
  /-- Nothing outside the window is waited for. -/
  touching : ∀ n ∈ pending, n.start < window.stop ∧ window.start < n.stop

namespace StyledWalk

variable {t : Tree}

/-- The nodes among `l` that lie at least partly in the window. -/
def touchingOf (window : Span) (l : List t.Node) : List t.Node :=
  l.filter fun n => n.start < window.stop && window.start < n.stop

/-- `touchingOf` gives the members that it says. -/
theorem mem_touchingOf {window : Span} {l : List t.Node} {n : t.Node} :
    n ∈ touchingOf window l ↔ n ∈ l ∧ n.start < window.stop ∧ window.start < n.stop := by
  simp [touchingOf]

/-- The walk through the whole tree. -/
def ofTree (table : StyleTable) (t : Tree) (window : Span) : StyledWalk t where
  table
  window
  pending := touchingOf window [t.root]
  touching _ hn := (mem_touchingOf.mp hn).2

/-- The next node, and the walk behind it: the children of that node come before all that is
waited for already. -/
def pop? (w : StyledWalk t) : Option (t.Node × StyledWalk t) :=
  match h : w.pending with
  | [] => none
  | n :: rest => some (n, { w with
      pending := touchingOf w.window n.children ++ rest
      touching m hm := by
        rcases List.mem_append.mp hm with hm | hm
        · exact (mem_touchingOf.mp hm).2
        · exact w.touching m (h ▸ List.mem_cons_of_mem n hm) })

/-- What passing a node does: the node was the next one, and its children in the window take its
place. -/
theorem pop?_spec {w w' : StyledWalk t} {n : t.Node} (h : w.pop? = some (n, w')) :
    ∃ rest, w.pending = n :: rest ∧ w'.table = w.table ∧ w'.window = w.window ∧
      w'.pending = touchingOf w.window n.children ++ rest := by
  unfold pop? at h
  split at h
  · cases h
  · rename_i rest hpending
    cases h
    exact ⟨rest, hpending, rfl, rfl, rfl⟩

/-- The stretch of a single node, cut to the window. -/
def ownSpan (w : StyledWalk t) (n : t.Node) : Option StyledSpan :=
  if n.isEmpty then none
  else (w.table.tagOf n).map fun tag =>
    { span := ⟨max n.start w.window.start, min n.stop w.window.stop⟩, tag }

/-- A bound on the number of nodes to come: all those in or below what is waited for. -/
def bound (w : StyledWalk t) : Nat :=
  (w.pending.flatMap Tree.Node.preorder).length

/-- Leaving out some of the nodes leaves out what lies below them. -/
theorem length_flatMap_touchingOf_le (window : Span) (l : List t.Node) :
    ((touchingOf window l).flatMap Tree.Node.preorder).length ≤
      (l.flatMap Tree.Node.preorder).length := by
  unfold touchingOf
  induction l with
  | nil => exact Nat.le_refl _
  | cons n l ih =>
    rw [List.filter_cons]
    split
    · simp only [List.flatMap_cons, List.length_append]
      omega
    · simp only [List.flatMap_cons, List.length_append]
      omega

/-- Fewer nodes are to come once one has been passed. -/
theorem bound_lt_of_pop? {w w' : StyledWalk t} {n : t.Node} (h : w.pop? = some (n, w')) :
    w'.bound < w.bound := by
  obtain ⟨rest, hpending, -, -, hpending'⟩ := pop?_spec h
  have hle := length_flatMap_touchingOf_le w.window n.children
  simp only [bound, hpending, hpending', List.flatMap_append, List.flatMap_cons, n.preorder_eq,
    List.length_append, List.length_cons]
  omega

/-- The next stretch and the walk behind it. Nodes without a stretch are passed over. -/
def next? (w : StyledWalk t) : Option (StyledSpan × StyledWalk t) :=
  match _h : w.pop? with
  | none => none
  | some (n, w') =>
    match w'.ownSpan n with
    | some s => some (s, w')
    | none => w'.next?
termination_by w.bound
decreasing_by exact bound_lt_of_pop? _h

/-- Fewer nodes are to come after the next stretch. -/
theorem bound_lt_of_next? {w w' : StyledWalk t} {s : StyledSpan} (h : w.next? = some (s, w')) :
    w'.bound < w.bound := by
  fun_induction next? w with
  | case1 w hpop => cases h
  | case2 w n v hpop u hown =>
    cases h
    exact bound_lt_of_pop? hpop
  | case3 w n v hpop hown ih => exact Nat.lt_trans (ih h) (bound_lt_of_pop? hpop)

/-- All stretches to come. -/
def toList (w : StyledWalk t) : List StyledSpan :=
  match _h : w.next? with
  | none => []
  | some (s, w') => s :: w'.toList
termination_by w.bound
decreasing_by exact bound_lt_of_next? _h

end StyledWalk

/-- The stretches of a tree between two bounds. -/
def StyleTable.highlight (table : StyleTable) (t : Tree) (lower upper : Bound) :
    List StyledSpan :=
  (StyledWalk.ofTree table t (.ofBounds t.extent lower upper)).toList

end TreeAssist
