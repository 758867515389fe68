import Mathlib.Data.List.OfFn
import TreeAssist.Proofs.Tree.Descent

/-!
# The order of nodes in walks

Two walks list nodes in an order that their spans follow. A walk through a subtree comes to a node
before all that the node encloses and before all that stands behind it
(`Node.pairwise_preorder`), and the walk from a node to the root goes outward
(`Node.pairwise_ancestors`), one step at a time (`Node.ancestors_getElem?`).

What is found first or last in such a list stands before or behind everything that could have been
found (`exists_of_findSome?`, `exists_of_getLast?`).
-/

namespace TreeAssist

/-! ### First and last members of an ordered list -/

section Ordered

variable {α β : Type} {R : α → α → Prop} {f : α → Option β} {l : List α} {b : β}

/-- What is found first in an ordered list is in order with everything that could be found. -/
theorem exists_of_findSome? (refl : ∀ a, R a a) (hl : l.Pairwise R)
    (h : l.findSome? f = some b) :
    ∃ a ∈ l, f a = some b ∧ ∀ c ∈ l, (f c).isSome → R a c := by
  obtain ⟨before, a, behind, rfl, ha, hbefore⟩ := List.findSome?_eq_some_iff.mp h
  refine ⟨a, by simp, ha, ?_⟩
  intro c hc hsome
  rcases List.mem_append.mp hc with hc | hc
  · rw [hbefore c hc] at hsome
    cases hsome
  rcases List.mem_cons.mp hc with rfl | hc
  · exact refl c
  · have hcons := (List.pairwise_append.mp hl).2.1
    exact (List.pairwise_cons.mp hcons).1 c hc

/-- What is found last in an ordered list is in order with everything that could be found. -/
theorem exists_of_getLast? (refl : ∀ a, R a a) (hl : l.Pairwise R)
    (h : (l.filterMap f).getLast? = some b) :
    ∃ a ∈ l, f a = some b ∧ ∀ c ∈ l, (f c).isSome → R c a := by
  rw [List.getLast?_filterMap] at h
  obtain ⟨a, ha, hfound, hall⟩ :=
    exists_of_findSome? (R := flip R) refl (List.pairwise_reverse.mpr hl) h
  refine ⟨a, List.mem_reverse.mp ha, hfound, ?_⟩
  intro c hc hsome
  exact hall c (List.mem_reverse.mpr hc) hsome

end Ordered

namespace Tree.Node

variable {t : Tree}

/-- Of two children of a node, the first ends at or before the start of the second. -/
theorem pairwise_children (n : t.Node) : n.children.Pairwise fun c c' => c.stop ≤ c'.start := by
  rw [children, List.pairwise_ofFn]
  intro i j hij
  exact n.stop_child_le_start_child hij j.isLt

/-- Of two nodes on a walk through a subtree, the first encloses the second or ends at or before its
start. -/
theorem pairwise_preorder (n : t.Node) :
    n.preorder.Pairwise fun m m' => m.encloses m' ∨ m.stop ≤ m'.start := by
  induction n using upward with
  | step n ih =>
    rw [preorder_eq, List.pairwise_cons, List.pairwise_flatMap]
    refine ⟨?_, fun c hc => ih c (mem_children_iff.mp hc), ?_⟩
    · -- The topmost node encloses all that follows.
      intro m hm
      obtain ⟨c, hc, hcm⟩ := List.mem_flatMap.mp hm
      have hparent := encloses_of_parent? (mem_children_iff.mp hc)
      exact .inl (encloses_trans hparent (mem_preorder_iff.mp hcm))
    · -- Nodes below different children are as far apart as the children.
      refine n.pairwise_children.imp ?_
      intro c c' horder m hm m' hm'
      have hspan := encloses_span (mem_preorder_iff.mp hm)
      have hspan' := encloses_span (mem_preorder_iff.mp hm')
      exact .inr (by omega)

/-- On a walk through a subtree no node starts before one that comes earlier. -/
theorem pairwise_start_preorder (n : t.Node) :
    n.preorder.Pairwise fun m m' => m.start ≤ m'.start := by
  refine n.pairwise_preorder.imp ?_
  rintro m m' (henc | hle)
  · exact (encloses_span henc).1
  · exact Nat.le_trans m.start_le_stop hle

/-! ### The way to the root -/

/-- The ancestors of a node come from the inside out. -/
theorem pairwise_ancestors (n : t.Node) : n.ancestors.Pairwise fun m m' => m'.encloses m := by
  induction n using downward with
  | step n ih =>
    cases hp : n.parent? with
    | none =>
      rw [ancestors_of_parent?_eq_none hp]
      exact List.pairwise_singleton _ _
    | some p =>
      rw [ancestors_of_parent? hp, List.pairwise_cons]
      refine ⟨?_, ih p hp⟩
      intro m hm
      exact encloses_trans (encloses_iff.mpr hm) (encloses_of_parent? hp)

/-- The node `k` steps above a node. -/
def up? (n : t.Node) : Nat → Option t.Node
  | 0 => some n
  | k + 1 => (n.up? k).bind parent?

/-- A step up from the parent is a step more from the node. -/
theorem up?_succ (n : t.Node) (k : Nat) : n.up? (k + 1) = n.parent?.bind (·.up? k) := by
  induction k with
  | zero => cases h : n.parent? <;> simp [up?, h]
  | succ k ih =>
    rw [up?, ih, Option.bind_assoc]
    rfl

/-- The ancestor numbered `k` stands `k` steps above the node. -/
theorem ancestors_getElem? (n : t.Node) (k : Nat) : n.ancestors[k]? = n.up? k := by
  induction k generalizing n with
  | zero =>
    rw [ancestors]
    rfl
  | succ k ih =>
    rw [up?_succ]
    cases hp : n.parent? with
    | none => simp [ancestors_of_parent?_eq_none hp]
    | some p => simp [ancestors_of_parent? hp, ih p]

end Tree.Node

end TreeAssist
