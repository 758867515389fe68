import Mathlib.Logic.Relation
import Mathlib.Order.Defs.Unbundled
import TreeAssist.Proofs.Tree.Descent

/-!
# Ancestors, children and siblings

Three kinds of links are kept apart in an arena: a record names its parent, a stretch of the child
table lists the children, and the place in that stretch leads to the siblings. In a tree they tell
the same story. The way up to the root meets a node exactly if the way down from that node through
the child lists can end where the way up began (`Node.encloses_iff_reflTransGen`). The next sibling
has the next place (`Node.next?_eq_some_iff`) and leads back from there (`Node.prev?_eq_some_iff`),
so that the siblings from the first child on are the children (`Node.row_of_parent?`).

Main statement: `links_agree`, which adds where nodes lie: inside one another if one encloses the
other, and side by side otherwise.
-/

namespace TreeAssist

namespace Tree.Node

variable {t : Tree}

/-! ### Ancestors -/

/-- A node encloses what can be reached from it by steps to children. -/
theorem encloses_iff_reflTransGen {a b : t.Node} :
    a.encloses b ↔ Relation.ReflTransGen (fun p c : t.Node => c ∈ p.children) a b := by
  constructor
  · -- The way down ends with the step from the parent of `b`.
    intro h
    induction b using downward with
    | step b ih =>
      obtain rfl | ⟨p, hp, hap⟩ := encloses_iff_parent?.mp h
      · exact .refl
      · exact .tail (ih p hp hap) (mem_children_iff.mpr hp)
  · intro h
    induction h with
    | refl => exact a.encloses_refl
    | tail _ hstep ih =>
      exact encloses_trans ih (encloses_of_parent? (mem_children_iff.mp hstep))

theorem isPartialOrder_encloses (t : Tree) :
    IsPartialOrder t.Node fun a b => a.encloses b where
  refl := encloses_refl
  trans _ _ _ := encloses_trans
  antisymm _ _ := encloses_antisymm

/-! ### Siblings -/

/-- The sibling behind a node has the next place under the same parent. -/
theorem next?_eq_some_iff {a b : t.Node} :
    a.next? = some b ↔
      ∃ p, a.parent? = some p ∧ b.parent? = some p ∧ b.index = a.index + 1 := by
  constructor
  · intro h
    obtain ⟨p, hp, hb⟩ := Option.bind_eq_some_iff.mp h
    obtain ⟨hk, rfl⟩ := child?_eq_some_iff.mp hb
    exact ⟨p, hp, p.parent?_child _ hk, p.index_child _ hk⟩
  · rintro ⟨p, ha, hb, hindex⟩
    rw [next?, ha, Option.bind_some, ← hindex]
    exact child?_index hb

/-- The sibling in front of a node has the previous place under the same parent. -/
theorem prev?_eq_some_iff {a b : t.Node} :
    b.prev? = some a ↔
      ∃ p, a.parent? = some p ∧ b.parent? = some p ∧ b.index = a.index + 1 := by
  constructor
  · intro h
    obtain ⟨p, hp, ha⟩ := Option.bind_eq_some_iff.mp h
    obtain ⟨hpos, ha⟩ := Option.ite_none_right_eq_some.mp ha
    obtain ⟨hk, rfl⟩ := child?_eq_some_iff.mp ha
    refine ⟨p, p.parent?_child _ hk, hp, ?_⟩
    rw [index_child]
    omega
  · rintro ⟨p, ha, hb, hindex⟩
    rw [prev?, hb, Option.bind_some, if_pos (by omega), hindex, Nat.add_sub_cancel]
    exact child?_index ha

/-- How many siblings stand behind the node. -/
def countBehind (n : t.Node) : Nat :=
  n.parent?.elim 0 fun p => p.childCount - (n.index + 1)

/-- Behind the next sibling there is one sibling less. -/
theorem countBehind_of_next? {a b : t.Node} (h : a.next? = some b) :
    b.countBehind < a.countBehind := by
  obtain ⟨p, ha, hb, hindex⟩ := next?_eq_some_iff.mp h
  obtain ⟨hk, -⟩ := child?_eq_some_iff.mp (child?_index hb)
  simp only [countBehind, ha, hb, Option.elim_some]
  omega

/-- The node, its next sibling, and so on. -/
def row (n : t.Node) : List t.Node :=
  match _h : n.next? with
  | none => [n]
  | some m => n :: m.row
termination_by n.countBehind
decreasing_by exact countBehind_of_next? _h

/-- From the place of a child on, the list of children begins with that child. -/
theorem drop_index_children {c p : t.Node} (h : c.parent? = some p) :
    p.children.drop c.index = c :: p.children.drop (c.index + 1) := by
  have hget : p.children[c.index]? = some c := (p.children_getElem? _).trans (child?_index h)
  obtain ⟨hlt, hc⟩ := List.getElem?_eq_some_iff.mp hget
  rw [List.drop_eq_getElem_cons hlt, hc]

/-- From sibling to sibling, one comes to all children from the place of the first one on. -/
theorem row_of_parent? {c p : t.Node} (h : c.parent? = some p) :
    c.row = p.children.drop c.index := by
  fun_induction row c with
  | case1 c hnone =>
    -- Without a next sibling the node is the last child.
    have hlast : p.children[c.index + 1]? = none := by
      rw [next?, h, Option.bind_some] at hnone
      rw [children_getElem?, hnone]
    rw [drop_index_children h, List.drop_eq_nil_of_le (List.getElem?_eq_none_iff.mp hlast)]
  | case2 c m hnext ih =>
    obtain ⟨q, hq, hm, hindex⟩ := next?_eq_some_iff.mp hnext
    obtain rfl : p = q := Option.some.inj (h.symm.trans hq)
    rw [drop_index_children h, ih hm, hindex]

/-- From sibling to sibling, one comes from the first child to all children in order. -/
theorem row_firstChild? (n : t.Node) : n.firstChild?.elim [] row = n.children := by
  cases hfirst : n.firstChild? with
  | none =>
    have hlength : n.children.length ≤ 0 :=
      List.getElem?_eq_none_iff.mp ((n.children_getElem? 0).trans hfirst)
    rw [Option.elim_none, List.eq_nil_of_length_eq_zero (Nat.le_zero.mp hlength)]
  | some c =>
    obtain ⟨hk, rfl⟩ := child?_eq_some_iff.mp hfirst
    rw [Option.elim_some, row_of_parent? (n.parent?_child 0 hk), index_child, List.drop_zero]

end Tree.Node

/-- One node encloses another exactly if the other can be reached from it by steps to children. This
is a partial order with the root on top. What a node encloses lies inside its span, and of two nodes
that do not enclose each other one ends before the other starts. The siblings next to a node lead
back to it, and from sibling to sibling one comes from the first child to all children in order. -/
theorem links_agree (t : Tree) :
    (∀ a b : t.Node,
        a.encloses b ↔ Relation.ReflTransGen (fun p c : t.Node => c ∈ p.children) a b) ∧
      IsPartialOrder t.Node (fun a b => a.encloses b) ∧
      (∀ b : t.Node, t.root.encloses b) ∧
      (∀ a b : t.Node, a.encloses b → a.start ≤ b.start ∧ b.stop ≤ a.stop) ∧
      (∀ a b : t.Node, ¬ a.encloses b → ¬ b.encloses a → a.stop ≤ b.start ∨ b.stop ≤ a.start) ∧
      (∀ a b : t.Node, a.next? = some b ↔ b.prev? = some a) ∧
      ∀ n : t.Node, n.firstChild?.elim [] Tree.Node.row = n.children := by
  refine ⟨fun a b => Tree.Node.encloses_iff_reflTransGen, Tree.Node.isPartialOrder_encloses t,
    Tree.Node.root_encloses, fun a b => Tree.Node.encloses_span, ?_, ?_,
    Tree.Node.row_firstChild?⟩
  · intro a b hab hba
    rcases Tree.Node.encloses_or_disjoint a b with h | h | h
    · exact absurd h hab
    · exact absurd h hba
    · exact h
  · intro a b
    exact Tree.Node.next?_eq_some_iff.trans Tree.Node.prev?_eq_some_iff.symm

end TreeAssist
