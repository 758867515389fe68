import TreeAssist.Proofs.Tree.Outline
import TreeAssist.Tree.Matching

/-!
# Trees with the same outline

In a tree of the same outline every node has a counterpart, reached from the root by the same turns
(`Node.counterpart`), and the pairing is a `Tree.Matching` (`Matching.ofOutline`). There is no other
one (`Matching.eq`), and it leaves no node of either tree out (`Matching.bijective`).
-/

namespace TreeAssist.Tree

variable {t t' : Tree}

namespace Node

/-! ### Counterparts -/

/-- The node of `t'` that is reached from the root by the same turns as `n` is in its own tree; the
root of `t'` if there is none. -/
def counterpart (t' : Tree) (n : t.Node) : t'.Node :=
  match _h : n.parent? with
  | none => t'.root
  | some p => ((p.counterpart t').child? n.index).getD t'.root
termination_by n.id
decreasing_by exact id_lt_of_parent? _h

theorem counterpart_eq (n : t.Node) :
    n.counterpart t' =
      n.parent?.elim t'.root fun p => ((p.counterpart t').child? n.index).getD t'.root := by
  rw [counterpart]
  split <;> simp [*]

/-- The counterpart of a child is the child of the counterpart in the same place. -/
theorem counterpart_child (n : t.Node) {k : Nat} (h : k < n.childCount) :
    (n.child k h).counterpart t' = ((n.counterpart t').child? k).getD t'.root := by
  rw [counterpart_eq, n.parent?_child, n.index_child]
  rfl

/-- An outline tells the name, the span and the outlines of the children. -/
theorem outline_eq_iff {n : t.Node} {m : t'.Node} :
    n.outline = m.outline ↔
      n.name = m.name ∧ n.span = m.span ∧ n.children.map outline = m.children.map outline := by
  rw [outline_eq, outline_eq, Outline.node.injEq]

/-- Nodes with the same outline have children with the same outlines. -/
theorem child?_of_outline_eq {n : t.Node} {m : t'.Node} (h : n.outline = m.outline) (k : Nat) :
    (n.child? k).map outline = (m.child? k).map outline := by
  rw [← children_getElem?, ← children_getElem?, ← List.getElem?_map, ← List.getElem?_map,
    (outline_eq_iff.mp h).2.2]

/-- A node has the outline of its counterpart in a tree of the same outline. -/
theorem outline_counterpart (h : t.root.outline = t'.root.outline) (n : t.Node) :
    n.outline = (n.counterpart t').outline := by
  induction n using downward with
  | step n ih =>
    cases hp : n.parent? with
    | none =>
      obtain rfl := parent?_eq_none_iff.mp hp
      rw [counterpart_eq, hp]
      exact h
    | some p =>
      -- The node is the child of `p` in its place, so the counterpart of `p` has a child there too.
      have hchild := child?_of_outline_eq (ih p hp) n.index
      rw [child?_index hp] at hchild
      obtain ⟨m, hm, hout⟩ := Option.map_eq_some_iff.mp hchild.symm
      rw [counterpart_eq, hp, Option.elim_some, hm]
      exact hout.symm

/-- The children of a counterpart are the counterparts of the children. -/
theorem children_counterpart (h : t.root.outline = t'.root.outline) (n : t.Node) :
    (n.counterpart t').children = n.children.map (counterpart t') := by
  refine List.ext_getElem? fun k => ?_
  have hchild := child?_of_outline_eq (outline_counterpart h n) k
  rw [List.getElem?_map, children_getElem?, children_getElem?]
  cases hc : n.child? k with
  | none => simpa [hc] using hchild
  | some c =>
    rw [hc] at hchild
    obtain ⟨m, hm, -⟩ := Option.map_eq_some_iff.mp hchild.symm
    obtain ⟨hk, rfl⟩ := child?_eq_some_iff.mp hc
    rw [Option.map_some, counterpart_child, hm, Option.getD_some]

end Node

namespace Matching

open Node

/-- Trees with the same outline match. -/
def ofOutline (h : t.root.outline = t'.root.outline) : Matching t t' where
  toFun := counterpart t'
  root_apply := by
    rw [counterpart_eq, parent?_eq_none_iff.mpr rfl]
    rfl
  name_apply n := (outline_eq_iff.mp (outline_counterpart h n)).1.symm
  span_apply n := (outline_eq_iff.mp (outline_counterpart h n)).2.1.symm
  children_apply := children_counterpart h

variable (e : Matching t t') (n : t.Node)

/-- Two trees match in one way only. -/
theorem eq (e e' : Matching t t') : e = e' := by
  -- Both start at the root, and where they agree on a parent they agree on its children.
  have hfun : e.toFun = e'.toFun := by
    funext n
    induction n using downward with
    | step n ih =>
      cases hp : n.parent? with
      | none => rw [parent?_eq_none_iff.mp hp, e.root_apply, e'.root_apply]
      | some p =>
        have hchild := e.child?_apply p n.index
        rw [ih p hp, e'.child?_apply, child?_index hp] at hchild
        exact (Option.some.inj hchild).symm
  cases e
  cases e'
  simpa using hfun

theorem surjective : Function.Surjective e := by
  intro m
  induction m using downward with
  | step m ih =>
    cases hp : m.parent? with
    | none => exact ⟨t.root, by rw [e.root_apply, parent?_eq_none_iff.mp hp]⟩
    | some p =>
      obtain ⟨q, rfl⟩ := ih p hp
      have hm := mem_children_iff.mpr hp
      rw [e.children_apply] at hm
      obtain ⟨n, -, hn⟩ := List.mem_map.mp hm
      exact ⟨n, hn⟩

theorem bijective : Function.Bijective e :=
  ⟨e.injective, e.surjective⟩

@[simp]
theorem preorder_apply : (e n).preorder = n.preorder.map e := by
  induction n using upward with
  | step n ih =>
    rw [preorder_eq, preorder_eq, e.children_apply, List.map_cons, List.flatMap_map,
      List.map_flatMap]
    exact congrArg _ (List.flatMap_congr fun c hc => ih c (mem_children_iff.mp hc))

end Matching

end TreeAssist.Tree
