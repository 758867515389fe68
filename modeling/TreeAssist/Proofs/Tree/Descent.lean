import Mathlib.Data.List.Nodup
import TreeAssist.Proofs.Tree.Outline

/-!
# Ancestors and descendants

`Node.encloses` is an order on the nodes of a tree with the root on top. A node lies in the span of
every node that encloses it (`Node.encloses_span`), and the subtrees of two children of a node have
nothing in common (`Node.eq_of_encloses_of_parent?`). So a walk through a subtree meets the nodes
that its topmost node encloses, each once (`Node.mem_preorder_iff`, `Node.nodup_preorder`).
-/

namespace TreeAssist.Tree.Node

variable {t : Tree}

/-! ### Ancestors -/

/-- The ancestors of a node are the node and the ancestors of its parent. -/
theorem mem_ancestors_iff {n m : t.Node} :
    n ∈ m.ancestors ↔ n = m ∨ ∃ p, m.parent? = some p ∧ n ∈ p.ancestors := by
  rw [ancestors, List.mem_cons]
  split
  · rename_i h
    simp [h]
  · rename_i p h
    simp [h]

theorem encloses_iff {n m : t.Node} : n.encloses m ↔ n ∈ m.ancestors := by
  simp [encloses]

/-- `n` encloses `m` if it is `m` or encloses the parent of `m`. -/
theorem encloses_iff_parent? {n m : t.Node} :
    n.encloses m ↔ n = m ∨ ∃ p, m.parent? = some p ∧ n.encloses p := by
  simp only [encloses_iff]
  exact mem_ancestors_iff

theorem encloses_refl (n : t.Node) : n.encloses n :=
  encloses_iff_parent?.mpr (.inl rfl)

/-- A parent encloses its children. -/
theorem encloses_of_parent? {n p : t.Node} (h : n.parent? = some p) : p.encloses n :=
  encloses_iff_parent?.mpr (.inr ⟨p, h, p.encloses_refl⟩)

theorem encloses_trans {n m l : t.Node} (h : n.encloses m) (h' : m.encloses l) : n.encloses l := by
  induction l using downward with
  | step l ih =>
    obtain rfl | ⟨p, hp, hmp⟩ := encloses_iff_parent?.mp h'
    · exact h
    · exact encloses_iff_parent?.mpr (.inr ⟨p, hp, ih p hp hmp⟩)

/-- An enclosing node comes first. -/
theorem id_le_of_encloses {n m : t.Node} (h : n.encloses m) : n.id ≤ m.id := by
  induction m using downward with
  | step m ih =>
    obtain rfl | ⟨p, hp, hnp⟩ := encloses_iff_parent?.mp h
    · exact Nat.le_refl _
    · exact Nat.le_trans (ih p hp hnp) (Nat.le_of_lt (id_lt_of_parent? hp))

theorem encloses_antisymm {n m : t.Node} (h : n.encloses m) (h' : m.encloses n) : n = m :=
  ext (Nat.le_antisymm (id_le_of_encloses h) (id_le_of_encloses h'))

/-- The root encloses every node. -/
theorem root_encloses (n : t.Node) : t.root.encloses n := by
  induction n using downward with
  | step n ih =>
    cases hp : n.parent? with
    | none => exact encloses_iff_parent?.mpr (.inl (parent?_eq_none_iff.mp hp).symm)
    | some p => exact encloses_iff_parent?.mpr (.inr ⟨p, hp, ih p hp⟩)

/-- A node lies inside its parent. -/
theorem span_of_parent? {n p : t.Node} (h : n.parent? = some p) :
    p.start ≤ n.start ∧ n.stop ≤ p.stop := by
  obtain ⟨hk, hchild⟩ := child?_eq_some_iff.mp (child?_index h)
  have := p.child_within n.index hk
  rwa [hchild] at this

/-- A node lies inside every node that encloses it. -/
theorem encloses_span {n m : t.Node} (h : n.encloses m) : n.start ≤ m.start ∧ m.stop ≤ n.stop := by
  induction m using downward with
  | step m ih =>
    obtain rfl | ⟨p, hp, hnp⟩ := encloses_iff_parent?.mp h
    · exact ⟨Nat.le_refl _, Nat.le_refl _⟩
    · have hspan := span_of_parent? hp
      have hind := ih p hp hnp
      omega

/-- Of two nodes that enclose a third, one encloses the other. -/
theorem encloses_total {n n' m : t.Node} (h : n.encloses m) (h' : n'.encloses m) :
    n.encloses n' ∨ n'.encloses n := by
  induction m using downward with
  | step m ih =>
    obtain rfl | ⟨p, hp, hnp⟩ := encloses_iff_parent?.mp h
    · exact .inr h'
    obtain rfl | ⟨p', hp', hnp'⟩ := encloses_iff_parent?.mp h'
    · exact .inl h
    obtain rfl : p = p' := Option.some.inj (hp.symm.trans hp')
    exact ih p hp hnp hnp'

/-- A child that encloses a sibling is that sibling. -/
theorem eq_of_encloses_sibling {c c' p : t.Node} (hc : c.parent? = some p)
    (hc' : c'.parent? = some p) (h : c.encloses c') : c = c' := by
  obtain rfl | ⟨q, hq, hcq⟩ := encloses_iff_parent?.mp h
  · rfl
  · obtain rfl : p = q := Option.some.inj (hc'.symm.trans hq)
    exact absurd (id_le_of_encloses hcq) (Nat.not_le.mpr (id_lt_of_parent? hc))

/-- The subtrees of two children of a node have nothing in common. -/
theorem eq_of_encloses_of_parent? {c c' p m : t.Node} (hc : c.parent? = some p)
    (hc' : c'.parent? = some p) (h : c.encloses m) (h' : c'.encloses m) : c = c' := by
  rcases encloses_total h h' with hcc | hcc
  · exact eq_of_encloses_sibling hc hc' hcc
  · exact (eq_of_encloses_sibling hc' hc hcc).symm

/-- A node encloses what its children enclose, and itself. -/
theorem encloses_iff_child {n m : t.Node} :
    n.encloses m ↔ m = n ∨ ∃ c : t.Node, c.parent? = some n ∧ c.encloses m := by
  constructor
  · intro h
    induction m using downward with
    | step m ih =>
      obtain rfl | ⟨p, hp, hnp⟩ := encloses_iff_parent?.mp h
      · exact .inl rfl
      · obtain rfl | ⟨c, hc, hcp⟩ := ih p hp hnp
        · exact .inr ⟨m, hp, m.encloses_refl⟩
        · exact .inr ⟨c, hc, encloses_trans hcp (encloses_of_parent? hp)⟩
  · rintro (rfl | ⟨c, hc, hcm⟩)
    · exact m.encloses_refl
    · exact encloses_trans (encloses_of_parent? hc) hcm

/-- Of two children of a node, one ends before the other starts. -/
theorem sibling_disjoint {c c' p : t.Node} (hc : c.parent? = some p) (hc' : c'.parent? = some p)
    (hne : c ≠ c') : c.stop ≤ c'.start ∨ c'.stop ≤ c.start := by
  obtain ⟨k, hk, rfl⟩ := exists_eq_child hc
  obtain ⟨k', hk', rfl⟩ := exists_eq_child hc'
  rcases Nat.lt_trichotomy k k' with hlt | rfl | hlt
  · exact .inl (p.stop_child_le_start_child hlt hk')
  · exact absurd rfl hne
  · exact .inr (p.stop_child_le_start_child hlt hk)

/-- Of two nodes one encloses the other, or one ends before the other starts. -/
theorem encloses_or_disjoint (n m : t.Node) :
    n.encloses m ∨ m.encloses n ∨ n.stop ≤ m.start ∨ m.stop ≤ n.start := by
  induction m using downward with
  | step m ih =>
    cases hp : m.parent? with
    | none =>
      obtain rfl := parent?_eq_none_iff.mp hp
      exact .inr (.inl n.root_encloses)
    | some p =>
      have hspan := span_of_parent? hp
      rcases ih p hp with hnp | hpn | hdis
      · exact .inl (encloses_trans hnp (encloses_of_parent? hp))
      · -- The child of `p` toward `n` is `m`, or stands on one side of it.
        obtain rfl | ⟨c, hc, hcn⟩ := encloses_iff_child.mp hpn
        · exact .inl (encloses_of_parent? hp)
        by_cases hcm : c = m
        · subst hcm
          exact .inr (.inl hcn)
        · have hsides := sibling_disjoint hc hp hcm
          have hinside := encloses_span hcn
          exact .inr (.inr (by omega))
      · exact .inr (.inr (by omega))

/-! ### Walks through a subtree -/

/-- A walk through a subtree meets what its topmost node encloses. -/
theorem mem_preorder_iff {n m : t.Node} : m ∈ n.preorder ↔ n.encloses m := by
  induction n using upward with
  | step n ih =>
    rw [preorder_eq, List.mem_cons, List.mem_flatMap, encloses_iff_child]
    refine or_congr_right ⟨?_, ?_⟩
    · rintro ⟨c, hc, hm⟩
      have hparent := mem_children_iff.mp hc
      exact ⟨c, hparent, (ih c hparent).mp hm⟩
    · rintro ⟨c, hc, hm⟩
      exact ⟨c, mem_children_iff.mpr hc, (ih c hc).mpr hm⟩

/-- No node is listed twice among the children of a node. -/
theorem nodup_children (n : t.Node) : n.children.Nodup := by
  rw [children, List.nodup_ofFn]
  intro i j h
  have hi := n.index_child i.val i.isLt
  simp only at h
  rw [h, n.index_child j.val j.isLt] at hi
  exact Fin.ext hi.symm

/-- A walk through a subtree meets no node twice. -/
theorem nodup_preorder (n : t.Node) : n.preorder.Nodup := by
  induction n using upward with
  | step n ih =>
    rw [preorder_eq, List.nodup_cons, List.nodup_flatMap]
    refine ⟨?_, fun c hc => ih c (mem_children_iff.mp hc), ?_⟩
    · -- A node does not lie below itself.
      rw [List.mem_flatMap]
      rintro ⟨c, hc, hn⟩
      have hle := id_le_of_encloses (mem_preorder_iff.mp hn)
      have hlt := id_lt_of_parent? (mem_children_iff.mp hc)
      omega
    · refine n.nodup_children.imp_of_mem ?_
      intro c c' hc hc' hne
      show c.preorder.Disjoint c'.preorder
      rw [List.disjoint_left]
      intro m hm hm'
      exact hne (eq_of_encloses_of_parent? (mem_children_iff.mp hc) (mem_children_iff.mp hc')
        (mem_preorder_iff.mp hm) (mem_preorder_iff.mp hm'))

end TreeAssist.Tree.Node
