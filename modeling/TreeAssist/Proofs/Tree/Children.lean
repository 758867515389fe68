import Mathlib.Data.Fintype.EquivFin
import TreeAssist.Tree.Links

/-!
# Children and siblings

The children of a node stand in the order of their spans (`Node.stop_child_le_start_child`), and no
two nodes share an entry of the child table (`Node.eq_of_mem_slice`). If the table has just one
entry for each node other than the root, then every entry belongs to some node
(`Tree.exists_mem_slice`).
-/

namespace TreeAssist.Tree

variable {t : Tree}

/-- What is decidable for each node is decidable for all of them, one index after the other. -/
instance (p : t.Node → Prop) [DecidablePred p] : Decidable (∀ n, p n) :=
  decidable_of_iff (∀ i, ∀ h : i < t.nodes.size, p ⟨i, h⟩)
    ⟨fun h n => h n.id n.isLt, fun h _ _ => h _⟩

namespace Node

/-- A child ends at or before the start of the child behind it. -/
theorem stop_child_le_start_child_succ (n : t.Node) (k : Nat) (h : k + 1 < n.childCount) :
    (n.child k (Nat.lt_of_succ_lt h)).stop ≤ (n.child (k + 1) h).start := by
  have hpos : 0 < (n.child (k + 1) h).id :=
    Nat.lt_of_le_of_lt (Nat.zero_le _) (n.id_lt_child (k + 1) h)
  obtain ⟨p, parent, hp, -, hparent, -, -, -, -, hprev⟩ := (n.child (k + 1) h).fits.placed hpos
  rw [(n.record_child (k + 1) h).1] at hp
  cases hp
  rw [n.nodes_getElem?_id] at hparent
  cases hparent
  have hget := Arena.Slice.get?_eq_some_iff.mp (n.slice_get?_child (Nat.lt_of_succ_lt h))
  refine hprev _ _ ?_ ?_ (n.child k (Nat.lt_of_succ_lt h)).nodes_getElem?_id
  · rw [(n.record_child (k + 1) h).2]
    omega
  · rw [(n.record_child (k + 1) h).2, Nat.add_sub_cancel]
    exact hget.2

/-- The children of a node stand in the order of their spans. -/
theorem stop_child_le_start_child (n : t.Node) {i j : Nat} (hij : i < j) (hj : j < n.childCount) :
    (n.child i (Nat.lt_trans hij hj)).stop ≤ (n.child j hj).start := by
  induction j with
  | zero => omega
  | succ j ih =>
    have hnext := n.stop_child_le_start_child_succ j hj
    rcases Nat.eq_or_lt_of_le (Nat.le_of_lt_succ hij) with rfl | hlt
    · exact hnext
    · calc (n.child i (Nat.lt_trans hij hj)).stop
          ≤ (n.child j (Nat.lt_of_succ_lt hj)).start := ih hlt (Nat.lt_of_succ_lt hj)
        _ ≤ (n.child j (Nat.lt_of_succ_lt hj)).stop := start_le_stop _
        _ ≤ (n.child (j + 1) hj).start := hnext

/-- Of two children of a node, the one with the lesser index ends before the other starts. -/
theorem stop_le_start_of_index_lt {c d n : t.Node} (hc : c.parent? = some n)
    (hd : d.parent? = some n) (h : c.index < d.index) : c.stop ≤ d.start := by
  obtain ⟨i, hi, rfl⟩ := exists_eq_child hc
  obtain ⟨j, hj, rfl⟩ := exists_eq_child hd
  rw [index_child, index_child] at h
  exact n.stop_child_le_start_child h hj

/-! ### The stretches of the child table -/

/-- An entry in the stretch of a node is a child of the node. -/
theorem exists_child_of_mem_slice {n : t.Node} {j : Nat} (hstart : n.slice.span.start ≤ j)
    (hstop : j < n.slice.span.stop) :
    ∃ (k : Nat) (h : k < n.childCount),
      n.slice.span.start + k = j ∧ t.childTable[j]? = some (n.child k h).id := by
  have hk : j - n.slice.span.start < n.childCount := by
    unfold childCount Arena.Slice.size
    omega
  refine ⟨j - n.slice.span.start, hk, by omega, ?_⟩
  have hget := Arena.Slice.get?_eq_some_iff.mp (n.slice_get?_child hk)
  rw [Nat.add_sub_cancel' hstart] at hget
  exact hget.2

/-- No two nodes share an entry of the child table. -/
theorem eq_of_mem_slice {n m : t.Node} {j : Nat}
    (hn : n.slice.span.start ≤ j ∧ j < n.slice.span.stop)
    (hm : m.slice.span.start ≤ j ∧ j < m.slice.span.stop) : n = m := by
  obtain ⟨k, hk, -, hj⟩ := exists_child_of_mem_slice hn.1 hn.2
  obtain ⟨l, hl, -, hj'⟩ := exists_child_of_mem_slice hm.1 hm.2
  have hsame : n.child k hk = m.child l hl := ext (Option.some.inj (hj.symm.trans hj'))
  have hparent := n.parent?_child k hk
  rw [hsame, m.parent?_child l hl] at hparent
  exact (Option.some.inj hparent).symm

end Node

/-- Every node other than the root stands in the child table, inside the stretch of its parent. -/
theorem exists_entry (t : Tree) (i : Nat) (h : i + 1 < t.nodes.size) :
    ∃ (n : t.Node) (j : Nat), n.slice.span.start ≤ j ∧ j < n.slice.span.stop ∧
      j < t.childTable.size ∧ t.childTable[j]? = some (i + 1) := by
  cases hp : Node.parent? (⟨i + 1, h⟩ : t.Node) with
  | none => simp [Node.parent?_eq_none_iff, root] at hp
  | some p =>
    obtain ⟨hk, hchild⟩ := Node.child?_eq_some_iff.mp (Node.child?_index hp)
    have hget := Arena.Slice.get?_eq_some_iff.mp (p.slice_get?_child hk)
    refine ⟨p, _, Nat.le_add_right _ _, hget.1, ?_, ?_⟩
    · exact Nat.lt_of_lt_of_le hget.1 p.slice.inside
    · rw [hget.2, hchild]

/-- If the child table has one entry for each node other than the root, then every entry belongs to
a node. -/
theorem exists_mem_slice (t : Tree) (hsize : t.childTable.size + 1 = t.nodes.size) {j : Nat}
    (hj : j < t.childTable.size) :
    ∃ n : t.Node, n.slice.span.start ≤ j ∧ j < n.slice.span.stop := by
  -- Different nodes have different entries, and there are as many entries as nodes.
  have hentry : ∀ i : Fin t.childTable.size, ∃ e : Fin t.childTable.size,
      (∃ n : t.Node, n.slice.span.start ≤ e ∧ e < n.slice.span.stop) ∧
        t.childTable[e.val]? = some (i.val + 1) := by
    intro i
    obtain ⟨n, e, hstart, hstop, hlt, he⟩ := t.exists_entry i (by omega)
    exact ⟨⟨e, hlt⟩, ⟨n, hstart, hstop⟩, he⟩
  choose entry hmem hget using hentry
  have hinj : Function.Injective entry := by
    intro i i' h
    have hi := hget i
    rw [h, hget i'] at hi
    exact Fin.ext (by simpa using hi.symm)
  obtain ⟨i, hi⟩ := Finite.surjective_of_injective hinj ⟨j, hj⟩
  have := hmem i
  rwa [hi] at this

end TreeAssist.Tree
