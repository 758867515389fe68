import TreeAssist.Tree.Node

/-!
# The links of a tree

Records store the parent of a node and its children on their own. In a tree the two directions are
inverse to each other: a node is the child of its parent that its index names
(`Node.child?_index`), the children of a node are the nodes that name it as their parent
(`Node.mem_children_iff`), and only the root has no parent (`Node.parent?_eq_none_iff`). Parents
come before their children in the table of records, so there is an induction along the links in
either direction (`Node.downward`, `Node.upward`).
-/

namespace TreeAssist.Tree.Node

variable {t : Tree}

/-- Nodes with the same index are the same. -/
theorem ext {n m : t.Node} (h : n.id = m.id) : n = m := by
  cases n
  cases m
  simpa using h

/-- The name of a node tells whether it stands for an error, whatever its tree lists as kinds. -/
theorem isError_eq (n : t.Node) : n.isError = (n.name == recoveryName) :=
  t.wellFormed.kinds_consistent _ (Array.getElem_mem n.fits.kind_lt)

/-! ### Children -/

@[simp]
theorem length_children (n : t.Node) : n.children.length = n.childCount := by
  simp [children]

/-- The list of children holds the child numbered `k` in its place. -/
theorem children_getElem? (n : t.Node) (k : Nat) : n.children[k]? = n.child? k := by
  unfold child? children
  rw [List.getElem?_ofFn]

theorem lastChild?_eq_child? (n : t.Node) : n.lastChild? = n.child? (n.childCount - 1) := by
  ext c
  rw [lastChild?_eq_some_iff, child?_eq_some_iff]

/-- The stretch of a node holds the index of the child numbered `k` in that place. -/
theorem slice_get?_child (n : t.Node) {k : Nat} (h : k < n.childCount) :
    n.slice.get? k = some (n.child k h).id :=
  dif_pos h

/-! ### Parents and children -/

/-- The root is the node without a parent. -/
theorem parent?_eq_none_iff {n : t.Node} : n.parent? = none ↔ n = t.root := by
  constructor
  · intro h
    rcases Nat.eq_zero_or_pos n.id with h0 | hpos
    · exact ext h0
    · obtain ⟨p, parent, hp, hlt, -⟩ := n.fits.placed hpos
      have hsome : n.parent? = some ⟨p, Nat.lt_trans hlt n.isLt⟩ := parent?_eq_some_iff.mpr hp
      rw [h] at hsome
      cases hsome
  · rintro rfl
    cases h : t.root.parent? with
    | none => rfl
    | some p => exact absurd (id_lt_of_parent? h) (Nat.not_lt_zero _)

/-- A node is the child of its parent that its index names. -/
theorem child?_index {n p : t.Node} (h : n.parent? = some p) : p.child? n.index = some n := by
  have hpos : 0 < n.id := Nat.lt_of_le_of_lt (Nat.zero_le _) (id_lt_of_parent? h)
  obtain ⟨q, parent, hq, -, hparent, hin, hlisted, -⟩ := n.fits.placed hpos
  rw [parent?_eq_some_iff.mp h] at hq
  cases hq
  rw [p.nodes_getElem?_id] at hparent
  cases hparent
  have hk : n.index < p.childCount := by
    unfold childCount Arena.Slice.size slice
    simp only
    unfold index
    omega
  refine child?_eq_some_iff.mpr ⟨hk, ext ?_⟩
  -- The entry of the child table at the node's place is the node.
  have hget : p.slice.get? n.index = some n.id :=
    Arena.Slice.get?_eq_some_iff.mpr ⟨hin, hlisted⟩
  exact Option.some.inj ((p.slice_get?_child hk).symm.trans hget)

/-- What names a node as its parent is one of the node's children. -/
theorem exists_eq_child {c n : t.Node} (h : c.parent? = some n) :
    ∃ (k : Nat) (hk : k < n.childCount), n.child k hk = c :=
  ⟨c.index, child?_eq_some_iff.mp (child?_index h)⟩

/-- The children of a node are the nodes that name it as their parent. -/
theorem mem_children_iff {n c : t.Node} : c ∈ n.children ↔ c.parent? = some n := by
  constructor
  · intro h
    obtain ⟨k, hk⟩ := List.mem_iff_getElem?.mp h
    rw [children_getElem?] at hk
    obtain ⟨hlt, rfl⟩ := child?_eq_some_iff.mp hk
    exact n.parent?_child k hlt
  · intro h
    have := child?_index h
    rw [← children_getElem?] at this
    exact List.mem_of_getElem? this

/-- Children of a node with the same index are the same. -/
theorem eq_of_index_eq {c d n : t.Node} (hc : c.parent? = some n) (hd : d.parent? = some n)
    (h : c.index = d.index) : c = d := by
  have hchild := child?_index hc
  rw [h, child?_index hd] at hchild
  exact (Option.some.inj hchild).symm

/-! ### Induction -/

/-- Induction from the root downward: a node may assume the statement for its parent. -/
@[elab_as_elim]
theorem downward {motive : t.Node → Prop} (n : t.Node)
    (step : ∀ n, (∀ p, n.parent? = some p → motive p) → motive n) : motive n := by
  obtain ⟨i, hi⟩ := n
  induction i using Nat.strongRecOn with
  | ind i ih => exact step _ fun p hp => ih p.id (id_lt_of_parent? hp) p.isLt

/-- Induction toward the root: a node may assume the statement for its children. -/
@[elab_as_elim]
theorem upward {motive : t.Node → Prop} (n : t.Node)
    (step : ∀ n, (∀ c, c.parent? = some n → motive c) → motive n) : motive n := by
  induction h : t.nodes.size - n.id using Nat.strongRecOn generalizing n with
  | ind m ih =>
    refine step n fun c hc => ih _ ?_ c rfl
    have := id_lt_of_parent? hc
    have := c.isLt
    omega

end TreeAssist.Tree.Node
