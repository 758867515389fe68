import TreeAssist.Proofs.Assembly.Exactness
import TreeAssist.Proofs.Tree.Descent

/-!
# The order of indices

`Tree.all` lists the nodes of a tree in the order of their indices. That is an order in which every
node comes behind the nodes above it, but not always document order: the checks on an arena compare
the index of a node with its parent's only. The two orders agree exactly if indices are handed out
one after the other, to a node, then to all below its first child, then to all below the next
(`Tree.NumberedInOrder`, `Tree.all_eq_preorder_iff`). Assembled trees are numbered in this way.

Main statement: `order_of_indices`. In the tree `swapped` two siblings have each other's index, and
its arena passes all checks (`all_ne_preorder_swapped`).
-/

namespace TreeAssist

namespace Tree

variable {t : Tree}

/-- Indices are handed out one after the other in document order. -/
structure NumberedInOrder (t : Tree) : Prop where
  /-- The first child of a node comes next. -/
  first : ∀ (n : t.Node) (h : 0 < n.childCount), (n.child 0 h).id = n.id + 1
  /-- A later child comes next behind all that lies below the child in front of it. -/
  next : ∀ (n : t.Node) (k : Nat) (h : k + 1 < n.childCount),
    (n.child (k + 1) h).id =
      (n.child k (Nat.lt_of_succ_lt h)).id + (n.child k (Nat.lt_of_succ_lt h)).preorder.length

/-! ### The list of all nodes -/

theorem map_id_all (t : Tree) : t.all.map Node.id = List.range t.size := by
  refine List.ext_getElem (by simp [all, size]) fun i _ _ => ?_
  simp [all]

theorem mem_all (n : t.Node) : n ∈ t.all :=
  List.mem_ofFn.mpr ⟨⟨n.id, n.isLt⟩, rfl⟩

theorem nodup_all (t : Tree) : t.all.Nodup := by
  apply List.Nodup.of_map Node.id
  rw [map_id_all]
  exact List.nodup_range

/-- Both orders list all nodes, each once. -/
theorem all_perm_preorder (t : Tree) : t.all.Perm t.root.preorder := by
  rw [List.perm_ext_iff_of_nodup t.nodup_all t.root.nodup_preorder]
  intro n
  exact ⟨fun _ => Node.mem_preorder_iff.mpr n.root_encloses, fun _ => mem_all n⟩

/-- In the order of indices no node comes behind one that it encloses. -/
theorem pairwise_all (t : Tree) : t.all.Pairwise fun n m => ¬ m.encloses n := by
  have hids : (t.all.map Node.id).Pairwise (· < ·) := by
    rw [map_id_all]
    exact List.pairwise_lt_range
  rw [List.pairwise_map] at hids
  refine hids.imp ?_
  intro n m hlt henc
  exact Nat.not_le.mpr hlt (Node.id_le_of_encloses henc)

/-- The two orders agree if the walk in document order meets the indices in turn. -/
theorem all_eq_preorder_iff_map_id :
    t.all = t.root.preorder ↔ t.root.preorder.map Node.id = List.range t.size := by
  rw [← map_id_all]
  constructor
  · intro h
    rw [h]
  · intro h
    exact (List.map_injective_iff.mpr fun _ _ => Node.ext) h.symm

end Tree

namespace Tree.Node

variable {t : Tree}

/-- The walk through the subtree under `n` meets the indices from that of `n` on in turn. -/
def Contiguous (n : t.Node) : Prop :=
  n.preorder.map id = List.range' n.id n.preorder.length

/-- How many nodes lie below the children of `n` in front of the child numbered `k`, these
included. -/
def countBefore (n : t.Node) (k : Nat) : Nat :=
  ((n.children.take k).flatMap preorder).length

theorem children_take_succ (n : t.Node) {k : Nat} (h : k < n.childCount) :
    n.children.take (k + 1) = n.children.take k ++ [n.child k h] := by
  have hget : n.children[k]? = some (n.child k h) := by
    rw [children_getElem?]
    exact child?_eq_some_iff.mpr ⟨h, rfl⟩
  rw [List.take_add_one, hget]
  rfl

@[simp]
theorem countBefore_zero (n : t.Node) : n.countBefore 0 = 0 := rfl

theorem countBefore_succ (n : t.Node) {k : Nat} (h : k < n.childCount) :
    n.countBefore (k + 1) = n.countBefore k + (n.child k h).preorder.length := by
  simp [countBefore, n.children_take_succ h]

/-! ### From the whole to the children -/

/-- In a subtree with indices in turn, each child has the index behind those of the subtrees in
front of it, and the indices below it are in turn again. -/
theorem Contiguous.child {n : t.Node} (hn : n.Contiguous) {k : Nat} (h : k < n.childCount) :
    (n.child k h).id = n.id + 1 + n.countBefore k ∧ (n.child k h).Contiguous := by
  -- The walk goes through what is in front of the child, the child's subtree, and the rest.
  obtain ⟨rest, hrest⟩ : ∃ rest, n.preorder =
      n :: ((n.children.take k).flatMap preorder ++ ((n.child k h).preorder ++ rest)) := by
    refine ⟨(n.children.drop (k + 1)).flatMap preorder, ?_⟩
    rw [preorder_eq]
    conv_lhs => rw [← List.take_append_drop (k + 1) n.children, n.children_take_succ h]
    simp
  have hids : n.preorder.map id = List.range' n.id n.preorder.length := hn
  rw [hrest] at hids
  simp only [List.map_cons, List.map_append, List.length_cons, List.length_append,
    List.range'_succ, ← List.range'_append_1, List.cons.injEq, true_and] at hids
  -- Pieces of the same length are equal one by one.
  obtain ⟨-, hids⟩ := List.append_inj hids (by simp)
  obtain ⟨hids, -⟩ := List.append_inj hids (by simp)
  have hid : (n.child k h).id = n.id + 1 + n.countBefore k := by
    rw [preorder_eq] at hids
    simpa [List.range'_succ, countBefore] using (List.cons.inj hids).1
  refine ⟨hid, ?_⟩
  unfold Contiguous
  rw [hid]
  exact hids

/-- Below a node with indices in turn, all nodes have indices in turn. -/
theorem Contiguous.of_encloses {n m : t.Node} (hn : n.Contiguous) (h : n.encloses m) :
    m.Contiguous := by
  induction m using downward with
  | step m ih =>
    obtain rfl | ⟨p, hp, hnp⟩ := encloses_iff_parent?.mp h
    · exact hn
    · obtain ⟨k, hk, rfl⟩ := exists_eq_child hp
      exact ((ih p hp hnp).child hk).2

/-! ### From the children to the whole -/

/-- Where indices are handed out one after the other, the index of a child is known from the
subtrees in front of it. -/
theorem id_child_of_numberedInOrder (ht : t.NumberedInOrder) (n : t.Node) {k : Nat}
    (h : k < n.childCount) : (n.child k h).id = n.id + 1 + n.countBefore k := by
  induction k with
  | zero => rw [ht.first n h, countBefore_zero]
  | succ k ih =>
    rw [ht.next n k h, ih (Nat.lt_of_succ_lt h), n.countBefore_succ (Nat.lt_of_succ_lt h),
      Nat.add_assoc]

/-- Where indices are handed out one after the other, every subtree has indices in turn. -/
theorem contiguous_of_numberedInOrder (ht : t.NumberedInOrder) (n : t.Node) : n.Contiguous := by
  induction n using upward with
  | step n ih =>
    -- The subtrees of the first children take up the indices behind `n` without a gap.
    have hfirst : ∀ k ≤ n.childCount, ((n.children.take k).flatMap preorder).map id =
        List.range' (n.id + 1) (n.countBefore k) := by
      intro k hk
      induction k with
      | zero => rfl
      | succ k ihk =>
        have hchild := ih (n.child k hk) (n.parent?_child k hk)
        unfold Contiguous at hchild
        rw [id_child_of_numberedInOrder ht n hk] at hchild
        rw [n.countBefore_succ hk, ← List.range'_append_1, ← ihk (Nat.le_of_lt hk),
          n.children_take_succ hk]
        simp [hchild]
    have hall := hfirst n.childCount (Nat.le_refl _)
    rw [List.take_of_length_le (by simp)] at hall
    unfold Contiguous
    rw [preorder_eq, List.map_cons, hall, List.length_cons, List.range'_succ, countBefore,
      List.take_of_length_le (by simp)]

end Tree.Node

/-- Indices follow document order exactly if they are handed out one after the other. -/
theorem Tree.all_eq_preorder_iff {t : Tree} : t.all = t.root.preorder ↔ t.NumberedInOrder := by
  have hlength : t.root.preorder.length = t.size := by
    rw [← t.all_perm_preorder.length_eq, ← List.length_map Node.id, map_id_all, List.length_range]
  have hroot : t.root.Contiguous ↔ t.root.preorder.map Node.id = List.range t.size := by
    unfold Node.Contiguous
    rw [hlength, List.range_eq_range']
    rfl
  rw [all_eq_preorder_iff_map_id, ← hroot]
  constructor
  · intro h
    have hall : ∀ n : t.Node, n.Contiguous := fun n => h.of_encloses n.root_encloses
    refine ⟨?_, ?_⟩
    · intro n hk
      rw [((hall n).child hk).1, Node.countBefore_zero]
    · intro n k hk
      rw [((hall n).child hk).1, ((hall n).child (Nat.lt_of_succ_lt hk)).1,
        n.countBefore_succ (Nat.lt_of_succ_lt hk)]
      omega
  · intro h
    exact Node.contiguous_of_numberedInOrder h t.root

/-- The order of indices and document order list the same nodes, and in neither does a node come
behind one that it encloses. They agree exactly if indices are handed out one after the other, and
so for every assembled tree. -/
theorem order_of_indices (t : Tree) :
    t.all.Perm t.root.preorder ∧ (t.all.Pairwise fun n m => ¬ m.encloses n) ∧
      (t.all = t.root.preorder ↔ t.NumberedInOrder) ∧
      ∀ steps, Tree.ofSteps steps = .ok t → t.all = t.root.preorder := by
  refine ⟨t.all_perm_preorder, t.pairwise_all, Tree.all_eq_preorder_iff, ?_⟩
  intro steps hsteps
  obtain ⟨s, -, -, hrep, -⟩ := Tree.exists_shape_of_ofSteps hsteps
  exact Tree.all_eq_preorder_iff_map_id.mpr hrep.preorder

/-- The nodes of the text `pass`, with something missing behind it, are announced and numbered in
the same order. -/
theorem order_of_indices_pass :
    ∃ t, Tree.ofSteps [.opens "Script" 0, .opens "PassStatement" 0, .leaf "pass" ⟨0, 4⟩, .closes 4,
        .recovery 4, .closes 5] = .ok t ∧ t.all = t.root.preorder ∧ t.NumberedInOrder := by
  have hlawful : Shape.Lawful (.group "Script" ⟨0, 5⟩
      [.group "PassStatement" ⟨0, 4⟩ [.leaf "pass" ⟨0, 4⟩], .leaf recoveryName ⟨4, 4⟩]) := by
    refine .group (by decide) (by simp [Shape.span]) (by simp [Shape.span]) ?_
    simp only [List.mem_cons, List.not_mem_nil, or_false, forall_eq_or_imp, forall_eq]
    refine ⟨.group (by decide) (by simp [Shape.span]) (by simp) ?_, .leaf (by decide)⟩
    simp only [List.mem_singleton, forall_eq]
    exact .leaf (by decide)
  obtain ⟨t, ht⟩ := Tree.exists_ofSteps hlawful (by decide +kernel) (by decide +kernel)
  obtain ⟨-, -, hiff, hassembled⟩ := order_of_indices t
  have hall := hassembled _ ht
  exact ⟨t, ht, hall, hiff.mp hall⟩

/-- The arena of `swapped`. -/
def swappedArena : Arena where
  kinds := #[.ofName "Script", .ofName "ArithOp", .ofName "VariableName"]
  nodes := #[{ kind := 0, span := ⟨0, 2⟩, parent := none, index := 0, children := ⟨0, 2⟩ },
    { kind := 2, span := ⟨1, 2⟩, parent := some 0, index := 1, children := ⟨0, 0⟩ },
    { kind := 1, span := ⟨0, 1⟩, parent := some 0, index := 0, children := ⟨0, 0⟩ }]
  childTable := #[2, 1]

/-- A tree of the text `-x` in which the name has an index before that of the sign in front of it.
-/
def swapped : Tree where
  toArena := swappedArena
  wellFormed := Arena.check_eq_ok_iff.mp (show swappedArena.check = .ok () from rfl)

/-- An arena that is loaded need not list its nodes in document order. -/
theorem all_ne_preorder_swapped :
    Tree.ofArena swappedArena = .ok swapped ∧
      swapped.all.map Tree.Node.text = ["Script@0..2", "VariableName@1..2", "ArithOp@0..1"] ∧
      swapped.root.preorder.map Tree.Node.text =
        ["Script@0..2", "ArithOp@0..1", "VariableName@1..2"] ∧
      swapped.all ≠ swapped.root.preorder :=
  ⟨Tree.ofArena_eq_ok_iff.mpr rfl, by decide +kernel, by decide +kernel, by decide +kernel⟩

end TreeAssist
