import TreeAssist.Proofs.Tree.Search

/-!
# Bisections and scans

A bisection looks at few of the children of a node. What it finds means something only if the
children with the property that it asks for come first, all together, so that there is one place
where they end (`SplitsAt`). The ends and the starts of children both ascend, so this is so for each
property that a search by position asks for, and the number that the bisection gives is that place
(`Node.splitsAt_countChildren`). From there on a search reads one or two neighbouring children, and
yet finds what a scan of all of them would find.

Main statement: `bisections_eq_scans`.
-/

namespace TreeAssist

/-- The items of `l` with the property `p` are the first `k`. -/
structure SplitsAt {α : Type} (p : α → Bool) (l : List α) (k : Nat) : Prop where
  /-- There are so many items. -/
  le_length : k ≤ l.length
  /-- The first `k` have the property. -/
  front : ∀ x ∈ l.take k, p x = true
  /-- The others do not have it. -/
  behind : ∀ x ∈ l.drop k, p x = false

namespace SplitsAt

variable {α : Type} {p : α → Bool} {l : List α} {k k' : Nat}

theorem filter_eq (h : SplitsAt p l k) : l.filter p = l.take k := by
  have hbehind : (l.drop k).filter p = [] := by
    rw [List.filter_eq_nil_iff]
    intro x hx
    rw [h.behind x hx]
    exact Bool.false_ne_true
  calc l.filter p
      = (l.take k).filter p ++ (l.drop k).filter p := by
        rw [← List.filter_append, List.take_append_drop]
    _ = l.take k := by rw [List.filter_eq_self.mpr h.front, hbehind, List.append_nil]

/-- There is only one such place in a list. -/
theorem unique (h : SplitsAt p l k) (h' : SplitsAt p l k') : k = k' := by
  -- The place is the number of items with the property.
  have hlength := congrArg List.length (h.filter_eq.symm.trans h'.filter_eq)
  rwa [List.length_take_of_le h.le_length, List.length_take_of_le h'.le_length] at hlength

/-- The last item with the property is the one in front of the place. -/
theorem getLast?_filter (h : SplitsAt p l k) :
    (l.filter p).getLast? = if 0 < k then l[k - 1]? else none := by
  have hle := h.le_length
  rw [h.filter_eq, List.getLast?_eq_getElem?, List.length_take_of_le hle]
  split
  · rename_i hpos
    exact List.getElem?_take_of_lt (by omega)
  · rename_i hzero
    obtain rfl : k = 0 := by omega
    rfl

end SplitsAt

namespace Tree.Node

variable {t : Tree}

/-- What `countChildren` gives is the place at which the children with the property end, if it
counts just these. -/
theorem splitsAt_countChildren {n : t.Node} {p : t.Node → Bool}
    (h : ∀ k (hk : k < n.childCount), k < n.countChildren p ↔ p (n.child k hk) = true) :
    SplitsAt p n.children (n.countChildren p) where
  le_length := by
    rw [length_children]
    exact n.countChildren_le p
  front := by
    intro c hc
    obtain ⟨k, hk, rfl⟩ := List.mem_take_iff_getElem.mp hc
    rw [getElem_children]
    exact (h k _).mp (by omega)
  behind := by
    intro c hc
    obtain ⟨k, hk, rfl⟩ := List.mem_drop_iff_getElem.mp hc
    rw [getElem_children, ← Bool.not_eq_true, ← h]
    omega

/-- The children that start before `pos` come first. -/
theorem splitsAt_start (n : t.Node) (pos : Nat) :
    SplitsAt (·.start < pos) n.children (n.countChildren (·.start < pos)) :=
  splitsAt_countChildren fun _ hk => by rw [lt_countChildren_start_iff hk, decide_eq_true_iff]

/-- The children that end before `pos` come first. -/
theorem splitsAt_stop (n : t.Node) (pos : Nat) :
    SplitsAt (·.stop < pos) n.children (n.countChildren (·.stop < pos)) :=
  splitsAt_countChildren fun _ hk => by rw [lt_countChildren_stop_iff hk, decide_eq_true_iff]

/-- The children that end at or before `pos` come first. -/
theorem splitsAt_stop_le (n : t.Node) (pos : Nat) :
    SplitsAt (·.stop ≤ pos) n.children (n.countChildren (·.stop ≤ pos)) :=
  splitsAt_countChildren fun _ hk => by rw [lt_countChildren_stop_le_iff hk, decide_eq_true_iff]

/-- The bisection for the child before `pos` finds what a scan of the children finds. -/
theorem childStartingBefore_eq_getLast? (n : t.Node) (pos : Nat) :
    n.childStartingBefore pos = (n.children.filter (·.start < pos)).getLast? := by
  rw [(n.splitsAt_start pos).getLast?_filter, children_getElem?]
  rfl

/-- The children that admit `pos` are the one that is entered, or none. -/
theorem filter_admits (n : t.Node) (pos : Nat) (bias : Bias) :
    n.children.filter (·.admits pos bias) = (n.childAt? pos bias).toList := by
  have hmem : ∀ c, c ∈ n.children.filter (·.admits pos bias) ↔ n.childAt? pos bias = some c := by
    intro c
    rw [List.mem_filter, mem_children_iff, childAt?_eq_some_iff]
  cases hchild : n.childAt? pos bias with
  | none =>
    rw [Option.toList_none, List.eq_nil_iff_forall_not_mem]
    intro c hc
    rw [hmem, hchild] at hc
    cases hc
  | some c =>
    -- The children are all different, so none is left beside `c`.
    have hperm : (n.children.filter (·.admits pos bias)).Perm [c] := by
      rw [List.perm_ext_iff_of_nodup (n.nodup_children.filter _) (List.nodup_singleton c)]
      intro c'
      rw [hmem, hchild, List.mem_singleton, Option.some.injEq, eq_comm]
    exact List.perm_singleton.mp hperm

end Tree.Node

/-- For each property that a search by position asks for, the children with the property come first,
and the number that the bisection gives is the only place at which they end. The child before a
position is the last one that starts before it, and the child after it the first one that ends after
it. The child that is entered is the one and only child that meets the condition of its bias; if
there is none, no child does. -/
theorem bisections_eq_scans {t : Tree} (n : t.Node) (pos : Nat) :
    (∀ k, SplitsAt (·.start < pos) n.children k ↔ k = n.countChildren (·.start < pos)) ∧
      (∀ k, SplitsAt (·.stop < pos) n.children k ↔ k = n.countChildren (·.stop < pos)) ∧
      (∀ k, SplitsAt (·.stop ≤ pos) n.children k ↔ k = n.countChildren (·.stop ≤ pos)) ∧
      n.childStartingBefore pos = (n.children.filter (·.start < pos)).getLast? ∧
      n.childEndingAfter pos = n.children.find? (pos < ·.stop) ∧
      n.children.filter (fun c => c.start < pos ∧ pos ≤ c.stop) =
        (n.childAt? pos .left).toList ∧
      n.children.filter (fun c => c.start < pos ∧ pos < c.stop) =
        (n.childAt? pos .strict).toList ∧
      n.children.filter (fun c => c.start ≤ pos ∧ pos < c.stop) =
        (n.childAt? pos .right).toList := by
  -- The place is unique, so it is enough that the bisection finds one.
  have hplace : ∀ {p : t.Node → Bool}, SplitsAt p n.children (n.countChildren p) →
      ∀ k, SplitsAt p n.children k ↔ k = n.countChildren p :=
    fun hcount _ => ⟨fun h => h.unique hcount, fun h => h ▸ hcount⟩
  refine ⟨hplace (n.splitsAt_start pos), hplace (n.splitsAt_stop pos),
    hplace (n.splitsAt_stop_le pos), n.childStartingBefore_eq_getLast? pos,
    n.childEndingAfter_eq_find? pos, ?_, ?_, ?_⟩
  -- What is left are the three conditions on a child that is entered.
  all_goals
    rw [← Tree.Node.filter_admits]
    exact List.filter_congr fun c _ => Bool.decide_and _ _

end TreeAssist
