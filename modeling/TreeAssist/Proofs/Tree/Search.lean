import TreeAssist.Proofs.Tree.Descent
import TreeAssist.Tree.Locate

/-!
# What a search by position finds

The bisections over the children of a node find what a scan of all children would find
(`Node.childStartingBefore_eq_some_iff`, `Node.childAt?_eq_some_iff`). The search for the innermost
node at a position ends inside every node that admits the position
(`Node.encloses_innermostAt`), from wherever it starts. Where a node is entered exactly if it need
not be left, the place where the search starts is therefore of no consequence
(`Node.innermostAt_eq_root`).
-/

namespace TreeAssist

/-! ### Bisection -/

/-- A bisection counts the numbers at which the condition holds, if it never holds again once it has
failed. -/
theorem lt_bisect_iff {p : Nat → Bool} (hp : ∀ i j, i ≤ j → p j = true → p i = true)
    {lo hi k : Nat} (hlo : lo ≤ k) (hhi : k < hi) : k < bisect p lo hi ↔ p k = true := by
  fun_induction bisect p lo hi with
  | case1 lo hi hlt hmid ih =>
    by_cases hk : (lo + hi) / 2 + 1 ≤ k
    · exact ih hk hhi
    · -- Up to the middle the condition holds.
      have hle : k ≤ (lo + hi) / 2 := by omega
      have hbounds := bisect_bounds p (show (lo + hi) / 2 + 1 ≤ hi by omega)
      exact ⟨fun _ => hp _ _ hle hmid, fun _ => by omega⟩
  | case2 lo hi hlt hmid ih =>
    by_cases hk : k < (lo + hi) / 2
    · exact ih hlo hk
    · -- From the middle on it fails.
      have hle : (lo + hi) / 2 ≤ k := by omega
      have hbounds := bisect_bounds p (show lo ≤ (lo + hi) / 2 by omega)
      exact ⟨fun _ => by omega, fun h => absurd (hp _ _ hle h) hmid⟩
  | case3 lo hi hlt => omega

namespace Tree.Node

variable {t : Tree}

/-- Not more children are counted than there are. -/
theorem countChildren_le (n : t.Node) (p : t.Node → Bool) : n.countChildren p ≤ n.childCount :=
  (bisect_bounds _ (Nat.zero_le n.childCount)).2.1

/-- `countChildren p` counts the children with `p`, if `p` holds of all that stands in front of a
node of which it holds. -/
theorem lt_countChildren_iff {n : t.Node} {p : t.Node → Bool}
    (hp : ∀ c c' : t.Node, c.stop ≤ c'.start → p c' = true → p c = true) {k : Nat}
    (hk : k < n.childCount) : k < n.countChildren p ↔ p (n.child k hk) = true := by
  have hany : ∀ i, (n.child? i).any p = true ↔ ∃ h : i < n.childCount, p (n.child i h) = true := by
    intro i
    unfold child?
    split
    · rename_i h
      simp [h]
    · rename_i h
      simp [h]
  have hanti : ∀ i j, i ≤ j → (n.child? j).any p = true → (n.child? i).any p = true := by
    intro i j hij h
    obtain ⟨hj, hpj⟩ := (hany j).mp h
    rcases Nat.eq_or_lt_of_le hij with rfl | hlt
    · exact h
    · have horder := n.stop_child_le_start_child hlt hj
      exact (hany i).mpr ⟨Nat.lt_trans hlt hj, hp _ _ horder hpj⟩
  -- Past the last child the condition fails, so it never holds again there.
  unfold countChildren
  rw [lt_bisect_iff hanti (Nat.zero_le k) hk, hany]
  exact ⟨fun h => h.2, fun h => ⟨hk, h⟩⟩

/-- How many children start before `pos`. -/
theorem lt_countChildren_start_iff {n : t.Node} {pos k : Nat} (hk : k < n.childCount) :
    k < n.countChildren (·.start < pos) ↔ (n.child k hk).start < pos := by
  rw [lt_countChildren_iff _ hk, decide_eq_true_iff]
  intro c c' horder
  have := c.start_le_stop
  simp only [decide_eq_true_eq]
  omega

/-- How many children end before `pos`. -/
theorem lt_countChildren_stop_iff {n : t.Node} {pos k : Nat} (hk : k < n.childCount) :
    k < n.countChildren (·.stop < pos) ↔ (n.child k hk).stop < pos := by
  rw [lt_countChildren_iff _ hk, decide_eq_true_iff]
  intro c c' horder
  have := c'.start_le_stop
  simp only [decide_eq_true_eq]
  omega

/-- How many children end at or before `pos`. -/
theorem lt_countChildren_stop_le_iff {n : t.Node} {pos k : Nat} (hk : k < n.childCount) :
    k < n.countChildren (·.stop ≤ pos) ↔ (n.child k hk).stop ≤ pos := by
  simp only [← Nat.lt_succ_iff]
  exact lt_countChildren_stop_iff hk

/-! ### Children by position -/

/-- The child before `pos` is the last one that starts before `pos`. -/
theorem childStartingBefore_eq_some_iff {n c : t.Node} {pos : Nat} :
    n.childStartingBefore pos = some c ↔
      c.parent? = some n ∧ c.start < pos ∧
        ∀ c' : t.Node, c'.parent? = some n → c.index < c'.index → pos ≤ c'.start := by
  have hle := n.countChildren_le (·.start < pos)
  unfold childStartingBefore
  simp only
  constructor
  · intro h
    split at h
    · rename_i hpos
      obtain ⟨hk, rfl⟩ := child?_eq_some_iff.mp h
      refine ⟨n.parent?_child _ hk, (lt_countChildren_start_iff hk).mp (by omega), ?_⟩
      intro c' hc' hlt
      obtain ⟨k', hk', rfl⟩ := exists_eq_child hc'
      rw [index_child, index_child] at hlt
      rw [← Nat.not_lt, ← lt_countChildren_start_iff hk']
      omega
    · cases h
  · rintro ⟨hparent, hstart, hlast⟩
    obtain ⟨hk, hchild⟩ := child?_eq_some_iff.mp (child?_index hparent)
    have hlt : c.index < n.countChildren (·.start < pos) := by
      rw [lt_countChildren_start_iff hk, hchild]
      exact hstart
    rw [if_pos (by omega)]
    -- A child behind `c` that starts before `pos` would contradict the choice of `c`.
    have hmax : n.countChildren (·.start < pos) - 1 = c.index := by
      by_contra hne
      have hk' : n.countChildren (·.start < pos) - 1 < n.childCount := by omega
      have hbefore : (n.child _ hk').start < pos :=
        (lt_countChildren_start_iff hk').mp (by omega)
      have := hlast _ (n.parent?_child _ hk') (by rw [index_child]; omega)
      omega
    rw [hmax]
    exact child?_index hparent

/-- A child that starts before `pos` and does not end before it is the child before `pos`. -/
theorem childStartingBefore_of_le_stop {n c : t.Node} {pos : Nat} (hparent : c.parent? = some n)
    (hstart : c.start < pos) (hstop : pos ≤ c.stop) : n.childStartingBefore pos = some c := by
  refine childStartingBefore_eq_some_iff.mpr ⟨hparent, hstart, fun c' hc' hlt => ?_⟩
  exact Nat.le_trans hstop (stop_le_start_of_index_lt hparent hc' hlt)

/-- The child after `pos` is the first one that ends after `pos`. -/
theorem childEndingAfter_eq_some_iff {n c : t.Node} {pos : Nat} :
    n.childEndingAfter pos = some c ↔
      c.parent? = some n ∧ pos < c.stop ∧
        ∀ c' : t.Node, c'.parent? = some n → c'.index < c.index → c'.stop ≤ pos := by
  unfold childEndingAfter
  constructor
  · intro h
    obtain ⟨hk, rfl⟩ := child?_eq_some_iff.mp h
    refine ⟨n.parent?_child _ hk, ?_, fun c' hc' hlt => ?_⟩
    · rw [← Nat.not_le, ← lt_countChildren_stop_le_iff hk]
      exact Nat.lt_irrefl _
    · obtain ⟨k', hk', rfl⟩ := exists_eq_child hc'
      rw [index_child, index_child] at hlt
      exact (lt_countChildren_stop_le_iff hk').mp hlt
  · rintro ⟨hparent, hstop, hfirst⟩
    obtain ⟨hk, hchild⟩ := child?_eq_some_iff.mp (child?_index hparent)
    -- All children in front of `c` are counted, and `c` is not.
    have hcount : n.countChildren (·.stop ≤ pos) = c.index := by
      apply Nat.le_antisymm
      · rw [← Nat.not_lt, lt_countChildren_stop_le_iff hk, hchild]
        exact Nat.not_le.mpr hstop
      · by_contra hlt
        have hk' : n.countChildren (·.stop ≤ pos) < n.childCount := by omega
        have hle := hfirst _ (n.parent?_child _ hk') (by rw [index_child]; omega)
        exact Nat.lt_irrefl _ ((lt_countChildren_stop_le_iff hk').mpr hle)
    rw [hcount]
    exact child?_index hparent

/-- There is no child after `pos` if all end at or before it. -/
theorem childEndingAfter_eq_none_iff {n : t.Node} {pos : Nat} :
    n.childEndingAfter pos = none ↔ ∀ c : t.Node, c.parent? = some n → c.stop ≤ pos := by
  have hle := n.countChildren_le (·.stop ≤ pos)
  have hnone : n.childEndingAfter pos = none ↔
      n.childCount ≤ n.countChildren (·.stop ≤ pos) := by
    simp [childEndingAfter, child?]
  rw [hnone]
  constructor
  · intro h c hc
    obtain ⟨k, hk, rfl⟩ := exists_eq_child hc
    exact (lt_countChildren_stop_le_iff hk).mp (Nat.lt_of_lt_of_le hk h)
  · intro h
    by_contra hlt
    have hk := Nat.not_le.mp hlt
    exact Nat.lt_irrefl _ ((lt_countChildren_stop_le_iff hk).mpr (h _ (n.parent?_child _ hk)))

theorem getElem_children (n : t.Node) {k : Nat} (h : k < n.children.length) :
    n.children[k] = n.child k (n.length_children ▸ h) := by
  simp [children]

/-- What is found among the children is the first one with the property. -/
theorem find?_children_eq_some_iff {n c : t.Node} {p : t.Node → Bool} :
    n.children.find? p = some c ↔
      c.parent? = some n ∧ p c = true ∧
        ∀ c' : t.Node, c'.parent? = some n → c'.index < c.index → p c' = false := by
  simp only [List.find?_eq_some_iff_getElem, getElem_children, Bool.not_eq_true']
  constructor
  · rintro ⟨hp, k, hk, rfl, hfirst⟩
    refine ⟨n.parent?_child _ _, hp, fun c' hc' hlt => ?_⟩
    obtain ⟨k', hk', rfl⟩ := exists_eq_child hc'
    rw [index_child, index_child] at hlt
    exact hfirst k' hlt
  · rintro ⟨hparent, hp, hfirst⟩
    obtain ⟨k, hk, rfl⟩ := exists_eq_child hparent
    refine ⟨hp, k, by rwa [length_children], rfl, fun j hj => ?_⟩
    exact hfirst _ (n.parent?_child _ _) (by rwa [index_child, index_child])

/-- The bisection for the child after `pos` finds what a scan of the children finds. -/
theorem childEndingAfter_eq_find? (n : t.Node) (pos : Nat) :
    n.childEndingAfter pos = n.children.find? (pos < ·.stop) := by
  apply Option.ext
  intro c
  simp [childEndingAfter_eq_some_iff, find?_children_eq_some_iff]

/-- What is entered is the one child that admits `pos`. -/
theorem childAt?_eq_some_iff {n c : t.Node} {pos : Nat} {bias : Bias} :
    n.childAt? pos bias = some c ↔ c.parent? = some n ∧ c.admits pos bias = true := by
  unfold childAt?
  rw [Option.filter_eq_some_iff]
  refine and_congr_left fun hadmits => ⟨?_, fun hparent => ?_⟩
  · intro h
    obtain ⟨hk, rfl⟩ := child?_eq_some_iff.mp h
    exact n.parent?_child _ hk
  · obtain ⟨k, hk, rfl⟩ := exists_eq_child hparent
    -- `c` does not end before `pos`, and every child in front of it does.
    have hcount : ∀ m, ¬ k < m → (∀ j, j < k → j < m) → n.child? m = some (n.child k hk) := by
      intro m hnot hall
      obtain rfl : m = k := by
        apply Nat.le_antisymm (Nat.not_lt.mp hnot)
        exact Nat.le_of_not_lt fun hlt => Nat.lt_irrefl m (hall m hlt)
      exact child?_eq_some_iff.mpr ⟨hk, rfl⟩
    refine hcount _ ?_ ?_
    · cases bias <;>
        simp only [lt_countChildren_stop_iff hk, lt_countChildren_stop_le_iff hk] <;>
        simp only [admits, Bool.and_eq_true, decide_eq_true_eq] at hadmits <;> omega
    · intro j hj
      have horder := n.stop_child_le_start_child hj hk
      cases bias <;>
        simp only [lt_countChildren_stop_iff (Nat.lt_trans hj hk),
          lt_countChildren_stop_le_iff (Nat.lt_trans hj hk)] <;>
        simp only [admits, Bool.and_eq_true, decide_eq_true_eq] at hadmits <;> omega

/-! ### The innermost node at a position -/

/-- A node that encloses one that admits `pos` admits it too. -/
theorem admits_of_encloses {n m : t.Node} {pos : Nat} {bias : Bias} (h : n.encloses m)
    (hm : m.admits pos bias = true) : n.admits pos bias = true := by
  have hspan := encloses_span h
  cases bias <;> simp only [admits, Bool.and_eq_true, decide_eq_true_eq] at hm ⊢ <;> omega

/-- A node that is entered need not be left. -/
theorem keeps_of_admits {n : t.Node} {pos : Nat} {bias : Bias} (h : n.admits pos bias = true) :
    n.keeps pos bias = true := by
  cases bias <;> simp only [admits, keeps, Bool.and_eq_true, decide_eq_true_eq] at h ⊢ <;> omega

/-- Climbing ends at a node above that keeps `pos`, or at the root. -/
theorem climb_spec (n : t.Node) (pos : Nat) (bias : Bias) :
    (n.climb pos bias).encloses n ∧
      ((n.climb pos bias).keeps pos bias = true ∨ n.climb pos bias = t.root) := by
  fun_induction climb n pos bias with
  | case1 n hkeeps => exact ⟨n.encloses_refl, .inl hkeeps⟩
  | case2 n hkeeps hp => exact ⟨n.encloses_refl, .inr (parent?_eq_none_iff.mp hp)⟩
  | case3 n hkeeps p hp ih => exact ⟨encloses_trans ih.1 (encloses_of_parent? hp), ih.2⟩

/-- There is nowhere to climb to from the root. -/
@[simp]
theorem climb_root (pos : Nat) (bias : Bias) : t.root.climb pos bias = t.root :=
  encloses_antisymm (climb_spec t.root pos bias).1 (root_encloses _)

/-- Descending ends below where it starts, and at a node that admits `pos` if it moves at all. -/
theorem descend_spec (n : t.Node) (pos : Nat) (bias : Bias) :
    n.encloses (n.descend pos bias) ∧
      (n.descend pos bias = n ∨ (n.descend pos bias).admits pos bias = true) := by
  fun_induction descend n pos bias with
  | case1 n hnone => exact ⟨n.encloses_refl, .inl rfl⟩
  | case2 n c hc ih =>
    obtain ⟨hparent, hadmits⟩ := childAt?_eq_some_iff.mp hc
    refine ⟨encloses_trans (encloses_of_parent? hparent) ih.1, .inr ?_⟩
    rcases ih.2 with heq | hin
    · rw [heq]
      exact hadmits
    · exact hin

/-- Descending ends inside every node below that admits `pos`. -/
theorem encloses_descend {n m : t.Node} {pos : Nat} {bias : Bias} (h : n.encloses m)
    (hm : m.admits pos bias = true) : m.encloses (n.descend pos bias) := by
  fun_induction descend n pos bias with
  | case1 n hnone =>
    obtain rfl | ⟨c, hc, hcm⟩ := encloses_iff_child.mp h
    · exact m.encloses_refl
    · -- The child toward `m` would have been entered.
      have hsome := childAt?_eq_some_iff.mpr ⟨hc, admits_of_encloses hcm hm⟩
      rw [hnone] at hsome
      cases hsome
  | case2 n c hc ih =>
    obtain ⟨hparent, -⟩ := childAt?_eq_some_iff.mp hc
    obtain rfl | ⟨c', hc', hcm⟩ := encloses_iff_child.mp h
    · exact encloses_trans (encloses_of_parent? hparent) (descend_spec c pos bias).1
    · -- At most one child admits `pos`, so the child toward `m` is the one entered.
      have hsome := childAt?_eq_some_iff.mpr ⟨hc', admits_of_encloses hcm hm⟩
      rw [hc] at hsome
      cases hsome
      exact ih hcm

/-- The search ends inside every node that admits `pos`, wherever it starts. -/
theorem encloses_innermostAt (n : t.Node) {m : t.Node} {pos : Nat} {bias : Bias}
    (hm : m.admits pos bias = true) : m.encloses (n.innermostAt pos bias) := by
  have hdescend := descend_spec (n.climb pos bias) pos bias
  rcases (climb_spec n pos bias).2 with hkeeps | hroot
  · -- Both `m` and the node climbed to hold `pos`, so they are not apart.
    rcases encloses_or_disjoint m (n.climb pos bias) with h | h | h
    · exact encloses_trans h hdescend.1
    · exact encloses_descend h hm
    · cases bias <;>
        simp only [admits, keeps, Bool.and_eq_true, decide_eq_true_eq] at hm hkeeps <;> omega
  · apply encloses_descend _ hm
    rw [hroot]
    exact m.root_encloses

/-- The search ends at the root or at a node that keeps `pos`. -/
theorem innermostAt_cases (n : t.Node) (pos : Nat) (bias : Bias) :
    n.innermostAt pos bias = t.root ∨ (n.innermostAt pos bias).keeps pos bias = true := by
  unfold innermostAt
  rcases (descend_spec (n.climb pos bias) pos bias).2 with heq | hin
  · rw [heq]
    exact (climb_spec n pos bias).2.symm
  · exact .inr (keeps_of_admits hin)

/-- A search from the root ends there or at a node that admits `pos`. -/
theorem innermostAt_root_cases (t : Tree) (pos : Nat) (bias : Bias) :
    t.root.innermostAt pos bias = t.root ∨
      (t.root.innermostAt pos bias).admits pos bias = true := by
  unfold innermostAt
  rw [climb_root]
  exact (descend_spec t.root pos bias).2

/-- Where a node is entered as soon as it need not be left, the search ends at the same node from
wherever it starts. -/
theorem innermostAt_eq_root {bias : Bias} (hbias : bias ≠ .strict) (n : t.Node) (pos : Nat) :
    n.innermostAt pos bias = t.root.innermostAt pos bias := by
  -- Each of the two results admits `pos` or is the root, and so encloses the other.
  have hkey : ∀ m m' : t.Node, (m.innermostAt pos bias).encloses (m'.innermostAt pos bias) := by
    intro m m'
    rcases innermostAt_cases m pos bias with hroot | hkeeps
    · rw [hroot]
      exact root_encloses _
    · apply encloses_innermostAt
      cases bias with
      | left => exact hkeeps
      | strict => exact absurd rfl hbias
      | right => exact hkeeps
  exact encloses_antisymm (hkey n t.root) (hkey t.root n)

/-- In a tree that starts at or before `pos`, what is found starts there too. -/
theorem start_innermostAt_le (n : t.Node) {pos : Nat} (bias : Bias) (h : t.root.start ≤ pos) :
    (n.innermostAt pos bias).start ≤ pos := by
  rcases innermostAt_cases n pos bias with hroot | hkeeps
  · rw [hroot]
    exact h
  · cases bias <;> simp only [keeps, Bool.and_eq_true, decide_eq_true_eq] at hkeeps <;> omega

/-- What is found above the innermost node at `pos` starts at or before `pos`, if the tree does. -/
theorem start_le_of_find?_innermostAt {n m : t.Node} {pos : Nat} {bias : Bias} {p : t.Node → Bool}
    (hroot : t.root.start ≤ pos) (h : (n.innermostAt pos bias).ancestors.find? p = some m) :
    m.start ≤ pos :=
  calc m.start
    _ ≤ (n.innermostAt pos bias).start :=
        (encloses_span (encloses_iff.mpr (List.mem_of_find?_eq_some h))).1
    _ ≤ pos := n.start_innermostAt_le bias hroot

/-! ### Links between children -/

/-- The last child is a child. -/
theorem parent?_of_lastChild? {n c : t.Node} (h : n.lastChild? = some c) : c.parent? = some n := by
  obtain ⟨hk, rfl⟩ := lastChild?_eq_some_iff.mp h
  exact n.parent?_child _ hk

/-- The sibling in front of a node has the same parent. -/
theorem parent?_of_prev? {n c : t.Node} (h : n.prev? = some c) : c.parent? = n.parent? := by
  obtain ⟨p, hp, hc⟩ := Option.bind_eq_some_iff.mp h
  split at hc
  · obtain ⟨hk, rfl⟩ := child?_eq_some_iff.mp hc
    rw [p.parent?_child _ hk, hp]
  · cases hc

end Tree.Node

end TreeAssist
