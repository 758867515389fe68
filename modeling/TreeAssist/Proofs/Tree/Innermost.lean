import TreeAssist.Proofs.Tree.Order
import TreeAssist.Proofs.Tree.Search

/-!
# The deepest node at a position

A node that lies properly inside another one is deeper (`Node.depth_lt_of_encloses`). The nodes that
hold a position on one side of it lie inside one another, so there is one deepest among them, and
the search for the innermost node ends there from wherever it starts
(`Node.deepestOrRoot_innermostAt`).

A search that enters only nodes around the position depends on where it starts, since it stays at a
node that merely touches the position (`Node.innermostAt_strict_eq`). From the root it ends at the
lowest node above what is found on either side (`Node.lowestCommon_innermostAt`).

Main statements: `innermostAt_deepest`, for the search to the left and to the right of a position,
and `innermostAt_strict_exact`, for the search around it.
-/

namespace TreeAssist

namespace Tree.Node

variable {t : Tree}

/-! ### Depth -/

/-- How deep the node lies: the number of nodes on the way from it up to the root. -/
def depth (n : t.Node) : Nat :=
  n.ancestors.length

/-- A child is one step deeper than its parent. -/
theorem depth_of_parent? {n p : t.Node} (h : n.parent? = some p) : n.depth = p.depth + 1 := by
  rw [depth, ancestors_of_parent? h, List.length_cons, depth]

/-- What lies properly inside a node is deeper. -/
theorem depth_lt_of_encloses {n m : t.Node} (h : n.encloses m) (hne : n ≠ m) :
    n.depth < m.depth := by
  induction m using downward with
  | step m ih =>
    obtain rfl | ⟨p, hp, hnp⟩ := encloses_iff_parent?.mp h
    · exact absurd rfl hne
    · rw [depth_of_parent? hp]
      by_cases heq : n = p
      · subst heq
        exact Nat.lt_succ_self _
      · exact Nat.lt_succ_of_lt (ih p hp hnp heq)

/-! ### The deepest of some nodes -/

/-- The node is the only deepest one of those with `P`: all others lie above it and are less
deep. -/
structure Deepest (P : t.Node → Prop) (n : t.Node) : Prop where
  /-- It is one of them. -/
  holds : P n
  /-- The others enclose it, at a lesser depth. -/
  others : ∀ m, P m → m ≠ n → m.encloses n ∧ m.depth < n.depth

/-- What is found first on the way to the root is the deepest node that could be found there. -/
theorem deepest_of_find?_ancestors {n m : t.Node} {p : t.Node → Bool}
    (h : n.ancestors.find? p = some m) : Deepest (fun a => a.encloses n ∧ p a = true) m := by
  rw [List.find?_eq_findSome?_guard] at h
  obtain ⟨a, ha, hguard, hall⟩ := exists_of_findSome? encloses_refl n.pairwise_ancestors h
  obtain ⟨rfl, hp⟩ := Option.guard_eq_some_iff.mp hguard
  refine ⟨⟨encloses_iff.mpr ha, hp⟩, ?_⟩
  rintro a' ⟨ha', hp'⟩ hne
  have henc := hall a' (encloses_iff.mp ha') (by simpa using hp')
  exact ⟨henc, depth_lt_of_encloses henc hne⟩

/-- The node is the only deepest one of those with `P`, or the root in case that there are none. -/
def DeepestOrRoot (P : t.Node → Prop) (n : t.Node) : Prop :=
  Deepest P n ∨ n = t.root ∧ ∀ m, ¬ P m

/-- Only one node is the deepest, or stands in for it. -/
theorem DeepestOrRoot.eq {P : t.Node → Prop} {n m : t.Node} (hn : DeepestOrRoot P n)
    (hm : DeepestOrRoot P m) : n = m := by
  rcases hn with hn | ⟨rfl, hnone⟩
  · rcases hm with hm | ⟨-, hnone⟩
    · -- Of two different ones each would be deeper than the other.
      by_contra hne
      have hlt := (hn.others m hm.holds (Ne.symm hne)).2
      have hgt := (hm.others n hn.holds hne).2
      omega
    · exact absurd hn.holds (hnone n)
  · rcases hm with hm | ⟨rfl, -⟩
    · exact absurd hm.holds (hnone m)
    · rfl

/-- Where a node is entered as soon as it need not be left, the search ends at the deepest node that
admits the position, or at the root if there is none. -/
theorem deepestOrRoot_innermostAt {bias : Bias} (hbias : bias ≠ .strict) (n : t.Node) (pos : Nat) :
    DeepestOrRoot (fun m => m.admits pos bias = true) (n.innermostAt pos bias) := by
  by_cases hadmits : (n.innermostAt pos bias).admits pos bias = true
  · -- All nodes that admit the position lie above the one found.
    refine .inl ⟨hadmits, fun m hm hne => ?_⟩
    have henc := encloses_innermostAt n hm
    exact ⟨henc, depth_lt_of_encloses henc hne⟩
  · have hroot : n.innermostAt pos bias = t.root := by
      rcases innermostAt_cases n pos bias with hroot | hkeeps
      · exact hroot
      · -- Only a strict search ends at a node that it would not have entered.
        cases bias with
        | left => exact absurd hkeeps hadmits
        | strict => exact absurd rfl hbias
        | right => exact absurd hkeeps hadmits
    -- The root would admit the position if any node did.
    refine .inr ⟨hroot, fun m hm => hadmits ?_⟩
    rw [hroot]
    exact admits_of_encloses m.root_encloses hm

end Tree.Node

/-- To the left of a position the search for the innermost node finds the only deepest node of the
whole tree that starts before the position and ends at it or behind it; to the right it finds the
only deepest one that starts at the position or before it and ends behind it. If no node does, it
gives the root. The node from which the search starts is of no consequence. -/
theorem innermostAt_deepest {t : Tree} (n : t.Node) (pos : Nat) :
    (∀ r : t.Node, n.innermostAt pos .left = r ↔
        Tree.Node.DeepestOrRoot (fun m => m.start < pos ∧ pos ≤ m.stop) r) ∧
      (∀ r : t.Node, n.innermostAt pos .right = r ↔
        Tree.Node.DeepestOrRoot (fun m => m.start ≤ pos ∧ pos < m.stop) r) ∧
      ∀ n' : t.Node, n'.innermostAt pos .left = n.innermostAt pos .left ∧
        n'.innermostAt pos .right = n.innermostAt pos .right := by
  have hleft : ∀ n : t.Node, Tree.Node.DeepestOrRoot (fun m => m.start < pos ∧ pos ≤ m.stop)
      (n.innermostAt pos .left) := by
    intro n
    simpa [Tree.Node.admits] using
      Tree.Node.deepestOrRoot_innermostAt (show Bias.left ≠ .strict by decide) n pos
  have hright : ∀ n : t.Node, Tree.Node.DeepestOrRoot (fun m => m.start ≤ pos ∧ pos < m.stop)
      (n.innermostAt pos .right) := by
    intro n
    simpa [Tree.Node.admits] using
      Tree.Node.deepestOrRoot_innermostAt (show Bias.right ≠ .strict by decide) n pos
  -- The deepest node is unique, so it is what the search gives.
  refine ⟨fun r => ⟨?_, fun hr => (hleft n).eq hr⟩, fun r => ⟨?_, fun hr => (hright n).eq hr⟩,
    fun n' => ⟨(hleft n').eq (hleft n), (hright n').eq (hright n)⟩⟩
  · rintro rfl
    exact hleft n
  · rintro rfl
    exact hright n

namespace Tree.Node

variable {t : Tree}

/-! ### The search around a position -/

/-- The search around a position enters the nodes that the position lies inside. -/
theorem admits_strict_iff {n : t.Node} {pos : Nat} :
    n.admits pos .strict = true ↔ n.start < pos ∧ pos < n.stop := by
  simp [admits]

/-- The search around a position ends inside every node that the position lies inside. -/
theorem encloses_innermostAt_strict (n : t.Node) {m : t.Node} {pos : Nat} (hstart : m.start < pos)
    (hstop : pos < m.stop) : m.encloses (n.innermostAt pos .strict) :=
  encloses_innermostAt n (admits_strict_iff.mpr ⟨hstart, hstop⟩)

/-- Climbing ends at the first node on the way to the root that keeps `pos`. -/
theorem climb_eq_find? (n : t.Node) (pos : Nat) (bias : Bias) :
    n.climb pos bias = (n.ancestors.find? (·.keeps pos bias)).getD t.root := by
  fun_induction climb n pos bias with
  | case1 n hkeeps =>
    rw [ancestors]
    simp [hkeeps]
  | case2 n hkeeps hp =>
    simpa [ancestors_of_parent?_eq_none hp, hkeeps] using parent?_eq_none_iff.mp hp
  | case3 n hkeeps p hp ih => simp [ih, ancestors_of_parent? hp, hkeeps]

/-- The nearest node from `n` upward that `pos` lies in, its edges included, or the root if it lies
in none. -/
def nearestTouching (n : t.Node) (pos : Nat) : t.Node :=
  (n.ancestors.find? fun a => a.start ≤ pos ∧ pos ≤ a.stop).getD t.root

/-- The search around a position climbs to the nearest node that the position touches. -/
theorem climb_strict (n : t.Node) (pos : Nat) : n.climb pos .strict = n.nearestTouching pos := by
  rw [climb_eq_find?]
  simp [nearestTouching, keeps]

/-- The search stays at the nearest node that the position touches, if it does not lie inside. -/
theorem innermostAt_strict_eq {n : t.Node} {pos : Nat}
    (h : ¬ ((n.nearestTouching pos).start < pos ∧ pos < (n.nearestTouching pos).stop)) :
    n.innermostAt pos .strict = n.nearestTouching pos := by
  unfold innermostAt
  rw [climb_strict]
  obtain ⟨henc, heq | hin⟩ := descend_spec (n.nearestTouching pos) pos .strict
  · exact heq
  · -- What is entered lies inside the node that the search starts from.
    exact absurd (admits_strict_iff.mp (admits_of_encloses henc hin)) h

/-- If the position lies inside the nearest node that it touches, then the search ends at the
deepest node of all that it lies inside. -/
theorem deepest_innermostAt_strict {n : t.Node} {pos : Nat}
    (h : (n.nearestTouching pos).start < pos ∧ pos < (n.nearestTouching pos).stop) :
    Deepest (fun m => m.start < pos ∧ pos < m.stop) (n.innermostAt pos .strict) where
  holds := by
    unfold innermostAt
    rw [climb_strict]
    rcases (descend_spec (n.nearestTouching pos) pos .strict).2 with heq | hin
    · rw [heq]
      exact h
    · exact admits_strict_iff.mp hin
  others := by
    intro m hm hne
    have henc := n.encloses_innermostAt_strict hm.1 hm.2
    exact ⟨henc, depth_lt_of_encloses henc hne⟩

/-! ### The lowest common ancestor -/

/-- The node is the lowest one that encloses both `l` and `r`. -/
structure LowestCommon (l r n : t.Node) : Prop where
  /-- It encloses the first. -/
  left : n.encloses l
  /-- It encloses the second. -/
  right : n.encloses r
  /-- Whatever encloses both encloses it. -/
  lowest : ∀ a : t.Node, a.encloses l → a.encloses r → a.encloses n

/-- Only the root encloses the root. -/
theorem eq_root_of_encloses {n : t.Node} (h : n.encloses t.root) : n = t.root :=
  encloses_antisymm h n.root_encloses

/-- A node around a position is also entered from either side. -/
theorem admits_of_admits_strict {n : t.Node} {pos : Nat} (h : n.admits pos .strict = true)
    (bias : Bias) : n.admits pos bias = true := by
  cases bias <;> simp only [admits, Bool.and_eq_true, decide_eq_true_eq] at h ⊢ <;> omega

/-- From the root, the search around a position ends at the lowest common ancestor of what the
searches to its left and to its right end at. -/
theorem lowestCommon_innermostAt (t : Tree) (pos : Nat) :
    LowestCommon (t.root.innermostAt pos .left) (t.root.innermostAt pos .right)
      (t.root.innermostAt pos .strict) := by
  have habove : ∀ bias,
      (t.root.innermostAt pos .strict).encloses (t.root.innermostAt pos bias) := by
    intro bias
    rcases innermostAt_root_cases t pos .strict with hroot | hin
    · rw [hroot]
      exact root_encloses _
    · exact encloses_innermostAt t.root (admits_of_admits_strict hin bias)
  refine ⟨habove .left, habove .right, fun a hleft hright => ?_⟩
  rcases innermostAt_root_cases t pos .left with hroot | hl
  · rw [hroot] at hleft
    rw [eq_root_of_encloses hleft]
    exact root_encloses _
  rcases innermostAt_root_cases t pos .right with hroot | hr
  · rw [hroot] at hright
    rw [eq_root_of_encloses hright]
    exact root_encloses _
  -- What reaches from one side of the position to the other lies around it.
  have hl := admits_of_encloses hleft hl
  have hr := admits_of_encloses hright hr
  simp only [admits, Bool.and_eq_true, decide_eq_true_eq] at hl hr
  exact t.root.encloses_innermostAt_strict hl.1 hr.2

end Tree.Node

/-- The search around a position climbs from its start to the nearest node that the position
touches, or to the root if there is none. It stays there if the position does not lie inside, and
otherwise finds the only deepest node of the whole tree that the position lies inside. From the
root, it finds the lowest common ancestor of what the searches to the left and to the right
find. -/
theorem innermostAt_strict_exact {t : Tree} (n : t.Node) (pos : Nat) :
    (∀ r : t.Node, n.innermostAt pos .strict = r ↔
        if (n.nearestTouching pos).start < pos ∧ pos < (n.nearestTouching pos).stop then
          Tree.Node.Deepest (fun m => m.start < pos ∧ pos < m.stop) r
        else r = n.nearestTouching pos) ∧
      Tree.Node.LowestCommon (t.root.innermostAt pos .left) (t.root.innermostAt pos .right)
        (t.root.innermostAt pos .strict) := by
  refine ⟨fun r => ?_, Tree.Node.lowestCommon_innermostAt t pos⟩
  split
  · rename_i hinside
    have hdeepest := Tree.Node.deepest_innermostAt_strict hinside
    constructor
    · rintro rfl
      exact hdeepest
    · intro hr
      exact Tree.Node.DeepestOrRoot.eq (.inl hdeepest) (.inl hr)
  · rename_i hinside
    rw [Tree.Node.innermostAt_strict_eq hinside]
    exact eq_comm

end TreeAssist
