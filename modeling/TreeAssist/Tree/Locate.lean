import TreeAssist.Tree.Walk

/-!
# Finding nodes by position

Starts and ends of the children of a node both ascend, so the children on either side of a position
are found by bisection.

The module introduces:

* `bisect` — how many of the first natural numbers satisfy a condition that fails from some number
  on.
* `Node.childStartingBefore`, `Node.childEndingAfter` — the children next to a position.
* `Node.innermostAt` — the innermost node at a position, from any node to start at; a `Bias` says
  whether nodes that only touch the position count.
* `Node.unfinishedBefore` — the innermost construct in front of a position that the parser could not
  close.
-/

namespace TreeAssist

/-- The least number between `lo` and `hi` at which `p` fails, and `hi` if there is none, for a
condition `p` that never holds again once it has failed. -/
def bisect (p : Nat → Bool) (lo hi : Nat) : Nat :=
  if lo < hi then
    if p ((lo + hi) / 2) then bisect p ((lo + hi) / 2 + 1) hi else bisect p lo ((lo + hi) / 2)
  else lo
termination_by hi - lo

/-- A bisection stays in its bounds, and ends where the condition fails or at the upper bound. -/
theorem bisect_bounds (p : Nat → Bool) {lo hi : Nat} (h : lo ≤ hi) :
    lo ≤ bisect p lo hi ∧ bisect p lo hi ≤ hi ∧
      (bisect p lo hi = hi ∨ p (bisect p lo hi) = false) := by
  fun_induction bisect p lo hi with
  | case1 lo hi hlt hp ih =>
    obtain ⟨h1, h2, h3⟩ := ih (by omega)
    exact ⟨by omega, h2, h3⟩
  | case2 lo hi hlt hp ih =>
    obtain ⟨h1, h2, h3⟩ := ih (by omega)
    refine ⟨h1, by omega, ?_⟩
    -- The search ended at the middle, where the condition fails, or failed before it.
    rcases h3 with h3 | h3
    · rw [h3]
      exact Or.inr (by simpa using hp)
    · exact Or.inr h3
  | case3 lo hi hlt => exact ⟨Nat.le_refl _, h, Or.inl (by omega)⟩

/-- Which nodes that touch a position are entered from it. -/
inductive Bias where
  /-- Those that end at the position. -/
  | left
  /-- None: only nodes around the position are entered. -/
  | strict
  /-- Those that start at the position. -/
  | right
deriving DecidableEq

namespace Tree.Node

variable {t : Tree}

/-- How many children from the first on satisfy `p`, for a condition that never holds again once it
has failed. -/
def countChildren (n : t.Node) (p : t.Node → Bool) : Nat :=
  bisect (fun k => (n.child? k).any p) 0 n.childCount

/-- The last child that starts before `pos`. -/
def childStartingBefore (n : t.Node) (pos : Nat) : Option t.Node :=
  let k := n.countChildren (·.start < pos)
  if 0 < k then n.child? (k - 1) else none

/-- The first child that ends after `pos`. -/
def childEndingAfter (n : t.Node) (pos : Nat) : Option t.Node :=
  n.child? (n.countChildren (·.stop ≤ pos))

/-- The child after `pos` ends after `pos`, and inside the node. -/
theorem stop_of_childEndingAfter {n c : t.Node} {pos : Nat} (h : n.childEndingAfter pos = some c) :
    pos < c.stop ∧ c.stop ≤ n.stop := by
  obtain ⟨hk, hc⟩ := child?_eq_some_iff.mp h
  refine ⟨?_, hc ▸ (n.child_within _ hk).2⟩
  obtain ⟨-, -, hend | hfail⟩ :=
    bisect_bounds (fun k => (n.child? k).any (·.stop ≤ pos)) (Nat.zero_le n.childCount)
  · -- There is a child, so not all of them end at or before `pos`.
    exact absurd hend (Nat.ne_of_lt hk)
  · unfold childEndingAfter countChildren at h
    rw [h] at hfail
    simpa using hfail

/-- The node need not be left to find `pos`. -/
def keeps (n : t.Node) (pos : Nat) : Bias → Bool
  | .left => n.start < pos && pos ≤ n.stop
  | .strict => n.start ≤ pos && pos ≤ n.stop
  | .right => n.start ≤ pos && pos < n.stop

/-- The node is entered from its parent to find `pos`. -/
def admits (n : t.Node) (pos : Nat) : Bias → Bool
  | .left => n.start < pos && pos ≤ n.stop
  | .strict => n.start < pos && pos < n.stop
  | .right => n.start ≤ pos && pos < n.stop

/-- The child that is entered to find `pos`. -/
def childAt? (n : t.Node) (pos : Nat) (bias : Bias) : Option t.Node :=
  let k := match bias with
    | .left => n.countChildren (·.stop < pos)
    | .strict | .right => n.countChildren (·.stop ≤ pos)
  (n.child? k).filter (·.admits pos bias)

/-- What is entered is a child, and so comes later. -/
theorem id_lt_of_childAt? {n c : t.Node} {pos : Nat} {bias : Bias}
    (h : n.childAt? pos bias = some c) : n.id < c.id :=
  id_lt_of_child? (Option.filter_eq_some_iff.mp h).1

/-- Leaves nodes that do not keep `pos`, up to the root. -/
def climb (n : t.Node) (pos : Nat) (bias : Bias) : t.Node :=
  if n.keeps pos bias then n
  else match _h : n.parent? with
    | none => n
    | some p => p.climb pos bias
termination_by n.id
decreasing_by exact id_lt_of_parent? _h

theorem climb_eq (n : t.Node) (pos : Nat) (bias : Bias) :
    n.climb pos bias =
      if n.keeps pos bias then n else n.parent?.elim n (·.climb pos bias) := by
  rw [climb]
  split
  · rfl
  · split <;> simp [*]

/-- Enters children as long as one admits `pos`. -/
def descend (n : t.Node) (pos : Nat) (bias : Bias) : t.Node :=
  match _h : n.childAt? pos bias with
  | none => n
  | some c => c.descend pos bias
termination_by t.nodes.size - n.id
decreasing_by
  have := id_lt_of_childAt? _h
  have := n.isLt
  omega

theorem descend_eq (n : t.Node) (pos : Nat) (bias : Bias) :
    n.descend pos bias = (n.childAt? pos bias).elim n (·.descend pos bias) := by
  rw [descend]
  split <;> simp [*]

/-- The innermost node at `pos`: climbs until a node keeps `pos`, then enters children as far as
`bias` allows. A position outside the tree leads to the root. -/
def innermostAt (n : t.Node) (pos : Nat) (bias : Bias) : t.Node :=
  (n.climb pos bias).descend pos bias

/-- An empty node of a recovered error, which marks where something is missing. -/
def isGap (n : t.Node) : Bool :=
  n.isError && n.isEmpty

/-- Follows the right edge of `scan`. A node whose last child is a gap is unfinished; the search
goes on in front of that gap, and otherwise in the last child. It ends at a node without children
or with a last child that stops short of it. The innermost unfinished node seen is returned,
`found` being the one seen so far. -/
def unfinishedFrom (found scan : t.Node) : t.Node :=
  match _h : scan.lastChild? with
  | none => found
  | some last =>
    if last.stop = scan.stop then
      if last.isGap then
        match _h' : last.prev? with
        | none => scan
        | some prev => unfinishedFrom scan prev
      else unfinishedFrom found last
    else found
termination_by t.nodes.size - scan.id
decreasing_by
  all_goals
    obtain ⟨hk, rfl⟩ := lastChild?_eq_some_iff.mp _h
    have := scan.isLt
  · rw [prev?_child] at _h'
    split at _h'
    · have := id_lt_of_child? _h'
      omega
    · cases _h'
  · have := scan.id_lt_child _ hk
    omega

theorem unfinishedFrom_eq (found scan : t.Node) :
    unfinishedFrom found scan = scan.lastChild?.elim found fun last =>
      if last.stop = scan.stop then
        if last.isGap then last.prev?.elim scan (unfinishedFrom scan) else unfinishedFrom found last
      else found := by
  rw [unfinishedFrom]
  split
  · simp [*]
  · rename_i last h
    rw [h, Option.elim_some]
    split
    · split
      · split <;> simp [*]
      · rfl
    · rfl

/-- The innermost unfinished node on the right edge of the child before `pos`, or `n` itself. -/
def unfinishedBefore (n : t.Node) (pos : Nat) : t.Node :=
  match n.childStartingBefore pos with
  | none => n
  | some c => unfinishedFrom n c

end Tree.Node

end TreeAssist
