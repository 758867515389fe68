import TreeAssist.Tree.Links
import TreeAssist.Tree.Locate

/-!
# Matching trees

Different tables can hold the same ordered tree of names and spans: records may be numbered in
another order, children listed elsewhere in the child table, kinds listed twice. A `Tree.Matching`
pairs the nodes of two such trees, and all that it asks for are the names, the spans and the
children of paired nodes.

From these the rest follows. A matching respects the links upward and sideways although records
store them on their own (`Matching.parent?_apply`, `Matching.prev?_apply`), it is one-to-one
(`Matching.injective`), and it commutes with every search by position
(`Matching.innermostAt_apply`, `Matching.unfinishedBefore_apply`). A rule that reads nodes by links,
names and spans therefore cannot tell paired nodes apart, while one that reads the index of a record
can.
-/

namespace TreeAssist.Tree

variable {t t' : Tree}

/-- A pairing of the nodes of `t` with nodes of `t'` that say the same about a text. -/
structure Matching (t t' : Tree) where
  /-- The node of `t'` for a node of `t`. -/
  toFun : t.Node → t'.Node
  /-- The root is paired with the root. -/
  root_apply : toFun t.root = t'.root
  /-- Nodes are paired by name. -/
  name_apply : ∀ n, (toFun n).name = n.name
  /-- Nodes are paired by span. -/
  span_apply : ∀ n, (toFun n).span = n.span
  /-- Children are paired in order. -/
  children_apply : ∀ n, (toFun n).children = n.children.map toFun

instance : CoeFun (Matching t t') fun _ => t.Node → t'.Node := ⟨Matching.toFun⟩

namespace Matching

open Node

attribute [simp] root_apply name_apply span_apply children_apply

variable (e : Matching t t') (n : t.Node)

/-! ### Kind and span -/

@[simp]
theorem start_apply : (e n).start = n.start := by
  simp [start]

@[simp]
theorem stop_apply : (e n).stop = n.stop := by
  simp [stop]

@[simp]
theorem isEmpty_apply : (e n).isEmpty = n.isEmpty := by
  simp [isEmpty]

@[simp]
theorem isError_apply : (e n).isError = n.isError := by
  rw [isError_eq, isError_eq, e.name_apply]

@[simp]
theorem isGap_apply : (e n).isGap = n.isGap := by
  simp [isGap]

/-! ### Links -/

@[simp]
theorem childCount_apply : (e n).childCount = n.childCount := by
  rw [← length_children, ← length_children, e.children_apply, List.length_map]

@[simp]
theorem child?_apply (k : Nat) : (e n).child? k = (n.child? k).map e := by
  rw [← children_getElem?, ← children_getElem?, e.children_apply, List.getElem?_map]

/-- A child goes to the child in the same place. -/
theorem child_apply {k : Nat} (h : k < n.childCount) :
    e (n.child k h) = (e n).child k (by simpa using h) := by
  have hchild := e.child?_apply n k
  rw [child?_eq_some_iff.mpr ⟨h, rfl⟩] at hchild
  obtain ⟨_, hk⟩ := child?_eq_some_iff.mp hchild
  exact hk.symm

@[simp]
theorem firstChild?_apply : (e n).firstChild? = n.firstChild?.map e :=
  e.child?_apply n 0

@[simp]
theorem lastChild?_apply : (e n).lastChild? = n.lastChild?.map e := by
  simp [lastChild?_eq_child?]

@[simp]
theorem parent?_apply : (e n).parent? = n.parent?.map e := by
  -- Records store the parent on their own, but the node that lists them as children is no other.
  cases hp : n.parent? with
  | none =>
    obtain rfl := parent?_eq_none_iff.mp hp
    rw [e.root_apply]
    exact parent?_eq_none_iff.mpr rfl
  | some p =>
    obtain ⟨k, hk, rfl⟩ := exists_eq_child hp
    rw [e.child_apply, parent?_child]
    rfl

/-- Nodes with a parent have their place among its children in common; the root may store any. -/
theorem index_apply {p : t.Node} (h : n.parent? = some p) : (e n).index = n.index := by
  obtain ⟨k, hk, rfl⟩ := exists_eq_child h
  rw [e.child_apply, index_child, index_child]

@[simp]
theorem prev?_apply : (e n).prev? = n.prev?.map e := by
  unfold prev?
  rw [e.parent?_apply]
  cases hp : n.parent? with
  | none => rfl
  | some p =>
    simp only [Option.map_some, Option.bind_some, e.index_apply n hp, child?_apply]
    split <;> rfl

theorem injective : Function.Injective e := by
  intro n
  -- Where the parents agree, so do the places among the children.
  induction n using downward with
  | step n ih =>
    intro m h
    have hparents : n.parent?.map e = m.parent?.map e := by
      rw [← e.parent?_apply, ← e.parent?_apply, h]
    cases hn : n.parent? with
    | none =>
      rw [hn] at hparents
      have hm : m.parent? = none := by simpa using hparents.symm
      rw [parent?_eq_none_iff.mp hn, parent?_eq_none_iff.mp hm]
    | some p =>
      rw [hn] at hparents
      obtain ⟨q, hm, hpq⟩ := Option.map_eq_some_iff.mp hparents.symm
      obtain rfl : p = q := ih p hn hpq.symm
      have hindex : n.index = m.index := by rw [← e.index_apply n hn, h, e.index_apply m hm]
      have hchild := child?_index hn
      rw [hindex, child?_index hm] at hchild
      exact (Option.some.inj hchild).symm

@[simp]
theorem apply_eq_iff {n m : t.Node} : e n = e m ↔ n = m :=
  e.injective.eq_iff

/-! ### Walks -/

@[simp]
theorem ancestors_apply : (e n).ancestors = n.ancestors.map e := by
  induction n using downward with
  | step n ih =>
    cases hp : n.parent? with
    | none =>
      have hp' : (e n).parent? = none := by rw [e.parent?_apply, hp, Option.map_none]
      rw [ancestors_of_parent?_eq_none hp, ancestors_of_parent?_eq_none hp', List.map_singleton]
    | some p =>
      have hp' : (e n).parent? = some (e p) := by rw [e.parent?_apply, hp, Option.map_some]
      rw [ancestors_of_parent? hp, ancestors_of_parent? hp', ih p hp, List.map_cons]

@[simp]
theorem encloses_apply (m : t.Node) : (e n).encloses (e m) = n.encloses m := by
  simp [encloses, List.contains_eq_mem]

/-! ### Searches by position -/

@[simp]
theorem countChildren_apply (p : t'.Node → Bool) :
    (e n).countChildren p = n.countChildren fun c => p (e c) := by
  unfold countChildren
  simp only [childCount_apply, child?_apply, Option.any_map]

@[simp]
theorem childStartingBefore_apply (pos : Nat) :
    (e n).childStartingBefore pos = (n.childStartingBefore pos).map e := by
  simp only [childStartingBefore, countChildren_apply, start_apply, child?_apply]
  split <;> rfl

@[simp]
theorem childEndingAfter_apply (pos : Nat) :
    (e n).childEndingAfter pos = (n.childEndingAfter pos).map e := by
  simp [childEndingAfter]

@[simp]
theorem keeps_apply (pos : Nat) (bias : Bias) : (e n).keeps pos bias = n.keeps pos bias := by
  cases bias <;> simp [keeps]

@[simp]
theorem admits_apply (pos : Nat) (bias : Bias) : (e n).admits pos bias = n.admits pos bias := by
  cases bias <;> simp [admits]

@[simp]
theorem childAt?_apply (pos : Nat) (bias : Bias) :
    (e n).childAt? pos bias = (n.childAt? pos bias).map e := by
  cases bias <;> simp [childAt?, Option.filter_map, Function.comp_def]

@[simp]
theorem climb_apply (pos : Nat) (bias : Bias) :
    (e n).climb pos bias = e (n.climb pos bias) := by
  fun_induction climb n pos bias with
  | case1 n hkeeps => rw [climb_eq, e.keeps_apply, if_pos hkeeps]
  | case2 n hkeeps hp =>
    rw [climb_eq, e.keeps_apply, if_neg hkeeps, e.parent?_apply, hp]
    rfl
  | case3 n hkeeps p hp ih =>
    rw [climb_eq, e.keeps_apply, if_neg hkeeps, e.parent?_apply, hp]
    exact ih

@[simp]
theorem descend_apply (pos : Nat) (bias : Bias) :
    (e n).descend pos bias = e (n.descend pos bias) := by
  fun_induction descend n pos bias with
  | case1 n hnone =>
    rw [descend_eq, e.childAt?_apply, hnone]
    rfl
  | case2 n c hc ih =>
    rw [descend_eq, e.childAt?_apply, hc]
    exact ih

@[simp]
theorem innermostAt_apply (pos : Nat) (bias : Bias) :
    (e n).innermostAt pos bias = e (n.innermostAt pos bias) := by
  simp [innermostAt]

@[simp]
theorem unfinishedFrom_apply (found scan : t.Node) :
    unfinishedFrom (e found) (e scan) = e (unfinishedFrom found scan) := by
  -- One step of the search looks at the last child and the one in front of it, which are paired.
  fun_induction unfinishedFrom found scan with
  | case1 found scan hnone =>
    rw [unfinishedFrom_eq, e.lastChild?_apply, hnone]
    rfl
  | case2 found scan last hlast hstop hgap hprev =>
    rw [unfinishedFrom_eq, e.lastChild?_apply, hlast]
    simp [hstop, hgap, hprev]
  | case3 found scan last hlast hstop hgap prev hprev ih =>
    rw [unfinishedFrom_eq, e.lastChild?_apply, hlast]
    simp [hstop, hgap, hprev, ih]
  | case4 found scan last hlast hstop hgap ih =>
    rw [unfinishedFrom_eq, e.lastChild?_apply, hlast]
    simp [hstop, hgap, ih]
  | case5 found scan last hlast hstop =>
    rw [unfinishedFrom_eq, e.lastChild?_apply, hlast]
    simp [hstop]

@[simp]
theorem unfinishedBefore_apply (pos : Nat) :
    (e n).unfinishedBefore pos = e (n.unfinishedBefore pos) := by
  unfold unfinishedBefore
  rw [e.childStartingBefore_apply]
  cases n.childStartingBefore pos with
  | none => rfl
  | some c => exact e.unfinishedFrom_apply n c

end Matching

end TreeAssist.Tree
