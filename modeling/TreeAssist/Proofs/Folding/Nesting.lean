import TreeAssist.Proofs.Folding.Selection

/-!
# How stretches lie to each other

Under either standard rule a stretch begins and ends at offsets that cut through no child of its
node (`FoldRule.IsStandard.uncut_of_apply`): at the end of the first child, at the start or the end
of another child, or at the end of the node. What lies inside a child therefore stays on one side of
each of the two offsets, and with it every stretch of a node further in.

Main statement: `apply_nested`. A stretch is a nonempty part of its node, and two stretches are
disjoint or one of them contains the other.
-/

namespace TreeAssist

namespace Span

/-- The spans have no offset in common. -/
def Disjoint (x y : Span) : Prop :=
  x.stop ≤ y.start ∨ y.stop ≤ x.start

/-- All of `y` lies in `x`. -/
def Contains (x y : Span) : Prop :=
  x.start ≤ y.start ∧ y.stop ≤ x.stop

/-- The spans are disjoint, or one of them contains the other. -/
def Nested (x y : Span) : Prop :=
  x.Disjoint y ∨ x.Contains y ∨ y.Contains x

theorem Nested.symm {x y : Span} (h : x.Nested y) : y.Nested x := by
  rcases h with hdis | hxy | hyx
  · exact .inl hdis.symm
  · exact .inr (.inr hxy)
  · exact .inr (.inl hyx)

end Span

variable {t : Tree}

namespace Tree.Node

/-- The offset `e` cuts through no child of the node: each of them ends at it or before it, or
starts at it or behind it. -/
def Uncut (n : t.Node) (e : Nat) : Prop :=
  ∀ c : t.Node, c.parent? = some n → c.stop ≤ e ∨ e ≤ c.start

/-- The end of the node cuts through no child. -/
theorem uncut_stop (n : t.Node) : n.Uncut n.stop :=
  fun _ hc => .inl (span_of_parent? hc).2

/-- The start of a child cuts through no child. -/
theorem uncut_start_of_parent? {n c : t.Node} (h : c.parent? = some n) : n.Uncut c.start := by
  intro c' hc'
  by_cases heq : c' = c
  · exact .inr (Nat.le_of_eq (by rw [heq]))
  · rcases sibling_disjoint hc' h heq with hbefore | hbehind
    · exact .inl hbefore
    · exact .inr (Nat.le_trans c.start_le_stop hbehind)

/-- The end of a child cuts through no child. -/
theorem uncut_stop_of_parent? {n c : t.Node} (h : c.parent? = some n) : n.Uncut c.stop := by
  intro c' hc'
  by_cases heq : c' = c
  · exact .inl (Nat.le_of_eq (by rw [heq]))
  · rcases sibling_disjoint hc' h heq with hbefore | hbehind
    · exact .inl (Nat.le_trans hbefore c.start_le_stop)
    · exact .inr hbehind

/-- What lies properly inside a node stays on one side of an offset that cuts through none of the
node's children. -/
theorem Uncut.encloses {n m : t.Node} {e : Nat} (h : n.Uncut e) (henc : n.encloses m)
    (hne : m ≠ n) : m.stop ≤ e ∨ e ≤ m.start := by
  obtain rfl | ⟨c, hc, hcm⟩ := encloses_iff_child.mp henc
  · exact absurd rfl hne
  · have hspan := encloses_span hcm
    rcases h c hc with hbefore | hbehind
    · exact .inl (Nat.le_trans hspan.2 hbefore)
    · exact .inr (Nat.le_trans hbehind hspan.1)

end Tree.Node

namespace FoldRule.IsStandard

open Tree.Node

variable {r s : FoldRule} {m n : t.Node} {x y : Span}

/-- A stretch begins where the first child ends, and its end cuts through no child. -/
theorem firstChild?_of_apply (hr : r.IsStandard) (h : r.apply n = some x) :
    ∃ first : t.Node, n.firstChild? = some first ∧ x.start = first.stop ∧ n.Uncut x.stop := by
  rcases hr with rfl | rfl
  · obtain ⟨first, hfirst, h⟩ := Option.bind_eq_some_iff.mp h
    obtain ⟨last, hlast, h⟩ := Option.bind_eq_some_iff.mp h
    split at h
    · cases h
    · cases h
      refine ⟨first, hfirst, rfl, ?_⟩
      -- Without a closing delimiter the stretch reaches to the end of the node.
      by_cases herror : last.isError = true
      · rw [if_pos herror]
        exact n.uncut_stop
      · rw [if_neg herror]
        exact uncut_start_of_parent? (parent?_of_lastChild? hlast)
  · obtain ⟨first, hfirst, h⟩ := Option.bind_eq_some_iff.mp h
    obtain ⟨last, hlast, h⟩ := Option.bind_eq_some_iff.mp h
    have hmem := List.mem_reverse.mp (List.mem_of_find?_eq_some hlast)
    split at h
    · cases h
    · cases h
      exact ⟨first, hfirst, rfl, uncut_stop_of_parent? (mem_children_iff.mp hmem)⟩

/-- Neither end of a stretch cuts through a child of its node. -/
theorem uncut_of_apply (hr : r.IsStandard) (h : r.apply n = some x) :
    n.Uncut x.start ∧ n.Uncut x.stop := by
  obtain ⟨first, hfirst, hstart, hstop⟩ := hr.firstChild?_of_apply h
  obtain ⟨hk, rfl⟩ := child?_eq_some_iff.mp hfirst
  refine ⟨?_, hstop⟩
  rw [hstart]
  exact uncut_stop_of_parent? (n.parent?_child 0 hk)

/-- All stretches of a node begin at the same offset. -/
theorem start_eq_of_apply (hr : r.IsStandard) (hs : s.IsStandard) (hx : r.apply n = some x)
    (hy : s.apply n = some y) : x.start = y.start := by
  obtain ⟨first, hfirst, hstart, -⟩ := hr.firstChild?_of_apply hx
  obtain ⟨first', hfirst', hstart', -⟩ := hs.firstChild?_of_apply hy
  rw [hfirst] at hfirst'
  cases hfirst'
  rw [hstart, hstart']

/-- A stretch of a node and one of a node further in are nested. -/
theorem nested_of_encloses (hr : r.IsStandard) (hs : s.IsStandard) (hx : r.apply m = some x)
    (hy : s.apply n = some y) (henc : m.encloses n) : x.Nested y := by
  have hbounds := hs.apply_bounds hy
  by_cases hne : n = m
  · -- Two stretches of one node begin together, so the one that ends first lies in the other.
    subst hne
    have hstart := hr.start_eq_of_apply hs hx hy
    rcases Nat.le_total y.stop x.stop with hle | hle
    · exact .inr (.inl ⟨Nat.le_of_eq hstart, hle⟩)
    · exact .inr (.inr ⟨Nat.le_of_eq hstart.symm, hle⟩)
  · obtain ⟨hstart, hstop⟩ := hr.uncut_of_apply hx
    rcases hstart.encloses henc hne with hbefore | hfrom
    · -- The inner node stands in front of the stretch.
      exact .inl (.inr (by omega))
    · rcases hstop.encloses henc hne with hwithin | hbehind
      · exact .inr (.inl ⟨by omega, by omega⟩)
      · exact .inl (.inl (by omega))

end FoldRule.IsStandard

/-- Take any two nodes of a tree and a stretch of each, under the same standard rule or under
different ones. Each stretch is a nonempty part of its node, and the two are disjoint or one
contains the other. -/
theorem apply_nested {r s : FoldRule} (hr : r.IsStandard) (hs : s.IsStandard) {m n : t.Node}
    {x y : Span} (hx : r.apply m = some x) (hy : s.apply n = some y) :
    (m.start ≤ x.start ∧ x.start < x.stop ∧ x.stop ≤ m.stop) ∧
      (n.start ≤ y.start ∧ y.start < y.stop ∧ y.stop ≤ n.stop) ∧ x.Nested y := by
  have hxm := hr.apply_bounds hx
  have hyn := hs.apply_bounds hy
  refine ⟨hxm, hyn, ?_⟩
  rcases Tree.Node.encloses_or_disjoint m n with hmn | hnm | hapart
  · exact hr.nested_of_encloses hs hx hy hmn
  · exact (hs.nested_of_encloses hr hy hx hnm).symm
  · -- Nodes that are apart have stretches that are apart.
    rcases hapart with hbefore | hbehind
    · exact .inl (.inl (by omega))
    · exact .inl (.inr (by omega))

/-- The stretch of a list between its brackets contains what comes after the first bracket of a list
inside it. -/
theorem apply_nested_nestedLists :
    FoldRule.between.apply (⟨1, by decide⟩ : nestedLists.Node) = some ⟨1, 10⟩ ∧
      FoldRule.afterFirst.apply (⟨3, by decide⟩ : nestedLists.Node) = some ⟨2, 10⟩ ∧
      Span.Nested ⟨1, 10⟩ ⟨2, 10⟩ := by
  have houter : FoldRule.between.apply (⟨1, by decide⟩ : nestedLists.Node) = some ⟨1, 10⟩ := by
    decide +kernel
  have hinner : FoldRule.afterFirst.apply (⟨3, by decide⟩ : nestedLists.Node) = some ⟨2, 10⟩ := by
    decide +kernel
  exact ⟨houter, hinner, (apply_nested (.inl rfl) (.inr rfl) houter hinner).2.2⟩

end TreeAssist
