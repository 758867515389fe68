import TreeAssist.Proofs.Style.Painting

/-!
# Stretches and the edges of the window

A node has a stretch if it starts before the end of the window and ends behind its start, and the
stretch is cut at both edges. Each edge is looked at by itself, so whether something of the node is
left depends on whether there is something between the edges
(`StyleTable.start_lt_stop_iff_of_spanIn`). A node strictly around an empty window passes at both
edges, and its stretch covers nothing (`StyleTable.spanIn_of_empty`).

Main statement: `highlight_in_window`. Stretches lie in the window, and all of them cover something
exactly if the window does or no tagged node lies strictly around it.
-/

namespace TreeAssist

variable {t : Tree}

namespace StyleTable

variable {table : StyleTable} {window : Span} {lower upper : Bound} {n : t.Node} {s : StyledSpan}

/-- In a window that is not inverted, a stretch lies between the edges. -/
theorem bounds_of_spanIn (hwindow : window.start ≤ window.stop)
    (h : table.spanIn window n = some s) :
    window.start ≤ s.span.start ∧ s.span.start ≤ s.span.stop ∧ s.span.stop ≤ window.stop := by
  obtain ⟨⟨hcovers, hstart, hstop⟩, -, hspan⟩ := spanIn_eq_some_iff.mp h
  rw [hspan]
  simp only
  omega

/-- A stretch covers something exactly if the window does: the node covers something, and reaches
over both edges. -/
theorem start_lt_stop_iff_of_spanIn (h : table.spanIn window n = some s) :
    s.span.start < s.span.stop ↔ window.start < window.stop := by
  obtain ⟨⟨hcovers, hstart, hstop⟩, -, hspan⟩ := spanIn_eq_some_iff.mp h
  rw [hspan]
  simp only
  omega

/-- In a window that covers nothing, the nodes strictly around it have a stretch if they have a tag,
and it covers nothing. -/
theorem spanIn_of_empty (hwindow : window.start = window.stop) (n : t.Node) :
    table.spanIn window n =
      if n.start < window.start ∧ window.start < n.stop then
        (table.tagOf n).map fun tag => ⟨⟨window.start, window.start⟩, tag⟩
      else none := by
  unfold spanIn
  rw [← hwindow]
  by_cases haround : n.start < window.start ∧ window.start < n.stop
  · -- Both edges cut the node at the same place.
    rw [if_pos haround, if_pos (by omega), Nat.max_eq_right (by omega), Nat.min_eq_right (by omega)]
  · rw [if_neg haround, if_neg (by omega)]

/-- Between two bounds that meet, there is an empty stretch for each tagged node strictly around
their place, and no other. -/
theorem highlight_of_empty (h : lower.first = upper.last t.extent) :
    table.highlight t lower upper =
      (t.root.preorder.filter fun n => n.start < lower.first ∧ lower.first < n.stop).filterMap
        fun n => (table.tagOf n).map fun tag => ⟨⟨lower.first, lower.first⟩, tag⟩ := by
  rw [highlight_eq, List.filterMap_filter]
  congr 1
  funext n
  rw [spanIn_of_empty (show (Span.ofBounds t.extent lower upper).start = _ from h)]
  simp only [decide_eq_true_eq]
  rfl

/-- Between two bounds that meet, there is no stretch just if no tagged node lies strictly around
their place. -/
theorem highlight_eq_nil_iff (h : lower.first = upper.last t.extent) :
    table.highlight t lower upper = [] ↔
      ∀ n : t.Node, n.start < lower.first → lower.first < n.stop → table.tagOf n = none := by
  rw [highlight_of_empty h, List.filterMap_eq_nil_iff]
  constructor
  · intro hnone n hstart hstop
    have hmem : n ∈ t.root.preorder := Tree.Node.mem_preorder_iff.mpr n.root_encloses
    have hn := hnone n (List.mem_filter.mpr ⟨hmem, decide_eq_true ⟨hstart, hstop⟩⟩)
    exact Option.map_eq_none_iff.mp hn
  · intro hnone n hn
    obtain ⟨hstart, hstop⟩ := of_decide_eq_true (List.mem_filter.mp hn).2
    rw [hnone n hstart hstop]
    rfl

end StyleTable

/-- Let the window between two bounds not be inverted. Then every stretch lies in the window, and
covers something exactly if the window does. In a window that covers nothing there is one empty
stretch for each tagged node strictly around it. So all stretches lie in the window and cover
something just if the window covers something or no tagged node lies strictly around it. -/
theorem highlight_in_window (table : StyleTable) (t : Tree) {lower upper : Bound}
    (h : lower.first ≤ upper.last t.extent) :
    (∀ s ∈ table.highlight t lower upper,
        lower.first ≤ s.span.start ∧ s.span.start ≤ s.span.stop ∧
          s.span.stop ≤ upper.last t.extent ∧
          (s.span.start < s.span.stop ↔ lower.first < upper.last t.extent)) ∧
      (lower.first = upper.last t.extent →
        table.highlight t lower upper =
          (t.root.preorder.filter fun n => n.start < lower.first ∧ lower.first < n.stop).filterMap
            fun n => (table.tagOf n).map fun tag => ⟨⟨lower.first, lower.first⟩, tag⟩) ∧
      ((∀ s ∈ table.highlight t lower upper,
          lower.first ≤ s.span.start ∧ s.span.start < s.span.stop ∧
            s.span.stop ≤ upper.last t.extent) ↔
        lower.first < upper.last t.extent ∨
          ∀ n : t.Node, n.start < lower.first → lower.first < n.stop → table.tagOf n = none) := by
  have hbounds : ∀ s ∈ table.highlight t lower upper,
      lower.first ≤ s.span.start ∧ s.span.start ≤ s.span.stop ∧
        s.span.stop ≤ upper.last t.extent ∧
        (s.span.start < s.span.stop ↔ lower.first < upper.last t.extent) := by
    intro s hs
    obtain ⟨n, hn⟩ := StyleTable.mem_highlight_iff.mp hs
    obtain ⟨hstart, hle, hstop⟩ := StyleTable.bounds_of_spanIn h hn
    exact ⟨hstart, hle, hstop, StyleTable.start_lt_stop_iff_of_spanIn hn⟩
  refine ⟨hbounds, StyleTable.highlight_of_empty, ?_⟩
  constructor
  · intro hall
    rcases Nat.lt_or_eq_of_le h with hlt | heq
    · exact .inl hlt
    · -- A stretch in this window would have to cover something and nothing.
      refine .inr ((StyleTable.highlight_eq_nil_iff heq).mp ?_)
      rw [List.eq_nil_iff_forall_not_mem]
      intro s hs
      have hlt := (hbounds s hs).2.2.2.mp (hall s hs).2.1
      omega
  · intro hor s hs
    obtain ⟨hstart, -, hstop, hcovers⟩ := hbounds s hs
    refine ⟨hstart, hcovers.mpr ?_, hstop⟩
    rcases hor with hlt | hnone
    · exact hlt
    · -- Without a tagged node around it, a window that covers nothing has no stretch.
      refine Nat.lt_of_le_of_ne h fun heq => ?_
      rw [(StyleTable.highlight_eq_nil_iff heq).mpr hnone] at hs
      cases hs

/-- In a window over the middle of a format string, the stretches of the string and of the name in
it lie in the window. -/
theorem highlight_in_window_formatString :
    (Bound.included 2).first ≤ (Bound.excluded 5).last formatString.extent ∧
      ∀ s ∈ formatStringStyles.highlight formatString (.included 2) (.excluded 5),
        2 ≤ s.span.start ∧ s.span.start < s.span.stop ∧ s.span.stop ≤ 5 := by
  have hle : (Bound.included 2).first ≤ (Bound.excluded 5).last formatString.extent := by decide
  exact ⟨hle, (highlight_in_window formatStringStyles formatString hle).2.2.mpr (.inl (by decide))⟩

/-- A window without an offset in it, inside a format string, shows an empty stretch of the string.
-/
theorem highlight_empty_formatString :
    formatStringStyles.highlight formatString (.included 2) (.excluded 2) =
      [⟨⟨2, 2⟩, ⟨.string, {}⟩⟩] := by
  rw [StyleTable.highlight_eq]
  decide +kernel

end TreeAssist
