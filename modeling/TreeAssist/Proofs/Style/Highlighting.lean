import TreeAssist.Proofs.Tree.Order
import TreeAssist.Style.Highlight

/-!
# What a styled walk comes to

A `StyledWalk` keeps a stack of nodes and passes over everything below a node outside its window.
What it still has to give is known at every moment (`StyledWalk.remaining`): the stretches of all
nodes in or below what is waited for, without regard to the window's edges on the way. Passing a
node takes the stretch of that node from the front (`StyledWalk.remaining_of_pop?`), so the walk
gives what remains, and no more (`StyledWalk.toList_eq_remaining`).

Main statement: `highlight_exact`. The stretches of a tree in a window are those of its nodes in
document order, and they start in that order.
-/

namespace TreeAssist

variable {t : Tree}

/-- The stretch of a node in a window: the part of the node that lies in the window, with the tag of
the node. There is none for a node that covers nothing, lies outside the window or has no tag. -/
def StyleTable.spanIn (table : StyleTable) (window : Span) (n : t.Node) : Option StyledSpan :=
  if n.start < n.stop ∧ n.start < window.stop ∧ window.start < n.stop then
    (table.tagOf n).map fun tag => ⟨⟨max n.start window.start, min n.stop window.stop⟩, tag⟩
  else none

/-- What the stretch of a node in a window is, and which nodes have one. -/
theorem StyleTable.spanIn_eq_some_iff {table : StyleTable} {window : Span} {n : t.Node}
    {s : StyledSpan} :
    table.spanIn window n = some s ↔
      (n.start < n.stop ∧ n.start < window.stop ∧ window.start < n.stop) ∧
        table.tagOf n = some s.tag ∧
        s.span = ⟨max n.start window.start, min n.stop window.stop⟩ := by
  unfold spanIn
  split
  · rename_i hin
    rw [Option.map_eq_some_iff]
    constructor
    · rintro ⟨tag, htag, rfl⟩
      exact ⟨hin, htag, rfl⟩
    · rintro ⟨-, htag, hspan⟩
      exact ⟨s.tag, htag, by rw [← hspan]⟩
  · rename_i hout
    simp [hout]

/-- What lies in a node outside the window has no stretch there. -/
theorem StyleTable.spanIn_eq_none_of_encloses {table : StyleTable} {window : Span} {n m : t.Node}
    (h : n.encloses m) (hn : ¬ (n.start < window.stop ∧ window.start < n.stop)) :
    table.spanIn window m = none := by
  have hspan := Tree.Node.encloses_span h
  refine if_neg ?_
  omega

namespace StyledWalk

/-- In a walk the stretch of a node in the window is the one that is cut out for it. -/
theorem ownSpan_eq_spanIn (w : StyledWalk t) {n : t.Node}
    (hn : n.start < w.window.stop ∧ w.window.start < n.stop) :
    w.ownSpan n = w.table.spanIn w.window n := by
  have hle := n.start_le_stop
  unfold ownSpan StyleTable.spanIn Tree.Node.isEmpty
  by_cases hempty : n.start = n.stop
  · rw [if_pos (by simpa using hempty), if_neg (by omega)]
  · rw [if_neg (by simpa using hempty), if_pos (by omega)]

/-- Leaving out nodes outside the window leaves out no stretch. -/
theorem filterMap_flatMap_touchingOf (table : StyleTable) (window : Span) (l : List t.Node) :
    ((touchingOf window l).flatMap Tree.Node.preorder).filterMap (table.spanIn window) =
      (l.flatMap Tree.Node.preorder).filterMap (table.spanIn window) := by
  unfold touchingOf
  induction l with
  | nil => rfl
  | cons n l ih =>
    rw [List.filter_cons, List.flatMap_cons, List.filterMap_append]
    split
    · rw [List.flatMap_cons, List.filterMap_append, ih]
    · rename_i hout
      -- Nothing below `n` reaches into the window either.
      have hnil : n.preorder.filterMap (table.spanIn window) = [] := by
        rw [List.filterMap_eq_nil_iff]
        intro m hm
        refine StyleTable.spanIn_eq_none_of_encloses (Tree.Node.mem_preorder_iff.mp hm) ?_
        simpa using hout
      rw [ih, hnil, List.nil_append]

/-- The stretches that are still to come: those of all nodes in or below what is waited for. -/
def remaining (w : StyledWalk t) : List StyledSpan :=
  (w.pending.flatMap Tree.Node.preorder).filterMap (w.table.spanIn w.window)

/-- A walk that waits for nothing has nothing to give. -/
theorem remaining_of_pop?_eq_none {w : StyledWalk t} (h : w.pop? = none) : w.remaining = [] := by
  unfold pop? at h
  split at h
  · rename_i hpending
    rw [remaining, hpending]
    rfl
  · cases h

/-- Passing a node takes its stretch, if it has one, from the front of what remains. -/
theorem remaining_of_pop? {w w' : StyledWalk t} {n : t.Node} (h : w.pop? = some (n, w')) :
    w.remaining = (w'.ownSpan n).toList ++ w'.remaining := by
  obtain ⟨rest, hpending, htable, hwindow, hpending'⟩ := pop?_spec h
  have hn := w.touching n (hpending ▸ List.mem_cons_self)
  rw [← hwindow] at hn
  rw [ownSpan_eq_spanIn w' hn]
  unfold remaining
  -- What lies below the node begins with the node and goes on below its children, and of these the
  -- ones outside the window make no difference.
  rw [htable, hwindow, hpending, hpending', List.flatMap_cons, n.preorder_eq]
  simp only [List.flatMap_append, List.filterMap_append, filterMap_flatMap_touchingOf]
  rw [List.filterMap_cons]
  cases w.table.spanIn w.window n <;> rfl

/-- The next stretch is the first of those that remain. -/
theorem remaining_of_next? {w w' : StyledWalk t} {s : StyledSpan} (h : w.next? = some (s, w')) :
    w.remaining = s :: w'.remaining := by
  fun_induction next? w with
  | case1 w hpop => cases h
  | case2 w n v hpop u hown =>
    cases h
    rw [remaining_of_pop? hpop, hown]
    rfl
  | case3 w n v hpop hown ih =>
    rw [remaining_of_pop? hpop, hown, ih h]
    rfl

/-- There is a next stretch as long as any remains. -/
theorem remaining_of_next?_eq_none {w : StyledWalk t} (h : w.next? = none) : w.remaining = [] := by
  fun_induction next? w with
  | case1 w hpop => exact remaining_of_pop?_eq_none hpop
  | case2 w n v hpop u hown => cases h
  | case3 w n v hpop hown ih =>
    rw [remaining_of_pop? hpop, hown, ih h]
    rfl

/-- A walk gives what remains. -/
theorem toList_eq_remaining (w : StyledWalk t) : w.toList = w.remaining := by
  fun_induction toList w with
  | case1 w hnext => exact (remaining_of_next?_eq_none hnext).symm
  | case2 w s w' hnext ih => rw [remaining_of_next? hnext, ih]

end StyledWalk

namespace StyleTable

/-- The stretches of a tree in a window are those of its nodes, in document order. -/
theorem highlight_eq (table : StyleTable) (t : Tree) (lower upper : Bound) :
    table.highlight t lower upper =
      t.root.preorder.filterMap (table.spanIn (.ofBounds t.extent lower upper)) := by
  have hall :=
    StyledWalk.filterMap_flatMap_touchingOf table (.ofBounds t.extent lower upper) [t.root]
  rw [List.flatMap_singleton] at hall
  rw [highlight, StyledWalk.toList_eq_remaining]
  exact hall

/-- A stretch of a tree in a window is that of one of its nodes. -/
theorem mem_highlight_iff {table : StyleTable} {lower upper : Bound} {s : StyledSpan} :
    s ∈ table.highlight t lower upper ↔
      ∃ n : t.Node, table.spanIn (.ofBounds t.extent lower upper) n = some s := by
  rw [highlight_eq, List.mem_filterMap]
  constructor
  · rintro ⟨n, -, hn⟩
    exact ⟨n, hn⟩
  · rintro ⟨n, hn⟩
    exact ⟨n, Tree.Node.mem_preorder_iff.mpr n.root_encloses, hn⟩

/-- The stretches of a tree in a window start in the order in which they come. -/
theorem pairwise_start_highlight (table : StyleTable) (t : Tree) (lower upper : Bound) :
    (table.highlight t lower upper).Pairwise fun s s' => s.span.start ≤ s'.span.start := by
  rw [highlight_eq, List.pairwise_filterMap]
  refine t.root.pairwise_start_preorder.imp ?_
  intro n n' hle s hs s' hs'
  obtain ⟨-, -, hspan⟩ := spanIn_eq_some_iff.mp hs
  obtain ⟨-, -, hspan'⟩ := spanIn_eq_some_iff.mp hs'
  -- The window cuts both starts at the same place.
  rw [hspan, hspan']
  simp only
  omega

end StyleTable

/-- The stretches between two bounds come from a walk through the whole tree in document order: of
the nodes that cover something, reach into the window and have a tag, each gives the part of it that
lies in the window, with its tag. They start in the order in which they come. -/
theorem highlight_exact (table : StyleTable) (t : Tree) (lower upper : Bound) :
    table.highlight t lower upper =
        (t.root.preorder.filter fun n =>
            n.start < n.stop ∧ n.start < upper.last t.extent ∧ n.stop > lower.first).filterMap
          (fun n => (table.tagOf n).map fun tag =>
            { span := ⟨max n.start lower.first, min n.stop (upper.last t.extent)⟩, tag }) ∧
      ((table.highlight t lower upper).map (·.span.start)).Pairwise (· ≤ ·) := by
  refine ⟨?_, ?_⟩
  · rw [table.highlight_eq, List.filterMap_filter]
    simp only [decide_eq_true_eq]
    rfl
  · rw [List.pairwise_map]
    exact table.pairwise_start_highlight t lower upper

end TreeAssist
