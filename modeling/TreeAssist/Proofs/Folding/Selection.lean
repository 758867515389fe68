import TreeAssist.Folding
import TreeAssist.Proofs.Tree.Order
import TreeAssist.Proofs.Tree.Search

/-!
# What is folded on a line

Under the two standard rules the stretch of a node lies inside the node
(`FoldRule.IsStandard.apply_bounds`). So a node whose stretch starts on a line and ends behind it
reaches across the end of the line, and all such nodes are found on the way from the innermost node
there to the root (`FoldTable.mem_chain_of_foldsOn`). On this way the starts of nodes descend, and
the search takes the last stretch of a node that starts on the line, or else the first stretch at
all (`FoldTable.search_none`).

Main statement: `stretchOnLine_exact`. Of all nodes of the tree with a stretch that starts on the
line, the outermost one that starts there itself is folded, and if there is none, the innermost one.
-/

namespace TreeAssist

variable {t : Tree}

/-! ### The bounds of a stretch -/

namespace FoldRule

/-- The rule is `between` or `afterFirst`. -/
def IsStandard (r : FoldRule) : Prop :=
  r = between ∨ r = afterFirst

/-- What lies between the first and the last child lies inside the node. -/
theorem stretchBetween_bounds {n : t.Node} {r : Span} (h : stretchBetween n = some r) :
    n.start ≤ r.start ∧ r.start < r.stop ∧ r.stop ≤ n.stop := by
  unfold stretchBetween at h
  obtain ⟨first, hfirst, h⟩ := Option.bind_eq_some_iff.mp h
  obtain ⟨last, hlast, h⟩ := Option.bind_eq_some_iff.mp h
  obtain ⟨hk, rfl⟩ := Tree.Node.child?_eq_some_iff.mp hfirst
  have hfirst := Tree.Node.span_of_parent? (n.parent?_child 0 hk)
  have hlast := Tree.Node.span_of_parent? (Tree.Node.parent?_of_lastChild? hlast)
  have := (n.child 0 hk).start_le_stop
  have := last.start_le_stop
  split at h
  · cases h
  · cases h
    split <;> simp only <;> omega

/-- What comes after the first child lies inside the node. -/
theorem stretchAfterFirst_bounds {n : t.Node} {r : Span} (h : stretchAfterFirst n = some r) :
    n.start ≤ r.start ∧ r.start < r.stop ∧ r.stop ≤ n.stop := by
  unfold stretchAfterFirst at h
  obtain ⟨first, hfirst, h⟩ := Option.bind_eq_some_iff.mp h
  obtain ⟨last, hlast, h⟩ := Option.bind_eq_some_iff.mp h
  obtain ⟨hk, rfl⟩ := Tree.Node.child?_eq_some_iff.mp hfirst
  have hfirst := Tree.Node.span_of_parent? (n.parent?_child 0 hk)
  have hmem := List.mem_reverse.mp (List.mem_of_find?_eq_some hlast)
  have hlast := Tree.Node.span_of_parent? (Tree.Node.mem_children_iff.mp hmem)
  have := (n.child 0 hk).start_le_stop
  split at h
  · cases h
  · rename_i hnot
    cases h
    simp only
    omega

/-- A stretch under a standard rule lies inside its node, and there is something in it. -/
theorem IsStandard.apply_bounds {rule : FoldRule} (hrule : rule.IsStandard) {n : t.Node} {r : Span}
    (h : rule.apply n = some r) : n.start ≤ r.start ∧ r.start < r.stop ∧ r.stop ≤ n.stop := by
  rcases hrule with rfl | rfl
  · exact stretchBetween_bounds h
  · exact stretchAfterFirst_bounds h

end FoldRule

namespace FoldTable

variable {table : FoldTable} {line : Span}

/-- A stretch lies inside its node. -/
theorem stretchOf_bounds (hrules : table.All FoldRule.IsStandard) {n : t.Node} {r : Span}
    (h : table.stretchOf n = some r) : n.start ≤ r.start ∧ r.start < r.stop ∧ r.stop ≤ n.stop := by
  obtain ⟨rule, hget, h⟩ := Option.bind_eq_some_iff.mp h
  exact (hrules _ _ hget).apply_bounds h

/-! ### The search outward -/

/-- The stretch of a node, if it starts on the line and ends after it. -/
def stretchFrom (table : FoldTable) (line : Span) (n : t.Node) : Option Span :=
  (table.stretchOf n).filter (startsOn line)

theorem stretchFrom_eq_some_iff {n : t.Node} {r : Span} :
    table.stretchFrom line n = some r ↔
      table.stretchOf n = some r ∧
        line.start ≤ r.start ∧ r.start ≤ line.stop ∧ line.stop < r.stop := by
  simp [stretchFrom, startsOn, Option.filter_eq_some_iff, and_assoc]

/-- Nodes that do not reach across the end of the line have no stretch that starts on it. -/
theorem stretchFrom_eq_none (hrules : table.All FoldRule.IsStandard) {n : t.Node}
    (h : n.stop ≤ line.stop ∨ line.stop < n.start) : table.stretchFrom line n = none := by
  rw [Option.eq_none_iff_forall_ne_some]
  intro r hr
  obtain ⟨hstretch, hline⟩ := stretchFrom_eq_some_iff.mp hr
  have := stretchOf_bounds hrules hstretch
  omega

/-- The stretch of a node, if both start on the line and the stretch ends after it. -/
def stretchWithin (table : FoldTable) (line : Span) (n : t.Node) : Option Span :=
  if line.start ≤ n.start then table.stretchFrom line n else none

theorem stretchWithin_eq_some_iff {n : t.Node} {r : Span} :
    table.stretchWithin line n = some r ↔
      line.start ≤ n.start ∧ table.stretchFrom line n = some r := by
  simp [stretchWithin]

/-- The starts of the nodes descend from one to the next, as they do on the way to the root. -/
def Descending (l : List t.Node) : Prop :=
  l.Pairwise fun n m => m.start ≤ n.start

/-- No stretch comes from nodes behind one that starts before the line. -/
theorem filterMap_stretchWithin_of_lt {n : t.Node} {outer : List t.Node}
    (hl : Descending (n :: outer)) (hn : n.start < line.start) :
    (n :: outer).filterMap (table.stretchWithin line) = [] := by
  rw [List.filterMap_eq_nil_iff]
  intro m hm
  refine if_neg ?_
  rcases List.mem_cons.mp hm with rfl | hm
  · omega
  · have := (List.pairwise_cons.mp hl).1 m hm
    omega

/-- A stretch found on the way stays in place until another one follows. -/
theorem getLast?_cons_or (r : Span) (l : List Span) (found : Option Span) :
    (r :: l).getLast?.or found = l.getLast?.or (some r) := by
  rw [List.getLast?_cons]
  cases l.getLast? <;> rfl

/-- With a stretch at hand, the search takes the last one of a node that starts on the line. -/
theorem search_some (hrules : table.All FoldRule.IsStandard) {l : List t.Node} (hl : Descending l)
    (found : Span) :
    table.search line (some found) l =
      (l.filterMap (table.stretchWithin line)).getLast?.or (some found) := by
  induction l generalizing found with
  | nil => rfl
  | cons n outer ih =>
    have houter : Descending outer := (List.pairwise_cons.mp hl).2
    rw [search]
    split
    · -- The node does not reach across the end of the line.
      rename_i hskip
      have hnone : table.stretchWithin line n = none := by
        simp [stretchWithin, stretchFrom_eq_none hrules hskip]
      rw [ih houter, List.filterMap_cons_none hnone]
    split
    · -- The node and all further out start before the line.
      rename_i hbreak
      rw [filterMap_stretchWithin_of_lt hl hbreak.2]
      rfl
    · rename_i hgo
      have hwithin : table.stretchWithin line n = table.stretchFrom line n :=
        if_pos (Nat.le_of_not_lt fun hlt => hgo ⟨rfl, hlt⟩)
      change table.search line ((table.stretchFrom line n).or (some found)) outer = _
      cases hn : table.stretchFrom line n with
      | none =>
        rw [hn] at hwithin
        rw [Option.none_or, ih houter, List.filterMap_cons_none hwithin]
      | some r =>
        rw [hn] at hwithin
        rw [Option.some_or, ih houter, List.filterMap_cons_some hwithin, getLast?_cons_or]

/-- The search takes the last stretch of a node that starts on the line, or else the first one of
any node. -/
theorem search_none (hrules : table.All FoldRule.IsStandard) {l : List t.Node}
    (hl : Descending l) :
    table.search line none l =
      (l.filterMap (table.stretchWithin line)).getLast?.or
        (l.findSome? (table.stretchFrom line)) := by
  induction l with
  | nil => rfl
  | cons n outer ih =>
    have houter : Descending outer := (List.pairwise_cons.mp hl).2
    -- As long as nothing is found no node ends the search, and one that is passed over has no
    -- stretch on the line, so that a step always goes on with what the node gives.
    have hstep : table.search line none (n :: outer) =
        table.search line (table.stretchFrom line n) outer := by
      rw [search]
      split
      · rename_i hskip
        rw [stretchFrom_eq_none hrules hskip]
      · rw [if_neg (by simp), Option.or_none]
        rfl
    rw [hstep]
    cases hn : table.stretchFrom line n with
    | none =>
      have hnone : table.stretchWithin line n = none := by simp [stretchWithin, hn]
      rw [ih houter, List.filterMap_cons_none hnone, List.findSome?_cons, hn]
    | some r =>
      rw [search_some hrules houter, List.findSome?_cons, hn]
      by_cases hstart : line.start ≤ n.start
      · have hwithin : table.stretchWithin line n = some r := by
          rw [stretchWithin, if_pos hstart, hn]
        rw [List.filterMap_cons_some hwithin, getLast?_cons_or]
      · -- No node further out starts on the line, so the first stretch stays.
        have hnone : table.stretchWithin line n = none := if_neg hstart
        have hnil : (n :: outer).filterMap (table.stretchWithin line) = [] :=
          filterMap_stretchWithin_of_lt hl (by omega)
        rw [hnil]
        rw [List.filterMap_cons_none hnone] at hnil
        rw [hnil]

/-! ### The nodes with a stretch on the line -/

/-- The stretch of the node starts on the line and ends after it, and the node starts before the end
of the line or is the root. -/
structure FoldsOn (table : FoldTable) (line : Span) (n : t.Node) : Prop where
  /-- The node has such a stretch. -/
  stretch : ∃ r, table.stretchOf n = some r ∧
    line.start ≤ r.start ∧ r.start ≤ line.stop ∧ line.stop < r.stop
  /-- The node is not reached only at the end of the line. -/
  before : n = t.root ∨ n.start < line.stop

/-- The nodes from the innermost one at the end of the line outward. -/
def chain (t : Tree) (line : Span) : List t.Node :=
  (t.root.innermostAt line.stop .strict).ancestors

theorem descending_chain (t : Tree) (line : Span) : Descending (chain t line) := by
  refine (Tree.Node.pairwise_ancestors _).imp ?_
  intro n m henc
  exact (Tree.Node.encloses_span henc).1

/-- All nodes with a stretch on the line are passed on the way outward. -/
theorem mem_chain_of_foldsOn (hrules : table.All FoldRule.IsStandard) {n : t.Node}
    (h : table.FoldsOn line n) : n ∈ chain t line := by
  rw [chain, ← Tree.Node.encloses_iff]
  rcases h.before with rfl | hstart
  · exact Tree.Node.root_encloses _
  · -- The stretch ends behind the line, and with it the node does.
    obtain ⟨r, hr, hline⟩ := h.stretch
    have := stretchOf_bounds hrules hr
    apply Tree.Node.encloses_innermostAt
    simp only [Tree.Node.admits, Bool.and_eq_true, decide_eq_true_eq]
    omega

/-- On the way outward a node has a stretch that starts on the line just if it folds there. -/
theorem isSome_stretchFrom_iff {n : t.Node} (h : n ∈ chain t line) :
    (table.stretchFrom line n).isSome ↔ table.FoldsOn line n := by
  rw [Option.isSome_iff_exists]
  simp only [stretchFrom_eq_some_iff]
  refine ⟨fun hr => ⟨hr, ?_⟩, fun hn => hn.stretch⟩
  have henc := Tree.Node.encloses_iff.mpr h
  -- The innermost node at the end of the line is the root or reaches across the end, and so do all
  -- nodes further out.
  rcases Tree.Node.innermostAt_root_cases t line.stop .strict with hroot | hadmits
  · rw [hroot] at henc
    exact .inl (Tree.Node.encloses_antisymm henc n.root_encloses)
  · have hn := Tree.Node.admits_of_encloses henc hadmits
    simp only [Tree.Node.admits, Bool.and_eq_true, decide_eq_true_eq] at hn
    exact .inr hn.1

/-- What is folded on a line is the last stretch on the way outward that comes from a node on the
line, or else the first stretch on this way. -/
theorem stretchOnLine_eq (hrules : table.All FoldRule.IsStandard) (t : Tree) (line : Span) :
    table.stretchOnLine t line =
      ((chain t line).filterMap (table.stretchWithin line)).getLast?.or
        ((chain t line).findSome? (table.stretchFrom line)) :=
  search_none hrules (descending_chain t line)

/-- Nothing is folded on a line just if no node folds there. -/
theorem stretchOnLine_eq_none_iff (hrules : table.All FoldRule.IsStandard) :
    table.stretchOnLine t line = none ↔ ∀ n : t.Node, ¬ table.FoldsOn line n := by
  rw [stretchOnLine_eq hrules, Option.or_eq_none_iff, List.getLast?_eq_none_iff,
    List.filterMap_eq_nil_iff, List.findSome?_eq_none_iff]
  constructor
  · rintro ⟨-, hnone⟩ n hn
    have hmem := mem_chain_of_foldsOn hrules hn
    have hsome := (isSome_stretchFrom_iff hmem).mpr hn
    rw [hnone n hmem] at hsome
    cases hsome
  · intro hnone
    have hall : ∀ n ∈ chain t line, table.stretchFrom line n = none := by
      intro n hn
      rw [← Option.not_isSome_iff_eq_none, isSome_stretchFrom_iff hn]
      exact hnone n
    refine ⟨?_, hall⟩
    intro n hn
    simp [stretchWithin, hall n hn]

/-- If a node that starts on the line folds there, the outermost such node is folded. -/
theorem exists_outermost (hrules : table.All FoldRule.IsStandard)
    (h : ∃ n : t.Node, table.FoldsOn line n ∧ line.start ≤ n.start) :
    ∃ n : t.Node, (table.FoldsOn line n ∧ line.start ≤ n.start) ∧
      (∀ m : t.Node, table.FoldsOn line m → line.start ≤ m.start → n.encloses m) ∧
      table.stretchOnLine t line = table.stretchOf n := by
  have hsome : ∀ m : t.Node, table.FoldsOn line m → line.start ≤ m.start →
      (table.stretchWithin line m).isSome := by
    intro m hm hstart
    rw [stretchWithin, if_pos hstart, isSome_stretchFrom_iff (mem_chain_of_foldsOn hrules hm)]
    exact hm
  -- There is a stretch of this kind, so there is a last one.
  obtain ⟨m, hm, hstart⟩ := h
  obtain ⟨r', hr'⟩ := Option.isSome_iff_exists.mp (hsome m hm hstart)
  have hmem : r' ∈ (chain t line).filterMap (table.stretchWithin line) :=
    List.mem_filterMap.mpr ⟨m, mem_chain_of_foldsOn hrules hm, hr'⟩
  obtain ⟨r, hlast⟩ := Option.isSome_iff_exists.mp
    (List.getLast?_isSome.mpr (List.ne_nil_of_mem hmem))
  obtain ⟨n, hn, hwithin, hothers⟩ :=
    exists_of_getLast? Tree.Node.encloses_refl (Tree.Node.pairwise_ancestors _) hlast
  obtain ⟨hnstart, hfrom⟩ := stretchWithin_eq_some_iff.mp hwithin
  refine ⟨n, ⟨(isSome_stretchFrom_iff hn).mp (Option.isSome_of_eq_some hfrom), hnstart⟩, ?_, ?_⟩
  · intro m hm hstart
    exact hothers m (mem_chain_of_foldsOn hrules hm) (hsome m hm hstart)
  · rw [stretchOnLine_eq hrules, hlast, (stretchFrom_eq_some_iff.mp hfrom).1]
    rfl

/-- If only nodes that start before the line fold there, the innermost of them is folded. -/
theorem exists_innermost (hrules : table.All FoldRule.IsStandard)
    (h : ∃ n : t.Node, table.FoldsOn line n)
    (hbefore : ∀ n : t.Node, table.FoldsOn line n → n.start < line.start) :
    ∃ n : t.Node, table.FoldsOn line n ∧
      (∀ m : t.Node, table.FoldsOn line m → m.encloses n) ∧
      table.stretchOnLine t line = table.stretchOf n := by
  -- No node on the way starts on the line, so the first stretch is taken.
  have hnil : (chain t line).filterMap (table.stretchWithin line) = [] := by
    rw [List.filterMap_eq_nil_iff]
    intro m hm
    rw [Option.eq_none_iff_forall_ne_some]
    intro r hr
    obtain ⟨hstart, hfrom⟩ := stretchWithin_eq_some_iff.mp hr
    have := hbefore m ((isSome_stretchFrom_iff hm).mp (Option.isSome_of_eq_some hfrom))
    omega
  have hsome : ((chain t line).findSome? (table.stretchFrom line)).isSome := by
    obtain ⟨m, hm⟩ := h
    have hmem := mem_chain_of_foldsOn hrules hm
    exact List.findSome?_isSome_iff.mpr ⟨m, hmem, (isSome_stretchFrom_iff hmem).mpr hm⟩
  obtain ⟨r, hfirst⟩ := Option.isSome_iff_exists.mp hsome
  obtain ⟨n, hn, hfrom, hothers⟩ :=
    exists_of_findSome? Tree.Node.encloses_refl (Tree.Node.pairwise_ancestors _) hfirst
  refine ⟨n, (isSome_stretchFrom_iff hn).mp (Option.isSome_of_eq_some hfrom), ?_, ?_⟩
  · intro m hm
    have hmem := mem_chain_of_foldsOn hrules hm
    exact hothers m hmem ((isSome_stretchFrom_iff hmem).mpr hm)
  · rw [stretchOnLine_eq hrules, hnil, hfirst, (stretchFrom_eq_some_iff.mp hfrom).1]
    rfl

end FoldTable

/-- Take a table of standard rules, and consider all nodes of a tree with a stretch that starts on
the line and ends after it, if they start before the end of the line or are the root. Nothing is
folded on the line just if there are none. If some of them start on the line, the outermost of these
is folded, and otherwise the innermost of all. -/
theorem stretchOnLine_exact (table : FoldTable) (hrules : table.All FoldRule.IsStandard) (t : Tree)
    (line : Span) :
    (table.stretchOnLine t line = none ↔ ∀ n : t.Node, ¬ table.FoldsOn line n) ∧
      ((∃ n : t.Node, table.FoldsOn line n ∧ line.start ≤ n.start) →
        ∃ n : t.Node, (table.FoldsOn line n ∧ line.start ≤ n.start) ∧
          (∀ m : t.Node, table.FoldsOn line m → line.start ≤ m.start → n.encloses m) ∧
          table.stretchOnLine t line = table.stretchOf n) ∧
      ((∃ n : t.Node, table.FoldsOn line n) →
        (¬ ∃ n : t.Node, table.FoldsOn line n ∧ line.start ≤ n.start) →
        ∃ n : t.Node, table.FoldsOn line n ∧
          (∀ m : t.Node, table.FoldsOn line m → m.encloses n) ∧
          table.stretchOnLine t line = table.stretchOf n) := by
  refine ⟨FoldTable.stretchOnLine_eq_none_iff hrules, FoldTable.exists_outermost hrules, ?_⟩
  intro h hnone
  refine FoldTable.exists_innermost hrules h ?_
  intro n hn
  exact Nat.lt_of_not_le fun hstart => hnone ⟨n, hn, hstart⟩

/-- The arena of `nestedLists`. -/
def nestedListsArena : Arena where
  kinds := #[.ofName "Script", .ofName "List", .ofName "[", .ofName "]"]
  nodes := #[{ kind := 0, span := ⟨0, 12⟩, parent := none, index := 0, children := ⟨5, 6⟩ },
    { kind := 1, span := ⟨0, 11⟩, parent := some 0, index := 0, children := ⟨2, 5⟩ },
    { kind := 2, span := ⟨0, 1⟩, parent := some 1, index := 0, children := ⟨0, 0⟩ },
    { kind := 1, span := ⟨1, 10⟩, parent := some 1, index := 1, children := ⟨0, 2⟩ },
    { kind := 2, span := ⟨1, 2⟩, parent := some 3, index := 0, children := ⟨0, 0⟩ },
    { kind := 3, span := ⟨9, 10⟩, parent := some 3, index := 1, children := ⟨0, 0⟩ },
    { kind := 3, span := ⟨10, 11⟩, parent := some 1, index := 2, children := ⟨0, 0⟩ }]
  childTable := #[4, 5, 2, 3, 6, 1]

/-- The tree of two lists, one inside the other, that are opened on one line. -/
def nestedLists : Tree where
  toArena := nestedListsArena
  wellFormed := Arena.check_eq_ok_iff.mp (show nestedListsArena.check = .ok () from rfl)

/-- Lists are folded between their brackets. -/
def listFolds : FoldTable :=
  .ofLines [("List", .between)]

/-- On the line that opens both lists the outer one is folded. If the line starts behind both
brackets, then only the stretch of the inner list starts on it; and further on none does. -/
theorem stretchOnLine_exact_nestedLists :
    listFolds.stretchOnLine nestedLists ⟨0, 3⟩ = some ⟨1, 10⟩ ∧
      listFolds.stretchOnLine nestedLists ⟨2, 3⟩ = some ⟨2, 9⟩ ∧
      listFolds.stretchOnLine nestedLists ⟨3, 3⟩ = none := by
  have hrules : listFolds.All FoldRule.IsStandard :=
    KindTable.all_ofLines (by simp [FoldRule.IsStandard])
  let outer : nestedLists.Node := ⟨1, by decide⟩
  let inner : nestedLists.Node := ⟨3, by decide⟩
  have hlists : ∀ n : nestedLists.Node, n = outer ∨ n = inner ∨ listFolds.stretchOf n = none := by
    decide +kernel
  have houter : listFolds.stretchOf outer = some ⟨1, 10⟩ := by decide +kernel
  have hinner : listFolds.stretchOf inner = some ⟨2, 9⟩ := by decide +kernel
  -- Only lists fold, each where its own stretch starts.
  have hfolds : ∀ {line : Span} {n : nestedLists.Node}, listFolds.FoldsOn line n →
      n = outer ∧ line.start ≤ 1 ∨ n = inner ∧ line.start ≤ 2 := by
    intro line n hn
    obtain ⟨r, hr, hstart, -⟩ := hn.stretch
    rcases hlists n with rfl | rfl | hnone
    · cases houter.symm.trans hr
      exact .inl ⟨rfl, hstart⟩
    · cases hinner.symm.trans hr
      exact .inr ⟨rfl, hstart⟩
    · rw [hnone] at hr
      cases hr
  refine ⟨?_, ?_, ?_⟩
  · obtain ⟨-, houtermost, -⟩ := stretchOnLine_exact listFolds hrules nestedLists ⟨0, 3⟩
    have hfold : listFolds.FoldsOn ⟨0, 3⟩ outer := ⟨⟨_, houter, by decide⟩, .inr (by decide)⟩
    obtain ⟨n, ⟨hn, -⟩, hall, heq⟩ := houtermost ⟨outer, hfold, by decide⟩
    rcases hfolds hn with ⟨rfl, -⟩ | ⟨rfl, -⟩
    · exact heq.trans houter
    · exact absurd (hall outer hfold (by decide)) (by decide +kernel)
  · obtain ⟨-, -, hinnermost⟩ := stretchOnLine_exact listFolds hrules nestedLists ⟨2, 3⟩
    have hfold : listFolds.FoldsOn ⟨2, 3⟩ inner := ⟨⟨_, hinner, by decide⟩, .inr (by decide)⟩
    have hbefore : ¬ ∃ n : nestedLists.Node, listFolds.FoldsOn ⟨2, 3⟩ n ∧ 2 ≤ n.start := by
      rintro ⟨n, hn, hstart⟩
      rcases hfolds hn with ⟨rfl, -⟩ | ⟨rfl, -⟩
      · exact absurd hstart (by decide)
      · exact absurd hstart (by decide)
    obtain ⟨n, hn, -, heq⟩ := hinnermost ⟨inner, hfold⟩ hbefore
    rcases hfolds hn with ⟨-, hle⟩ | ⟨rfl, -⟩
    · exact absurd hle (by decide)
    · exact heq.trans hinner
  · rw [(stretchOnLine_exact listFolds hrules nestedLists ⟨3, 3⟩).1]
    intro n hn
    rcases hfolds hn with ⟨-, hle⟩ | ⟨-, hle⟩
    · exact absurd hle (by decide)
    · exact absurd hle (by decide)

end TreeAssist
