import TreeAssist.Proofs.Tree.Innermost
import TreeAssist.Proofs.Tree.Safety

/-!
# Constructs that are not closed yet

A node that ends in a gap is unfinished. The search for such a node goes down, each time to the last
child or, if that is a gap, to the child in front of it (`Node.onward?`). As every step leads to a
child (`Node.parent?_of_onward?`), the nodes on the way lie inside one another
(`Node.pairwise_trail`), and what is found is the deepest unfinished one among them
(`Node.unfinishedBefore_cases`).

A search that starts from the innermost node around a position passes only nodes in front of the
position (`Node.stop_le_of_mem_trailBefore`). A search from elsewhere may begin in a child around
the position. As it looks at the position only to choose that child, it then follows the right edge
of the child past the position (`Node.unfinishedBefore_of_lt_stop`).

Main statements: `unfinishedBefore_exact`, for the search from the innermost node around a position,
and `unfinishedBefore_stop_le_iff`, for the search from any node. In the tree `openList` a search in
front of a position ends at a node behind it (`unfinishedBefore_openList`).
-/

namespace TreeAssist

namespace Tree.Node

variable {t : Tree}

/-- A gap at the end of the node marks that the parser could not close it. -/
def Unfinished (n : t.Node) : Prop :=
  ∃ g : t.Node, n.lastChild? = some g ∧ g.isGap = true ∧ g.stop = n.stop

/-- Whether a node is unfinished is read off its last child. -/
theorem unfinished_iff {n last : t.Node} (h : n.lastChild? = some last) :
    n.Unfinished ↔ last.isGap = true ∧ last.stop = n.stop := by
  simp [Unfinished, h]

/-- A node without children is not unfinished. -/
theorem not_unfinished_of_lastChild? {n : t.Node} (h : n.lastChild? = none) : ¬ n.Unfinished := by
  simp [Unfinished, h]

instance (n : t.Node) : Decidable n.Unfinished :=
  decidable_of_iff (∃ g ∈ n.lastChild?, g.isGap = true ∧ g.stop = n.stop) Iff.rfl

/-! ### The way of the search -/

/-- The child in which the search for an unfinished node goes on from `n`: the last child, if it
reaches to the end of `n`, or the one in front of it, if it is a gap. -/
def onward? (n : t.Node) : Option t.Node :=
  n.lastChild?.bind fun last =>
    if last.stop = n.stop then if last.isGap then last.prev? else some last else none

/-- The search goes on in a child. -/
theorem parent?_of_onward? {n m : t.Node} (h : n.onward? = some m) : m.parent? = some n := by
  obtain ⟨last, hlast, hm⟩ := Option.bind_eq_some_iff.mp h
  split at hm
  · split at hm
    · rw [parent?_of_prev? hm, parent?_of_lastChild? hlast]
    · cases hm
      exact parent?_of_lastChild? hlast
  · cases hm

/-- The nodes that the search for an unfinished node comes to from `n` on. -/
def trail (n : t.Node) : List t.Node :=
  n :: match _h : n.onward? with
    | none => []
    | some m => m.trail
termination_by t.nodes.size - n.id
decreasing_by
  have := id_lt_of_parent? (parent?_of_onward? _h)
  have := n.isLt
  omega

theorem trail_eq (n : t.Node) : n.trail = n :: n.onward?.elim [] trail := by
  rw [trail]
  split
  · rename_i h
    rw [h, Option.elim_none]
  · rename_i m h
    rw [h, Option.elim_some]

/-- A node that the search comes to is the first one, or is come to from the child in which the
search goes on. -/
theorem mem_trail_iff {n m : t.Node} :
    m ∈ n.trail ↔ m = n ∨ ∃ c, n.onward? = some c ∧ m ∈ c.trail := by
  rw [trail_eq, List.mem_cons]
  cases n.onward? with
  | none => simp
  | some c => simp

/-- The search does not leave the node from which it starts. -/
theorem encloses_of_mem_trail {n m : t.Node} (h : m ∈ n.trail) : n.encloses m := by
  induction n using upward with
  | step n ih =>
    obtain rfl | ⟨c, hc, hm⟩ := mem_trail_iff.mp h
    · exact m.encloses_refl
    · have hparent := parent?_of_onward? hc
      exact encloses_trans (encloses_of_parent? hparent) (ih c hparent hm)

/-- The nodes that the search comes to lie inside one another. -/
theorem pairwise_trail (n : t.Node) : n.trail.Pairwise fun m m' => m.encloses m' := by
  induction n using upward with
  | step n ih =>
    rw [trail_eq]
    cases hc : n.onward? with
    | none => simp
    | some c =>
      have hparent := parent?_of_onward? hc
      rw [Option.elim_some, List.pairwise_cons]
      refine ⟨fun m hm => ?_, ih c hparent⟩
      exact encloses_trans (encloses_of_parent? hparent) (encloses_of_mem_trail hm)

/-- The search gives the last unfinished node that it comes to. -/
theorem unfinishedFrom_eq_getLast? (found scan : t.Node) :
    unfinishedFrom found scan = (scan.trail.filter (·.Unfinished)).getLast?.getD found := by
  -- The induction follows the rounds of the search, with what was found before as the default.
  fun_induction unfinishedFrom found scan with
  | case1 found scan hnone =>
    simp [trail_eq, onward?, hnone, not_unfinished_of_lastChild? hnone]
  | case2 found scan last hlast hstop hgap hprev =>
    simp [trail_eq, onward?, hlast, hstop, hgap, hprev, unfinished_iff hlast]
  | case3 found scan last hlast hstop hgap prev hprev ih =>
    -- `scan` itself is unfinished, and is what has been found when the search goes on.
    rw [ih, trail_eq scan]
    simp [onward?, hlast, hstop, hgap, hprev, unfinished_iff hlast, List.getLast?_cons]
  | case4 found scan last hlast hstop hgap ih =>
    rw [ih, trail_eq scan]
    simp [onward?, hlast, hstop, hgap, unfinished_iff hlast]
  | case5 found scan last hlast hstop =>
    simp [trail_eq, onward?, hlast, hstop, unfinished_iff hlast]

/-! ### In front of a position -/

/-- The nodes that the search for an unfinished node in front of `pos` comes to. -/
def trailBefore (n : t.Node) (pos : Nat) : List t.Node :=
  (n.childStartingBefore pos).elim [] trail

theorem mem_trailBefore_iff {n m : t.Node} {pos : Nat} :
    m ∈ n.trailBefore pos ↔ ∃ c, n.childStartingBefore pos = some c ∧ m ∈ c.trail := by
  unfold trailBefore
  cases n.childStartingBefore pos with
  | none => simp
  | some c => simp

/-- The search gives the last unfinished node in front of the position that it comes to, and stays
where it is if there is none. -/
theorem unfinishedBefore_eq_getLast? (n : t.Node) (pos : Nat) :
    n.unfinishedBefore pos = ((n.trailBefore pos).filter (·.Unfinished)).getLast?.getD n := by
  unfold unfinishedBefore trailBefore
  cases n.childStartingBefore pos with
  | none => rfl
  | some c => exact unfinishedFrom_eq_getLast? n c

theorem pairwise_trailBefore (n : t.Node) (pos : Nat) :
    (n.trailBefore pos).Pairwise fun m m' => m.encloses m' := by
  unfold trailBefore
  cases n.childStartingBefore pos with
  | none => exact List.Pairwise.nil
  | some c => exact c.pairwise_trail

/-- What lies inside a child of a node is not the node. -/
theorem ne_of_encloses_child {n c m : t.Node} (hparent : c.parent? = some n) (h : c.encloses m) :
    m ≠ n := by
  rintro rfl
  exact absurd (id_le_of_encloses h) (Nat.not_le.mpr (id_lt_of_parent? hparent))

/-- The search comes only to nodes properly inside the one it starts from. -/
theorem encloses_of_mem_trailBefore {n m : t.Node} {pos : Nat} (h : m ∈ n.trailBefore pos) :
    n.encloses m ∧ m ≠ n := by
  obtain ⟨c, hc, hm⟩ := mem_trailBefore_iff.mp h
  have hparent := (childStartingBefore_eq_some_iff.mp hc).1
  have henc := encloses_of_mem_trail hm
  exact ⟨encloses_trans (encloses_of_parent? hparent) henc, ne_of_encloses_child hparent henc⟩

/-- The search stays where it is if it comes to no unfinished node, and gives the deepest one
otherwise. -/
theorem unfinishedBefore_cases (n : t.Node) (pos : Nat) :
    (∀ m ∈ n.trailBefore pos, ¬ m.Unfinished) ∧ n.unfinishedBefore pos = n ∨
      Deepest (fun m => m ∈ n.trailBefore pos ∧ m.Unfinished) (n.unfinishedBefore pos) := by
  rw [unfinishedBefore_eq_getLast?]
  cases hlast : ((n.trailBefore pos).filter (·.Unfinished)).getLast? with
  | none =>
    rw [List.getLast?_eq_none_iff, List.filter_eq_nil_iff] at hlast
    exact .inl ⟨by simpa using hlast, rfl⟩
  | some r =>
    -- Each node on the way encloses the later ones, so the last one is the deepest.
    rw [← List.filterMap_eq_filter] at hlast
    obtain ⟨r', hr', hguard, hlater⟩ :=
      exists_of_getLast? encloses_refl (n.pairwise_trailBefore pos) hlast
    obtain ⟨rfl, hr⟩ := Option.guard_eq_some_iff.mp hguard
    refine .inr ⟨⟨hr', by simpa using hr⟩, ?_⟩
    rintro m ⟨hm, hunfinished⟩ hne
    have henc := hlater m hm (by simpa using hunfinished)
    exact ⟨henc, depth_lt_of_encloses henc hne⟩

/-- The child in front of a position, seen from the innermost node around it, ends at or before the
position. -/
theorem stop_le_of_childStartingBefore {c : t.Node} {pos : Nat}
    (h : (t.root.innermostAt pos .strict).childStartingBefore pos = some c) : c.stop ≤ pos := by
  obtain ⟨hparent, hstart, -⟩ := childStartingBefore_eq_some_iff.mp h
  by_contra hstop
  -- A child around `pos` would have been entered.
  have henc := t.root.encloses_innermostAt_strict hstart (Nat.not_le.mp hstop)
  have hle := id_le_of_encloses henc
  have hlt := id_lt_of_parent? hparent
  omega

/-- From the innermost node around a position, the search comes only to nodes that end at or before
the position. -/
theorem stop_le_of_mem_trailBefore {m : t.Node} {pos : Nat}
    (h : m ∈ (t.root.innermostAt pos .strict).trailBefore pos) : m.stop ≤ pos := by
  obtain ⟨c, hc, hm⟩ := mem_trailBefore_iff.mp h
  calc m.stop
    _ ≤ c.stop := (encloses_span (encloses_of_mem_trail hm)).2
    _ ≤ pos := stop_le_of_childStartingBefore hc

/-- The search for an unfinished construct from the innermost node around `pos` stays there, or
finds one in a child of that node that ends at or before `pos`. -/
theorem unfinishedBefore_innermostAt (t : Tree) (pos : Nat) :
    (t.root.innermostAt pos .strict).unfinishedBefore pos = t.root.innermostAt pos .strict ∨
      ∃ c : t.Node, c.parent? = some (t.root.innermostAt pos .strict) ∧ c.stop ≤ pos ∧
        c.encloses ((t.root.innermostAt pos .strict).unfinishedBefore pos) ∧
        ((t.root.innermostAt pos .strict).unfinishedBefore pos).Unfinished := by
  rcases unfinishedBefore_cases (t.root.innermostAt pos .strict) pos with ⟨-, heq⟩ | hdeepest
  · exact .inl heq
  · obtain ⟨hmem, hunfinished⟩ := hdeepest.holds
    obtain ⟨c, hc, hm⟩ := mem_trailBefore_iff.mp hmem
    exact .inr ⟨c, (childStartingBefore_eq_some_iff.mp hc).1, stop_le_of_childStartingBefore hc,
      encloses_of_mem_trail hm, hunfinished⟩

end Tree.Node

/-- The search for an unfinished construct in front of a position, from the innermost node around
it, stays there or ends properly inside, at a node in front of the position whose last child is a
gap at its end. All nodes on the way lie properly inside and in front of the position; if none of
them is unfinished then the search stays where it is, and otherwise it finds the only deepest one.
It is over after at most as many rounds as there are nodes. -/
theorem unfinishedBefore_exact (t : Tree) (pos : Nat) :
    let start := t.root.innermostAt pos .strict
    let found := start.unfinishedBefore pos
    (found = start ∨ (start.encloses found ∧ found ≠ start) ∧ found.stop ≤ pos ∧
        ∃ g : t.Node, found.lastChild? = some g ∧ g.isError = true ∧
          g.span = ⟨found.stop, found.stop⟩) ∧
      (∀ m ∈ start.trailBefore pos, (start.encloses m ∧ m ≠ start) ∧ m.stop ≤ pos) ∧
      ((∀ m ∈ start.trailBefore pos, ¬ m.Unfinished) ∧ found = start ∨
        Tree.Node.Deepest (fun m => m ∈ start.trailBefore pos ∧ m.Unfinished) found) ∧
      ∀ rounds, t.size ≤ rounds →
        t.toArena.unfinishedBefore? pos rounds start.id = some found.id := by
  intro start found
  have hcases := start.unfinishedBefore_cases pos
  refine ⟨?_, ?_, hcases, fun rounds => start.unfinishedBefore?_id pos⟩
  · refine hcases.imp And.right fun hdeepest => ?_
    obtain ⟨hmem, g, hlast, hgap, hstop⟩ := hdeepest.holds
    refine ⟨Tree.Node.encloses_of_mem_trailBefore hmem, Tree.Node.stop_le_of_mem_trailBefore hmem,
      g, hlast, ?_, ?_⟩
    · exact (Bool.and_eq_true_iff.mp hgap).1
    · -- A gap is empty, and this one ends with the node.
      have hempty : g.start = g.stop := beq_iff_eq.mp (Bool.and_eq_true_iff.mp hgap).2
      show (⟨g.start, g.stop⟩ : Span) = ⟨found.stop, found.stop⟩
      rw [hempty, hstop]
  · intro m hm
    exact ⟨Tree.Node.encloses_of_mem_trailBefore hm, Tree.Node.stop_le_of_mem_trailBefore hm⟩

namespace Tree.Node

variable {t : Tree}

/-! ### From any node -/

theorem trailBefore_eq {n c : t.Node} {pos : Nat} (h : n.childStartingBefore pos = some c) :
    n.trailBefore pos = c.trail := by
  rw [trailBefore, h, Option.elim_some]

/-- The deepest unfinished node on the right edge of `n`, as far as the search follows that edge, is
`u`. -/
def DeepestUnfinished (n u : t.Node) : Prop :=
  Deepest (fun m => m ∈ n.trail ∧ m.Unfinished) u

/-- From a position between the start of a child and the end of the deepest unfinished node on its
right edge, the search goes past the position to that node. -/
theorem unfinishedBefore_of_lt_stop {n c u : t.Node} {pos : Nat} (hparent : c.parent? = some n)
    (hu : c.DeepestUnfinished u) (hstart : c.start < pos) (hstop : pos < u.stop) :
    n.unfinishedBefore pos = u := by
  -- The position lies inside the child, so that the search sets out from there.
  have hinside := (encloses_span (encloses_of_mem_trail hu.holds.1)).2
  have htrail : n.trailBefore pos = c.trail :=
    trailBefore_eq (childStartingBefore_of_le_stop hparent hstart (by omega))
  have hcases := n.unfinishedBefore_cases pos
  rw [htrail] at hcases
  rcases hcases with ⟨hnone, -⟩ | hdeepest
  · exact absurd hu.holds.2 (hnone u hu.holds.1)
  · exact DeepestOrRoot.eq (.inl hdeepest) (.inl hu)

/-- The search stays where it is, or ends at the deepest unfinished node on the right edge of a
child that starts before the position. -/
theorem unfinishedBefore_eq_or (n : t.Node) (pos : Nat) :
    n.unfinishedBefore pos = n ∨
      ∃ c : t.Node, c.parent? = some n ∧ c.start < pos ∧
        c.DeepestUnfinished (n.unfinishedBefore pos) := by
  refine (n.unfinishedBefore_cases pos).imp And.right fun hdeepest => ?_
  obtain ⟨c, hc, -⟩ := mem_trailBefore_iff.mp hdeepest.holds.1
  obtain ⟨hparent, hstart, -⟩ := childStartingBefore_eq_some_iff.mp hc
  rw [trailBefore_eq hc] at hdeepest
  exact ⟨c, hparent, hstart, hdeepest⟩

end Tree.Node

/-- The search for an unfinished construct in front of a position, from any node, stays at the node
or ends at an unfinished one properly inside. It ends behind the position exactly if the position
lies between the start of a child of the node and the end of the deepest unfinished node on the
right edge of that child, and then it ends at the latter. So it does not end behind the position if
no child of the node lies around the position. -/
theorem unfinishedBefore_stop_le_iff {t : Tree} (n : t.Node) (pos : Nat) :
    let found := n.unfinishedBefore pos
    (found = n ∨ (n.encloses found ∧ found ≠ n) ∧ found.Unfinished) ∧
      ((found = n ∨ found.stop ≤ pos) ↔
        ∀ c u : t.Node, c.parent? = some n → c.DeepestUnfinished u →
          ¬ (c.start < pos ∧ pos < u.stop)) ∧
      (∀ c u : t.Node, c.parent? = some n → c.DeepestUnfinished u →
        c.start < pos → pos < u.stop → found = u) ∧
      ((∀ c : t.Node, c.parent? = some n → ¬ (c.start < pos ∧ pos < c.stop)) →
        found = n ∨ found.stop ≤ pos) := by
  intro found
  have hcases := n.unfinishedBefore_eq_or pos
  refine ⟨hcases.imp_right ?_, ⟨?_, ?_⟩, fun c u => Tree.Node.unfinishedBefore_of_lt_stop, ?_⟩
  · rintro ⟨c, hparent, -, hdeepest⟩
    have henc := Tree.Node.encloses_of_mem_trail hdeepest.holds.1
    exact ⟨⟨Tree.Node.encloses_trans (Tree.Node.encloses_of_parent? hparent) henc,
      Tree.Node.ne_of_encloses_child hparent henc⟩, hdeepest.holds.2⟩
  · rintro hfront c u hparent hu ⟨hstart, hstop⟩
    have hfound : found = u := Tree.Node.unfinishedBefore_of_lt_stop hparent hu hstart hstop
    rw [hfound] at hfront
    rcases hfront with heq | hle
    · -- What lies on the right edge of a child is not the node.
      have henc := Tree.Node.encloses_of_mem_trail hu.holds.1
      exact Tree.Node.ne_of_encloses_child hparent henc heq
    · exact Nat.not_le.mpr hstop hle
  · intro hnone
    refine hcases.imp_right ?_
    rintro ⟨c, hparent, hstart, hdeepest⟩
    exact Nat.not_lt.mp fun hlt => hnone c found hparent hdeepest ⟨hstart, hlt⟩
  · intro hnone
    refine hcases.imp_right ?_
    rintro ⟨c, hparent, hstart, hdeepest⟩
    calc found.stop
      _ ≤ c.stop :=
          (Tree.Node.encloses_span (Tree.Node.encloses_of_mem_trail hdeepest.holds.1)).2
      _ ≤ pos := Nat.not_lt.mp fun hlt => hnone c hparent ⟨hstart, hlt⟩

/-- The arena of `openList`. -/
def openListArena : Arena where
  kinds := #[.ofName "Script", .ofName "AssignStatement", .ofName "VariableName",
    .ofName "AssignOp", .ofName "ArrayExpression", .ofName "[", .ofName "Number", .ofName ",",
    .recovery]
  nodes := #[{ kind := 0, span := ⟨0, 8⟩, parent := none, index := 0, children := ⟨7, 8⟩ },
    { kind := 1, span := ⟨0, 8⟩, parent := some 0, index := 0, children := ⟨4, 7⟩ },
    { kind := 2, span := ⟨0, 1⟩, parent := some 1, index := 0, children := ⟨0, 0⟩ },
    { kind := 3, span := ⟨2, 3⟩, parent := some 1, index := 1, children := ⟨0, 0⟩ },
    { kind := 4, span := ⟨4, 8⟩, parent := some 1, index := 2, children := ⟨0, 4⟩ },
    { kind := 5, span := ⟨4, 5⟩, parent := some 4, index := 0, children := ⟨0, 0⟩ },
    { kind := 6, span := ⟨5, 6⟩, parent := some 4, index := 1, children := ⟨0, 0⟩ },
    { kind := 7, span := ⟨6, 7⟩, parent := some 4, index := 2, children := ⟨0, 0⟩ },
    { kind := 8, span := ⟨8, 8⟩, parent := some 4, index := 3, children := ⟨0, 0⟩ }]
  childTable := #[5, 6, 7, 8, 2, 3, 4, 1]

/-- The tree of `x = [1,` and a line break, in which the list is not closed. -/
def openList : Tree where
  toArena := openListArena
  wellFormed := Arena.check_eq_ok_iff.mp (show openListArena.check = .ok () from rfl)

/-- In `x = [1,` the search in front of the offset `3`, from the root, ends at the list, which
starts behind that offset. -/
theorem unfinishedBefore_openList :
    (openList.root.unfinishedBefore 3).text = "ArrayExpression@4..8" ∧
      ¬ (openList.root.unfinishedBefore 3 = openList.root ∨
        (openList.root.unfinishedBefore 3).stop ≤ 3) :=
  ⟨by decide +kernel, by decide +kernel⟩

end TreeAssist
