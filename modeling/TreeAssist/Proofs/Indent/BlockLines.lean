import TreeAssist.Proofs.Indent.Styles

/-!
# Lines behind a statement of a block

A line break behind a child of a block stands on a border: the child ends there, and what follows
may start there and be empty. All searches nevertheless see the child in front of the break,
provided that it is not empty and ends inside the block. The innermost node around the break is the
block (`Node.innermostAt_strict_stop`), and the child before it is that child
(`Node.childStartingBefore_stop`). Unless something on the right edge of the child is unfinished,
the style of the block decides (`Python.width_stop`).

Main statements: `width_behind_exit` for statements that leave the block, and `width_behind_colon`
for the colon that opens it.
-/

namespace TreeAssist

variable {t : Tree}

namespace Tree.Node

/-! ### The end of a child -/

section Border

variable {n c : t.Node}

/-- The innermost node around the end of a child is the parent, if the child is not empty and does
not end with the parent. -/
theorem innermostAt_strict_stop (hparent : c.parent? = some n) (hne : c.start < c.stop)
    (hin : c.stop < n.stop) : t.root.innermostAt c.stop .strict = n := by
  have hspan := span_of_parent? hparent
  have henc : n.encloses (t.root.innermostAt c.stop .strict) :=
    t.root.encloses_innermostAt_strict (by omega) hin
  obtain heq | ⟨c', hc', henc'⟩ := encloses_iff_child.mp henc
  · exact heq
  exfalso
  -- Another child would have to reach around the end of `c`, and so to overlap `c`.
  have haround : c'.start < c.stop ∧ c.stop < c'.stop := by
    rcases innermostAt_root_cases t c.stop .strict with hroot | hadmits
    · rw [hroot] at henc'
      rw [eq_root_of_encloses henc', parent?_eq_none_iff.mpr rfl] at hc'
      cases hc'
    · exact admits_strict_iff.mp (admits_of_encloses henc' hadmits)
  by_cases hsame : c' = c
  · subst hsame
    omega
  · have hsides := sibling_disjoint hc' hparent hsame
    omega

/-- The child before the end of a child that is not empty is that child, since those behind it start
at its end or later. -/
theorem childStartingBefore_stop (hparent : c.parent? = some n) (hne : c.start < c.stop) :
    n.childStartingBefore c.stop = some c :=
  childStartingBefore_of_le_stop hparent hne (Nat.le_refl _)

/-- To the left of the end of a node without children, the innermost node is that node. -/
theorem innermostAt_left_stop (m : t.Node) (hne : c.start < c.stop) (hleaf : c.children = []) :
    m.innermostAt c.stop .left = c := by
  -- The search ends inside `c`, where there is nothing but `c`.
  have hadmits : c.admits c.stop .left = true := by simp [admits, hne]
  obtain heq | ⟨c', hc', -⟩ := encloses_iff_child.mp (encloses_innermostAt m hadmits)
  · exact heq
  · rw [← mem_children_iff, hleaf] at hc'
    cases hc'

end Border

/-! ### The right edge -/

/-- The node, its last child, the last child of that one, and so on. -/
def rightEdge (n : t.Node) : List t.Node :=
  n :: match _h : n.lastChild? with
    | none => []
    | some c => c.rightEdge
termination_by t.nodes.size - n.id
decreasing_by
  have := id_lt_of_parent? (parent?_of_lastChild? _h)
  have := n.isLt
  omega

theorem rightEdge_eq (n : t.Node) : n.rightEdge = n :: n.lastChild?.elim [] rightEdge := by
  rw [rightEdge]
  split
  · rename_i h
    rw [h, Option.elim_none]
  · rename_i c h
    rw [h, Option.elim_some]

/-- The last child of the node is a gap. -/
def endsInGap (n : t.Node) : Bool :=
  n.lastChild?.any isGap

/-- A node that does not end in a gap is not unfinished. -/
theorem not_unfinished_of_endsInGap {n : t.Node} (h : n.endsInGap = false) : ¬ n.Unfinished := by
  rintro ⟨g, hlast, hgap, -⟩
  simp [endsInGap, hlast, hgap] at h

/-- Where nothing on the right edge ends in a gap, the search for an unfinished node follows the
edge. -/
theorem mem_rightEdge_of_mem_trail {n m : t.Node} (hedge : ∀ m ∈ n.rightEdge, m.endsInGap = false)
    (h : m ∈ n.trail) : m ∈ n.rightEdge := by
  induction n using upward with
  | step n ih =>
    obtain rfl | ⟨c, hc, hm⟩ := mem_trail_iff.mp h
    · simp [rightEdge_eq m]
    · -- The last child is no gap, so the search goes on in it.
      have hn : n.endsInGap = false := hedge n (by simp [rightEdge_eq n])
      obtain ⟨last, hlast, honward⟩ := Option.bind_eq_some_iff.mp hc
      have hgap : last.isGap = false := by simpa [endsInGap, hlast] using hn
      rw [hgap] at honward
      obtain ⟨-, rfl⟩ : last.stop = n.stop ∧ last = c := by simpa using honward
      have hsub : ∀ x ∈ last.rightEdge, x ∈ n.rightEdge := by
        intro x hx
        rw [rightEdge_eq n, hlast]
        exact List.mem_cons_of_mem _ hx
      apply hsub
      exact ih last (parent?_of_lastChild? hlast) (fun x hx => hedge x (hsub x hx)) hm

/-- On the right edge of a node without children nothing ends in a gap. -/
theorem endsInGap_of_childless {c : t.Node} (hleaf : c.children = []) :
    ∀ m ∈ c.rightEdge, m.endsInGap = false := by
  have hnone : c.lastChild? = none := by
    cases hlast : c.lastChild? with
    | none => rfl
    | some last =>
      have hmem := mem_children_iff.mpr (parent?_of_lastChild? hlast)
      rw [hleaf] at hmem
      cases hmem
  simp [rightEdge_eq, hnone, endsInGap]

/-- Behind a child with nothing unfinished on its right edge, the search for an unfinished node
stays at the parent. -/
theorem unfinishedBefore_stop {n c : t.Node} (hparent : c.parent? = some n)
    (hne : c.start < c.stop) (hedge : ∀ m ∈ c.rightEdge, m.endsInGap = false) :
    n.unfinishedBefore c.stop = n := by
  rcases n.unfinishedBefore_cases c.stop with ⟨-, heq⟩ | hdeepest
  · exact heq
  · obtain ⟨hmem, hunfinished⟩ := hdeepest.holds
    obtain ⟨c', hc', hm⟩ := mem_trailBefore_iff.mp hmem
    -- The search sets out from the child that ends here.
    obtain rfl : c = c' := Option.some.inj ((childStartingBefore_stop hparent hne).symm.trans hc')
    have hclosed := hedge _ (mem_rightEdge_of_mem_trail hedge hm)
    exact absurd hunfinished (not_unfinished_of_endsInGap hclosed)

/-! ### Statements that leave their block -/

/-- The kinds of statements behind which a line goes back to the enclosing level. -/
def exitKinds : List String :=
  ["BreakStatement", "ContinueStatement", "PassStatement", "ReturnStatement", "RaiseStatement"]

/-- Once its end is reached, every statement of these kinds leaves its block, and no other node
does. -/
theorem leavesBlock_stop_iff {n : t.Node} : n.leavesBlock n.stop = true ↔ n.name ∈ exitKinds := by
  unfold leavesBlock exitKinds
  simp only [List.mem_cons, List.not_mem_nil, or_false]
  -- Statements without a value leave the block anywhere, those with a value from their end on.
  by_cases hbare : n.name = "BreakStatement" ∨ n.name = "ContinueStatement" ∨
      n.name = "PassStatement"
  · simp only [if_pos hbare, true_iff]
    tauto
  · by_cases hvalue : n.name = "ReturnStatement" ∨ n.name = "RaiseStatement"
    · simp only [if_neg hbare, if_pos hvalue, Nat.le_refl, decide_true, true_iff]
      tauto
    · simp only [if_neg hbare, if_neg hvalue, Bool.false_eq_true, false_iff]
      tauto

end Tree.Node

/-- Behind a child with nothing unfinished on its right edge, the search for a style starts at the
parent. -/
theorem Indenter.startNode_stop {n c : t.Node} (hparent : c.parent? = some n)
    (hne : c.start < c.stop) (hin : c.stop < n.stop)
    (hedge : ∀ m ∈ c.rightEdge, m.endsInGap = false) : startNode t c.stop = n := by
  unfold startNode
  rw [Tree.Node.innermostAt_strict_stop hparent hne hin]
  exact Tree.Node.unfinishedBefore_stop hparent hne hedge

namespace IndentRequest

variable {req : IndentRequest t}

/-- Behind a statement that leaves the block, a line goes back to the level of the block's
construct. -/
theorem blockWidth_of_leavesBlock {c : t.Node}
    (hbefore : req.node.childStartingBefore req.pos = some c)
    (hleaves : c.leavesBlock req.pos = true) : req.blockWidth = req.baseWidth := by
  simp [blockWidth, widthInBlock, hbefore, hleaves]

/-- Behind a colon that does not leave the block, a line goes one level deeper than the block's
construct. -/
theorem blockWidth_of_colon {c : t.Node} (hbefore : req.node.childStartingBefore req.pos = some c)
    (hleaves : c.leavesBlock req.pos = false)
    (hcolon : (req.node.innermostAt req.pos .left).name = colonKind) :
    req.blockWidth = req.baseWidth + req.level := by
  simp [blockWidth, widthInBlock, hbefore, hleaves, hcolon]

end IndentRequest

/-! ### Line breaks in a block -/

/-- At the end of a child of a block, with nothing unfinished on its right edge, the style of the
block decides. -/
theorem Python.width_stop {s : Settings} {d : Document} {b c : t.Node} (hb : b.name = blockKind)
    (hparent : c.parent? = some b) (hne : c.start < c.stop) (hsnap : d.snap c.stop = c.stop)
    (hin : c.stop < b.stop) (hedge : ∀ m ∈ c.rightEdge, m.endsInGap = false) :
    (indenter s).width t d c.stop = ((indenter s).request d b c.stop).blockWidth := by
  have hget : (indenter s).styles.get? b.name = some .block := by
    show (indentStyles s.align).get? b.name = some .block
    rw [get?_indentStyles, if_pos hb]
  -- The block itself comes first on the way outward.
  have hstyle : (indenter s).styleFor? b.ancestors = some (b, .block) := by
    unfold Indenter.styleFor?
    rw [Tree.Node.ancestors, List.findSome?_cons, hget]
    rfl
  rw [Indenter.width_eq, hsnap, Indenter.startNode_stop hparent hne hin hedge, hstyle]
  rfl

/-- At the end of a statement that leaves the block, a line goes back to the level of the block's
construct, whatever follows the statement in the block and whatever stands around the block. The
statement must be closed: neither it nor a node on its right edge ends in a gap. -/
theorem width_behind_exit {s : Settings} {d : Document} {b e : t.Node} (hb : b.name = blockKind)
    (hparent : e.parent? = some b) (hexit : e.name ∈ Tree.Node.exitKinds) (hne : e.start < e.stop)
    (hsnap : d.snap e.stop = e.stop) (hin : e.stop < b.stop)
    (hedge : ∀ m ∈ e.rightEdge, m.endsInGap = false) :
    (Python.indenter s).width t d e.stop = b.baseWidth d (Python.indenter s).tab := by
  rw [Python.width_stop hb hparent hne hsnap hin hedge]
  exact IndentRequest.blockWidth_of_leavesBlock (Tree.Node.childStartingBefore_stop hparent hne)
    (Tree.Node.leavesBlock_stop_iff.mpr hexit)

/-- At the end of the colon that opens a block, a line goes one level deeper than the block's
construct, whatever follows the colon in the block and whatever stands around the block. -/
theorem width_behind_colon {s : Settings} {d : Document} {b c : t.Node} (hb : b.name = blockKind)
    (hparent : c.parent? = some b) (hcolon : c.name = colonKind) (hleaf : c.children = [])
    (hne : c.start < c.stop) (hsnap : d.snap c.stop = c.stop) (hin : c.stop < b.stop) :
    (Python.indenter s).width t d c.stop =
      b.baseWidth d (Python.indenter s).tab + (Python.indenter s).level := by
  rw [Python.width_stop hb hparent hne hsnap hin (Tree.Node.endsInGap_of_childless hleaf)]
  refine IndentRequest.blockWidth_of_colon (Tree.Node.childStartingBefore_stop hparent hne) ?_ ?_
  · -- No statement has the kind of a colon.
    show c.leavesBlock c.stop = false
    rw [Bool.eq_false_iff, Ne, Tree.Node.leavesBlock_stop_iff, hcolon]
    decide
  · show (b.innermostAt c.stop .left).name = colonKind
    rw [Tree.Node.innermostAt_left_stop b hne hleaf, hcolon]

/-- The arena of `nestedIf`. -/
def nestedIfArena : Arena where
  kinds := #[.ofName "Script", .ofName "IfStatement", .ofName "if", .ofName "VariableName",
    .ofName "Body", .ofName ":", .ofName recoveryName, .ofName "PassStatement", .ofName "pass"]
  nodes := #[{ kind := 0, span := ⟨0, 28⟩, parent := none, index := 0, children := ⟨14, 15⟩ },
    { kind := 1, span := ⟨0, 28⟩, parent := some 0, index := 0, children := ⟨11, 14⟩ },
    { kind := 2, span := ⟨0, 2⟩, parent := some 1, index := 0, children := ⟨0, 0⟩ },
    { kind := 3, span := ⟨3, 4⟩, parent := some 1, index := 1, children := ⟨0, 0⟩ },
    { kind := 4, span := ⟨4, 28⟩, parent := some 1, index := 2, children := ⟨9, 11⟩ },
    { kind := 5, span := ⟨4, 5⟩, parent := some 4, index := 0, children := ⟨0, 0⟩ },
    { kind := 1, span := ⟨8, 28⟩, parent := some 4, index := 1, children := ⟨6, 9⟩ },
    { kind := 2, span := ⟨8, 10⟩, parent := some 6, index := 0, children := ⟨0, 0⟩ },
    { kind := 3, span := ⟨11, 12⟩, parent := some 6, index := 1, children := ⟨0, 0⟩ },
    { kind := 4, span := ⟨12, 28⟩, parent := some 6, index := 2, children := ⟨1, 6⟩ },
    { kind := 5, span := ⟨12, 13⟩, parent := some 9, index := 0, children := ⟨0, 0⟩ },
    { kind := 6, span := ⟨13, 13⟩, parent := some 9, index := 1, children := ⟨0, 0⟩ },
    { kind := 7, span := ⟨18, 22⟩, parent := some 9, index := 2, children := ⟨0, 1⟩ },
    { kind := 8, span := ⟨18, 22⟩, parent := some 12, index := 0, children := ⟨0, 0⟩ },
    { kind := 6, span := ⟨22, 22⟩, parent := some 9, index := 3, children := ⟨0, 0⟩ },
    { kind := 3, span := ⟨27, 28⟩, parent := some 9, index := 4, children := ⟨0, 0⟩ }]
  childTable := #[13, 10, 11, 12, 14, 15, 7, 8, 9, 5, 6, 2, 3, 4, 1]

/-- The tree of `nestedIfText`. Something is missing behind the inner colon and behind `pass`. -/
def nestedIf : Tree where
  toArena := nestedIfArena
  wellFormed := Arena.check_eq_ok_iff.mp (show nestedIfArena.check = .ok () from rfl)

/-- A block inside another one. -/
def nestedIfText : Document :=
  .ofString "if x:\n  if y:\n    pass\n    z"

/-- Behind `pass` a line goes back to the level of the inner `if`; a gap at the same offset makes
no difference. -/
theorem width_behind_exit_nestedIf :
    (Python.indenter {}).width nestedIf nestedIfText 22 = 2 := by
  have hwidth := width_behind_exit (t := nestedIf) (s := {}) (d := nestedIfText)
    (b := ⟨9, by decide⟩) (e := ⟨12, by decide⟩) (by decide +kernel) (by decide +kernel)
    (by decide +kernel) (by decide +kernel) (by decide +kernel) (by decide +kernel)
    (by decide +kernel)
  exact hwidth.trans (by decide +kernel)

/-- Behind the inner colon a line goes one level deeper than the inner `if`; a gap at the same
offset makes no difference. -/
theorem width_behind_colon_nestedIf :
    (Python.indenter {}).width nestedIf nestedIfText 13 = 6 := by
  have hwidth := width_behind_colon (t := nestedIf) (s := {}) (d := nestedIfText)
    (b := ⟨9, by decide⟩) (c := ⟨10, by decide⟩) (by decide +kernel) (by decide +kernel)
    (by decide +kernel) (by decide +kernel) (by decide +kernel) (by decide +kernel)
    (by decide +kernel)
  exact hwidth.trans (by decide +kernel)

end TreeAssist
