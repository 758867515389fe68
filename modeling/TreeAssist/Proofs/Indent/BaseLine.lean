import Mathlib.Logic.Relation
import TreeAssist.Proofs.Indent.Origins
import TreeAssist.Proofs.Tree.Innermost

/-!
# The search for the base line

The base line of a node is looked for in rounds (`Node.MovesBack`). Each round gives up a line that
begins inside a construct other than those around the node, for the line on which that construct
begins, and so moves back (`Node.start_lt_of_movesBack`). The search ends at a line whose construct
encloses the node, and nowhere else (`Node.movesBack_iff`, `Node.reflTransGen_baseLineFrom`).

The construct at the start of a line is the innermost node there, lifted to the outermost one that
starts together with it. So a line is given up because of a node around its start that begins behind
everything above the two nodes (`Node.StrayAt`). Not every node around the start that fails to
enclose the node is astray in this sense: a left operand or a callee starts together with the
expression that it belongs to, and a line that begins inside it is kept
(`base_inside_leftOperand`).

Main statements: `baseLine_search`, on how the search goes and where it ends, and
`baseLine_strays`, on the nodes around the start of the line at which it ends.
-/

namespace TreeAssist

variable {t : Tree} {d : Document}

namespace Tree.Node

/-! ### The construct at an offset -/

/-- The outermost node from a start lies above the node, starts with it, and lies above all others
that do. -/
theorem outermostFromStart_spec (n : t.Node) :
    n.outermostFromStart.encloses n ∧ n.outermostFromStart.start = n.start ∧
      ∀ a : t.Node, a.encloses n → a.start = n.start → n.outermostFromStart.encloses a := by
  -- Along the way up: what encloses a node is the node or encloses its parent.
  fun_induction outermostFromStart n with
  | case1 n hp =>
    refine ⟨n.encloses_refl, rfl, fun a ha _ => ?_⟩
    rw [parent?_eq_none_iff.mp hp]
    exact a.root_encloses
  | case2 n p hp hstart ih =>
    obtain ⟨habove, heq, hall⟩ := ih
    have hself := encloses_trans habove (encloses_of_parent? hp)
    refine ⟨hself, heq.trans hstart, fun a ha hstart' => ?_⟩
    obtain rfl | ⟨q, hq, haq⟩ := encloses_iff_parent?.mp ha
    · exact hself
    · obtain rfl : p = q := Option.some.inj (hp.symm.trans hq)
      exact hall a haq (hstart'.trans hstart.symm)
  | case3 n p hp hstart =>
    refine ⟨n.encloses_refl, rfl, fun a ha hstart' => ?_⟩
    obtain rfl | ⟨q, hq, haq⟩ := encloses_iff_parent?.mp ha
    · exact a.encloses_refl
    · -- A node above the parent does not start behind it.
      obtain rfl : p = q := Option.some.inj (hp.symm.trans hq)
      have hle := (encloses_span haq).1
      have hle' := (span_of_parent? hp).1
      omega

/-- The construct at an offset is the outermost node that starts with the innermost one there. -/
theorem constructAt_spec (n : t.Node) (offset : Nat) :
    (n.constructAt offset).encloses (n.innermostAt offset .strict) ∧
      (n.constructAt offset).start = (n.innermostAt offset .strict).start ∧
      ∀ a : t.Node, a.encloses (n.innermostAt offset .strict) →
        a.start = (n.innermostAt offset .strict).start → (n.constructAt offset).encloses a :=
  outermostFromStart_spec (n.innermostAt offset .strict)

/-- The search around an offset ends above where it started, or at a node around the offset. -/
theorem innermostAt_strict_cases (n : t.Node) (offset : Nat) :
    (n.innermostAt offset .strict).encloses n ∨
      (n.innermostAt offset .strict).admits offset .strict = true := by
  unfold innermostAt
  rcases (descend_spec (n.climb offset .strict) offset .strict).2 with heq | hin
  · rw [heq]
    exact .inl (climb_spec n offset .strict).1
  · exact .inr hin

/-- Where the construct does not enclose the node, the innermost node there lies around the
offset. -/
theorem admits_of_not_encloses_constructAt {n : t.Node} {offset : Nat}
    (h : ¬ (n.constructAt offset).encloses n) :
    (n.innermostAt offset .strict).admits offset .strict = true := by
  rcases innermostAt_strict_cases n offset with henc | hin
  · exact absurd (encloses_trans (n.constructAt_spec offset).1 henc) h
  · exact hin

/-- A construct that does not enclose the node begins before the offset. -/
theorem start_constructAt_lt {n : t.Node} {offset : Nat}
    (h : ¬ (n.constructAt offset).encloses n) : (n.constructAt offset).start < offset :=
  calc (n.constructAt offset).start
    _ = (n.innermostAt offset .strict).start := (n.constructAt_spec offset).2.1
    _ < offset := (admits_strict_iff.mp (admits_of_not_encloses_constructAt h)).1

/-- A construct that does not begin before the offset encloses the node. -/
theorem encloses_constructAt_of_le {n : t.Node} {offset : Nat}
    (h : offset ≤ (n.constructAt offset).start) : (n.constructAt offset).encloses n := by
  by_contra hnot
  exact absurd (start_constructAt_lt hnot) (Nat.not_lt.mpr h)

/-! ### Rounds of the search -/

/-- A round of the search for the base line of `n`: `line` is given up, since the construct at its
start does not enclose `n` and begins before it, for the line `line'` on which that construct
begins. -/
def MovesBack (d : Document) (n : t.Node) (line line' : Line) : Prop :=
  ¬ ((n.constructAt line.start).encloses n ∨ line.start ≤ (n.constructAt line.start).start) ∧
    line' = d.lineHolding (n.constructAt line.start).start

/-- A line is given up exactly if the construct at its start does not enclose the node. -/
theorem movesBack_iff {n : t.Node} {line line' : Line} :
    n.MovesBack d line line' ↔ ¬ (n.constructAt line.start).encloses n ∧
      line' = d.lineHolding (n.constructAt line.start).start := by
  refine and_congr_left fun _ => not_congr ⟨?_, .inl⟩
  rintro (henc | hle)
  · exact henc
  · exact encloses_constructAt_of_le hle

/-- Each round leads to a line that starts earlier. -/
theorem start_lt_of_movesBack {n : t.Node} {line line' : Line} (h : n.MovesBack d line line') :
    line'.start < line.start := by
  obtain ⟨hnot, rfl⟩ := movesBack_iff.mp h
  calc (d.lineHolding (n.constructAt line.start).start).start
      ≤ (n.constructAt line.start).start := d.start_lineHolding_le _
    _ < line.start := start_constructAt_lt hnot

/-- The search goes from its first line to the base line round by round, and no further. -/
theorem reflTransGen_baseLineFrom (d : Document) (n : t.Node) (line : Line) :
    Relation.ReflTransGen (n.MovesBack d) line (n.baseLineFrom d line) ∧
      (n.constructAt (n.baseLineFrom d line).start).encloses n := by
  fun_induction baseLineFrom d n line with
  | case1 line hstop =>
    -- Of the two reasons to stop, the second is a case of the first.
    refine ⟨.refl, ?_⟩
    rcases hstop with henc | hle
    · exact henc
    · exact encloses_constructAt_of_le hle
  | case2 line hgo ih => exact ⟨.head ⟨hgo, rfl⟩ ih.1, ih.2⟩

/-- The base line of a node is one of the lines up to the one on which the node starts. -/
theorem baseLine_mem (d : Document) (n : t.Node) :
    n.baseLine d ∈ d.lines ∧ (n.baseLine d).number ≤ (d.lineHolding n.start).number := by
  obtain ⟨q, hq, heq⟩ := n.exists_baseLineFrom_eq d n.start
  unfold baseLine
  rw [heq, Document.number_lineHolding, Document.number_lineHolding]
  exact ⟨d.lineHolding_mem q, d.lineNumberOf_mono hq⟩

/-! ### Nodes around the start of a line -/

/-- `m` lies around `offset`, and begins behind all nodes that enclose both it and `n`. In
particular it does not enclose `n`. -/
structure StrayAt (n : t.Node) (offset : Nat) (m : t.Node) : Prop where
  /-- It starts before the offset. -/
  start_lt : m.start < offset
  /-- It ends behind the offset. -/
  lt_stop : offset < m.stop
  /-- What encloses both starts earlier. -/
  apart : ∀ a : t.Node, a.encloses n → a.encloses m → a.start < m.start

/-- Where the construct encloses the node, every node around the offset starts together with a node
that encloses both: the construct, or itself. -/
theorem exists_start_eq_of_around {n m : t.Node} {offset : Nat}
    (h : (n.constructAt offset).encloses n) (hstart : m.start < offset) (hstop : offset < m.stop) :
    ∃ a : t.Node, a.encloses n ∧ a.encloses m ∧ a.start = m.start := by
  obtain ⟨habove, heq, -⟩ := n.constructAt_spec offset
  have hin := n.encloses_innermostAt_strict hstart hstop
  rcases encloses_total habove hin with hcm | hmc
  · -- The construct starts with the innermost node, so there is no room for `m` to start between.
    refine ⟨_, h, hcm, ?_⟩
    have hle := (encloses_span hcm).1
    have hle' := (encloses_span hin).1
    omega
  · exact ⟨m, encloses_trans hmc h, m.encloses_refl, rfl⟩

/-- Where the construct does not enclose the node, the innermost node around the offset is the
deepest one that is astray. -/
theorem deepest_strayAt {n : t.Node} {offset : Nat} (h : ¬ (n.constructAt offset).encloses n) :
    Deepest (n.StrayAt offset) (n.innermostAt offset .strict) where
  holds := by
    obtain ⟨hstart, hstop⟩ := admits_strict_iff.mp (admits_of_not_encloses_constructAt h)
    refine ⟨hstart, hstop, fun a han ham => ?_⟩
    rcases Nat.lt_or_eq_of_le (encloses_span ham).1 with hlt | heq
    · exact hlt
    · -- The construct would reach up to `a`, and so enclose the node.
      exact absurd (encloses_trans ((n.constructAt_spec offset).2.2 a ham heq) han) h
  others := by
    intro m hm hne
    have henc := n.encloses_innermostAt_strict hm.start_lt hm.lt_stop
    exact ⟨henc, depth_lt_of_encloses henc hne⟩

/-- `line` begins astray from `n`, and `line'` is the line on which the deepest node that is astray
at its start begins. -/
def LeavesStray (d : Document) (n : t.Node) (line line' : Line) : Prop :=
  ∃ m, Deepest (n.StrayAt line.start) m ∧ line' = d.lineHolding m.start

/-- A round of the search leaves a line that begins astray. -/
theorem leavesStray_of_movesBack {n : t.Node} {line line' : Line} (h : n.MovesBack d line line') :
    n.LeavesStray d line line' := by
  obtain ⟨hnot, rfl⟩ := movesBack_iff.mp h
  refine ⟨_, deepest_strayAt hnot, ?_⟩
  rw [(n.constructAt_spec line.start).2.1]

/-- All nodes around an offset enclose `n` exactly if the innermost of them does. -/
theorem encloses_of_around_iff (n : t.Node) (offset : Nat) :
    (∀ m : t.Node, m.start < offset → offset < m.stop → m.encloses n) ↔
      (t.root.innermostAt offset .strict).encloses n := by
  constructor
  · intro hall
    rcases innermostAt_root_cases t offset .strict with hroot | hin
    · rw [hroot]
      exact n.root_encloses
    · obtain ⟨hstart, hstop⟩ := admits_strict_iff.mp hin
      exact hall _ hstart hstop
  · intro henc m hstart hstop
    exact encloses_trans (t.root.encloses_innermostAt_strict hstart hstop) henc

end Tree.Node

/-- The search for the base line ends, since each round leads to a line that starts earlier, and the
construct at the start of the line where it ends encloses the node: a construct that does not begin
before the line always does. The line is one of those up to the line on which the node starts, and
its indentation is the base indentation of the node. -/
theorem baseLine_search (d : Document) (tab : Nat) (n : t.Node) :
    (∀ line line', n.MovesBack d line line' → line'.start < line.start) ∧
      (∀ line : Line, line.start ≤ (n.constructAt line.start).start →
        (n.constructAt line.start).encloses n) ∧
      ∃ line ∈ d.lines, n.baseWidth d tab = line.leadingWidth tab ∧
        line.number ≤ (d.lineHolding n.start).number ∧
        Relation.ReflTransGen (n.MovesBack d) (d.lineHolding n.start) line ∧
        (n.constructAt line.start).encloses n ∧ ∀ line', ¬ n.MovesBack d line line' := by
  refine ⟨fun _ _ => Tree.Node.start_lt_of_movesBack,
    fun _ => Tree.Node.encloses_constructAt_of_le, n.baseLine d, ?_⟩
  obtain ⟨hmem, hnumber⟩ := n.baseLine_mem d
  obtain ⟨hrun, henc⟩ := n.reflTransGen_baseLineFrom d (d.lineHolding n.start)
  refine ⟨hmem, rfl, hnumber, hrun, henc, ?_⟩
  intro line' hmoves
  exact hmoves.1 (.inl henc)

/-- The base indentation of a node is that of a line that is reached from the line of the node by
leaving, again and again, a line that begins astray for the one on which the deepest node begins
that is astray there. Every node around the start of the line reached starts together with a node
that encloses both it and the given one. All of them enclose the given node exactly if the innermost
of them does. -/
theorem baseLine_strays (d : Document) (tab : Nat) (n : t.Node) :
    ∃ line ∈ d.lines, n.baseWidth d tab = line.leadingWidth tab ∧
      Relation.ReflTransGen (n.LeavesStray d) (d.lineHolding n.start) line ∧
      (∀ m : t.Node, m.start < line.start → line.start < m.stop →
        ∃ a : t.Node, a.encloses n ∧ a.encloses m ∧ a.start = m.start) ∧
      ((∀ m : t.Node, m.start < line.start → line.start < m.stop → m.encloses n) ↔
        (t.root.innermostAt line.start .strict).encloses n) := by
  obtain ⟨hrun, henc⟩ := n.reflTransGen_baseLineFrom d (d.lineHolding n.start)
  refine ⟨n.baseLine d, (n.baseLine_mem d).1, rfl, ?_, ?_, n.encloses_of_around_iff _⟩
  · exact Relation.ReflTransGen.mono (fun _ _ => Tree.Node.leavesStray_of_movesBack) _ _ hrun
  · intro m hstart hstop
    exact Tree.Node.exists_start_eq_of_around henc hstart hstop

/-- The arena of `splitSum`. -/
def splitSumArena : Arena where
  kinds := #[.ofName "Script", .ofName "ExpressionStatement", .ofName "ParenthesizedExpression",
    .ofName "(", .ofName "BinaryExpression", .ofName "VariableName", .ofName "ArithOp",
    .ofName "ArrayExpression", .ofName "[", .ofName "]", .ofName ")"]
  nodes := #[{ kind := 0, span := ⟨0, 15⟩, parent := none, index := 0, children := ⟨13, 14⟩ },
    { kind := 1, span := ⟨0, 15⟩, parent := some 0, index := 0, children := ⟨12, 13⟩ },
    { kind := 2, span := ⟨0, 15⟩, parent := some 1, index := 0, children := ⟨9, 12⟩ },
    { kind := 3, span := ⟨0, 1⟩, parent := some 2, index := 0, children := ⟨0, 0⟩ },
    { kind := 4, span := ⟨1, 14⟩, parent := some 2, index := 1, children := ⟨6, 9⟩ },
    { kind := 4, span := ⟨1, 8⟩, parent := some 4, index := 0, children := ⟨0, 3⟩ },
    { kind := 5, span := ⟨1, 2⟩, parent := some 5, index := 0, children := ⟨0, 0⟩ },
    { kind := 6, span := ⟨3, 4⟩, parent := some 5, index := 1, children := ⟨0, 0⟩ },
    { kind := 5, span := ⟨7, 8⟩, parent := some 5, index := 2, children := ⟨0, 0⟩ },
    { kind := 6, span := ⟨9, 10⟩, parent := some 4, index := 1, children := ⟨0, 0⟩ },
    { kind := 7, span := ⟨11, 14⟩, parent := some 4, index := 2, children := ⟨3, 6⟩ },
    { kind := 8, span := ⟨11, 12⟩, parent := some 10, index := 0, children := ⟨0, 0⟩ },
    { kind := 5, span := ⟨12, 13⟩, parent := some 10, index := 1, children := ⟨0, 0⟩ },
    { kind := 9, span := ⟨13, 14⟩, parent := some 10, index := 2, children := ⟨0, 0⟩ },
    { kind := 10, span := ⟨14, 15⟩, parent := some 2, index := 2, children := ⟨0, 0⟩ }]
  childTable := #[6, 7, 8, 11, 12, 13, 5, 9, 10, 3, 4, 14, 2, 1]

/-- The tree of `(a + b + [c])`, with a line break in front of `b`. -/
def splitSum : Tree where
  toArena := splitSumArena
  wellFormed := Arena.check_eq_ok_iff.mp (show splitSumArena.check = .ok () from rfl)

/-- The base line of the list at the end of `splitSum` begins inside the left operand `a + b`, which
does not enclose the list: there is no line of its base indentation of which that is not so. -/
theorem base_inside_leftOperand :
    ∃ n : splitSum.Node, n.name = "ArrayExpression" ∧
      ¬ ∃ line ∈ (Document.ofString "(a +\n  b + [c])").lines,
        n.baseWidth (.ofString "(a +\n  b + [c])") 4 = line.leadingWidth 4 ∧
        ∀ m : splitSum.Node, m.start < line.start → line.start < m.stop → m.encloses n :=
  ⟨⟨10, by decide⟩, by decide +kernel, by decide +kernel⟩

end TreeAssist
