import TreeAssist.Proofs.Indent.Locality

/-!
# Where widths come from

A width is never made up: without alignment, every style for Python takes the indentation of a line
of the document that stands at or before the position of the request, and goes at most one level
deeper (`IndentRequest.ComesFromLine`, `IndentStyle.GoesDeeperBy`). The base line is such a line,
since the search for it only goes back (`Node.exists_baseLineFrom_eq`), and so are the line of the
position and the line of a statement in front of it.

Main statement: `width_comes_from_line`.
-/

namespace TreeAssist

variable {t : Tree} {d : Document}

/-- Going back to the base line leads to the line of some earlier position. -/
theorem Tree.Node.exists_baseLineFrom_eq (d : Document) (n : t.Node) (pos : Nat) :
    ∃ q ≤ pos, n.baseLineFrom d (d.lineHolding pos) = d.lineHolding q := by
  -- By induction on the start of the line, as the search only goes on at an earlier line.
  induction h : (d.lineHolding pos).start using Nat.strongRecOn generalizing pos with
  | ind start ih =>
    subst h
    rw [baseLineFrom]
    split
    · exact ⟨pos, Nat.le_refl _, rfl⟩
    · rename_i hgo
      rw [not_or, Nat.not_le] at hgo
      -- The construct at the start of the line begins before the line does.
      have hline := d.start_lineHolding_le (n.constructAt (d.lineHolding pos).start).start
      have hpos := d.start_lineHolding_le pos
      obtain ⟨q, hq, heq⟩ := ih _ (Nat.lt_of_le_of_lt hline hgo.2) _ rfl
      exact ⟨q, by omega, heq⟩

namespace IndentRequest

variable {req : IndentRequest t} {levels : Nat}

/-- `w` is the indentation of a line at or before the one that holds the position, or lies `levels`
levels deeper than such a line. -/
def ComesFromLine (req : IndentRequest t) (levels w : Nat) : Prop :=
  ∃ n ≤ (req.doc.lineHolding req.pos).number,
    w = (req.doc.nthLine n).leadingWidth req.tab ∨
      w = (req.doc.nthLine n).leadingWidth req.tab + levels * req.level

/-- The line of a position that is not behind the request's will do. -/
theorem number_le_of_le {q : Nat} (h : q ≤ req.pos) :
    req.doc.lineNumberOf q ≤ (req.doc.lineHolding req.pos).number := by
  rw [Document.number_lineHolding]
  exact req.doc.lineNumberOf_mono h

theorem comesFromLine_indentOfLine {q : Nat} (h : q ≤ req.pos) :
    req.ComesFromLine levels (req.indentOfLine q) :=
  ⟨req.doc.lineNumberOf q, number_le_of_le h, .inl rfl⟩

/-- The base indentation of a node that starts at or before the position is that of a line there. -/
theorem exists_baseWidth_eq (h : req.node.start ≤ req.pos) :
    ∃ n ≤ (req.doc.lineHolding req.pos).number,
      req.baseWidth = (req.doc.nthLine n).leadingWidth req.tab := by
  obtain ⟨q, hq, heq⟩ := req.node.exists_baseLineFrom_eq req.doc req.node.start
  refine ⟨req.doc.lineNumberOf q, number_le_of_le (Nat.le_trans hq h), ?_⟩
  unfold baseWidth Tree.Node.baseWidth Tree.Node.baseLine
  rw [heq]
  rfl

theorem comesFromLine_baseWidth (h : req.node.start ≤ req.pos) :
    req.ComesFromLine levels req.baseWidth := by
  obtain ⟨n, hn, heq⟩ := exists_baseWidth_eq h
  exact ⟨n, hn, .inl heq⟩

theorem comesFromLine_baseWidth_add (h : req.node.start ≤ req.pos) :
    req.ComesFromLine levels (req.baseWidth + levels * req.level) := by
  obtain ⟨n, hn, heq⟩ := exists_baseWidth_eq h
  exact ⟨n, hn, .inr (by rw [heq])⟩

/-- The rule for blocks takes the base line, the line of the position, or the line of the statement
in front of the anchor. -/
theorem comesFromLine_widthInBlock (hnode : req.node.start ≤ req.pos) {anchor : Nat}
    (hanchor : anchor ≤ req.pos) (trailing : Bool) :
    req.ComesFromLine 1 (req.widthInBlock anchor trailing) := by
  have hdeeper : req.ComesFromLine 1 (req.baseWidth + req.level) := by
    have hbase : req.ComesFromLine 1 (req.baseWidth + 1 * req.level) :=
      comesFromLine_baseWidth_add hnode
    rwa [Nat.one_mul] at hbase
  unfold widthInBlock
  simp only
  split
  · exact comesFromLine_baseWidth hnode
  split
  · exact hdeeper
  split
  · cases hbefore : (req.node.childStartingBefore anchor).filter (·.name != colonKind) with
    | none => exact hdeeper
    | some statement =>
      have hchild := (Option.filter_eq_some_iff.mp hbefore).1
      have hstart := (Tree.Node.childStartingBefore_eq_some_iff.mp hchild).2.1
      exact comesFromLine_indentOfLine (by omega)
  · exact comesFromLine_indentOfLine (Nat.le_refl _)

/-- The rule for documents takes the line of the position, or what the rule for the last block
takes. -/
theorem comesFromLine_documentWidth (hroot : t.root.start = 0) :
    req.ComesFromLine 1 req.documentWidth := by
  have hline : req.ComesFromLine 1 (req.indentOfLine req.pos) :=
    comesFromLine_indentOfLine (Nat.le_refl _)
  have hanchor := req.doc.endOfTextBefore_le req.pos
  unfold documentWidth
  simp only
  split
  · cases hblock : (req.node.innermostAt (req.doc.endOfTextBefore req.pos) .left).ancestors.find?
        (·.name == blockKind) with
    | none => exact hline
    | some block =>
      have hle := Tree.Node.start_le_of_find?_innermostAt (by omega) hblock
      have hstart : (req.forNode block).node.start ≤ (req.forNode block).pos :=
        show block.start ≤ req.pos by omega
      exact comesFromLine_widthInBlock hstart hanchor true
  · exact hline

/-- The rule for brackets takes the base line, unless it aligns. -/
theorem comesFromLine_bracketedWidth (hnode : req.node.start ≤ req.pos) (closing : String) :
    req.ComesFromLine levels (req.bracketedWidth closing false levels) := by
  unfold bracketedWidth
  simp only [Bool.false_eq_true, if_false]
  split
  · exact comesFromLine_baseWidth hnode
  · rw [Nat.mul_comm]
    exact comesFromLine_baseWidth_add hnode

end IndentRequest

/-! ### Styles -/

namespace IndentStyle

/-- The style takes the indentation of a line, or goes `levels` levels deeper. -/
def GoesDeeperBy (levels : Nat) (style : IndentStyle) : Prop :=
  ∀ {t : Tree} {req : IndentRequest t}, t.root.start = 0 → req.node.start ≤ req.pos →
    req.ComesFromLine levels (style.width req)

theorem goesDeeperBy_block : block.GoesDeeperBy 1 :=
  fun _ hnode => IndentRequest.comesFromLine_widthInBlock hnode (Nat.le_refl _) false

theorem goesDeeperBy_document : document.GoesDeeperBy 1 :=
  fun hroot _ => IndentRequest.comesFromLine_documentWidth hroot

/-- Without alignment. -/
theorem goesDeeperBy_bracketed (closing : String) (levels : Nat) :
    (bracketed closing false levels).GoesDeeperBy levels :=
  fun _ hnode => IndentRequest.comesFromLine_bracketedWidth hnode closing

end IndentStyle

/-- With styles that go the same number of levels deeper than a line, every width is the indentation
of a line at or before the position, or so much deeper than such a line. -/
theorem Indenter.exists_width_eq {s : Indenter} {levels : Nat}
    (hstyles : s.styles.All (IndentStyle.GoesDeeperBy levels)) (hroot : t.root.start = 0)
    (d : Document) (pos : Nat) :
    ∃ n ≤ (d.lineHolding (d.snap pos)).number,
      s.width t d pos = (d.nthLine n).leadingWidth s.tab ∨
        s.width t d pos = (d.nthLine n).leadingWidth s.tab + levels * s.level := by
  rw [width_eq]
  cases hstyle : s.styleFor? (startNode t (d.snap pos)).ancestors with
  | none => exact ⟨_, Nat.le_of_eq (d.number_lineHolding _).symm, .inl rfl⟩
  | some found =>
    obtain ⟨n, style⟩ := found
    have hnode : (s.request d n (d.snap pos)).node.start ≤ (s.request d n (d.snap pos)).pos :=
      start_le_of_styleFor? (by omega) hstyle
    exact hstyles _ _ (mem_of_styleFor? hstyle).2 hroot hnode

/-- A distance of tab stops that is too small counts as `1`. -/
theorem Line.leadingWidth_max_one (l : Line) (tab : Nat) :
    l.leadingWidth (max tab 1) = l.leadingWidth tab := by
  simp [leadingWidth, Text.leadingWidth, Text.columnAfter]

/-- Without alignment, the width for a position is the indentation of a line at or before the one
that holds the position, or one level more. -/
theorem width_comes_from_line (hroot : t.root.start = 0) {s : Settings} (halign : s.align = false)
    (d : Document) (pos : Nat) :
    ∃ n ≤ (d.lineHolding (d.snap pos)).number,
      (Python.indenter s).width t d pos = (d.nthLine n).leadingWidth s.tabWidth ∨
        (Python.indenter s).width t d pos =
          (d.nthLine n).leadingWidth s.tabWidth + s.levelWidth := by
  have hstyles : (Python.indentStyles s.align).All (IndentStyle.GoesDeeperBy 1) := by
    rw [halign]
    exact Python.all_indentStyles IndentStyle.goesDeeperBy_block IndentStyle.goesDeeperBy_document
      fun closing => IndentStyle.goesDeeperBy_bracketed closing 1
  obtain ⟨n, hn, hwidth⟩ :=
    Indenter.exists_width_eq (s := Python.indenter s) hstyles hroot d pos
  rw [show (Python.indenter s).tab = max s.tabWidth 1 from rfl, Line.leadingWidth_max_one,
    Nat.one_mul] at hwidth
  exact ⟨n, hn, hwidth⟩

/-- Behind the colon of `if x:` the width is one level more than the indentation of that line. -/
theorem width_comes_from_line_unfinishedIf :
    (Python.indenter {}).width unfinishedIf (.ofString "if x:\n") 5 = 4 ∧
      ∃ n ≤ 0, (Python.indenter {}).width unfinishedIf (.ofString "if x:\n") 5 =
          ((Document.ofString "if x:\n").nthLine n).leadingWidth 4 ∨
        (Python.indenter {}).width unfinishedIf (.ofString "if x:\n") 5 =
          ((Document.ofString "if x:\n").nthLine n).leadingWidth 4 + 4 :=
  ⟨by decide +kernel,
    width_comes_from_line (s := {}) (by decide +kernel) rfl (.ofString "if x:\n") 5⟩

end TreeAssist
