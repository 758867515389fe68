import TreeAssist.Proofs.Indent.Styles
import TreeAssist.Proofs.Text.Lines

/-!
# The blank end of a document

On a blank line behind all text (`Document.TrailingAt`) the rule for documents gives a width that
does not depend on the line (`IndentRequest.documentWidth_atPos`). No block that ends with its text
reaches around such a line (`Node.not_admits_of_trailing`), so the rule for blocks decides there
only if the search for an unfinished construct has led into a block in front of the line
(`Indenter.stop_le_of_encloses_startNode`).

Main statements: `trailing_width` and `documentWidth_behind_text`. Where no such block is entered,
the width on a blank line behind all text is the width under the rule for documents. Where one is
entered (`Python.enteredBlock?`), its own rule decides, and the line keeps its indentation where the
rule for documents would have looked at the text; `width_unfinishedIf` is such a case. The rule for
documents itself gives all blank lines behind the text of a block one width, which is said by
`Node.widthBehindText` without a position.
-/

namespace TreeAssist

/-- `pos` lies on a blank line, and only blanks follow it. -/
structure Document.TrailingAt (d : Document) (pos : Nat) : Prop where
  /-- Only blanks follow. -/
  rest : d.onlyBlanksFrom pos = true
  /-- The line is blank. -/
  line : (d.lineHolding pos).isBlank = true

/-- Between the last text before `stop` and `stop` there is at most the rest of a line with its
break: no line that begins behind that text begins before `stop`. -/
def Document.EndsWithText (d : Document) (stop : Nat) : Prop :=
  ∀ l ∈ d.lines, d.endOfTextBefore stop ≤ l.start → stop ≤ l.start

instance (d : Document) (stop : Nat) : Decidable (d.EndsWithText stop) :=
  inferInstanceAs (Decidable (∀ l ∈ d.lines, d.endOfTextBefore stop ≤ l.start → stop ≤ l.start))

variable {t : Tree} {d : Document} {pos pos' : Nat}

theorem Document.TrailingAt.snap (h : d.TrailingAt pos) : d.TrailingAt (d.snap pos) := by
  refine ⟨?_, ?_⟩
  · rw [d.onlyBlanksFrom_snap]
    exact h.rest
  · rw [d.lineHolding_snap]
    exact h.line

/-- The text before two positions behind all text ends at the same place. -/
theorem Document.TrailingAt.endOfTextBefore_eq (h : d.TrailingAt pos) (h' : d.TrailingAt pos') :
    d.endOfTextBefore pos = d.endOfTextBefore pos' := by
  rcases Nat.le_total pos pos' with hle | hle
  · exact (Document.endOfTextBefore_eq h.rest hle).symm
  · exact Document.endOfTextBefore_eq h'.rest hle

/-- A block that ends with its text does not reach around a blank line behind all text. -/
theorem Tree.Node.not_admits_of_trailing (h : d.TrailingAt pos) {n : t.Node}
    (hn : d.EndsWithText n.stop) : n.admits pos .strict = false := by
  rw [Bool.eq_false_iff]
  intro hadmits
  simp only [admits, Bool.and_eq_true, decide_eq_true_eq] at hadmits
  -- The text before the end of the block is the text before `pos`, which ends in front of the line.
  have hend : d.endOfTextBefore n.stop ≤ (d.lineHolding pos).start := by
    rw [Document.endOfTextBefore_eq h.rest (Nat.le_of_lt hadmits.2)]
    exact Document.endOfTextBefore_le_start h.line
  have hstop := hn _ (d.lineHolding_mem pos) hend
  have hle := d.start_lineHolding_le pos
  omega

/-! ### The rule for documents -/

/-- The innermost block around the last text before `pos`. -/
def Tree.lastBlock? (t : Tree) (d : Document) (pos : Nat) : Option t.Node :=
  (t.root.innermostAt (d.endOfTextBefore pos) .left).ancestors.find? (·.name == blockKind)

/-- Behind all text the last block does not depend on the position. -/
theorem Tree.lastBlock?_eq (t : Tree) (h : d.TrailingAt pos) (h' : d.TrailingAt pos') :
    t.lastBlock? d pos = t.lastBlock? d pos' := by
  unfold lastBlock?
  rw [h.endOfTextBefore_eq h']

/-- Indentation of the blank lines behind all text in the block `n`, where `anchor` is the end of
the text: a line behind a statement that leaves the block goes back, a line behind a colon goes one
level deeper, and any other line goes under the last statement. -/
def Tree.Node.widthBehindText (n : t.Node) (d : Document) (level tab anchor : Nat) : Nat :=
  match n.childStartingBefore anchor with
  | none => n.baseWidth d tab + level
  | some c =>
    if c.leavesBlock anchor then n.baseWidth d tab
    else if c.name = colonKind ∨ (n.innermostAt anchor .left).name = colonKind then
      n.baseWidth d tab + level
    else d.indentOfLine c.start tab

namespace IndentRequest

variable (req : IndentRequest t)

/-- The same request at another position. -/
def atPos (req : IndentRequest t) (pos : Nat) : IndentRequest t :=
  { req with pos }

/-- The rule for documents looks for the last block from the root, whatever node it is asked for. -/
theorem documentWidth_eq :
    req.documentWidth =
      if req.doc.onlyBlanksFrom req.pos then
        match t.lastBlock? req.doc req.pos with
        | some block => (req.forNode block).widthInBlock (req.doc.endOfTextBefore req.pos) true
        | none => req.indentOfLine req.pos
      else req.indentOfLine req.pos := by
  unfold Tree.lastBlock?
  rw [← Tree.Node.innermostAt_eq_root (show Bias.left ≠ .strict by decide) req.node]
  rfl

/-- Where only blanks follow, the rule of the last block decides in its place. -/
theorem documentWidth_of_lastBlock? {block : t.Node}
    (hrest : req.doc.onlyBlanksFrom req.pos = true)
    (hlast : t.lastBlock? req.doc req.pos = some block) :
    req.documentWidth =
      (req.forNode block).widthInBlock (req.doc.endOfTextBefore req.pos) true := by
  rw [documentWidth_eq, if_pos hrest, hlast]

theorem documentWidth_forNode (n : t.Node) : (req.forNode n).documentWidth = req.documentWidth := by
  rw [documentWidth_eq, documentWidth_eq]
  rfl

/-- On a blank line behind all text, the rule for a block looks only at where the text ends. -/
theorem widthInBlock_of_isBlank (h : (req.doc.lineHolding req.pos).isBlank = true) (anchor : Nat) :
    req.widthInBlock anchor true =
      req.node.widthBehindText req.doc req.level req.tab anchor := by
  unfold widthInBlock Tree.Node.widthBehindText
  cases req.node.childStartingBefore anchor with
  | none => simp [h, baseWidth]
  | some c =>
    by_cases hcolon : c.name = colonKind
    · -- A colon does not count as content, so the two exits for it give the same width.
      have hcontent : (some c).filter (·.name != colonKind) = none := by
        simp [Option.filter_some, hcolon]
      simp [h, hcolon, hcontent, baseWidth]
    · have hcontent : (some c).filter (·.name != colonKind) = some c := by
        simp [Option.filter_some, hcolon]
      simp [h, hcolon, hcontent, baseWidth, indentOfLine]

/-- Behind all text the rule for a block does not look at the position. -/
theorem widthInBlock_atPos (h : req.doc.TrailingAt pos) (h' : req.doc.TrailingAt pos')
    (anchor : Nat) :
    (req.atPos pos).widthInBlock anchor true = (req.atPos pos').widthInBlock anchor true := by
  rw [(req.atPos pos).widthInBlock_of_isBlank h.line,
    (req.atPos pos').widthInBlock_of_isBlank h'.line]
  rfl

/-- Behind all text, lines in a block that holds only its colon go one level deeper. -/
theorem widthInBlock_of_colon (h : (req.doc.lineHolding req.pos).isBlank = true) {anchor : Nat}
    (hcolon : ∀ c, req.node.childStartingBefore anchor = some c → c.name = colonKind) :
    req.widthInBlock anchor true = req.baseWidth + req.level := by
  rw [req.widthInBlock_of_isBlank h, Tree.Node.widthBehindText]
  cases hbefore : req.node.childStartingBefore anchor with
  | none => rfl
  | some c =>
    -- A colon does not leave the block.
    have hname := hcolon c hbefore
    simp [Tree.Node.leavesBlock, hname, colonKind, baseWidth]

/-- Behind all text the rule for documents does not look at the position, if the text ends in a
block. -/
theorem documentWidth_atPos (h : req.doc.TrailingAt pos) (h' : req.doc.TrailingAt pos')
    (hlast : (t.lastBlock? req.doc pos).isSome) :
    (req.atPos pos).documentWidth = (req.atPos pos').documentWidth := by
  obtain ⟨block, hblock⟩ := Option.isSome_iff_exists.mp hlast
  have hblock' := (t.lastBlock?_eq h' h).trans hblock
  rw [(req.atPos pos).documentWidth_of_lastBlock? h.rest hblock,
    (req.atPos pos').documentWidth_of_lastBlock? h'.rest hblock']
  show ((req.forNode block).atPos pos).widthInBlock (req.doc.endOfTextBefore pos) true =
    ((req.forNode block).atPos pos').widthInBlock (req.doc.endOfTextBefore pos') true
  rw [h.endOfTextBefore_eq h']
  exact (req.forNode block).widthInBlock_atPos h h' _

end IndentRequest

/-! ### The rule that decides -/

/-- A node that does not reach around `pos`, and is not the root, encloses where the search for a
style starts only if it ends at or before `pos` and the search has led to something unfinished. -/
theorem Indenter.stop_le_of_encloses_startNode {n : t.Node} (hroot : n ≠ t.root)
    (hn : n.admits pos .strict = false) (henc : n.encloses (startNode t pos)) :
    n.stop ≤ pos ∧ (startNode t pos).Unfinished := by
  -- Only the root and nodes around `pos` enclose the innermost node around `pos`.
  have hnot : ¬ n.encloses (t.root.innermostAt pos .strict) := by
    intro h
    rcases Tree.Node.innermostAt_root_cases t pos .strict with heq | hadmits
    · rw [heq] at h
      exact hroot (Tree.Node.encloses_antisymm h n.root_encloses)
    · rw [Tree.Node.admits_of_encloses h hadmits] at hn
      cases hn
  unfold startNode at henc ⊢
  rcases Tree.Node.unfinishedBefore_innermostAt t pos with heq | ⟨c, hc, hstop, hcenc, hunfinished⟩
  · rw [heq] at henc
    exact absurd henc hnot
  · refine ⟨?_, hunfinished⟩
    -- `c` is the child, in front of `pos`, in which the unfinished construct lies.
    rcases Tree.Node.encloses_total henc hcenc with h | h
    · obtain rfl | ⟨p, hp, hnp⟩ := Tree.Node.encloses_iff_parent?.mp h
      · exact hstop
      · obtain rfl : t.root.innermostAt pos .strict = p := Option.some.inj (hc.symm.trans hp)
        exact absurd hnp hnot
    · exact Nat.le_trans (Tree.Node.encloses_span h).2 hstop

namespace Python

/-- The node is a block or a document. -/
def isBlockOrDocument (n : t.Node) : Bool :=
  n.name == blockKind || n.name == documentKind

/-- The block that is entered in the search for a style at `pos`: the innermost block or document
around the place where the search starts, if that is a block. -/
def enteredBlock? (t : Tree) (pos : Nat) : Option t.Node :=
  ((Indenter.startNode t pos).ancestors.find? isBlockOrDocument).filter (·.name == blockKind)

/-- Without brackets, the style that applies is that of the innermost block or document. -/
theorem styleFor?_eq {s : Settings} (hbrackets : ∀ n : t.Node, brackets.lookup n.name = none)
    (nodes : List t.Node) :
    (indenter s).styleFor? nodes = (nodes.find? isBlockOrDocument).map fun n =>
      (n, if n.name = blockKind then .block else .document) := by
  unfold Indenter.styleFor?
  induction nodes with
  | nil => rfl
  | cons n nodes ih =>
    -- What is neither a block nor a document has no style.
    have hget : (indenter s).styles.get? n.name = if n.name = blockKind then some .block
        else if n.name = documentKind then some .document else none := by
      show (indentStyles s.align).get? n.name = _
      rw [get?_indentStyles, hbrackets n]
      rfl
    rw [List.findSome?_cons, List.find?_cons, hget, ih]
    by_cases hblock : n.name = blockKind
    · have hn : isBlockOrDocument n = true := by simp [isBlockOrDocument, hblock]
      simp only [hn, if_pos hblock, Option.map_some]
    by_cases hdocument : n.name = documentKind
    · have hn : isBlockOrDocument n = true := by simp [isBlockOrDocument, hdocument]
      simp only [hn, if_neg hblock, if_pos hdocument, Option.map_some]
    · have hn : isBlockOrDocument n = false := by simp [isBlockOrDocument, hblock, hdocument]
      simp only [hn, if_neg hblock, if_neg hdocument, Option.map_none]

/-- Without brackets, the width is that of the block entered, or that of the whole document. -/
theorem width_eq_enteredBlock? {s : Settings} (hroot : t.root.name = documentKind)
    (hbrackets : ∀ n : t.Node, brackets.lookup n.name = none) (d : Document) (pos : Nat) :
    (indenter s).width t d pos =
      match enteredBlock? t (d.snap pos) with
      | some block => ((indenter s).request d block (d.snap pos)).blockWidth
      | none => ((indenter s).request d t.root (d.snap pos)).documentWidth := by
  -- The root is a document, so there is an innermost block or document.
  obtain ⟨n, hn⟩ : ∃ n, (Indenter.startNode t (d.snap pos)).ancestors.find? isBlockOrDocument =
      some n := by
    rw [← Option.isSome_iff_exists, List.find?_isSome]
    refine ⟨t.root, Tree.Node.encloses_iff.mp (Tree.Node.root_encloses _), ?_⟩
    simp [isBlockOrDocument, hroot]
  rw [Indenter.width_eq, styleFor?_eq hbrackets]
  unfold enteredBlock?
  rw [hn]
  -- If it is a document, then which one it is does not matter to its rule.
  by_cases hblock : n.name = blockKind
  · simp only [Option.map_some, if_pos hblock, Option.filter_some, beq_iff_eq, IndentStyle.block]
  · simp only [Option.map_some, if_neg hblock, Option.filter_some, beq_iff_eq, IndentStyle.document]
    exact (((indenter s).request d t.root (d.snap pos)).documentWidth_forNode n)

/-- What is entered is a block around the place where the search starts. -/
theorem enteredBlock?_spec {block : t.Node} (h : enteredBlock? t pos = some block) :
    block.name = blockKind ∧ block.encloses (Indenter.startNode t pos) := by
  obtain ⟨hfind, hname⟩ := Option.filter_eq_some_iff.mp h
  exact ⟨beq_iff_eq.mp hname, Tree.Node.encloses_iff.mpr (List.mem_of_find?_eq_some hfind)⟩

end Python

/-- On a blank line behind all text, in a tree without brackets whose blocks end with their text:

* the width is the one under the rule for documents exactly if the rule of the block that is entered
  agrees, and so always if none is;
* a block that is entered ends at or before the line, has something unfinished in it, and its own
  rule decides on the width;
* on all such lines where no block is entered the width is the same, if the text ends in a block,
  and one level deeper than the block's construct if the block holds only its colon. -/
theorem trailing_width {s : Settings} (hroot : t.root.name = Python.documentKind)
    (hbrackets : ∀ n : t.Node, n.name ∉ Python.brackets.map (·.1))
    (hblocks : ∀ n : t.Node, n.name = blockKind → d.EndsWithText n.stop)
    (hpos : d.TrailingAt pos) :
    ((Python.indenter s).width t d pos =
        ((Python.indenter s).request d t.root (d.snap pos)).documentWidth ↔
      ∀ block, Python.enteredBlock? t (d.snap pos) = some block →
        ((Python.indenter s).request d block (d.snap pos)).blockWidth =
          ((Python.indenter s).request d t.root (d.snap pos)).documentWidth) ∧
    (∀ block, Python.enteredBlock? t (d.snap pos) = some block →
      block.name = blockKind ∧ block.stop ≤ d.snap pos ∧
      block.encloses (Indenter.startNode t (d.snap pos)) ∧
      (Indenter.startNode t (d.snap pos)).Unfinished ∧
      (Python.indenter s).width t d pos =
        ((Python.indenter s).request d block (d.snap pos)).blockWidth) ∧
    ∀ block, t.lastBlock? d pos = some block → Python.enteredBlock? t (d.snap pos) = none →
      (∀ pos', d.TrailingAt pos' → Python.enteredBlock? t (d.snap pos') = none →
        (Python.indenter s).width t d pos' = (Python.indenter s).width t d pos) ∧
      ((∀ c, block.childStartingBefore (d.endOfTextBefore pos) = some c → c.name = colonKind) →
        (Python.indenter s).width t d pos =
          block.baseWidth d (Python.indenter s).tab + (Python.indenter s).level) := by
  have hwidth := Python.width_eq_enteredBlock? (s := s) hroot
    (fun n => Python.lookup_brackets_eq_none (hbrackets n)) d
  refine ⟨?_, ?_, ?_⟩
  · rw [hwidth pos]
    cases Python.enteredBlock? t (d.snap pos) with
    | none => simp
    | some block => simp
  · intro block hsome
    obtain ⟨hname, henc⟩ := Python.enteredBlock?_spec hsome
    -- The root is a document and no block.
    have hne : block ≠ t.root := by
      rintro rfl
      rw [hroot] at hname
      exact absurd hname (by decide)
    have hadmits := Tree.Node.not_admits_of_trailing hpos.snap (hblocks block hname)
    obtain ⟨hstop, hunfinished⟩ := Indenter.stop_le_of_encloses_startNode hne hadmits henc
    refine ⟨hname, hstop, henc, hunfinished, ?_⟩
    rw [hwidth pos, hsome]
  · intro block hlast hnone
    refine ⟨?_, ?_⟩
    · intro pos' hpos' hnone'
      rw [hwidth pos, hwidth pos', hnone, hnone']
      apply ((Python.indenter s).request d t.root 0).documentWidth_atPos hpos'.snap hpos.snap
      rw [Option.isSome_iff_exists]
      exact ⟨block, (t.lastBlock?_eq hpos'.snap hpos).trans hlast⟩
    · intro hcolon
      have hsnap : d.endOfTextBefore (d.snap pos) = d.endOfTextBefore pos :=
        hpos.snap.endOfTextBefore_eq hpos
      have hlast' : t.lastBlock? d (d.snap pos) = some block :=
        (t.lastBlock?_eq hpos.snap hpos).trans hlast
      rw [hwidth pos, hnone]
      simp only
      rw [((Python.indenter s).request d t.root (d.snap pos)).documentWidth_of_lastBlock?
        hpos.snap.rest hlast']
      apply IndentRequest.widthInBlock_of_colon _ hpos.snap.line
      intro c hc
      apply hcolon c
      rw [← hsnap]
      exact hc

/-- The arena of `finishedIf`. -/
def finishedIfArena : Arena where
  kinds := #[.ofName "Script", .ofName "IfStatement", .ofName "if", .ofName "VariableName",
    .ofName "Body", .ofName ":"]
  nodes := #[{ kind := 0, span := ⟨0, 7⟩, parent := none, index := 0, children := ⟨4, 5⟩ },
    { kind := 1, span := ⟨0, 6⟩, parent := some 0, index := 0, children := ⟨1, 4⟩ },
    { kind := 2, span := ⟨0, 2⟩, parent := some 1, index := 0, children := ⟨0, 0⟩ },
    { kind := 3, span := ⟨3, 4⟩, parent := some 1, index := 1, children := ⟨0, 0⟩ },
    { kind := 4, span := ⟨4, 6⟩, parent := some 1, index := 2, children := ⟨0, 1⟩ },
    { kind := 5, span := ⟨4, 5⟩, parent := some 4, index := 0, children := ⟨0, 0⟩ }]
  childTable := #[5, 2, 3, 4, 1]

/-- The tree of the line `if x:` and an empty line, with nothing marked as missing. -/
def finishedIf : Tree where
  toArena := finishedIfArena
  wellFormed := Arena.check_eq_ok_iff.mp (show finishedIfArena.check = .ok () from rfl)

/-- Both blank lines behind a colon are one level deeper. -/
theorem trailing_width_finishedIf :
    (Python.indenter {}).width finishedIf (.ofString "if x:\n\n") 6 =
        ((Python.indenter {}).request (.ofString "if x:\n\n") finishedIf.root 6).documentWidth ∧
      (Python.indenter {}).width finishedIf (.ofString "if x:\n\n") 7 =
        (Python.indenter {}).width finishedIf (.ofString "if x:\n\n") 6 ∧
      (Python.indenter {}).width finishedIf (.ofString "if x:\n\n") 6 = 4 := by
  obtain ⟨hiff, -, hsame⟩ := trailing_width (t := finishedIf) (d := .ofString "if x:\n\n") (s := {})
    (by decide +kernel) (by decide +kernel) (by decide +kernel)
    (show Document.TrailingAt _ 6 from ⟨by decide +kernel, by decide +kernel⟩)
  have hsnap : (Document.ofString "if x:\n\n").snap 6 = 6 := by decide +kernel
  have hnone : Python.enteredBlock? finishedIf 6 = none := by decide +kernel
  rw [hsnap] at hiff hsame
  obtain ⟨heq, hdeeper⟩ := hsame ⟨4, by decide⟩ (by decide +kernel) hnone
  refine ⟨hiff.mpr fun block h => ?_, ?_, ?_⟩
  · rw [hnone] at h
    cases h
  · exact heq 7 ⟨by decide +kernel, by decide +kernel⟩ (by decide +kernel)
  · rw [hdeeper (by decide +kernel)]
    decide +kernel

/-- Behind a colon with something marked as missing, the blank line keeps its indentation, although
it lies behind all text, there are no brackets, and the block ends with the line of its colon. -/
theorem width_unfinishedIf :
    (unfinishedIf.root.name = Python.documentKind ∧ unfinishedIf.root.span = ⟨0, 6⟩ ∧
        (Document.ofString "if x:\n").size = 6) ∧
      (∀ n : unfinishedIf.Node, n.name ∉ Python.brackets.map (·.1)) ∧
      (∀ n : unfinishedIf.Node, n.name = blockKind →
        (Document.ofString "if x:\n").EndsWithText n.stop) ∧
      (Document.ofString "if x:\n").TrailingAt 6 ∧
      (Python.indenter {}).width unfinishedIf (.ofString "if x:\n") 6 = 0 ∧
      ((Python.indenter {}).request (.ofString "if x:\n") unfinishedIf.root 6).documentWidth = 4 :=
  ⟨by decide +kernel, by decide +kernel, by decide +kernel,
    ⟨by decide +kernel, by decide +kernel⟩, by decide +kernel, by decide +kernel⟩

/-! ### All blank lines at the end -/

/-- If the last text before a blank line behind all text lies in a block, then the rule for
documents gives the same width on every such line, for whatever node it is asked. It is the width of
the deepest block around the last text, and depends only on where that text ends. -/
theorem documentWidth_behind_text (req : IndentRequest t) {p q : Nat}
    (hp : req.doc.TrailingAt p) (hq : req.doc.TrailingAt q)
    (hblock : ∃ b : t.Node,
      b.encloses (req.node.innermostAt (req.doc.endOfTextBefore p) .left) ∧ b.name = blockKind) :
    (req.atPos p).documentWidth = (req.atPos q).documentWidth ∧
      ∃ block : t.Node,
        Tree.Node.Deepest (fun b : t.Node =>
          b.encloses (req.node.innermostAt (req.doc.endOfTextBefore p) .left) ∧
            b.name = blockKind) block ∧
        (req.atPos p).documentWidth =
          block.widthBehindText req.doc req.level req.tab (req.doc.endOfTextBefore p) := by
  have hroot := Tree.Node.innermostAt_eq_root (show Bias.left ≠ .strict by decide) req.node
    (req.doc.endOfTextBefore p)
  rw [hroot] at hblock ⊢
  obtain ⟨block, hlast⟩ : ∃ block, t.lastBlock? req.doc p = some block := by
    obtain ⟨b, henc, hname⟩ := hblock
    rw [← Option.isSome_iff_exists, Tree.lastBlock?, List.find?_isSome]
    exact ⟨b, Tree.Node.encloses_iff.mp henc, beq_iff_eq.mpr hname⟩
  have hsome : (t.lastBlock? req.doc p).isSome := Option.isSome_iff_exists.mpr ⟨block, hlast⟩
  refine ⟨req.documentWidth_atPos hp hq hsome, block, ?_, ?_⟩
  · simpa using Tree.Node.deepest_of_find?_ancestors hlast
  · rw [(req.atPos p).documentWidth_of_lastBlock? hp.rest hlast]
    exact IndentRequest.widthInBlock_of_isBlank _ hp.line _

/-- A text whose last line holds an ideographic space and ends in a carriage return and a line
feed. -/
def wideBlankText : Document :=
  .ofString "if x:\r\n\u3000\r\n"

/-- Offset `8` lies inside the ideographic space and offset `11` inside the line break behind it,
and at both a line goes one level deeper than the `if`. -/
theorem documentWidth_behind_text_wideBlank :
    ((Python.indenter {}).request wideBlankText finishedIf.root 8).documentWidth = 4 ∧
      ((Python.indenter {}).request wideBlankText finishedIf.root 8).documentWidth =
        ((Python.indenter {}).request wideBlankText finishedIf.root 11).documentWidth := by
  obtain ⟨hsame, -⟩ := documentWidth_behind_text
    ((Python.indenter {}).request wideBlankText finishedIf.root 0) (p := 8) (q := 11)
    ⟨by decide +kernel, by decide +kernel⟩ ⟨by decide +kernel, by decide +kernel⟩
    ⟨⟨4, by decide⟩, by decide +kernel, by decide +kernel⟩
  exact ⟨by decide +kernel, hsame⟩

end TreeAssist
