import TreeAssist.Proofs.Indent.Styles
import TreeAssist.Proofs.Text.Lines

/-!
# What an indentation depends on

The styles for Python read the document at or before the position of the request, on the line of
the position, or only ask whether the rest is blank. So in documents that agree below some limit
(`Document.AgreeBelow`) a request below the limit gets the same width: line by line for the base
line (`Node.baseLineFrom_congr`), style by style (`IndentStyle.ReadsNoFurther`), and for the whole
search (`Indenter.width_congr`). Alignment is the exception, since it looks at the end of the line
of the opening delimiter.

Main statement: `width_eq_of_blank_iff`.
-/

namespace TreeAssist

open Text

variable {t : Tree} {d d' : Document} {limit : Nat}

namespace Tree.Node

/-- Going back to the base line only meets lines below the limit. -/
theorem baseLineFrom_congr (h : d.AgreeBelow d' limit) (n : t.Node) {line : Line}
    (hline : line.start < limit) : n.baseLineFrom d line = n.baseLineFrom d' line := by
  fun_induction baseLineFrom d n line with
  | case1 line hstop => rw [baseLineFrom, if_pos hstop]
  | case2 line hgo ih =>
    -- The construct at the start of the line begins in front of it.
    have hlt : (n.constructAt line.start).start < line.start := by
      rw [not_or, Nat.not_le] at hgo
      exact hgo.2
    have hle := d.start_lineHolding_le (n.constructAt line.start).start
    rw [ih (by omega), h.lineHolding _ (Nat.lt_trans hlt hline)]
    conv_rhs => rw [baseLineFrom, if_neg hgo]

/-- The base indentation of a node is the same in both documents. -/
theorem baseWidth_congr (h : d.AgreeBelow d' limit) {n : t.Node} (hn : n.start < limit)
    (tab : Nat) : n.baseWidth d tab = n.baseWidth d' tab := by
  have hle := d.start_lineHolding_le n.start
  unfold baseWidth baseLine
  rw [← h.lineHolding _ hn, baseLineFrom_congr h n (by omega)]

end Tree.Node

namespace IndentRequest

variable {req : IndentRequest t}

/-- The same request in another document. -/
def inDoc (req : IndentRequest t) (d : Document) : IndentRequest t :=
  { req with doc := d }

@[simp]
theorem inDoc_node (d : Document) : (req.inDoc d).node = req.node := rfl

@[simp]
theorem inDoc_pos (d : Document) : (req.inDoc d).pos = req.pos := rfl

@[simp]
theorem inDoc_doc (d : Document) : (req.inDoc d).doc = d := rfl

@[simp]
theorem inDoc_level (d : Document) : (req.inDoc d).level = req.level := rfl

@[simp]
theorem inDoc_forNode (d : Document) (n : t.Node) :
    (req.inDoc d).forNode n = (req.forNode n).inDoc d := rfl

theorem baseWidth_inDoc (h : req.doc.AgreeBelow d limit) (hnode : req.node.start < limit) :
    (req.inDoc d).baseWidth = req.baseWidth :=
  (Tree.Node.baseWidth_congr h hnode req.tab).symm

theorem indentOfLine_inDoc (h : req.doc.AgreeBelow d limit) {pos : Nat} (hpos : pos < limit) :
    (req.inDoc d).indentOfLine pos = req.indentOfLine pos :=
  (h.indentOfLine hpos req.tab).symm

/-- The rule for blocks reads nothing beyond the position and the anchor. -/
theorem widthInBlock_inDoc (h : req.doc.AgreeBelow d limit) (hnode : req.node.start < limit)
    (hpos : req.pos < limit) {anchor : Nat} (hanchor : anchor ≤ limit) (trailing : Bool) :
    (req.inDoc d).widthInBlock anchor trailing = req.widthInBlock anchor trailing := by
  -- The node's place in the tree decides on the branch, the document only on the widths.
  unfold widthInBlock
  simp only [inDoc_node, inDoc_pos, inDoc_doc, inDoc_level, baseWidth_inDoc h hnode,
    indentOfLine_inDoc h hpos, ← h.lineHolding _ hpos]
  cases hbefore : (req.node.childStartingBefore anchor).filter (·.name != colonKind) with
  | none => rfl
  | some statement =>
    -- A statement before the anchor starts below the limit.
    have hchild := (Option.filter_eq_some_iff.mp hbefore).1
    have hstart := (Tree.Node.childStartingBefore_eq_some_iff.mp hchild).2.1
    simp only [indentOfLine_inDoc h (Nat.lt_of_lt_of_le hstart hanchor)]

/-- The rule for documents reads nothing beyond the position. -/
theorem documentWidth_inDoc (h : req.doc.AgreeBelow d limit) (hroot : t.root.start = 0)
    (hpos : req.pos < limit) : (req.inDoc d).documentWidth = req.documentWidth := by
  have hanchor := req.doc.endOfTextBefore_le req.pos
  unfold documentWidth
  simp only [inDoc_node, inDoc_pos, inDoc_doc, inDoc_forNode, ← h.onlyBlanksFrom _ hpos,
    ← h.endOfTextBefore hpos, indentOfLine_inDoc h hpos]
  cases hblock : (req.node.innermostAt (req.doc.endOfTextBefore req.pos) .left).ancestors.find?
      (·.name == blockKind) with
  | none => rfl
  | some block =>
    have hle := Tree.Node.start_le_of_find?_innermostAt (by omega) hblock
    have hstart : block.start < limit := by omega
    have hwidth := widthInBlock_inDoc (show (req.forNode block).doc.AgreeBelow d limit from h)
      hstart hpos (Nat.le_of_lt (Nat.lt_of_le_of_lt hanchor hpos)) true
    simp only [hwidth]

/-- The rule for brackets reads nothing beyond the line of the position, unless it aligns. -/
theorem bracketedWidth_inDoc (h : req.doc.AgreeBelow d limit) (hnode : req.node.start < limit)
    (hpos : req.pos < limit) (closing : String) (levels : Nat) :
    (req.inDoc d).bracketedWidth closing false levels =
      req.bracketedWidth closing false levels := by
  have hclosing : (req.inDoc d).startsWithClosing closing = req.startsWithClosing closing := by
    unfold startsWithClosing
    rw [inDoc_doc, inDoc_pos, h.restOfLine hpos]
  unfold bracketedWidth
  rw [hclosing, baseWidth_inDoc h hnode, inDoc_level]
  rfl

end IndentRequest

/-! ### Styles -/

namespace IndentStyle

/-- The style reads nothing beyond the line of the position: a request gets the same width in all
documents that agree up to a point behind the position and the start of the node. -/
def ReadsNoFurther (style : IndentStyle) : Prop :=
  ∀ {t : Tree} {req : IndentRequest t} {d : Document} {limit : Nat}, t.root.start = 0 →
    req.doc.AgreeBelow d limit → req.node.start < limit → req.pos < limit →
    style.width (req.inDoc d) = style.width req

theorem readsNoFurther_block : block.ReadsNoFurther :=
  fun _ h hnode hpos => IndentRequest.widthInBlock_inDoc h hnode hpos (Nat.le_of_lt hpos) false

theorem readsNoFurther_document : document.ReadsNoFurther :=
  fun hroot h _ hpos => IndentRequest.documentWidth_inDoc h hroot hpos

/-- Without alignment. -/
theorem readsNoFurther_bracketed (closing : String) (levels : Nat) :
    (bracketed closing false levels).ReadsNoFurther :=
  fun _ h hnode hpos => IndentRequest.bracketedWidth_inDoc h hnode hpos closing levels

end IndentStyle

/-- With styles that read nothing beyond the line of the position, an indenter gives a line the same
width in all documents that agree up to a point behind the position. -/
theorem Indenter.width_congr {s : Indenter} (hstyles : s.styles.All IndentStyle.ReadsNoFurther)
    (h : d.AgreeBelow d' limit) (hroot : t.root.start = 0) {pos : Nat} (hpos : pos < limit) :
    s.width t d pos = s.width t d' pos := by
  have hsnap : d.snap pos < limit := Nat.lt_of_le_of_lt (d.snap_le pos) hpos
  rw [width_eq, width_eq, ← h.snap hpos]
  cases hstyle : s.styleFor? (startNode t (d.snap pos)).ancestors with
  | none => exact h.indentOfLine hsnap s.tab
  | some found =>
    obtain ⟨n, style⟩ := found
    have hget := (mem_of_styleFor? hstyle).2
    have hle := start_le_of_styleFor? (by omega) hstyle
    have hnode : n.start < limit := by omega
    exact (hstyles _ _ hget hroot
      (show (s.request d n (d.snap pos)).doc.AgreeBelow d' limit from h) hnode hsnap).symm

/-- The width for a position depends on nothing behind the line feed that ends its line, except on
whether only blanks follow: any two continuations of the text that are both blank or both not give
the same width. -/
theorem width_eq_of_blank_iff (hroot : t.root.start = 0) {s : Settings} (halign : s.align = false)
    {cs : List Char} (hcs : cs.getLast? = some '\n') {pos : Nat} (hpos : pos < byteLength cs)
    {ds ds' : List Char} (hblank : ds.all isBlank = true ↔ ds'.all isBlank = true) :
    (Python.indenter s).width t ⟨cs ++ ds⟩ pos = (Python.indenter s).width t ⟨cs ++ ds'⟩ pos := by
  refine Indenter.width_congr ?_ (Document.agreeBelow_append hcs (Bool.eq_iff_iff.mpr hblank)) hroot
    hpos
  show (Python.indentStyles s.align).All IndentStyle.ReadsNoFurther
  rw [halign]
  exact Python.all_indentStyles IndentStyle.readsNoFurther_block IndentStyle.readsNoFurther_document
    fun closing => IndentStyle.readsNoFurther_bracketed closing 1

/-- Whether the document ends behind an empty line or goes on with blanks does not matter there. -/
theorem width_eq_of_blank_iff_unfinishedIf :
    (Python.indenter {}).width unfinishedIf ⟨"if x:\n\n".toList ++ []⟩ 6 =
      (Python.indenter {}).width unfinishedIf ⟨"if x:\n\n".toList ++ " \n\t".toList⟩ 6 :=
  width_eq_of_blank_iff (by decide +kernel) rfl (by decide) (by decide) (by decide)

end TreeAssist
