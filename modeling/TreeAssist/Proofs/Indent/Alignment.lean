import TreeAssist.Indent.Style
import TreeAssist.Proofs.Text.Columns
import TreeAssist.Proofs.Tree.Order
import TreeAssist.Proofs.Tree.Search

/-!
# Where aligned lines are put

With alignment, the lines of a bracketed construct are put under the end of its opening delimiter,
if content follows the delimiter on its line (`IndentRequest.bracketedWidth_of_opener`). The content
begins on that line, at or behind the end of the delimiter
(`Node.stop_le_start_contentBehind`, `IndentRequest.start_contentBehind_lt`), so its column is
greater by at least the number of characters between the two.

Main statement: `aligned_width`. The lines stand under the content exactly if it follows the
delimiter at once; a blank between the two keeps them apart (`aligned_width_ne_spacedCall`).
-/

namespace TreeAssist

variable {t : Tree}

namespace Tree.Node

/-- The child that ends after an offset is a child. -/
theorem parent?_of_childEndingAfter {n c : t.Node} {pos : Nat}
    (h : n.childEndingAfter pos = some c) : c.parent? = some n := by
  obtain ⟨hk, rfl⟩ := child?_eq_some_iff.mp h
  exact n.parent?_child _ hk

/-- The first content is a child that ends behind the offset and is not a comment. -/
theorem firstContent_spec {n c : t.Node} {pos : Nat} (h : n.firstContent pos = some c) :
    c.parent? = some n ∧ pos < c.stop ∧ c.name ≠ commentKind := by
  fun_induction firstContent n pos with
  | case1 => cases h
  | case2 => cases h
  | case3 pos c' hc' hlast hcomment ih =>
    -- The search goes on behind a comment, which ends behind the offset.
    obtain ⟨hparent, hstop, hname⟩ := ih h
    have hcomment_stop := (stop_of_childEndingAfter hc').1
    exact ⟨hparent, Nat.lt_trans hcomment_stop hstop, hname⟩
  | case4 pos c' hc' hlast hcomment =>
    cases h
    exact ⟨parent?_of_childEndingAfter hc', (stop_of_childEndingAfter hc').1, hcomment⟩

/-- The first child of `n` that ends behind `o` and is not a comment. -/
def contentBehind (n o : t.Node) : Option t.Node :=
  n.children.find? fun c => o.stop < c.stop ∧ c.name ≠ commentKind

/-- What is found behind a child starts at or behind its end. -/
theorem stop_le_start_contentBehind {n o c : t.Node} (ho : o.parent? = some n)
    (h : n.contentBehind o = some c) : o.stop ≤ c.start := by
  have hparent := mem_children_iff.mp (List.mem_of_find?_eq_some h)
  have hstop : o.stop < c.stop := by
    have hfound := List.find?_some h
    simp only [decide_eq_true_eq] at hfound
    exact hfound.1
  have hne : o ≠ c := by
    rintro rfl
    exact Nat.lt_irrefl _ hstop
  -- Of two children one ends before the other starts, and `c` ends last.
  have hsides := sibling_disjoint ho hparent hne
  have hle := o.start_le_stop
  omega

/-- Of the children that end behind `o` and are not comments, the one found starts first. -/
theorem start_contentBehind_le {n o c c' : t.Node} (h : n.contentBehind o = some c)
    (hparent : c'.parent? = some n) (hstop : o.stop < c'.stop) (hname : c'.name ≠ commentKind) :
    c.start ≤ c'.start := by
  obtain ⟨-, before, behind, hsplit, hbefore⟩ := List.find?_eq_some_iff_append.mp h
  have horder := n.pairwise_children
  have hmem := mem_children_iff.mpr hparent
  rw [hsplit] at horder hmem
  rcases List.mem_append.mp hmem with hc' | hc'
  · have hnot := hbefore c' hc'
    simp [hstop, hname] at hnot
  rcases List.mem_cons.mp hc' with rfl | hc'
  · exact Nat.le_refl _
  · have hcons := (List.pairwise_append.mp horder).2.1
    exact Nat.le_trans c.start_le_stop ((List.pairwise_cons.mp hcons).1 c' hc')

end Tree.Node

namespace IndentRequest

variable {req : IndentRequest t} {o c : t.Node}

/-- Content counts only if it starts before this offset: the end of the line on which the opener
starts, or the position, if that lies behind the start of the line and before its end. -/
def alignmentLimit (req : IndentRequest t) (o : t.Node) : Nat :=
  if (req.doc.lineHolding o.start).start < req.pos then
    min (req.doc.lineHolding o.start).stop req.pos
  else (req.doc.lineHolding o.start).stop

/-- The opener is the first child that ends behind the start of the node, if content starts behind
it and before the limit. -/
theorem alignmentOpener_eq_some_iff :
    req.alignmentOpener = some o ↔
      req.node.childEndingAfter req.node.start = some o ∧
        ∃ c, req.node.firstContent o.stop = some c ∧ c.start < req.alignmentLimit o := by
  constructor
  · intro h
    obtain ⟨o', ho, h⟩ := Option.bind_eq_some_iff.mp h
    obtain ⟨c, hc, h⟩ := Option.bind_eq_some_iff.mp h
    obtain ⟨hlt, heq⟩ := Option.ite_none_right_eq_some.mp h
    cases heq
    exact ⟨ho, c, hc, hlt⟩
  · rintro ⟨ho, c, hc, hlt⟩
    refine Option.bind_eq_some_iff.mpr ⟨o, ho, ?_⟩
    exact Option.bind_eq_some_iff.mpr ⟨c, hc, if_pos hlt⟩

/-- The opener is the first child that ends behind the start of the node, and content follows it on
its line. -/
theorem exists_content_of_opener (h : req.alignmentOpener = some o) :
    req.node.childEndingAfter req.node.start = some o ∧
      ∃ content, req.node.firstContent o.stop = some content ∧
        content.start < (req.doc.lineHolding o.start).stop := by
  obtain ⟨ho, content, hcontent, hlt⟩ := alignmentOpener_eq_some_iff.mp h
  refine ⟨ho, content, hcontent, ?_⟩
  -- The position may only lower the limit.
  unfold alignmentLimit at hlt
  split at hlt
  · exact Nat.lt_of_lt_of_le hlt (Nat.min_le_left _ _)
  · exact hlt

/-- Where there is an opener, lines that do not begin with the closing delimiter are put under its
end. -/
theorem bracketedWidth_of_opener (h : req.alignmentOpener = some o) {closing : String}
    (hclosing : req.startsWithClosing closing = false) (levels : Nat) :
    req.bracketedWidth closing true levels = req.columnOf o.stop := by
  unfold bracketedWidth
  simp [h, hclosing]

/-- The first child behind the opener that is not a comment starts on the opener's line. -/
theorem start_contentBehind_lt (h : req.alignmentOpener = some o)
    (hc : req.node.contentBehind o = some c) : c.start < (req.doc.lineHolding o.start).stop := by
  obtain ⟨-, content, hcontent, hlt⟩ := exists_content_of_opener h
  obtain ⟨hparent, hstop, hname⟩ := Tree.Node.firstContent_spec hcontent
  -- The search may pass over `c`, if `c` is empty and touches a comment, but never stops before it.
  exact Nat.lt_of_le_of_lt (Tree.Node.start_contentBehind_le hc hparent hstop hname) hlt

end IndentRequest

/-- Where alignment finds an opener, a line that does not begin with the closing delimiter is put
under the end of the opener. With `c` the first child behind the opener that is not a comment, this
is short of the column of `c` by at least one column for each character between the two, and is the
column of `c` exactly if there is none. -/
theorem aligned_width {req : IndentRequest t} {o c : t.Node} {closing : String}
    (ho : req.alignmentOpener = some o) (hc : req.node.contentBehind o = some c)
    (hclosing : req.startsWithClosing closing = false) (levels : Nat) :
    req.bracketedWidth closing true levels = req.columnOf o.stop ∧
      req.bracketedWidth closing true levels + (req.doc.charsBetween o.stop c.start).length ≤
        req.columnOf c.start ∧
      (req.bracketedWidth closing true levels = req.columnOf c.start ↔
        req.doc.charsBetween o.stop c.start = []) := by
  have hwidth := IndentRequest.bracketedWidth_of_opener ho hclosing levels
  have hfirst := (IndentRequest.exists_content_of_opener ho).1
  have hopener := Tree.Node.parent?_of_childEndingAfter hfirst
  have hstart := Tree.Node.stop_le_start_contentBehind hopener hc
  have hlt := IndentRequest.start_contentBehind_lt ho hc
  -- The end of the opener lies on the line on which the opener starts.
  have hline : req.doc.lineHolding o.stop = req.doc.lineHolding o.start :=
    Document.lineHolding_eq_of_lt_stop o.start_le_stop (by omega)
  rw [← hline] at hlt
  rw [hwidth]
  exact ⟨rfl, Document.columnOf_add_length_le hstart hlt req.tab,
    Document.columnOf_eq_iff hstart hlt req.tab⟩

/-- The arena of `spacedCall`. -/
def spacedCallArena : Arena where
  kinds := #[.ofName "Script", .ofName "CallExpression", .ofName "VariableName", .ofName "ArgList",
    .ofName "(", .ofName ",", .ofName ")"]
  nodes := #[{ kind := 0, span := ⟨0, 13⟩, parent := none, index := 0, children := ⟨7, 8⟩ },
    { kind := 1, span := ⟨0, 13⟩, parent := some 0, index := 0, children := ⟨5, 7⟩ },
    { kind := 2, span := ⟨0, 5⟩, parent := some 1, index := 0, children := ⟨0, 0⟩ },
    { kind := 3, span := ⟨5, 13⟩, parent := some 1, index := 1, children := ⟨0, 5⟩ },
    { kind := 4, span := ⟨5, 6⟩, parent := some 3, index := 0, children := ⟨0, 0⟩ },
    { kind := 2, span := ⟨7, 8⟩, parent := some 3, index := 1, children := ⟨0, 0⟩ },
    { kind := 5, span := ⟨8, 9⟩, parent := some 3, index := 2, children := ⟨0, 0⟩ },
    { kind := 2, span := ⟨11, 12⟩, parent := some 3, index := 3, children := ⟨0, 0⟩ },
    { kind := 6, span := ⟨12, 13⟩, parent := some 3, index := 4, children := ⟨0, 0⟩ }]
  childTable := #[4, 5, 6, 7, 8, 2, 3, 1]

/-- The tree of `print( a, b)`, with a line break and a space in front of `b`. -/
def spacedCall : Tree where
  toArena := spacedCallArena
  wellFormed := Arena.check_eq_ok_iff.mp (show spacedCallArena.check = .ok () from rfl)

/-- The request for the indentation of the second line of `spacedCall`, under the rule for its
arguments. -/
def spacedCallRequest : IndentRequest spacedCall where
  node := ⟨3, by decide⟩
  pos := 10
  doc := .ofString "print( a,\n b)"
  level := 4
  tab := 4

/-- In `print( a,` the next line is put at least one column in front of `a`. -/
theorem aligned_width_spacedCall :
    spacedCallRequest.doc.charsBetween 6 7 = [' '] ∧
      spacedCallRequest.bracketedWidth ")" true 1 = spacedCallRequest.columnOf 6 ∧
      spacedCallRequest.bracketedWidth ")" true 1 + 1 ≤ spacedCallRequest.columnOf 7 ∧
      (spacedCallRequest.bracketedWidth ")" true 1 = spacedCallRequest.columnOf 7 ↔
        spacedCallRequest.doc.charsBetween 6 7 = []) :=
  ⟨by decide +kernel, aligned_width (o := ⟨4, by decide⟩) (c := ⟨5, by decide⟩)
    (by decide +kernel) (by decide +kernel) (by decide +kernel) 1⟩

/-- In `print( a,` the first argument follows the opener on its line, before the position and not as
the last child, but the next line is not put under it. -/
theorem aligned_width_ne_spacedCall :
    ∃ o c : spacedCall.Node, spacedCallRequest.alignmentOpener = some o ∧
      spacedCallRequest.node.contentBehind o = some c ∧
      spacedCallRequest.node.lastChild? ≠ some c ∧
      c.start < min (spacedCallRequest.doc.lineHolding o.start).stop spacedCallRequest.pos ∧
      spacedCallRequest.startsWithClosing ")" = false ∧
      spacedCallRequest.bracketedWidth ")" true 1 ≠ spacedCallRequest.columnOf c.start :=
  ⟨⟨4, by decide⟩, ⟨5, by decide⟩, by decide +kernel⟩

end TreeAssist
