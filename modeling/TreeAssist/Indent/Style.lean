import TreeAssist.Indent.Width
import TreeAssist.Tree.Matching

/-!
# Indentation rules

An `IndentStyle` is the way in which the nodes of a kind indent the lines inside them: any function
from requests to widths that cannot tell matching trees apart. It may look at all that a request
holds, at names and spans, and follow links and searches, but not ask at which index a record is
stored.

* `block`, `document` and `bracketed` are the styles of blocks, whole documents and bracketed
  constructs.
* `deeper` goes a fixed number of levels deeper than the construct. It is the plainest of the styles
  that may be added to these.

A request moved along a matching (`Tree.Matching.request`) gets the same width under each of them,
since every search that they make in one tree is the image of the search in the other
(`Tree.Matching.baseLineFrom_apply`, `Tree.Matching.firstContent_apply`).
-/

namespace TreeAssist

namespace Tree.Matching

open Node

variable {t t' : Tree} (e : Matching t t') (n : t.Node)

/-! ### Searches -/

@[simp]
theorem outermostFromStart_apply : (e n).outermostFromStart = e n.outermostFromStart := by
  fun_induction outermostFromStart n with
  | case1 n hp =>
    rw [outermostFromStart_eq, e.parent?_apply, hp]
    rfl
  | case2 n p hp hstart ih =>
    rw [outermostFromStart_eq, e.parent?_apply, hp]
    simp [hstart, ih]
  | case3 n p hp hstart =>
    rw [outermostFromStart_eq, e.parent?_apply, hp]
    simp [hstart]

@[simp]
theorem constructAt_apply (offset : Nat) :
    (e n).constructAt offset = e (n.constructAt offset) := by
  simp [constructAt]

/-- Both trees lead back over the same lines. -/
theorem baseLineFrom_apply (d : Document) (line : Line) :
    (e n).baseLineFrom d line = n.baseLineFrom d line := by
  -- Whether a line is left depends on a construct's start and on whether it encloses the node.
  fun_induction baseLineFrom d n line with
  | case1 line hstop => rw [baseLineFrom, if_pos (by simpa using hstop)]
  | case2 line hgo ih =>
    rw [baseLineFrom, if_neg (by simpa using hgo)]
    simpa using ih

@[simp]
theorem baseWidth_apply (d : Document) (tab : Nat) :
    (e n).baseWidth d tab = n.baseWidth d tab := by
  simp [baseWidth, baseLine, baseLineFrom_apply]

@[simp]
theorem leavesBlock_apply (pos : Nat) : (e n).leavesBlock pos = n.leavesBlock pos := by
  simp [leavesBlock]

@[simp]
theorem firstContent_apply (pos : Nat) :
    (e n).firstContent pos = (n.firstContent pos).map e := by
  fun_induction firstContent n pos with
  | case1 pos hnone =>
    rw [firstContent_eq, e.childEndingAfter_apply, hnone]
    rfl
  | case2 pos c hc hlast =>
    rw [firstContent_eq, e.childEndingAfter_apply, hc]
    simp [hlast]
  | case3 pos c hc hlast hname ih =>
    rw [firstContent_eq, e.childEndingAfter_apply, hc]
    simp [hlast, hname, ih]
  | case4 pos c hc hlast hname =>
    rw [firstContent_eq, e.childEndingAfter_apply, hc]
    simp [hlast, hname]

/-! ### Requests -/

/-- The request for the node paired with that of `req`. -/
def request (req : IndentRequest t) : IndentRequest t' :=
  { node := e req.node, pos := req.pos, doc := req.doc, level := req.level, tab := req.tab }

variable (req : IndentRequest t)

@[simp]
theorem request_node : (e.request req).node = e req.node := rfl

@[simp]
theorem request_pos : (e.request req).pos = req.pos := rfl

@[simp]
theorem request_doc : (e.request req).doc = req.doc := rfl

@[simp]
theorem request_level : (e.request req).level = req.level := rfl

@[simp]
theorem request_forNode : (e.request req).forNode (e n) = e.request (req.forNode n) := rfl

@[simp]
theorem request_indentOfLine (pos : Nat) :
    (e.request req).indentOfLine pos = req.indentOfLine pos := rfl

@[simp]
theorem request_columnOf (pos : Nat) : (e.request req).columnOf pos = req.columnOf pos := rfl

@[simp]
theorem request_startsWithClosing (closing : String) :
    (e.request req).startsWithClosing closing = req.startsWithClosing closing := rfl

@[simp]
theorem baseWidth_request : (e.request req).baseWidth = req.baseWidth :=
  e.baseWidth_apply req.node req.doc req.tab

@[simp]
theorem widthInBlock_request (anchor : Nat) (trailing : Bool) :
    (e.request req).widthInBlock anchor trailing = req.widthInBlock anchor trailing := by
  -- Names and spans choose the branch, and all but one of the widths come from the request alone.
  unfold IndentRequest.widthInBlock
  simp only [request_node, request_pos, request_doc, request_level, request_indentOfLine,
    baseWidth_request, childStartingBefore_apply, innermostAt_apply, name_apply, leavesBlock_apply,
    Option.any_map, Option.filter_map, Function.comp_def]
  cases (req.node.childStartingBefore anchor).filter (·.name != colonKind) with
  | none => rfl
  | some statement => simp

@[simp]
theorem documentWidth_request : (e.request req).documentWidth = req.documentWidth := by
  unfold IndentRequest.documentWidth
  simp only [request_node, request_pos, request_doc, request_indentOfLine, innermostAt_apply,
    ancestors_apply, name_apply, List.find?_map, Function.comp_def]
  cases (req.node.innermostAt (req.doc.endOfTextBefore req.pos) .left).ancestors.find?
      (·.name == blockKind) with
  | none => rfl
  | some block => simp

@[simp]
theorem alignmentOpener_request : (e.request req).alignmentOpener = req.alignmentOpener.map e := by
  unfold IndentRequest.alignmentOpener
  simp only [request_node, request_pos, request_doc, start_apply, childEndingAfter_apply]
  cases req.node.childEndingAfter req.node.start with
  | none => rfl
  | some opener =>
    cases hcontent : req.node.firstContent opener.stop with
    | none => simp [hcontent]
    | some content => simp [hcontent]

@[simp]
theorem bracketedWidth_request (closing : String) (align : Bool) (levels : Nat) :
    (e.request req).bracketedWidth closing align levels =
      req.bracketedWidth closing align levels := by
  unfold IndentRequest.bracketedWidth
  simp only [request_startsWithClosing, request_columnOf, request_level, alignmentOpener_request,
    baseWidth_request]
  cases align with
  | false => rfl
  | true =>
    cases req.alignmentOpener with
    | none => rfl
    | some opener => simp

end Tree.Matching

/-! ### Styles -/

/-- How the lines inside a node are indented. -/
structure IndentStyle where
  /-- The width that the style gives. -/
  width : {t : Tree} → IndentRequest t → Nat
  /-- Requests for paired nodes get the same width. -/
  width_request : ∀ {t t' : Tree} (e : t.Matching t') (req : IndentRequest t),
    width (e.request req) = width req

namespace IndentStyle

/-- As a block that a colon opens. -/
def block : IndentStyle where
  width req := req.blockWidth
  width_request e req := e.widthInBlock_request req req.pos false

/-- As a whole document. -/
def document : IndentStyle where
  width req := req.documentWidth
  width_request e req := e.documentWidth_request req

/-- A number of levels deeper than the construct. -/
def deeper (levels : Nat) : IndentStyle where
  width req := req.baseWidth + levels * req.level
  width_request e req := by rw [e.baseWidth_request, e.request_level]

/-- As a bracketed construct. -/
def bracketed (closing : String) (align : Bool) (levels : Nat) : IndentStyle where
  width req := req.bracketedWidth closing align levels
  width_request e req := e.bracketedWidth_request req closing align levels

end IndentStyle

end TreeAssist
