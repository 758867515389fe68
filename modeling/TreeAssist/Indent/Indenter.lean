import TreeAssist.Indent.Style
import TreeAssist.KindTable

/-!
# Indentation of a line

An indenter knows the styles by kind. To indent a line it looks for the innermost node at the
position, entering constructs in front of it that are not closed yet, and goes outward to the first
node whose kind has a style. If there is none, the line keeps its indentation.

* `Indenter.decision` — the `Decision` for a position: the width, and what decided on it.
* `Indenter.width` — the width alone.
-/

namespace TreeAssist

/-- Styles by kind. -/
abbrev IndentTable := KindTable IndentStyle

/-- Indentation for one language. -/
structure Indenter where
  /-- The styles. -/
  styles : IndentTable
  /-- Width of one level. -/
  level : Nat
  /-- Distance of tab stops. -/
  tab : Nat

/-- The outcome of a request. -/
inductive Decision where
  /-- The style for the kind `kind` gave `width`, its node having the base indentation `base`. -/
  | byStyle (pos : Nat) (kind : String) (base width : Nat)
  /-- No style applied; the line keeps the indentation `width`. -/
  | byLine (pos width : Nat)
deriving DecidableEq

/-- The width decided on. -/
def Decision.width : Decision → Nat
  | byStyle _ _ _ width => width
  | byLine _ width => width

namespace Indenter

/-- The indenter with the given styles and widths. Tab stops are at least `1` apart. -/
def make (styles : IndentTable) (level tab : Nat) : Indenter :=
  { styles, level, tab := max tab 1 }

/-- The request for the indentation at `pos` under the style of `n`. -/
def request (s : Indenter) {t : Tree} (d : Document) (n : t.Node) (pos : Nat) : IndentRequest t :=
  { node := n, pos, doc := d, level := s.level, tab := s.tab }

/-- The innermost node at `pos`, constructs that are not closed yet included. -/
def startNode (t : Tree) (pos : Nat) : t.Node :=
  (t.root.innermostAt pos .strict).unfinishedBefore pos

/-- The first of the nodes whose kind has a style, with that style. -/
def styleFor? (s : Indenter) {t : Tree} (nodes : List t.Node) : Option (t.Node × IndentStyle) :=
  nodes.findSome? fun n => (s.styles.get? n.name).map (n, ·)

/-- The indentation at `pos`, and what decides on it. -/
def decision (s : Indenter) (t : Tree) (d : Document) (pos : Nat) : Decision :=
  let pos := d.snap pos
  match s.styleFor? (startNode t pos).ancestors with
  | some (n, style) =>
    let req := s.request d n pos
    .byStyle pos n.name req.baseWidth (style.width req)
  | none => .byLine pos (d.indentOfLine pos s.tab)

/-- The indentation at `pos`. -/
def width (s : Indenter) (t : Tree) (d : Document) (pos : Nat) : Nat :=
  (s.decision t d pos).width

/-- A summary of the indenter. -/
def describe (s : Indenter) : String :=
  "IndentService \x7b rules: " ++ s.styles.describe "IndentRules" ++ ", unit: " ++ s.level.repr ++
    ", tab_size: " ++ s.tab.repr ++ " \x7d"

end Indenter

end TreeAssist
