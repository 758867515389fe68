import TreeAssist.Style.Selector
import TreeAssist.Style.Tag
import TreeAssist.Text.Blank
import TreeAssist.Tree.Walk

/-!
# Style tables

A style table gives tags to nodes by their kind and the kinds above them. Of the rules that match a
node, one with a longer path wins; of two with equally long paths, a bare name wins over a quoted
one; and otherwise the rule that comes first in the table.

The module introduces:

* `StyleRule` — one alternative of a selector with its tag, and its `StyleRule.specificity`.
* `StyleTable.build` — the table of the given selectors and tags, or the first error.
* `StyleTable.tagUnder`, `StyleTable.tagOf` — the tag of a node.
-/

namespace TreeAssist

/-- One alternative of a selector, with its tag. -/
structure StyleRule where
  /-- The kind of node the rule is for. -/
  target : String
  /-- What must stand above the node, innermost first. -/
  context : List PathItem
  /-- The target is quoted. -/
  literal : Bool
  /-- The tag of a node that matches. -/
  tag : Tag
deriving DecidableEq

namespace StyleRule

/-- How specific the rule is: the length of its context counts first, then whether the target is
bare. -/
def specificity (r : StyleRule) : Nat :=
  2 * r.context.length + if r.literal then 0 else 1

/-- The kinds `above` a node, innermost first, begin as the context says. -/
def standsUnder : (context : List PathItem) → (above : List String) → Bool
  | [], _ => true
  | _ :: _, [] => false
  | s :: ss, kind :: above => s.accepts kind && standsUnder ss above

/-- The rule is for a node of the kind `kind` with the kinds `above` it, innermost first. -/
def applies (r : StyleRule) (kind : String) (above : List String) : Bool :=
  r.target == kind && standsUnder r.context above

/-- The rule of the given alternative of a selector. -/
def ofAlternative (selector : String) (tag : Tag) (alternative : List Char) :
    Except SelectorError StyleRule :=
  match Path.parse alternative with
  | .error e => .error (.ofFault selector e)
  | .ok path =>
    match path.reverse with
    | [] => .error (.emptyItem selector)
    | .any :: _ => .error (.wildcardLast selector)
    | .bare target :: context => .ok { target, context, literal := false, tag }
    | .quoted target :: context => .ok { target, context, literal := true, tag }

/-- The rules of a selector, one for each alternative. -/
def ofSelector (selector : String) (tag : Tag) : Except SelectorError (List StyleRule) :=
  match Text.words selector.toList with
  | [] => .error (.noAlternatives selector)
  | alternatives => alternatives.mapM (ofAlternative selector tag)

end StyleRule

/-- Rules that give tags to nodes, the most specific first. -/
structure StyleTable where
  /-- The rules. -/
  rules : List StyleRule := []
deriving DecidableEq

namespace StyleTable

/-- The table of the given selectors and tags. Equally specific rules keep their order. -/
def build (entries : List (String × Tag)) : Except SelectorError StyleTable := do
  let rules ← entries.mapM fun e => StyleRule.ofSelector e.1 e.2
  .ok ⟨rules.flatten.mergeSort fun r s => s.specificity ≤ r.specificity⟩

/-- The kinds that the rules are for, each once. -/
def targets (t : StyleTable) : List String :=
  (t.rules.map (·.target)).eraseDups

/-- The tag of a node of the kind `kind` with the kinds `above` it, innermost first. -/
def tagUnder (t : StyleTable) (kind : String) (above : List String) : Option Tag :=
  (t.rules.find? (·.applies kind above)).map (·.tag)

/-- The tag of a node. -/
def tagOf (table : StyleTable) {t : Tree} (n : t.Node) : Option Tag :=
  table.tagUnder n.name (n.ancestors.tail.map (·.name))

/-- A summary of the table's size. -/
def describe (t : StyleTable) : String :=
  "StyleRules \x7b kinds: " ++ t.targets.length.repr ++ ", rules: " ++ t.rules.length.repr ++
    " \x7d"

end StyleTable

end TreeAssist
