import TreeAssist.Tree.Arena

/-!
# What can be wrong with a tree

A `Violation` is the reason why a sequence of steps or an arena does not make a tree, and
`Violation.message` is its wording. Links between the tables of an arena that do not fit are a
`Defect`.
-/

namespace TreeAssist

/-- A broken link in an arena. -/
inductive Defect where
  /-- The root's record names a parent. -/
  | rootHasParent
  /-- There are more records or table entries than indices. -/
  | tooLarge
  /-- The kind called `name` has the wrong error flag. -/
  | errorFlag (name : String)
  /-- The record `node` refers to a kind that is not in the table. -/
  | unknownKind (node kind : Nat)
  /-- The children of `node` are no stretch of a child table of `size` entries. -/
  | childRange (node : Nat) (range : Span) (size : Nat)
  /-- `node` lists `child`, whose record says otherwise. -/
  | childLink (node child : Nat)
  /-- `node` names no parent among the records before it. -/
  | noParentBefore (node : Nat)
  /-- The parent of `node` does not list it where `node` says. -/
  | missingFromParent (node : Nat)
  /-- A reference leads outside the tables. -/
  | dangling
deriving DecidableEq

namespace Defect

/-- The wording of a defect. -/
def message : Defect → String
  | rootHasParent => "root has a parent"
  | tooLarge => "arena exceeds u32 addressing"
  | errorFlag name => "kind " ++ name ++ " has a mismatched error flag"
  | unknownKind node kind => "node " ++ node.repr ++ " has unknown kind " ++ kind.repr
  | childRange node range size =>
    "node " ++ node.repr ++ " has children " ++ range.text ++ " outside a table of " ++ size.repr
  | childLink node child =>
    "node " ++ node.repr ++ " lists child " ++ child.repr ++ " that does not link back"
  | noParentBefore node => "node " ++ node.repr ++ " has no parent before it"
  | missingFromParent node => "node " ++ node.repr ++ " is missing from its parent's children"
  | dangling => "a reference leads outside the tables"

end Defect

/-- The reason why something is no tree. -/
inductive Violation where
  /-- There is no node. -/
  | noRoot
  /-- A second node stands beside the root. -/
  | secondRoot (kind : String) (start : Nat)
  /-- A node ends before it starts. -/
  | inverted (kind : String) (span : Span)
  /-- A child reaches outside its parent. -/
  | escapes (child : String) (span : Span) (parent : String) (parentSpan : Span)
  /-- A child starts before the sibling in front of it ends. -/
  | overlaps (kind : String) (start prevStop : Nat)
  /-- A node is closed while none is open. -/
  | nothingToClose
  /-- `count` nodes are still open, the innermost being a `kind`. -/
  | leftOpen (count : Nat) (kind : String)
  /-- There are more kinds than indices for them. -/
  | kindOverflow
  /-- The tables of an arena do not fit together. -/
  | brokenLinks (defect : Defect)
deriving DecidableEq

namespace Violation

/-- The wording of a violation. -/
def message : Violation → String
  | noRoot => "tree has no root node"
  | secondRoot kind start => "tree has more than one root: " ++ kind ++ " at " ++ start.repr
  | inverted kind span => kind ++ " has an inverted span " ++ span.text
  | escapes child span parent parentSpan =>
    child ++ " at " ++ span.text ++ " escapes parent " ++ parent ++ " at " ++ parentSpan.text
  | overlaps kind start prevStop =>
    kind ++ " at " ++ start.repr ++ " overlaps previous sibling ending at " ++ prevStop.repr
  | nothingToClose => "finish_node called without a matching start_node"
  | leftOpen count kind => count.repr ++ " node(s) left open, innermost is " ++ kind
  | kindOverflow => "too many distinct node kinds"
  | brokenLinks defect => "malformed tree snapshot: " ++ defect.message

end Violation

end TreeAssist
