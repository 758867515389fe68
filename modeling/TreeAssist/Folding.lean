import TreeAssist.KindTable
import TreeAssist.Text.Document
import TreeAssist.Tree.Matching

/-!
# Folding

Which stretch of text disappears when a construct is folded, and what is folded on a line.

* `FoldRule` — how the nodes of a kind are folded: any function from nodes to stretches that cannot
  tell matching trees apart. It may look at names and spans and follow links and searches, but not
  ask at which index a record is stored.
* `FoldRule.between` keeps the first and last child of a node visible and folds what is between;
  `FoldRule.afterFirst` folds what comes after the first child.
* `FoldTable.stretchOf` — the stretch of a node under the rule for its kind.
* `FoldTable.stretchOnLine` — the stretch that is folded on a line: it starts on the line and ends
  after it. Of the constructs that start on the line the outermost is folded.
-/

namespace TreeAssist

/-- How the nodes of a kind are folded. -/
structure FoldRule where
  /-- The stretch that the rule gives a node. -/
  apply : {t : Tree} → t.Node → Option Span
  /-- Paired nodes have the same stretch. -/
  apply_matching : ∀ {t t' : Tree} (e : t.Matching t') (n : t.Node), apply (e n) = apply n

namespace FoldRule

variable {t t' : Tree}

/-- What lies between the first and the last child. If the last child is a recovered error, then
the closing delimiter is missing, and the stretch reaches to the end of the node. -/
def stretchBetween (n : t.Node) : Option Span := do
  let first ← n.firstChild?
  let last ← n.lastChild?
  if last.start ≤ first.stop then none
  else some ⟨first.stop, if last.isError then n.stop else last.start⟩

theorem stretchBetween_matching (e : t.Matching t') (n : t.Node) :
    stretchBetween (e n) = stretchBetween n := by
  unfold stretchBetween
  rw [e.firstChild?_apply, e.lastChild?_apply]
  cases n.firstChild? with
  | none => rfl
  | some first =>
    cases n.lastChild? with
    | none => rfl
    | some last => simp

/-- Between the first and the last child. -/
def between : FoldRule where
  apply := stretchBetween
  apply_matching := stretchBetween_matching

/-- What lies between the end of the first child and the end of the last one that is not a recovered
error. -/
def stretchAfterFirst (n : t.Node) : Option Span := do
  let first ← n.firstChild?
  let last ← n.children.reverse.find? (!·.isError)
  if last = first ∨ last.stop ≤ first.stop then none else some ⟨first.stop, last.stop⟩

theorem stretchAfterFirst_matching (e : t.Matching t') (n : t.Node) :
    stretchAfterFirst (e n) = stretchAfterFirst n := by
  unfold stretchAfterFirst
  rw [e.firstChild?_apply, e.children_apply, ← List.map_reverse, List.find?_map]
  simp only [Function.comp_def, Tree.Matching.isError_apply]
  cases n.firstChild? with
  | none => rfl
  | some first =>
    cases n.children.reverse.find? (!·.isError) with
    | none => rfl
    -- The rule asks whether two children are the same, which a one-to-one pairing does not change.
    | some last => simp

/-- From the end of the first child on. -/
def afterFirst : FoldRule where
  apply := stretchAfterFirst
  apply_matching := stretchAfterFirst_matching

end FoldRule

/-- Fold rules by kind. -/
abbrev FoldTable := KindTable FoldRule

namespace FoldTable

variable {t : Tree}

/-- The stretch of a node under the rule for its kind. -/
def stretchOf (table : FoldTable) (n : t.Node) : Option Span :=
  (table.get? n.name).bind (·.apply n)

/-- The stretch starts on `line` and ends after it. -/
def startsOn (line r : Span) : Bool :=
  line.start ≤ r.start && r.start ≤ line.stop && line.stop < r.stop

/-- Goes outward through nodes, passing over those that do not reach across the end of the line.
Each stretch that starts on the line takes the place of the one found so far; once there is one,
the search ends at a node that starts before the line. -/
def search (table : FoldTable) (line : Span) (found : Option Span) : List t.Node → Option Span
  | [] => found
  | n :: outer =>
    if n.stop ≤ line.stop ∨ line.stop < n.start then table.search line found outer
    else if found.isSome ∧ n.start < line.start then found
    else table.search line (((table.stretchOf n).filter (startsOn line)).or found) outer

/-- The stretch that is folded on the line with the given offsets. -/
def stretchOnLine (table : FoldTable) (t : Tree) (line : Span) : Option Span :=
  table.search line none (t.root.innermostAt line.stop .strict).ancestors

/-- The stretch that is folded on the line numbered `n`. -/
def stretchOnLineNumber (table : FoldTable) (t : Tree) (d : Document) (n : Nat) : Option Span :=
  if n < d.numLines then
    let l := d.nthLine n
    table.stretchOnLine t ⟨l.start, l.stop⟩
  else none

end FoldTable

end TreeAssist
