import TreeAssist.Tree.Locate

/-!
# Following links that nobody has checked

The walks of `Tree.Walk` and `Tree.Locate` once more, by bare indices in an arena. Nothing is known
about the arena here, so every look-up may lead outside the tables, and a walk may go round in
circles. A walk is therefore given a number of rounds. The answer `none` stands for a look-up
outside the tables as well as for a walk that is not over after these rounds: a walk that gives
`some` has made all its look-ups inside the tables and has come to an end.

The module introduces:

* `Arena.kind?`, `Arena.childIds?`, `Arena.prev?`, `Arena.next?` — what a record leads to.
* `Arena.childStartingBefore?`, `Arena.childEndingAfter?`, `Arena.childAt?` — children by position.
* `Arena.ancestors?`, `Arena.innermostAt?`, `Arena.unfinishedBefore?` — the walks.
-/

namespace TreeAssist

namespace Span

/-- A node with this span need not be left to find `pos`. -/
def keeps (s : Span) (pos : Nat) : Bias → Bool
  | .left => s.start < pos && pos ≤ s.stop
  | .strict => s.start ≤ pos && pos ≤ s.stop
  | .right => s.start ≤ pos && pos < s.stop

/-- A node with this span is entered from its parent to find `pos`. -/
def admits (s : Span) (pos : Nat) : Bias → Bool
  | .left => s.start < pos && pos ≤ s.stop
  | .strict => s.start < pos && pos < s.stop
  | .right => s.start ≤ pos && pos < s.stop

end Span

namespace Arena

/-! ### Kinds, children and siblings -/

/-- The kind of the record `i`. -/
def kind? (a : Arena) (i : Nat) : Option Kind := do
  let r ← a.nodes[i]?
  a.kinds[r.kind]?

/-- What the record `i` lists in its stretch of the child table. -/
def childIds? (a : Arena) (i : Nat) : Option (List Nat) := do
  let r ← a.nodes[i]?
  if r.children.start ≤ r.children.stop ∧ r.children.stop ≤ a.childTable.size then
    some (a.childTable.extract r.children.start r.children.stop).toList
  else none

/-- The sibling in front of the record `i`, if it is not the first child. -/
def prev? (a : Arena) (i : Nat) : Option (Option Nat) := do
  let r ← a.nodes[i]?
  match r.parent with
  | none => some none
  | some p =>
    let siblings ← a.childIds? p
    if 0 < r.index then (siblings[r.index - 1]?).map some else some none

/-- The sibling behind the record `i`, if it is not the last child. -/
def next? (a : Arena) (i : Nat) : Option (Option Nat) := do
  let r ← a.nodes[i]?
  match r.parent with
  | none => some none
  | some p =>
    let siblings ← a.childIds? p
    some siblings[r.index + 1]?

/-! ### Children by position -/

/-- How many of the records `ids` satisfy `p`, from the first on. All of them are looked up, so that
it does not matter which of them a bisection visits. -/
def countFirst? (a : Arena) (ids : List Nat) (p : NodeRecord → Bool) : Option Nat := do
  let answers ← ids.mapM fun i => a.nodes[i]?.map p
  some (bisect (fun k => answers[k]?.any id) 0 ids.length)

/-- The last child of the record `i` that starts before `pos`. -/
def childStartingBefore? (a : Arena) (i pos : Nat) : Option (Option Nat) := do
  let ids ← a.childIds? i
  let k ← a.countFirst? ids (·.span.start < pos)
  if 0 < k then (ids[k - 1]?).map some else some none

/-- The first child of the record `i` that ends after `pos`. -/
def childEndingAfter? (a : Arena) (i pos : Nat) : Option (Option Nat) := do
  let ids ← a.childIds? i
  let k ← a.countFirst? ids (·.span.stop ≤ pos)
  some ids[k]?

/-- The child of the record `i` that is entered to find `pos`. -/
def childAt? (a : Arena) (i pos : Nat) (bias : Bias) : Option (Option Nat) := do
  let ids ← a.childIds? i
  let k ← match bias with
    | .left => a.countFirst? ids (·.span.stop < pos)
    | .strict | .right => a.countFirst? ids (·.span.stop ≤ pos)
  ids[k]?.elim (some none) fun c => do
    let r ← a.nodes[c]?
    some (if r.span.admits pos bias then some c else none)

/-! ### Walks -/

/-- The record `i` and all records above it, innermost first. -/
def ancestors? (a : Arena) : Nat → Nat → Option (List Nat)
  | 0, _ => none
  | rounds + 1, i => do
    let r ← a.nodes[i]?
    match r.parent with
    | none => some [i]
    | some p =>
      let above ← a.ancestors? rounds p
      some (i :: above)

/-- Leaves records that do not keep `pos`, from the record `i` on. -/
def climb? (a : Arena) (pos : Nat) (bias : Bias) : Nat → Nat → Option Nat
  | 0, _ => none
  | rounds + 1, i => do
    let r ← a.nodes[i]?
    if r.span.keeps pos bias then some i
    else
      match r.parent with
      | none => some i
      | some p => a.climb? pos bias rounds p

/-- Enters children as long as one admits `pos`, from the record `i` on. -/
def descend? (a : Arena) (pos : Nat) (bias : Bias) : Nat → Nat → Option Nat
  | 0, _ => none
  | rounds + 1, i => do
    match ← a.childAt? i pos bias with
    | none => some i
    | some c => a.descend? pos bias rounds c

/-- The innermost record at `pos`, from the record `i` on. -/
def innermostAt? (a : Arena) (pos : Nat) (bias : Bias) (rounds i : Nat) : Option Nat := do
  let j ← a.climb? pos bias rounds i
  a.descend? pos bias rounds j

/-- Follows the right edge of `scan` to the innermost unfinished record, `found` being the one seen
so far. -/
def unfinishedFrom? (a : Arena) : Nat → Nat → Nat → Option Nat
  | 0, _, _ => none
  | rounds + 1, found, scan => do
    let ids ← a.childIds? scan
    match ids.getLast? with
    | none => some found
    | some last =>
      let r ← a.nodes[scan]?
      let l ← a.nodes[last]?
      if l.span.stop = r.span.stop then
        let kind ← a.kind? last
        if kind.isError && l.span.start == l.span.stop then
          match ← a.prev? last with
          | none => some scan
          | some prev => a.unfinishedFrom? rounds scan prev
        else a.unfinishedFrom? rounds found last
      else some found

/-- The innermost unfinished record on the right edge of the child of `i` before `pos`. -/
def unfinishedBefore? (a : Arena) (pos rounds i : Nat) : Option Nat := do
  match ← a.childStartingBefore? i pos with
  | none => some i
  | some c => a.unfinishedFrom? rounds i c

end Arena

end TreeAssist
