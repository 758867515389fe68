import TreeAssist.Tree.Assembly

/-!
# Drafts

The tables of a tree while its nodes are still being announced. Each step fills in what it knows: a
node gets its record when it begins, and when it ends its span is completed, its children learn
where they belong, and their indices are added to the child table.

A draft does not stop at a violation. It keeps the first one and takes all further steps as well as
it can: an inverted leaf is dropped, a node without a number for its kind is not opened, so that
another one is closed in its place, and spans are stored as they come. Look-ups are made by index
all the same, and one of them might lead outside the tables; the answer `none` says that it has.

The module introduces:

* `Draft` — the tables, the open nodes, the root and the first violation.
* `Draft.take?`, `Draft.run?` — one step, and one step after the other.
* `Draft.outcome?` — what a sequence of steps comes to: the finished tables or a violation.
-/

namespace TreeAssist

namespace NodeRecord

/-- The record of a node that ends at `stop`. -/
def endingAt (stop : Nat) (r : NodeRecord) : NodeRecord :=
  { r with span := ⟨r.span.start, stop⟩ }

/-- The record of the child numbered `index` of `parent`. -/
def under (parent index : Nat) (r : NodeRecord) : NodeRecord :=
  { r with parent := some parent, index }

/-- The record of a node whose children are listed in the given stretch. -/
def listing (children : Span) (r : NodeRecord) : NodeRecord :=
  { r with children }

end NodeRecord

/-- An open node of a draft. -/
structure OpenNode where
  /-- The index of its record. -/
  id : Nat
  /-- The indices of its completed children, the latest first. -/
  children : List Nat

/-- A tree under construction, as tables. -/
structure Draft where
  /-- The names of all kinds so far. -/
  names : NameTable
  /-- The records so far. -/
  nodes : Array NodeRecord
  /-- The child table so far. -/
  childTable : Array Nat
  /-- The open nodes, innermost first. -/
  frames : List OpenNode
  /-- The index of the completed root. -/
  root : Option Nat
  /-- The first violation. -/
  violation : Option Violation

namespace Draft

/-- Nothing has been announced yet. -/
def empty : Draft where
  names := .empty
  nodes := #[]
  childTable := #[]
  frames := []
  root := none
  violation := none

/-- An index has 32 bits; of a greater number only the lower ones are kept. -/
def toIndex (k : Nat) : Nat :=
  k % addressLimit

/-- Keeps a violation, unless there is one already. -/
def report (d : Draft) (v : Option Violation) : Draft :=
  { d with violation := d.violation.or v }

/-! ### Look-ups -/

/-- The name of the kind of the record `i`. -/
def nameOf? (names : NameTable) (nodes : Array NodeRecord) (i : Nat) : Option String := do
  let r ← nodes[i]?
  names.names[r.kind]?

/-- Changes the record `i`. -/
def amend? (nodes : Array NodeRecord) (i : Nat) (f : NodeRecord → NodeRecord) :
    Option (Array NodeRecord) := do
  let r ← nodes[i]?
  some (nodes.setIfInBounds i (f r))

/-- Tells the records `ids` that they are children of `parent`, the first of them numbered `k`. -/
def link? (nodes : Array NodeRecord) (parent k : Nat) : List Nat → Option (Array NodeRecord)
  | [] => some nodes
  | i :: rest => do
    let nodes ← amend? nodes i (.under parent (toIndex k))
    link? nodes parent (k + 1) rest

/-- The first of the records `ids` that ends behind `stop`. -/
def firstBehind? (nodes : Array NodeRecord) (stop : Nat) : List Nat → Option (Option Nat)
  | [] => some none
  | i :: rest => do
    let r ← nodes[i]?
    if stop < r.span.stop then some (some i) else firstBehind? nodes stop rest

/-! ### What can be wrong -/

/-- The record `i` lies in front of the start of the open node `f`, or overlaps its latest child. -/
def misplaced? (d : Draft) (i : Nat) (f : OpenNode) : Option (Option Violation) := do
  let r ← d.nodes[i]?
  let parent ← d.nodes[f.id]?
  if r.span.start < parent.span.start then
    let name ← nameOf? d.names d.nodes i
    let parentName ← nameOf? d.names d.nodes f.id
    some (some (.escapes name r.span parentName parent.span))
  else
    match f.children with
    | [] => some none
    | latest :: _ =>
      let prev ← d.nodes[latest]?
      if r.span.start < prev.span.stop then
        let name ← nameOf? d.names d.nodes i
        some (some (.overlaps name r.span.start prev.span.stop))
      else some none

/-- The record `i` would end at `stop`, before its start. -/
def inverted? (names : NameTable) (nodes : Array NodeRecord) (i stop : Nat) :
    Option (Option Violation) := do
  let r ← nodes[i]?
  if stop < r.span.start then
    let name ← nameOf? names nodes i
    some (some (.inverted name ⟨r.span.start, stop⟩))
  else some none

/-- One of the children `ids` of the record `i` ends behind it. -/
def protruding? (names : NameTable) (nodes : Array NodeRecord) (i : Nat) (ids : List Nat) :
    Option (Option Violation) := do
  let r ← nodes[i]?
  match ← firstBehind? nodes r.span.stop ids with
  | none => some none
  | some c =>
    let child ← nodes[c]?
    let childName ← nameOf? names nodes c
    let name ← nameOf? names nodes i
    some (some (.escapes childName child.span name r.span))

/-! ### Steps -/

/-- Adds a record for a node of the kind `kind`. -/
def push (d : Draft) (names : NameTable) (kind : String) (span : Span) : Draft :=
  let record := { kind := names.number kind, span, parent := none, index := 0, children := ⟨0, 0⟩ }
  { d with names, nodes := d.nodes.push record }

/-- Hands the completed node with the record `i` to the innermost open node, or makes it the
root. -/
def attach? (d : Draft) (i : Nat) : Option Draft := do
  let r ← d.nodes[i]?
  match d.frames with
  | [] =>
    match d.root with
    | none => some { d with root := some i }
    | some _ =>
      let name ← nameOf? d.names d.nodes i
      some (d.report (some (.secondRoot name r.span.start)))
  | f :: outer =>
    let v ← d.misplaced? i f
    some { d.report v with frames := { f with children := i :: f.children } :: outer }

/-- Closes the open node `f` at `stop`, `outer` being open around it. -/
def close? (d : Draft) (f : OpenNode) (outer : List OpenNode) (stop : Nat) : Option Draft := do
  let ids := f.children.reverse
  let v ← inverted? d.names d.nodes f.id stop
  let nodes ← amend? d.nodes f.id (.endingAt stop)
  let w ← protruding? d.names nodes f.id ids
  let nodes ← link? nodes f.id 0 ids
  let childTable := d.childTable ++ ids.toArray
  let nodes ← amend? nodes f.id (.listing ⟨toIndex d.childTable.size, toIndex childTable.size⟩)
  attach? { (d.report v).report w with nodes, childTable, frames := outer } f.id

/-- Takes one step. -/
def take? (d : Draft) : Step → Option Draft
  | .opens kind start =>
    match d.names.insert? kind with
    | none => some (d.report (some .kindOverflow))
    | some names =>
      let frame := { id := toIndex d.nodes.size, children := [] }
      some { d.push names kind ⟨start, start⟩ with frames := frame :: d.frames }
  | .leaf kind span =>
    if span.stop < span.start then some (d.report (some (.inverted kind span)))
    else
      match d.names.insert? kind with
      | none => some (d.report (some .kindOverflow))
      | some names => (d.push names kind span).attach? (toIndex d.nodes.size)
  | .closes stop =>
    match d.frames with
    | [] => some (d.report (some .nothingToClose))
    | f :: outer => d.close? f outer stop

/-- Takes steps, one after the other. -/
def run? (d : Draft) : List Step → Option Draft
  | [] => some d
  | s :: rest => do (← d.take? s).run? rest

/-- The finished tables, or what is wrong. -/
def finish? (d : Draft) : Option (Except Violation Arena) :=
  match d.violation, d.frames, d.root with
  | some v, _, _ => some (.error v)
  | none, f :: outer, _ => do
    let name ← nameOf? d.names d.nodes f.id
    some (.error (.leftOpen (outer.length + 1) name))
  | none, [], none => some (.error .noRoot)
  | none, [], some _ =>
    some (.ok { kinds := d.names.names.map Kind.ofName, nodes := d.nodes,
                childTable := d.childTable })

/-- What the steps come to. -/
def outcome? (steps : List Step) : Option (Except Violation Arena) := do
  let d ← empty.run? steps
  d.finish?

end Draft

end TreeAssist
