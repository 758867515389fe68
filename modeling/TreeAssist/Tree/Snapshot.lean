import TreeAssist.Tree.Node
import TreeAssist.Wire

/-!
# Snapshots

The form in which an arena is stored: an object with the tables `kinds`, `nodes` and `children`.

* `Snapshot.encode` — the stored form of an arena.
* `Snapshot.decode` — the arena that a value stores, if the value has that form. Numbers must be
  natural and below `addressLimit`, or below `kindLimit` for the index of a kind.
* `Snapshot.load` — the tree that a value stores. Its arena has still to pass all checks.
-/

namespace TreeAssist.Snapshot

open Wire

/-- The fields of a stored arena. -/
def arenaFields : List Field :=
  [{ name := "kinds" }, { name := "nodes" }, { name := "children" }]

/-- The fields of a stored kind. -/
def kindFields : List Field :=
  [{ name := "name" }, { name := "is_error" }]

/-- The fields of a stored record. A record without a parent may leave that field out. -/
def nodeFields : List Field :=
  [{ name := "kind" }, { name := "from" }, { name := "to" },
    { name := "parent", default := some .null }, { name := "index" }, { name := "children" }]

/-- The fields of a stretch of the child table. -/
def rangeFields : List Field :=
  [{ name := "start" }, { name := "end" }]

/-- A stored offset or index. -/
def address (v : Value) : Option Nat :=
  v.natBelow addressLimit

/-- A stored stretch of the child table. -/
def decodeRange (v : Value) : Option Span :=
  match v.closedRecord rangeFields with
  | some [start, stop] => do
    let start ← address start
    let stop ← address stop
    some ⟨start, stop⟩
  | _ => none

/-- A stored kind. -/
def decodeKind (v : Value) : Option Kind :=
  match v.record kindFields with
  | some [name, isError] => do
    let name ← name.str?
    let isError ← isError.bool?
    some { name, isError }
  | _ => none

/-- A stored record. -/
def decodeNode (v : Value) : Option NodeRecord :=
  match v.record nodeFields with
  | some [kind, start, stop, parent, index, children] => do
    let kind ← kind.natBelow kindLimit
    let start ← address start
    let stop ← address stop
    let parent ← parent.option? address
    let index ← address index
    let children ← decodeRange children
    some { kind, span := ⟨start, stop⟩, parent, index, children }
  | _ => none

/-- The arena stored in a value. -/
def decode (v : Value) : Option Arena :=
  match v.record arenaFields with
  | some [kinds, nodes, children] => do
    let kinds ← kinds.list? decodeKind
    let nodes ← nodes.list? decodeNode
    let children ← children.list? address
    some { kinds := kinds.toArray, nodes := nodes.toArray, childTable := children.toArray }
  | _ => none

/-- The stored form of a stretch of the child table. -/
def encodeRange (s : Span) : Value :=
  .obj [("start", .nat s.start), ("end", .nat s.stop)]

/-- The stored form of a kind. -/
def encodeKind (k : Kind) : Value :=
  .obj [("name", .str k.name), ("is_error", .bool k.isError)]

/-- The stored form of a record. -/
def encodeNode (r : NodeRecord) : Value :=
  .obj [("kind", .nat r.kind), ("from", .nat r.span.start), ("to", .nat r.span.stop),
    ("parent", (r.parent.map Value.nat).getD .null), ("index", .nat r.index),
    ("children", encodeRange r.children)]

/-- The stored form of an arena. -/
def encode (a : Arena) : Value :=
  .obj [("kinds", .arr (a.kinds.toList.map encodeKind)),
    ("nodes", .arr (a.nodes.toList.map encodeNode)),
    ("children", .arr (a.childTable.toList.map Value.nat))]

/-- Why a value stores no tree. -/
inductive LoadError where
  /-- The value does not have the form of a stored arena. -/
  | form
  /-- The stored arena is no tree. -/
  | violation (v : Violation)
deriving DecidableEq

/-- The tree stored in a value. -/
def load (v : Value) : Except LoadError Tree :=
  match decode v with
  | none => .error .form
  | some a =>
    match Tree.ofArena a with
    | .ok t => .ok t
    | .error e => .error (.violation e)

end TreeAssist.Snapshot
