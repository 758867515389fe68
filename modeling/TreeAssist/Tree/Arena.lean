/-!
# Arenas

The flat form of a syntax tree: a table of kinds, a table of node records, and one shared table in
which the children of every node stand side by side. Nothing here is checked yet; `Tree.Check`
tells which arenas are trees.

The module introduces:

* `Kind` — the type of a node: a name, and whether it stands for a recovered error.
* `Span` — a pair of offsets.
* `NodeRecord`, `Arena` — the tables.
* `Arena.Slice` — a stretch that lies inside the child table.
-/

namespace TreeAssist

/-- The name of the kind that marks recovery from a parse error. -/
def recoveryName : String := "⚠"

/-- The type of a node. -/
structure Kind where
  /-- The grammar's name for it. -/
  name : String
  /-- The node stands for a recovered error. -/
  isError : Bool
deriving DecidableEq

namespace Kind

/-- The kind called `name`; only `recoveryName` names the kind of recovered errors. -/
def ofName (name : String) : Kind :=
  { name, isError := name == recoveryName }

/-- The kind of recovered errors. -/
def recovery : Kind :=
  ofName recoveryName

/-- The error flag says what the name says. -/
def Consistent (k : Kind) : Prop :=
  k.isError = (k.name == recoveryName)

instance (k : Kind) : Decidable k.Consistent :=
  inferInstanceAs (Decidable (_ = _))

/-- A kind made from a name is consistent. -/
theorem consistent_ofName (name : String) : (ofName name).Consistent := rfl

end Kind

/-- A pair of offsets. -/
structure Span where
  /-- Where it starts. -/
  start : Nat
  /-- Where it ends. -/
  stop : Nat
deriving DecidableEq

namespace Span

/-- The span written as `start..stop`. -/
def text (s : Span) : String :=
  s.start.repr ++ ".." ++ s.stop.repr

end Span

/-- The record of one node. -/
structure NodeRecord where
  /-- Index of the node's kind. -/
  kind : Nat
  /-- The offsets the node covers. -/
  span : Span
  /-- Index of the parent's record. -/
  parent : Option Nat
  /-- The node's place among its parent's children. -/
  index : Nat
  /-- The stretch of the child table that lists the node's children. -/
  children : Span
deriving DecidableEq

/-- A syntax tree as tables. The root's record comes first. -/
structure Arena where
  /-- The kinds that the records refer to. -/
  kinds : Array Kind
  /-- The node records. -/
  nodes : Array NodeRecord
  /-- Indices of node records; each record owns a stretch. -/
  childTable : Array Nat
deriving DecidableEq

namespace Arena

/-- A stretch that lies inside the child table of `a`. -/
structure Slice (a : Arena) where
  /-- The offsets into the table. -/
  span : Span
  /-- The stretch is not inverted. -/
  ordered : span.start ≤ span.stop
  /-- The stretch ends inside the table. -/
  inside : span.stop ≤ a.childTable.size

namespace Slice

variable {a : Arena}

/-- Number of entries. -/
def size (s : a.Slice) : Nat :=
  s.span.stop - s.span.start

/-- The entry numbered `k`. -/
def get (s : a.Slice) (k : Nat) (h : k < s.size) : Nat :=
  have : s.span.start + k < a.childTable.size := by
    have := s.inside
    unfold size at h
    omega
  a.childTable[s.span.start + k]

/-- The entry numbered `k`, if there are so many. -/
def get? (s : a.Slice) (k : Nat) : Option Nat :=
  if h : k < s.size then some (s.get k h) else none

end Slice

end Arena

end TreeAssist
