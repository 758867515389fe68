import Std.Data.HashMap
import TreeAssist.Tree.Node
import TreeAssist.Tree.Shape

/-!
# Assembling a tree step by step

A parser announces the nodes of a tree in document order: it opens a node, adds leaves and further
nodes, and closes it. `Assembly.step` takes one such step and stops at the first violation;
`Assembly.result` lays the completed shape out as a tree.

The end of a node is known only when it is closed. So a node's start and its distance from the
sibling in front of it are checked when it is complete, and that its children end inside it is
checked when it is closed.

The module introduces:

* `NameTable` — names numbered in the order of their first use, at most `kindLimit` of them.
* `Step` — what a parser announces.
* `Assembly` — the open nodes with their completed children.
* `Tree.ofSteps` — the tree that a sequence of steps describes, or the first violation.
-/

namespace TreeAssist

/-- Names numbered in the order of their first use. -/
structure NameTable where
  /-- The number of each name. -/
  numbers : Std.HashMap String Nat
  /-- The names, each once. -/
  names : Array String
  /-- The two directions agree. -/
  agree : ∀ (name : String) (i : Nat), numbers[name]? = some i ↔ names[i]? = some name

namespace NameTable

/-- The table without names. -/
def empty : NameTable where
  numbers := ∅
  names := #[]
  agree := by simp

/-- The number of `name`, or `0` if it has none. -/
def number (t : NameTable) (name : String) : Nat :=
  t.numbers.getD name 0

/-- Adds the new name `name` at the end. -/
def push (t : NameTable) (name : String) (h : t.numbers[name]? = none) : NameTable where
  numbers := t.numbers.insert name t.names.size
  names := t.names.push name
  agree := by
    intro other i
    have hfresh : t.names[i]? ≠ some name := fun e => by
      rw [(t.agree name i).mpr e] at h
      cases h
    rw [Std.HashMap.getElem?_insert, Array.getElem?_push]
    by_cases hi : i = t.names.size
    · -- The new number belongs to the new name alone.
      subst hi
      by_cases hn : name = other
      · simp [hn]
      · simp [hn, t.agree other]
    · -- The old numbers keep their names.
      by_cases hn : name = other
      · subst hn
        have : ¬ t.names.size = i := fun e => hi e.symm
        simp [hi, this, hfresh]
      · simp [hi, hn, t.agree other i]

/-- Makes sure that `name` has a number. There are numbers for `kindLimit` names only. -/
def insert? (t : NameTable) (name : String) : Option NameTable :=
  match h : t.numbers[name]? with
  | some _ => some t
  | none => if t.names.size < kindLimit then some (t.push name h) else none

end NameTable

/-- What a parser announces. -/
inductive Step where
  /-- A node of the given kind begins. -/
  | opens (kind : String) (start : Nat)
  /-- A leaf stands here. -/
  | leaf (kind : String) (span : Span)
  /-- The innermost open node ends. -/
  | closes (stop : Nat)
deriving DecidableEq

/-- The step that marks a recovered error at `pos`: an empty leaf. -/
def Step.recovery (pos : Nat) : Step :=
  .leaf recoveryName ⟨pos, pos⟩

/-- A node that is still open. -/
structure Frame where
  /-- The name of its kind. -/
  kind : String
  /-- Where it starts. -/
  start : Nat
  /-- Its completed children, the latest first. -/
  completed : List Shape

/-- A tree under construction. -/
structure Assembly where
  /-- The names of all kinds so far. -/
  names : NameTable
  /-- The open nodes, innermost first. -/
  frames : List Frame
  /-- The completed root. -/
  root : Option Shape

namespace Assembly

/-- Nothing has been announced yet. -/
def empty : Assembly where
  names := .empty
  frames := []
  root := none

/-- Hands a completed node to the innermost open node, or makes it the root. -/
def adopt : Assembly → Shape → Except Violation Assembly
  | ⟨names, [], none⟩, s => .ok ⟨names, [], some s⟩
  | ⟨_, [], some _⟩, s => .error (.secondRoot s.name s.span.start)
  | ⟨names, f :: outer, root⟩, s => do
    require (f.start ≤ s.span.start) (.escapes s.name s.span f.kind ⟨f.start, f.start⟩)
    match f.completed with
    | [] => pure ()
    | prev :: _ =>
      require (prev.span.stop ≤ s.span.start) (.overlaps s.name s.span.start prev.span.stop)
    .ok ⟨names, { f with completed := s :: f.completed } :: outer, root⟩

/-- Takes one step. -/
def step : Assembly → Step → Except Violation Assembly
  | ⟨names, frames, root⟩, .opens kind start => do
    let names ← orFail .kindOverflow (names.insert? kind)
    .ok ⟨names, ⟨kind, start, []⟩ :: frames, root⟩
  | ⟨names, frames, root⟩, .leaf kind span => do
    require (span.start ≤ span.stop) (.inverted kind span)
    let names ← orFail .kindOverflow (names.insert? kind)
    adopt ⟨names, frames, root⟩ (.leaf kind span)
  | ⟨_, [], _⟩, .closes _ => .error .nothingToClose
  | ⟨names, f :: outer, root⟩, .closes stop => do
    require (f.start ≤ stop) (.inverted f.kind ⟨f.start, stop⟩)
    let children := f.completed.reverse
    match children.find? (stop < ·.span.stop) with
    | some c => .error (.escapes c.name c.span f.kind ⟨f.start, stop⟩)
    | none => adopt ⟨names, outer, root⟩ (.group f.kind ⟨f.start, stop⟩ children)

/-- Takes steps up to the first violation. -/
def run (a : Assembly) : List Step → Except Violation Assembly
  | [] => .ok a
  | s :: rest => do (← a.step s).run rest

/-- The arena of a completed tree. -/
def arena (names : NameTable) (s : Shape) : Arena :=
  let tables := s.layOut names.number {} none 0
  { kinds := names.names.map Kind.ofName, nodes := tables.nodes, childTable := tables.childTable }

/-- The completed tree. -/
def result : Assembly → Except Violation Tree
  | ⟨_, f :: outer, _⟩ => .error (.leftOpen (outer.length + 1) f.kind)
  | ⟨_, [], none⟩ => .error .noRoot
  | ⟨names, [], some s⟩ => Tree.ofArena (arena names s)

end Assembly

/-- The tree that the steps describe, or the first violation. -/
def Tree.ofSteps (steps : List Step) : Except Violation Tree := do
  (← Assembly.empty.run steps).result

end TreeAssist
