import TreeAssist.Tree.Arena

/-!
# Ordered trees and their layout

A `Shape` is an ordered tree of names and spans. `Shape.layOut` turns it into tables: nodes are
numbered in pre-order, and the stretches of the child table stand in post-order, so that the stretch
of a node comes after those of all its descendants.
-/

namespace TreeAssist

/-- An ordered tree. A leaf has no children; a group has its children in order, perhaps none. -/
inductive Shape where
  /-- A node that cannot have children. -/
  | leaf (name : String) (span : Span)
  /-- A node with the given children. -/
  | group (name : String) (span : Span) (children : List Shape)

namespace Shape

/-- The name of the topmost node's kind. -/
def name : Shape → String
  | leaf name _ => name
  | group name _ _ => name

/-- The span of the topmost node. -/
def span : Shape → Span
  | leaf _ span => span
  | group _ span _ => span

mutual

/-- Number of nodes below the topmost one. -/
def descendants : Shape → Nat
  | leaf _ _ => 0
  | group _ _ children => countAll 0 children

/-- `count` and the number of nodes in the given shapes. -/
def countAll (count : Nat) : List Shape → Nat
  | [] => count
  | s :: rest => countAll (count + 1 + s.descendants) rest

end

/-- Tables under construction. -/
structure Layout where
  /-- The records so far. -/
  nodes : Array NodeRecord := #[]
  /-- The child table so far. -/
  childTable : Array Nat := #[]

mutual

/-- Adds the tree to the tables as the child numbered `index` of `parent`, the names being numbered
by `kindOf`. -/
def layOut (kindOf : String → Nat) (tables : Layout) (parent : Option Nat) (index : Nat) :
    Shape → Layout
  | leaf name span =>
    { tables with
      nodes := tables.nodes.push { kind := kindOf name, span, parent, index, children := ⟨0, 0⟩ } }
  | group name span children =>
    let id := tables.nodes.size
    let stop := tables.childTable.size + countAll 0 children
    let record :=
      { kind := kindOf name, span, parent, index, children := ⟨stop - children.length, stop⟩ }
    let (inner, ids) :=
      layOutAll kindOf { tables with nodes := tables.nodes.push record } id 0 #[] children
    { inner with childTable := inner.childTable ++ ids }

/-- Adds the given trees in order as children of `parent`, the first of them numbered `index`, and
collects the numbers of their records behind `ids`. -/
def layOutAll (kindOf : String → Nat) (tables : Layout) (parent index : Nat) (ids : Array Nat) :
    List Shape → Layout × Array Nat
  | [] => (tables, ids)
  | s :: rest =>
    let id := tables.nodes.size
    layOutAll kindOf (layOut kindOf tables (some parent) index s) parent (index + 1) (ids.push id)
      rest

end

end Shape

end TreeAssist
