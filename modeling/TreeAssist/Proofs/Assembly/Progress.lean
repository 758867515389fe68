import Mathlib.Data.List.Forall2
import TreeAssist.Proofs.Assembly.Linking
import TreeAssist.Proofs.Assembly.Run
import TreeAssist.Proofs.Assembly.Tables

/-!
# The tables of an unfinished tree

An assembly keeps its completed nodes as shapes. Here they are laid out while the tree is still
unfinished, as a draft would have them: the completed root first, then the open nodes from the
outermost inward, each with its completed children behind it, which do not know their parent yet
(`Assembly.draft`).

What a draft looks up in such tables is what the assembly has in its shapes: names and spans
(`Draft.Shows`), the child that ends too late (`Draft.Shows.protruding?`), and the fault with the
place of a completed node (`Draft.misplaced?_eq`).
-/

namespace TreeAssist

open Shape

/-! ### The tables of an assembly -/

/-- The record of an open node, which does not know its end yet. -/
def Frame.record (kindOf : String → Nat) (f : Frame) : NodeRecord :=
  { kind := kindOf f.kind, span := ⟨f.start, f.start⟩, parent := none, index := 0,
    children := ⟨0, 0⟩ }

/-- An open node uses the names of the group that it will become. -/
theorem Frame.kindsOf_steps (f : Frame) (stop : Nat) :
    kindsOf f.steps =
      kindsOf (Shape.steps (.group f.kind ⟨f.start, stop⟩ f.completed.reverse)) := by
  simp [Frame.steps, Shape.steps]

/-- Adds an open node with its completed children to the tables. -/
def Frame.layOpen (kindOf : String → Nat) (T : Layout) (f : Frame) : Layout × OpenNode :=
  let inner := layLoose kindOf (T.push (f.record kindOf)) f.completed
  (inner.1, ⟨T.nodes.size, inner.2⟩)

namespace Assembly

/-- Adds the open nodes to the tables, the outermost first, each with its completed children. -/
def layFrames (kindOf : String → Nat) (T : Layout) : List Frame → Layout × List OpenNode
  | [] => (T, [])
  | f :: outer =>
    let around := layFrames kindOf T outer
    let inner := f.layOpen kindOf around.1
    (inner.1, inner.2 :: around.2)

/-- The tables of the completed root. -/
def rootTables (kindOf : String → Nat) : Option Shape → Layout
  | none => {}
  | some s => layOut kindOf {} none 0 s

/-- The tables of all that is there so far, and the open nodes. -/
def tables (kindOf : String → Nat) (a : Assembly) : Layout × List OpenNode :=
  layFrames kindOf (rootTables kindOf a.root) a.frames

/-- The draft of an assembly. -/
def draft (kindOf : String → Nat) (a : Assembly) : Draft where
  names := a.names
  nodes := (a.tables kindOf).1.nodes
  childTable := (a.tables kindOf).1.childTable
  frames := (a.tables kindOf).2
  root := a.root.map fun _ => 0
  violation := none

/-- The draft of an assembly with a completed node that has not been handed on yet. -/
def holding (kindOf : String → Nat) (a : Assembly) (s : Shape) : Draft :=
  let laid := layOut kindOf (a.tables kindOf).1 none 0 s
  { a.draft kindOf with nodes := laid.nodes, childTable := laid.childTable }

/-- The innermost open node comes last. -/
theorem tables_cons (kindOf : String → Nat) (names : NameTable) (f : Frame) (outer : List Frame)
    (root : Option Shape) :
    tables kindOf ⟨names, f :: outer, root⟩ =
      ((f.layOpen kindOf (tables kindOf ⟨names, outer, root⟩).1).1,
        (f.layOpen kindOf (tables kindOf ⟨names, outer, root⟩).1).2 ::
          (tables kindOf ⟨names, outer, root⟩).2) := rfl

/-- An open node takes up one record for itself and one for each node below it, and one entry for
each node that has been linked. -/
theorem size_layOpen (kindOf : String → Nat) (T : Layout) (f : Frame) :
    (f.layOpen kindOf T).1.nodes.size = T.nodes.size + 1 + countAll 0 f.completed.reverse ∧
      (f.layOpen kindOf T).1.childTable.size + f.completed.length =
        T.childTable.size + countAll 0 f.completed.reverse := by
  have hall := laidOutAll_layOutAll (l := f.completed.reverse)
    (fun c _ => laidOut_layOut kindOf c) (T.push (f.record kindOf)) 0 0 #[]
  obtain ⟨-, hsize, htable⟩ := layOutAll_layLoose kindOf (T.push (f.record kindOf)) 0 f.completed
  constructor
  · simpa [hsize, Frame.layOpen] using hall.nodes_size
  · simpa [htable, Frame.layOpen] using hall.childTable_size

/-- There is one record for each node so far, and there are not more entries than records. -/
theorem size_tables (kindOf : String → Nat) (a : Assembly) :
    (a.tables kindOf).1.nodes.size = (kindsOf a.history).length ∧
      (a.tables kindOf).1.childTable.size ≤ (a.tables kindOf).1.nodes.size := by
  obtain ⟨names, frames, root⟩ := a
  induction frames with
  | nil =>
    cases root with
    | none => exact ⟨rfl, Nat.le_refl _⟩
    | some s =>
      have hlaid := laidOut_layOut kindOf s {} none 0
      have hnodes : (layOut kindOf {} none 0 s).nodes.size = 1 + s.descendants := by
        simpa using hlaid.nodes_size
      have htable : (layOut kindOf {} none 0 s).childTable.size = s.descendants := by
        simpa using hlaid.childTable_size
      have hhistory : history ⟨names, [], some s⟩ = s.steps := by simp [history]
      rw [hhistory, length_kindsOf_steps]
      refine ⟨hnodes, ?_⟩
      show (layOut kindOf {} none 0 s).childTable.size ≤ (layOut kindOf {} none 0 s).nodes.size
      omega
  | cons f outer ih =>
    obtain ⟨hnodes, htable⟩ := ih
    obtain ⟨hnodes', htable'⟩ := size_layOpen kindOf (tables kindOf ⟨names, outer, root⟩).1 f
    rw [tables_cons, history_cons, kindsOf_append, List.length_append, ← hnodes,
      f.kindsOf_steps f.start, length_kindsOf_steps, descendants]
    dsimp only
    omega

end Assembly

/-! ### What the records show -/

namespace Draft

/-- The record `i` belongs to a node with the given name and span. -/
def Shows (names : NameTable) (nodes : Array NodeRecord) (i : Nat) (name : String) (span : Span) :
    Prop :=
  ∃ r, nodes[i]? = some r ∧ names.names[r.kind]? = some name ∧ r.span = span

/-- The record `i` belongs to the topmost node of a shape. -/
def ShowsShape (names : NameTable) (nodes : Array NodeRecord) (i : Nat) (s : Shape) : Prop :=
  Shows names nodes i s.name s.span

variable {kindOf : String → Nat} {names : NameTable} {nodes : Array NodeRecord} {i : Nat}
  {name : String} {span : Span}

theorem Shows.mono {T T' : Layout} (h : Shows names T.nodes i name span) (hext : T.Extends T') :
    Shows names T'.nodes i name span := by
  obtain ⟨r, hr, hname, hspan⟩ := h
  exact ⟨r, hext.nodes hr, hname, hspan⟩

/-- A shape that has been laid out is shown by its first record. -/
theorem showsShape_layOut {s : Shape} (hs : names.names[kindOf s.name]? = some s.name) (T : Layout)
    (parent : Option Nat) (index : Nat) :
    ShowsShape names (layOut kindOf T parent index s).nodes T.nodes.size s := by
  obtain ⟨r, hr, hkind, hspan, -, -⟩ :=
    (laidOut_layOut kindOf s T parent index).stored.exists_record
  exact ⟨r, hr, by rw [hkind, hs], hspan⟩

/-- Loose trees are shown by the records that are collected for them. -/
theorem showsShape_layLoose {l : List Shape}
    (hl : ∀ c ∈ l, names.names[kindOf c.name]? = some c.name) (T : Layout) :
    List.Forall₂ (ShowsShape names (layLoose kindOf T l).1.nodes) (layLoose kindOf T l).2 l := by
  induction l with
  | nil => exact .nil
  | cons s l ih =>
    obtain ⟨hs, hl⟩ := List.forall_mem_cons.mp hl
    refine .cons (showsShape_layOut hs _ none 0) ?_
    exact (ih hl).imp fun i c hc => Shows.mono hc (laidOut_layOut kindOf s _ none 0).kept

theorem Shows.nameOf? (h : Shows names nodes i name span) : nameOf? names nodes i = some name := by
  obtain ⟨r, hr, hname, -⟩ := h
  simp [Draft.nameOf?, hr, hname]

theorem Shows.inverted? (h : Shows names nodes i name span) (stop : Nat) :
    inverted? names nodes i stop =
      some (if stop < span.start then some (.inverted name ⟨span.start, stop⟩) else none) := by
  have hname := h.nameOf?
  obtain ⟨r, hr, -, rfl⟩ := h
  by_cases hstop : stop < r.span.start <;> simp [Draft.inverted?, hr, hname, hstop]

/-- Searching the records of shapes for one that ends too late is searching the shapes. -/
theorem firstBehind?_eq {ids : List Nat} {l : List Shape}
    (h : List.Forall₂ (ShowsShape names nodes) ids l) (stop : Nat) :
    (l.find? (stop < ·.span.stop) = none ∧ firstBehind? nodes stop ids = some none) ∨
      ∃ c i, l.find? (stop < ·.span.stop) = some c ∧ firstBehind? nodes stop ids = some (some i) ∧
        ShowsShape names nodes i c := by
  induction h with
  | nil => exact .inl ⟨rfl, rfl⟩
  | cons hi _ ih =>
    rename_i i c ids l _
    obtain ⟨r, hr, hname, hspan⟩ := hi
    by_cases hstop : stop < c.span.stop
    · exact .inr ⟨c, i, by simp [hstop], by simp [firstBehind?, hr, hspan, hstop],
        r, hr, hname, hspan⟩
    · have hfind : (c :: l).find? (stop < ·.span.stop) = l.find? (stop < ·.span.stop) := by
        simp [hstop]
      have hfirst : firstBehind? nodes stop (i :: ids) = firstBehind? nodes stop ids := by
        simp [firstBehind?, hr, hspan, hstop]
      rwa [hfind, hfirst]

theorem Shows.protruding? (h : Shows names nodes i name span) {ids : List Nat} {l : List Shape}
    (hl : List.Forall₂ (ShowsShape names nodes) ids l) :
    protruding? names nodes i ids =
      some ((l.find? (span.stop < ·.span.stop)).map fun c => .escapes c.name c.span name span) := by
  have hname := h.nameOf?
  obtain ⟨r, hr, -, rfl⟩ := h
  rcases firstBehind?_eq hl r.span.stop with ⟨hfind, hfirst⟩ | ⟨c, j, hfind, hfirst, hc⟩
  · simp [Draft.protruding?, hr, hfirst, hfind]
  · have hchild := hc.nameOf?
    obtain ⟨q, hq, -, hspan⟩ := hc
    simp [Draft.protruding?, hr, hfirst, hfind, hq, hchild, hname, hspan]

/-- A draft finds the same fault with the place of a completed node as an assembly. -/
theorem misplaced?_eq {d : Draft} {g : OpenNode} {f : Frame} {s : Shape}
    (hs : ShowsShape d.names d.nodes i s)
    (hf : Shows d.names d.nodes g.id f.kind ⟨f.start, f.start⟩)
    (hc : List.Forall₂ (ShowsShape d.names d.nodes) g.children f.completed)
    (outer : List Frame) (root : Option Shape) :
    ∃ v, d.misplaced? i g = some v ∧ Assembly.adopt ⟨d.names, f :: outer, root⟩ s =
      v.elim (.ok ⟨d.names, { f with completed := s :: f.completed } :: outer, root⟩) .error := by
  have hname := hs.nameOf?
  have hparent := hf.nameOf?
  obtain ⟨r, hr, -, hspan⟩ := hs
  obtain ⟨q, hq, -, hqspan⟩ := hf
  by_cases hstart : s.span.start < f.start
  · refine ⟨some (.escapes s.name s.span f.kind ⟨f.start, f.start⟩), ?_, ?_⟩
    · simp [misplaced?, hr, hq, hspan, hqspan, hstart, hname, hparent]
    · simp [Assembly.adopt, bind_eq_error_iff, hstart]
  · have hle : f.start ≤ s.span.start := by omega
    generalize hids : g.children = ids at hc
    generalize hcompleted : f.completed = completed at hc
    cases hc with
    | nil =>
      refine ⟨none, ?_, ?_⟩
      · simp [misplaced?, hr, hq, hspan, hqspan, hstart, hids]
      · simp [Assembly.adopt, bind_eq_ok_iff, hle, hcompleted]
    | cons hlatest =>
      obtain ⟨p, hp, -, hpspan⟩ := hlatest
      rename_i latest prev _ _ _
      by_cases hprev : s.span.start < prev.span.stop
      · refine ⟨some (.overlaps s.name s.span.start prev.span.stop), ?_, ?_⟩
        · simp [misplaced?, hr, hq, hspan, hqspan, hstart, hids, hp, hpspan, hprev, hname]
        · simp [Assembly.adopt, bind_eq_error_iff, hle, hcompleted, hprev]
      · have hle' : prev.span.stop ≤ s.span.start := by omega
        refine ⟨none, ?_, ?_⟩
        · simp [misplaced?, hr, hq, hspan, hqspan, hstart, hids, hp, hpspan, hprev]
        · simp [Assembly.adopt, bind_eq_ok_iff, hle, hcompleted, hle']

end Draft

namespace Assembly

open Draft

variable {kindOf : String → Nat} {names : NameTable} {root : Option Shape} {outer : List Frame}
  {f : Frame}

/-- The names in use are found in the table under the numbers that `kindOf` gives them. -/
def Finds (kindOf : String → Nat) (names : NameTable) (used : List String) : Prop :=
  ∀ kind ∈ used, names.names[kindOf kind]? = some kind

/-- The names of an open node and of its completed children are in use. -/
theorem Finds.frame (h : Finds kindOf names (kindsOf (history ⟨names, f :: outer, root⟩))) :
    names.names[kindOf f.kind]? = some f.kind ∧
      ∀ c ∈ f.completed, names.names[kindOf c.name]? = some c.name := by
  have hsub : kindsOf (Shape.steps (.group f.kind ⟨f.start, f.start⟩ f.completed.reverse)) ⊆
      kindsOf (history ⟨names, f :: outer, root⟩) := by
    rw [history_cons, kindsOf_append, f.kindsOf_steps f.start]
    exact List.subset_append_right _ _
  refine ⟨h _ (hsub (name_mem_kindsOf_steps (.group f.kind ⟨f.start, f.start⟩ _))), ?_⟩
  intro c hc
  have hmem : c ∈ f.completed.reverse := by simpa using hc
  exact h _ (hsub (kindsOf_steps_subset hmem (name_mem_kindsOf_steps c)))

/-- The record of an open node stays in its place while its children are laid out. -/
theorem shows_layLoose_push {r : NodeRecord} {name : String} {span : Span}
    (hkind : names.names[r.kind]? = some name) (hspan : r.span = span) (T : Layout)
    (l : List Shape) :
    Shows names (layLoose kindOf (T.push r) l).1.nodes T.nodes.size name span := by
  obtain ⟨ids, X, hX⟩ := layLoose_local kindOf l (T.nodes.size + 1) T.childTable.size
  rw [hX (T.push r) (by simp) rfl]
  exact ⟨r, by simp [Array.getElem?_append_left], hkind, hspan⟩

/-- An open node and its completed children are shown by their records. -/
theorem shows_layOpen (hkind : names.names[kindOf f.kind]? = some f.kind)
    (hcompleted : ∀ c ∈ f.completed, names.names[kindOf c.name]? = some c.name) (T : Layout) :
    Shows names (f.layOpen kindOf T).1.nodes (f.layOpen kindOf T).2.id f.kind ⟨f.start, f.start⟩ ∧
      List.Forall₂ (ShowsShape names (f.layOpen kindOf T).1.nodes) (f.layOpen kindOf T).2.children
        f.completed :=
  ⟨shows_layLoose_push hkind rfl T _, showsShape_layLoose hcompleted _⟩

end Assembly

end TreeAssist
