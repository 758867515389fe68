import TreeAssist.Proofs.Assembly.Run
import TreeAssist.Proofs.Assembly.Tables
import TreeAssist.Proofs.Tree.Outline

/-!
# Exactness of assembly

A sequence of steps makes a tree exactly if it announces one lawful shape with not too many
different names, and the tree then represents that shape (`ofSteps_exact`).

* `Tree.Represents` — the arena of a tree holds a shape in pre-order and nothing else.
* `Shape.Stored.outline_eq`, `Shape.Stored.preorder_eq` — what is stored in an arena is found there
  by following the child table.
-/

namespace TreeAssist

/-- The arena of `t` holds the shape `s`, numbered in pre-order, and nothing else. -/
structure Tree.Represents (t : Tree) (s : Shape) : Prop where
  /-- Names, spans and children are those of the shape. -/
  outline : t.root.outline = s.outline
  /-- The nodes are numbered in pre-order. -/
  preorder : t.root.preorder.map Node.id = List.range t.size
  /-- The root has no parent. -/
  root : t.root.parent? = none
  /-- Each child names its parent and its place there. -/
  links : ∀ (n : t.Node) (k : Nat) (h : k < n.childCount),
    (n.child k h).parent? = some n ∧ (n.child k h).index = k
  /-- Each entry of the child table belongs to one node. -/
  slices : ∀ j < t.childTable.size,
    ∃! n : t.Node, n.slice.span.start ≤ j ∧ j < n.slice.span.stop
  /-- The kinds are the names in use, each once, in the order of their first use. -/
  kinds : t.kinds.toList.map Kind.name = (kindsOf s.steps).eraseDups
  /-- Only the recovery name names a kind of recovered errors. -/
  errors : ∀ k ∈ t.kinds, k.isError = true ↔ k.name = recoveryName

namespace Shape.Stored

variable {t : Tree} {kindOf : String → Nat} {parent : Option Nat} {index : Nat}

/-- The record of a node in whose place a shape is stored. -/
theorem record_eq {n : t.Node} {s : Shape} (h : Stored kindOf t.layout parent index n.id s) :
    n.record.kind = kindOf s.name ∧ n.span = s.span := by
  obtain ⟨r, hr, hkind, hspan, -⟩ := h.exists_record
  obtain rfl : n.record = r := Option.some.inj (n.nodes_getElem?_id.symm.trans hr)
  exact ⟨hkind, hspan⟩

/-- A node in whose place a leaf is stored has no children. -/
theorem children_of_leaf {n : t.Node} {name : String} {span : Span}
    (h : Stored kindOf t.layout parent index n.id (.leaf name span)) : n.children = [] := by
  obtain ⟨record⟩ := h
  have hrec := Option.some.inj (n.nodes_getElem?_id.symm.trans record)
  have hcount : n.childCount = 0 := by
    simp [Tree.Node.childCount, Arena.Slice.size, Tree.Node.slice, hrec]
  exact List.eq_nil_of_length_eq_zero (by rw [Tree.Node.length_children, hcount])

/-- A node in whose place a group is stored has the group's children. -/
theorem children_of_group {n : t.Node} {name : String} {span : Span} {children : List Shape}
    (h : Stored kindOf t.layout parent index n.id (.group name span children)) :
    n.children.length = children.length ∧ ∀ k (m : t.Node) c, n.children[k]? = some m →
      children[k]? = some c → m.id = n.id + 1 + countAll 0 (children.take k) ∧
        Stored kindOf t.layout (some n.id) k m.id c := by
  obtain _ | ⟨first, record, inside, listed, below⟩ := h
  have hrec := Option.some.inj (n.nodes_getElem?_id.symm.trans record)
  have hspan : n.slice.span = ⟨first, first + children.length⟩ := congrArg NodeRecord.children hrec
  refine ⟨?_, ?_⟩
  · simp [Tree.Node.childCount, Arena.Slice.size, hspan]
  · intro k m c hm hc
    rw [Tree.Node.children_getElem?] at hm
    obtain ⟨hk, rfl⟩ := Tree.Node.child?_eq_some_iff.mp hm
    -- The entry of the child table in that place is the index of the child.
    have hget := (Arena.Slice.get?_eq_some_iff.mp (n.slice_get?_child hk)).2
    rw [hspan] at hget
    have hid := Option.some.inj (hget.symm.trans (listed k c hc))
    refine ⟨hid, ?_⟩
    rw [hid]
    exact below k c hc

/-- A node in whose place a shape is stored has the name of the shape. -/
theorem name_eq {n : t.Node} {s : Shape} (h : Stored kindOf t.layout parent index n.id s)
    (hkinds : ∀ kind ∈ kindsOf s.steps, t.kinds[kindOf kind]? = some (Kind.ofName kind)) :
    n.name = s.name := by
  have hkind := hkinds s.name (name_mem_kindsOf_steps s)
  rw [← h.record_eq.1, Array.getElem?_eq_getElem n.fits.kind_lt] at hkind
  exact congrArg Kind.name (Option.some.inj hkind)

/-- The outline of what is stored is found in the tree. -/
theorem outline_eq {n : t.Node} {s : Shape} (h : Stored kindOf t.layout parent index n.id s)
    (hkinds : ∀ kind ∈ kindsOf s.steps, t.kinds[kindOf kind]? = some (Kind.ofName kind)) :
    n.outline = s.outline := by
  induction s using inductionOn generalizing parent index n with
  | leaf name span =>
    rw [Tree.Node.outline_eq, children_of_leaf h, h.name_eq hkinds, h.record_eq.2]
    rfl
  | group name span children ih =>
    obtain ⟨hlen, hchild⟩ := children_of_group h
    -- The children agree one by one, since each is stored in its place.
    have hchildren : n.children.map Tree.Node.outline = children.map outline := by
      refine List.ext_getElem (by simpa using hlen) fun k hk hk' => ?_
      simp only [List.length_map] at hk hk'
      simp only [List.getElem_map]
      have hmem : children[k] ∈ children := List.getElem_mem hk'
      obtain ⟨-, hstored⟩ := hchild k _ _ (List.getElem?_eq_getElem hk)
        (List.getElem?_eq_getElem hk')
      exact ih _ hmem hstored fun kind hkind => hkinds kind (kindsOf_steps_subset hmem hkind)
    rw [Tree.Node.outline_eq, hchildren, h.name_eq hkinds, h.record_eq.2, outline,
      outlineAll_eq_map]
    rfl

/-- Trees that are numbered without gaps, one behind the other, are walked through without gaps. -/
private theorem map_id_flatMap_preorder (ms : List t.Node) (l : List Shape) (base : Nat)
    (hlen : ms.length = l.length)
    (h : ∀ k m c, ms[k]? = some m → l[k]? = some c →
      m.preorder.map Tree.Node.id =
        List.range' (base + countAll 0 (l.take k)) (1 + c.descendants)) :
    (ms.flatMap Tree.Node.preorder).map Tree.Node.id = List.range' base (countAll 0 l) := by
  induction l generalizing ms base with
  | nil =>
    obtain rfl := List.eq_nil_of_length_eq_zero hlen
    rfl
  | cons c l ih =>
    cases ms with
    | nil => simp at hlen
    | cons m ms =>
      -- The first tree takes up the numbers from `base` on, the others those behind it.
      have hfirst := h 0 m c rfl rfl
      have hrest := ih ms (base + (1 + c.descendants)) (by simpa using hlen)
        fun k m' c' hm hc => by
          have := h (k + 1) m' c' (by simpa using hm) (by simpa using hc)
          rw [List.take_succ_cons, countAll_cons, ← Nat.add_assoc] at this
          exact this
      simp only [List.take_zero, countAll, Nat.add_zero] at hfirst
      rw [List.flatMap_cons, List.map_append, hfirst, hrest, countAll_cons, List.range'_append_1]

/-- What is stored is numbered in the order in which it is walked through. -/
theorem preorder_eq {n : t.Node} {s : Shape} (h : Stored kindOf t.layout parent index n.id s) :
    n.preorder.map Tree.Node.id = List.range' n.id (1 + s.descendants) := by
  induction s using inductionOn generalizing parent index n with
  | leaf name span =>
    rw [Tree.Node.preorder_eq, children_of_leaf h]
    rfl
  | group name span children ih =>
    obtain ⟨hlen, hchild⟩ := children_of_group h
    have hbelow := map_id_flatMap_preorder n.children children (n.id + 1) hlen
      fun k m c hm hc => by
        obtain ⟨hid, hstored⟩ := hchild k m c hm hc
        rw [← hid]
        exact ih c (List.mem_of_getElem? hc) hstored
    rw [Tree.Node.preorder_eq, List.map_cons, hbelow, descendants, Nat.add_comm 1,
      List.range'_succ]

end Shape.Stored

namespace Assembly

variable {names : NameTable} {s : Shape}

/-- The kinds of an arena are found under the numbers of their names. -/
theorem arena_kinds_number {kind : String} {used : List String} (hnames : names.Lists used)
    (hkind : kind ∈ used) :
    (arena names s).kinds[names.number kind]? = some (Kind.ofName kind) := by
  have hmem : kind ∈ names.names.toList := by
    rw [hnames, List.mem_eraseDups]
    exact hkind
  rw [arena, Array.getElem?_map, NameTable.names_number hmem]
  rfl

/-- The tables of an arena are those of its shape. -/
theorem laidOut_arena (names : NameTable) (s : Shape) :
    Shape.LaidOut names.number {} (arena names s).layout none 0 s :=
  Shape.laidOut_layOut names.number s {} none 0

/-- The arena of a lawful shape is a tree. -/
theorem wellFormed_arena (hs : s.Lawful) (hnames : names.Lists (kindsOf s.steps))
    (hroom : (kindsOf s.steps).eraseDups.length ≤ kindLimit)
    (hsize : (kindsOf s.steps).length < addressLimit) : (arena names s).WellFormed := by
  have hlaid := laidOut_arena names s
  have hnodes : (arena names s).nodes.size = 1 + s.descendants := by
    simpa using hlaid.nodes_size
  have htable : (arena names s).childTable.size = s.descendants := by
    simpa using hlaid.childTable_size
  -- Every step but a closing one announces a node, so the bound on the steps bounds the tables.
  rw [Shape.length_kindsOf_steps] at hsize
  refine ⟨?_, ?_, by omega, by omega, ?_, ?_⟩
  · obtain ⟨r, hr, -, -, hparent, -⟩ := hlaid.stored.exists_record
    exact ⟨r, hr, hparent⟩
  · have hkinds : (arena names s).kinds.size = (kindsOf s.steps).eraseDups.length := by
      rw [arena, Array.size_map, ← Array.length_toList, hnames]
    omega
  · intro k hk
    obtain ⟨name, -, rfl⟩ := Array.mem_map.mp hk
    exact Kind.consistent_ofName name
  · -- Every record is one of the records of the shape.
    intro i r hr
    have hi := (Array.getElem?_eq_some_iff.mp hr).1
    obtain ⟨r', hr', hfits⟩ := hlaid.stored.fits hs
      (fun kind hkind => (Array.getElem?_eq_some_iff.mp (arena_kinds_number hnames hkind)).1)
      (fun _ _ h0 => absurd h0 (Nat.lt_irrefl 0)) (Nat.zero_le i) (by simp; omega)
    rw [hr] at hr'
    cases hr'
    exact hfits

/-- The arena of a lawful shape represents it. -/
theorem represents_arena {t : Tree} (hnames : names.Lists (kindsOf s.steps))
    (ht : t.toArena = arena names s) : t.Represents s := by
  have hlaid := laidOut_arena names s
  rw [← ht] at hlaid
  have hnodes : t.nodes.size = 1 + s.descendants := by
    simpa using hlaid.nodes_size
  have htable : t.childTable.size = s.descendants := by
    simpa using hlaid.childTable_size
  have hstored : Shape.Stored names.number t.layout none 0 t.root.id s := hlaid.stored
  have hkinds : t.kinds = names.names.map Kind.ofName := congrArg Arena.kinds ht
  refine ⟨?_, ?_, ?_, ?_, ?_, ?_, ?_⟩
  · refine hstored.outline_eq fun kind hkind => ?_
    rw [congrArg Arena.kinds ht]
    exact arena_kinds_number hnames hkind
  · rw [hstored.preorder_eq, Tree.size, hnodes, List.range_eq_range']
    rfl
  · exact Tree.Node.parent?_eq_none_iff.mpr rfl
  · intro n k h
    exact ⟨n.parent?_child k h, n.index_child k h⟩
  · -- The child table has as many entries as there are nodes below the root.
    intro j hj
    obtain ⟨n, hn⟩ := t.exists_mem_slice (by omega) hj
    exact ⟨n, hn, fun m hm => Tree.Node.eq_of_mem_slice hm hn⟩
  · -- The names of the kinds are the names listed, without repetitions and in order of first use.
    rw [hkinds, Array.toList_map, List.map_map, ← hnames]
    exact List.map_id _
  · intro k hk
    rw [hkinds] at hk
    obtain ⟨name, -, rfl⟩ := Array.mem_map.mp hk
    simp [Kind.ofName]

/-- A completed assembly is turned into a tree if its arena is one. -/
theorem result_eq_ok_iff {a : Assembly} {t : Tree} :
    a.result = .ok t ↔
      ∃ s, a.frames = [] ∧ a.root = some s ∧ t.toArena = arena a.names s := by
  obtain ⟨names, frames, root⟩ := a
  match frames, root with
  | [], none => simp [result]
  | [], some s => simp [result, Tree.ofArena_eq_ok_iff]
  | f :: outer, root => simp [result]

end Assembly

/-- The steps of a tree are those of a lawful shape, which the tree represents. -/
theorem Tree.exists_shape_of_ofSteps {steps : List Step} {t : Tree}
    (h : Tree.ofSteps steps = .ok t) :
    ∃ s : Shape, s.steps = steps ∧ s.Lawful ∧ t.Represents s ∧
      (kindsOf steps).eraseDups.length ≤ kindLimit := by
  rw [Tree.ofSteps, bind_eq_ok_iff] at h
  obtain ⟨⟨names, frames, root⟩, hrun, hresult⟩ := h
  obtain ⟨s, hframes, hroot, ht⟩ := Assembly.result_eq_ok_iff.mp hresult
  simp only at hframes hroot ht
  subst hframes hroot
  obtain ⟨rfl, hs, hnames⟩ := Assembly.steps_eq_of_run_empty hrun
  have hrep := Assembly.represents_arena hnames ht
  refine ⟨s, rfl, hs, hrep, ?_⟩
  rw [← hrep.kinds, List.length_map, Array.length_toList]
  exact t.wellFormed.kinds_le

/-- The steps of a lawful shape with not too many nodes and different names make a tree. -/
theorem Tree.exists_ofSteps {s : Shape} (hs : s.Lawful)
    (hroom : (kindsOf s.steps).eraseDups.length ≤ kindLimit)
    (hsize : (kindsOf s.steps).length < addressLimit) : ∃ t, Tree.ofSteps s.steps = .ok t := by
  obtain ⟨names, hnames, hrun⟩ := Assembly.run_empty_steps hs hroom
  have hwf := Assembly.wellFormed_arena hs hnames hroom hsize
  refine ⟨⟨Assembly.arena names s, hwf⟩, ?_⟩
  rw [Tree.ofSteps, bind_eq_ok_iff]
  exact ⟨_, hrun, Assembly.result_eq_ok_iff.mpr ⟨s, rfl, rfl, rfl⟩⟩

/-- A sequence of steps for fewer than `addressLimit` nodes makes a tree exactly if it announces one
shape and no other, this shape is lawful, and at most `kindLimit` different names are used; the tree
then represents that shape. -/
theorem ofSteps_exact (steps : List Step) (hsize : (kindsOf steps).length < addressLimit) :
    ((∃ t, Tree.ofSteps steps = .ok t) ↔
      (∃ s : Shape, s.Lawful ∧ ∀ s' : Shape, s'.steps = steps ↔ s' = s) ∧
        (kindsOf steps).eraseDups.length ≤ kindLimit) ∧
    ∀ (t : Tree) (s : Shape), Tree.ofSteps steps = .ok t → s.steps = steps → t.Represents s := by
  refine ⟨⟨?_, ?_⟩, ?_⟩
  · rintro ⟨t, ht⟩
    obtain ⟨s, rfl, hs, -, hroom⟩ := Tree.exists_shape_of_ofSteps ht
    exact ⟨⟨s, hs, fun s' => ⟨Shape.steps_injective, fun h => h ▸ rfl⟩⟩, hroom⟩
  · rintro ⟨⟨s, hs, hunique⟩, hroom⟩
    obtain rfl := (hunique s).mpr rfl
    exact Tree.exists_ofSteps hs hroom hsize
  · intro t s ht hsteps
    obtain ⟨s', hsteps', -, hrep, -⟩ := Tree.exists_shape_of_ofSteps ht
    rwa [Shape.steps_injective (hsteps.trans hsteps'.symm)]

/-- The steps for the text `pass` with something missing behind it. -/
theorem ofSteps_exact_pass :
    ∃ t, Tree.ofSteps [.opens "Script" 0, .opens "PassStatement" 0, .leaf "pass" ⟨0, 4⟩, .closes 4,
        .recovery 4, .closes 5] = .ok t ∧
      t.Represents (.group "Script" ⟨0, 5⟩
        [.group "PassStatement" ⟨0, 4⟩ [.leaf "pass" ⟨0, 4⟩], .leaf recoveryName ⟨4, 4⟩]) := by
  obtain ⟨hiff, hrep⟩ := ofSteps_exact
    (Shape.steps (.group "Script" ⟨0, 5⟩
      [.group "PassStatement" ⟨0, 4⟩ [.leaf "pass" ⟨0, 4⟩], .leaf recoveryName ⟨4, 4⟩])) (by decide)
  have hlawful : Shape.Lawful (.group "Script" ⟨0, 5⟩
      [.group "PassStatement" ⟨0, 4⟩ [.leaf "pass" ⟨0, 4⟩], .leaf recoveryName ⟨4, 4⟩]) := by
    refine .group (by decide) (by simp [Shape.span]) (by simp [Shape.span]) ?_
    simp only [List.mem_cons, List.not_mem_nil, or_false, forall_eq_or_imp, forall_eq]
    refine ⟨.group (by decide) (by simp [Shape.span]) (by simp) ?_, .leaf (by decide)⟩
    simp only [List.mem_singleton, forall_eq]
    exact .leaf (by decide)
  obtain ⟨t, ht⟩ := hiff.mpr
    ⟨⟨_, hlawful, fun s => ⟨Shape.steps_injective, fun h => h ▸ rfl⟩⟩, by decide⟩
  exact ⟨t, ht, hrep t _ ht rfl⟩

end TreeAssist
