import TreeAssist.Proofs.Assembly.Agreement
import TreeAssist.Proofs.Tree.Visits
import TreeAssist.Tree.Snapshot

/-!
# Storing and loading

An arena can be read back from its stored form exactly if its numbers are within the limits of that
form (`Arena.Storable`, `Snapshot.decode_encode_iff`). The checks on a tree bound nearly all of its
numbers: kinds, parents, places and stretches refer to the tables, and every span lies in the
root's. What is left are the root's end and index and the entries of the child table that belong to
no node (`Tree.storable`).

Main statement: `load_encode`. A tree that was assembled from steps or has been loaded before is
stored and loaded again without a change. The same is true of the tables that a draft comes to
(`load_encode_outcome?`).
-/

namespace TreeAssist

namespace Wire.Value

variable {α : Type}

/-! ### Single values -/

theorem natBelow_nat {limit n : Nat} (h : n < limit) : (nat n).natBelow limit = some n :=
  if_pos h

theorem lt_of_natBelow {limit n : Nat} {v : Value} (h : v.natBelow limit = some n) :
    n < limit := by
  unfold natBelow at h
  split at h
  · split at h
    · cases h
      assumption
    · cases h
  · cases h

/-- A list is read back if each of its members is. -/
theorem list?_arr_map {f : Value → Option α} {g : α → Value} {l : List α}
    (h : ∀ x ∈ l, f (g x) = some x) : (arr (l.map g)).list? f = some l := by
  unfold list?
  simp only
  induction l with
  | nil => rfl
  | cons x l ih =>
    rw [List.map_cons, List.mapM_cons, h x (by simp), ih fun y hy => h y (by simp [hy])]
    rfl

/-- What is true of everything that `f` reads is true of the members of a list that it reads. -/
theorem forall_mem_of_list? {f : Value → Option α} {p : α → Prop}
    (hf : ∀ v x, f v = some x → p x) {v : Value} {l : List α} (h : v.list? f = some l) :
    ∀ x ∈ l, p x := by
  unfold list? at h
  split at h
  · rename_i items
    induction items generalizing l with
    | nil =>
      cases h
      simp
    | cons item items ih =>
      rw [List.mapM_cons] at h
      obtain ⟨x, hx, h⟩ := Option.bind_eq_some_iff.mp h
      obtain ⟨xs, hxs, h⟩ := Option.bind_eq_some_iff.mp h
      cases h
      exact List.forall_mem_cons.mpr ⟨hf item x hx, ih hxs⟩
  · cases h

end Wire.Value

/-! ### Numbers within the limits -/

/-- The numbers of the record are within the limits of the stored form. -/
structure NodeRecord.Storable (r : NodeRecord) : Prop where
  /-- There is an index for the kind. -/
  kind_lt : r.kind < kindLimit
  /-- The start can be addressed. -/
  start_lt : r.span.start < addressLimit
  /-- The end can be addressed. -/
  stop_lt : r.span.stop < addressLimit
  /-- The parent can be addressed. -/
  parent_lt : ∀ p, r.parent = some p → p < addressLimit
  /-- The place can be addressed. -/
  index_lt : r.index < addressLimit
  /-- The stretch of the child table starts within the limits … -/
  children_start_lt : r.children.start < addressLimit
  /-- … and ends there. -/
  children_stop_lt : r.children.stop < addressLimit

/-- The numbers in all tables are within the limits of the stored form. -/
structure Arena.Storable (a : Arena) : Prop where
  /-- Those of the records are. -/
  nodes : ∀ r ∈ a.nodes.toList, r.Storable
  /-- Those of the child table are. -/
  childTable : ∀ c ∈ a.childTable.toList, c < addressLimit

namespace Snapshot

open Wire

/-! ### Reading back what was stored -/

theorem decodeRange_encodeRange {s : Span} (hstart : s.start < addressLimit)
    (hstop : s.stop < addressLimit) : decodeRange (encodeRange s) = some s := by
  have hfields : (encodeRange s).closedRecord rangeFields =
      some [.nat s.start, .nat s.stop] := rfl
  unfold decodeRange
  rw [hfields]
  simp [address, Value.natBelow_nat hstart, Value.natBelow_nat hstop]

theorem decodeKind_encodeKind (k : Kind) : decodeKind (encodeKind k) = some k := rfl

/-- A parent is read back, and its absence too. -/
theorem option?_parent {parent : Option Nat} (h : ∀ p, parent = some p → p < addressLimit) :
    ((parent.map Value.nat).getD .null).option? address = some parent := by
  cases parent with
  | none => rfl
  | some p =>
    have haddress : address (.nat p) = some p := Value.natBelow_nat (h p rfl)
    show (address (.nat p)).map some = some (some p)
    rw [haddress]
    rfl

theorem decodeNode_encodeNode {r : NodeRecord} (h : r.Storable) :
    decodeNode (encodeNode r) = some r := by
  have hfields : (encodeNode r).record nodeFields =
      some [.nat r.kind, .nat r.span.start, .nat r.span.stop,
        (r.parent.map Value.nat).getD .null, .nat r.index, encodeRange r.children] := rfl
  unfold decodeNode
  rw [hfields]
  simp only [address, Value.natBelow_nat h.kind_lt, Value.natBelow_nat h.start_lt,
    Value.natBelow_nat h.stop_lt, Value.natBelow_nat h.index_lt, option?_parent h.parent_lt,
    decodeRange_encodeRange h.children_start_lt h.children_stop_lt]
  rfl

/-- An arena with numbers within the limits is read back from its stored form. -/
theorem decode_encode {a : Arena} (h : a.Storable) : decode (encode a) = some a := by
  have hfields : (encode a).record arenaFields =
      some [.arr (a.kinds.toList.map encodeKind), .arr (a.nodes.toList.map encodeNode),
        .arr (a.childTable.toList.map Value.nat)] := rfl
  have hkinds := Value.list?_arr_map (f := decodeKind) (g := encodeKind)
    fun k (_ : k ∈ a.kinds.toList) => decodeKind_encodeKind k
  have hnodes := Value.list?_arr_map (f := decodeNode) (g := encodeNode)
    fun r hr => decodeNode_encodeNode (h.nodes r hr)
  have htable := Value.list?_arr_map (f := address) (g := Value.nat)
    fun c hc => Value.natBelow_nat (h.childTable c hc)
  unfold decode
  rw [hfields]
  simp [hkinds, hnodes, htable]

/-! ### What can be read at all -/

theorem lt_of_decodeRange {v : Value} {s : Span} (h : decodeRange v = some s) :
    s.start < addressLimit ∧ s.stop < addressLimit := by
  unfold decodeRange at h
  split at h
  · obtain ⟨start, hstart, h⟩ := Option.bind_eq_some_iff.mp h
    obtain ⟨stop, hstop, h⟩ := Option.bind_eq_some_iff.mp h
    cases h
    exact ⟨Value.lt_of_natBelow hstart, Value.lt_of_natBelow hstop⟩
  · cases h

theorem storable_of_decodeNode {v : Value} {r : NodeRecord} (h : decodeNode v = some r) :
    r.Storable := by
  unfold decodeNode at h
  split at h
  · rename_i parent _ _ _
    obtain ⟨kind, hkind, h⟩ := Option.bind_eq_some_iff.mp h
    obtain ⟨start, hstart, h⟩ := Option.bind_eq_some_iff.mp h
    obtain ⟨stop, hstop, h⟩ := Option.bind_eq_some_iff.mp h
    obtain ⟨parent, hparent, h⟩ := Option.bind_eq_some_iff.mp h
    obtain ⟨index, hindex, h⟩ := Option.bind_eq_some_iff.mp h
    obtain ⟨children, hchildren, h⟩ := Option.bind_eq_some_iff.mp h
    cases h
    have hrange := lt_of_decodeRange hchildren
    refine ⟨Value.lt_of_natBelow hkind, Value.lt_of_natBelow hstart, Value.lt_of_natBelow hstop,
      ?_, Value.lt_of_natBelow hindex, hrange.1, hrange.2⟩
    rintro p rfl
    unfold Value.option? at hparent
    split at hparent
    · cases hparent
    · obtain ⟨q, hq, heq⟩ := Option.map_eq_some_iff.mp hparent
      cases heq
      exact Value.lt_of_natBelow hq
  · cases h

/-- What is read has numbers within the limits. -/
theorem storable_of_decode {v : Value} {a : Arena} (h : decode v = some a) : a.Storable := by
  unfold decode at h
  split at h
  · obtain ⟨kinds, -, h⟩ := Option.bind_eq_some_iff.mp h
    obtain ⟨nodes, hnodes, h⟩ := Option.bind_eq_some_iff.mp h
    obtain ⟨children, hchildren, h⟩ := Option.bind_eq_some_iff.mp h
    cases h
    refine ⟨?_, ?_⟩
    · exact Value.forall_mem_of_list? (fun _ _ => storable_of_decodeNode) hnodes
    · exact Value.forall_mem_of_list? (fun _ _ => Value.lt_of_natBelow) hchildren
  · cases h

/-- An arena is read back from its stored form exactly if its numbers are within the limits. -/
theorem decode_encode_iff {a : Arena} : decode (encode a) = some a ↔ a.Storable :=
  ⟨storable_of_decode, decode_encode⟩

/-- The tree that a value stores is the one whose arena the value stores. -/
theorem load_eq_ok_iff {v : Value} {t : Tree} : load v = .ok t ↔ decode v = some t.toArena := by
  unfold load
  cases decode v with
  | none => simp
  | some a =>
    simp only [Option.some.injEq]
    rw [eq_comm (a := a), ← Tree.ofArena_eq_ok_iff]
    cases Tree.ofArena a <;> simp

end Snapshot

/-! ### Trees that can be stored -/

namespace Tree

variable {t : Tree}

/-- The place of a node other than the root is one of its parent's places. -/
theorem Node.index_lt_of_parent? {n p : t.Node} (h : n.parent? = some p) :
    n.index < t.childTable.size := by
  obtain ⟨hk, -⟩ := child?_eq_some_iff.mp (child?_index h)
  have hin := p.slice.inside
  unfold childCount Arena.Slice.size at hk
  omega

/-- The numbers in the record of a node are within the limits, if those of the root are. -/
theorem Node.storable_record (n : t.Node) (hstop : t.extent < addressLimit)
    (hindex : t.root.index < addressLimit) : n.record.Storable := by
  have hnodes := t.wellFormed.nodes_lt
  have htable := t.wellFormed.childTable_lt
  have hspan : n.stop ≤ t.extent := (encloses_span n.root_encloses).2
  have hle := n.start_le_stop
  have hrange := n.fits.children_le
  have hinside := n.fits.children_inside
  refine ⟨Nat.lt_of_lt_of_le n.fits.kind_lt t.wellFormed.kinds_le, ?_, ?_, ?_, ?_, ?_, ?_⟩
  · exact Nat.lt_of_le_of_lt (Nat.le_trans hle hspan) hstop
  · exact Nat.lt_of_le_of_lt hspan hstop
  · intro p hp
    have hlt := parent_lt hp
    have hid := n.isLt
    omega
  · cases hp : n.parent? with
    | none =>
      rw [parent?_eq_none_iff.mp hp]
      exact hindex
    | some p => exact Nat.lt_trans (index_lt_of_parent? hp) htable
  · omega
  · omega

/-- A tree can be stored, if the end and the index of its root and the entries of its child table
are within the limits. All other numbers are bounded by the sizes of the tables. -/
theorem storable (hstop : t.extent < addressLimit) (hindex : t.root.index < addressLimit)
    (htable : ∀ c ∈ t.childTable.toList, c < addressLimit) : t.toArena.Storable := by
  refine ⟨?_, htable⟩
  intro r hr
  obtain ⟨i, hi, rfl⟩ := List.mem_iff_getElem.mp hr
  exact Node.storable_record ⟨i, by simpa using hi⟩ hstop hindex

end Tree

/-- The offsets of the step are below `limit`. -/
def Step.Below (limit : Nat) : Step → Prop
  | opens _ start => start < limit
  | leaf _ span => span.start < limit ∧ span.stop < limit
  | closes stop => stop < limit

instance (limit : Nat) : (s : Step) → Decidable (s.Below limit)
  | .opens _ start => inferInstanceAs (Decidable (start < limit))
  | .leaf _ span => inferInstanceAs (Decidable (span.start < limit ∧ span.stop < limit))
  | .closes stop => inferInstanceAs (Decidable (stop < limit))

/-- The end of a shape is announced by one of its steps. -/
theorem Shape.stop_lt_of_steps {s : Shape} {limit : Nat} (h : ∀ e ∈ s.steps, e.Below limit) :
    s.span.stop < limit := by
  cases s with
  | leaf name span => exact (h (.leaf name span) (by simp [steps])).2
  | group name span children => exact h (.closes span.stop) (by simp [steps])

/-- The root of an assembled tree has no place among siblings, and its index is `0`. -/
theorem Tree.index_root_of_ofSteps {steps : List Step} {t : Tree}
    (h : Tree.ofSteps steps = .ok t) : t.root.index = 0 := by
  rw [Tree.ofSteps, bind_eq_ok_iff] at h
  obtain ⟨a, -, hresult⟩ := h
  obtain ⟨s, -, -, ht⟩ := Assembly.result_eq_ok_iff.mp hresult
  have hlaid := Assembly.laidOut_arena a.names s
  rw [← ht] at hlaid
  obtain ⟨r, hr, -, -, -, hindex⟩ := hlaid.stored.exists_record
  obtain rfl : t.root.record = r := Option.some.inj (t.root.nodes_getElem?_id.symm.trans hr)
  exact hindex

/-- A tree that is assembled from addressable steps can be stored. -/
theorem Tree.storable_of_ofSteps {steps : List Step} {t : Tree}
    (hsteps : ∀ e ∈ steps, e.Below addressLimit) (h : Tree.ofSteps steps = .ok t) :
    t.toArena.Storable := by
  obtain ⟨s, rfl, -, hrep, -⟩ := Tree.exists_shape_of_ofSteps h
  have hspan : t.root.span = s.span := by
    have houtline := hrep.outline
    rw [Node.outline_eq] at houtline
    cases s <;> simp_all [Shape.outline, Shape.span]
  apply Tree.storable
  · show t.root.span.stop < addressLimit
    rw [hspan]
    exact Shape.stop_lt_of_steps hsteps
  · rw [Tree.index_root_of_ofSteps h]
    decide
  · -- Every entry of the child table belongs to a node, and so names one.
    intro c hc
    obtain ⟨j, hj, rfl⟩ := List.mem_iff_getElem.mp hc
    have hj : j < t.childTable.size := by simpa using hj
    obtain ⟨n, ⟨hstart, hstop⟩, -⟩ := hrep.slices j hj
    obtain ⟨k, hk, -, hget⟩ := Node.exists_child_of_mem_slice hstart hstop
    rw [Array.getElem?_eq_getElem hj, Option.some.injEq] at hget
    have hid := (n.child k hk).isLt
    have hnodes := t.wellFormed.nodes_lt
    simp only [Array.getElem_toList, hget]
    omega

/-- A tree that was assembled from steps with addressable offsets, or has been loaded from some
value, is loaded again from its own stored form, with the same tables. -/
theorem load_encode {t : Tree}
    (h : (∃ steps : List Step, (∀ e ∈ steps, e.Below addressLimit) ∧
        Tree.ofSteps steps = .ok t) ∨
      ∃ v, Snapshot.load v = .ok t) :
    Snapshot.load (Snapshot.encode t.toArena) = .ok t := by
  rw [Snapshot.load_eq_ok_iff, Snapshot.decode_encode_iff]
  rcases h with ⟨steps, hsteps, ht⟩ | ⟨v, hv⟩
  · exact Tree.storable_of_ofSteps hsteps ht
  · exact Snapshot.storable_of_decode (Snapshot.load_eq_ok_iff.mp hv)

/-- The tables that steps with addressable offsets for fewer than `addressLimit` nodes come to are
those of a tree, which is loaded from their stored form. -/
theorem load_encode_outcome? {steps : List Step} {a : Arena}
    (hsteps : ∀ e ∈ steps, e.Below addressLimit) (hsize : (kindsOf steps).length < addressLimit)
    (h : Draft.outcome? steps = some (.ok a)) :
    ∃ t : Tree, t.toArena = a ∧ Snapshot.load (Snapshot.encode a) = .ok t := by
  -- A draft comes to the tables of the assembled tree, which can be stored.
  rw [Draft.outcome?_eq_ofSteps hsize, Option.some.injEq] at h
  cases ht : Tree.ofSteps steps with
  | error v =>
    rw [ht] at h
    cases h
  | ok t =>
    rw [ht] at h
    cases h
    have hstorable := Tree.storable_of_ofSteps hsteps ht
    exact ⟨t, rfl, Snapshot.load_eq_ok_iff.mpr (Snapshot.decode_encode_iff.mpr hstorable)⟩

/-- The steps for the text `pass`, which end at the greatest offset and with something missing. -/
def endingSteps : List Step :=
  [.opens "Script" 0, .leaf "pass" ⟨0, 4⟩, .recovery 4, .closes 4294967295]

/-- A stored form of `spareEntryArena` in which most records are written without the names of their
fields. -/
def spareEntryValue : Wire.Value :=
  .arr [.arr [.arr [.str "Script", .bool false], .arr [.str "pass", .bool false]],
    .arr [.arr [.nat 0, .nat 0, .nat 5, .null, .nat 0, .arr [.nat 1, .nat 2]],
      .obj [("index", .nat 0), ("kind", .nat 1), ("from", .nat 0), ("to", .nat 4),
        ("parent", .nat 0), ("children", .arr [.nat 0, .nat 0])]],
    .arr [.nat 7, .nat 1]]

/-- The greatest offset is kept, and so is a table entry that belongs to no record. -/
theorem load_encode_limits :
    (∃ t, Tree.ofSteps endingSteps = .ok t ∧ Snapshot.load (Snapshot.encode t.toArena) = .ok t) ∧
      ∃ t, Snapshot.load spareEntryValue = .ok t ∧
        Snapshot.load (Snapshot.encode t.toArena) = .ok t := by
  refine ⟨?_, ?_⟩
  · have hlawful : Shape.Lawful (.group "Script" ⟨0, 4294967295⟩
        [.leaf "pass" ⟨0, 4⟩, .leaf recoveryName ⟨4, 4⟩]) := by
      refine .group (by decide) (by simp [Shape.span]) (by simp [Shape.span]) ?_
      simp only [List.mem_cons, List.not_mem_nil, or_false, forall_eq_or_imp, forall_eq]
      exact ⟨.leaf (by decide), .leaf (by decide)⟩
    obtain ⟨t, ht⟩ := Tree.exists_ofSteps hlawful (by decide +kernel) (by decide +kernel)
    exact ⟨t, ht, load_encode (.inl ⟨endingSteps, by decide, ht⟩)⟩
  · have hwf : spareEntryArena.WellFormed :=
      Arena.check_eq_ok_iff.mp (show spareEntryArena.check = .ok () from rfl)
    have hload : Snapshot.load spareEntryValue = .ok ⟨spareEntryArena, hwf⟩ :=
      Snapshot.load_eq_ok_iff.mpr rfl
    exact ⟨_, hload, load_encode (.inr ⟨spareEntryValue, hload⟩)⟩

end TreeAssist
