import TreeAssist.Proofs.Assembly.Layout

/-!
# Stored shapes make trees

The tables of a lawful shape pass all checks. The record of every node fits: its span and its
stretch of the child table are in order, its children link back, and it lies in its parent behind
the sibling in front of it. This is shown for the topmost record first and then, child by child, for
the records below it (`Shape.Stored.fits`).
-/

namespace TreeAssist

/-- The tables of an arena, kinds apart. -/
def Arena.layout (a : Arena) : Shape.Layout :=
  { nodes := a.nodes, childTable := a.childTable }

@[simp]
theorem Arena.nodes_layout (a : Arena) : a.layout.nodes = a.nodes := rfl

@[simp]
theorem Arena.childTable_layout (a : Arena) : a.layout.childTable = a.childTable := rfl

namespace Shape

/-- The name of the topmost node is used first. -/
theorem name_mem_kindsOf_steps (s : Shape) : s.name ∈ kindsOf s.steps := by
  cases s <;> simp [steps, name]

/-- A group uses the names that its children use. -/
theorem kindsOf_steps_subset {name : String} {span : Span} {children : List Shape} {c : Shape}
    (hc : c ∈ children) : kindsOf c.steps ⊆ kindsOf (steps (.group name span children)) := by
  intro kind hkind
  obtain ⟨l, l', rfl⟩ := List.append_of_mem hc
  simp [steps, stepsAll_append, stepsAll, hkind]

/-- Each node of a list of trees, counted in pre-order, lies in one of them. -/
theorem exists_child_of_lt_countAll {l : List Shape} {j : Nat} (hj : j < countAll 0 l) :
    ∃ k c, l[k]? = some c ∧ countAll 0 (l.take k) ≤ j ∧
      j < countAll 0 (l.take k) + 1 + c.descendants := by
  induction l generalizing j with
  | nil => simp [countAll] at hj
  | cons s l ih =>
    rw [countAll_cons] at hj
    by_cases hs : j < 1 + s.descendants
    · exact ⟨0, s, rfl, by simp [countAll], by simp [countAll]; omega⟩
    · obtain ⟨k, c, hc, hle, hlt⟩ := ih (j := j - (1 + s.descendants)) (by omega)
      refine ⟨k + 1, c, by simpa using hc, ?_, ?_⟩
      · rw [List.take_succ_cons, countAll_cons]
        omega
      · rw [List.take_succ_cons, countAll_cons]
        omega

namespace Stored

variable {kindOf : String → Nat} {parent : Option Nat} {index id : Nat} {s : Shape}

/-- The record of the topmost node says what the node is and where it was put. -/
theorem exists_record {T : Layout} (h : Stored kindOf T parent index id s) :
    ∃ r, T.nodes[id]? = some r ∧ r.kind = kindOf s.name ∧ r.span = s.span ∧
      r.parent = parent ∧ r.index = index := by
  cases h with
  | leaf record => exact ⟨_, record, rfl, rfl, rfl, rfl⟩
  | group first record => exact ⟨_, record, rfl, rfl, rfl, rfl⟩

variable {a : Arena}

/-- The children of a stored group have their places in it. -/
private theorem placed_child {name : String} {span : Span} {children : List Shape} {first : Nat}
    (record : a.nodes[id]? = some
      { kind := kindOf name, span, parent, index, children := ⟨first, first + children.length⟩ })
    (listed : ∀ k c, children[k]? = some c →
      a.childTable[first + k]? = some (id + 1 + countAll 0 (children.take k)))
    (below : ∀ k c, children[k]? = some c →
      Stored kindOf a.layout (some id) k (id + 1 + countAll 0 (children.take k)) c)
    (inside : ∀ c ∈ children, span.start ≤ c.span.start ∧ c.span.stop ≤ span.stop)
    (apart : children.IsChain fun c d => c.span.stop ≤ d.span.start)
    {k : Nat} {c : Shape} (hc : children[k]? = some c) {r : NodeRecord}
    (hr : a.nodes[id + 1 + countAll 0 (children.take k)]? = some r) :
    a.Placed (id + 1 + countAll 0 (children.take k)) r := by
  obtain ⟨hk, rfl⟩ := List.getElem?_eq_some_iff.mp hc
  obtain ⟨r', hr', -, hspan, hparent, hindex⟩ := (below k _ hc).exists_record
  obtain rfl : r = r' := Option.some.inj (hr.symm.trans hr')
  obtain ⟨hstart, hstop⟩ := inside children[k] (List.getElem_mem hk)
  refine ⟨id, _, hparent, by omega, record, ?_, ?_, ?_, ?_, ?_⟩
  · simp only [hindex]
    omega
  · rw [hindex]
    exact listed k _ hc
  · rwa [hspan]
  · rwa [hspan]
  · -- The sibling in front is the child numbered `k - 1`.
    intro c' prev hpos hlisted hprev
    obtain ⟨k, rfl⟩ : ∃ m, k = m + 1 := ⟨k - 1, by omega⟩
    rw [hindex, Nat.add_sub_cancel] at hlisted
    have hk' : children[k]? = some children[k] := List.getElem?_eq_getElem (by omega)
    rw [listed k _ hk'] at hlisted
    obtain ⟨p, hp, -, hpspan, -⟩ := (below k _ hk').exists_record
    obtain rfl : _ = c' := Option.some.inj hlisted
    obtain rfl : prev = p := Option.some.inj (hprev.symm.trans hp)
    rw [hspan, hpspan]
    exact apart.getElem k hk

/-- All records of a stored lawful tree fit, if the topmost one has its place. -/
theorem fits (h : Stored kindOf a.layout parent index id s) (hs : s.Lawful)
    (hkinds : ∀ kind ∈ kindsOf s.steps, kindOf kind < a.kinds.size)
    (htop : ∀ r, a.nodes[id]? = some r → 0 < id → a.Placed id r) {j : Nat} (hid : id ≤ j)
    (hj : j < id + 1 + s.descendants) : ∃ r, a.nodes[j]? = some r ∧ a.Fits j r := by
  induction h with
  | leaf record =>
    rename_i name span
    rw [descendants] at hj
    obtain rfl : _ = j := Nat.le_antisymm hid (by omega)
    refine ⟨_, record, hkinds name (name_mem_kindsOf_steps (.leaf name span)), hs.start_le_stop,
      Nat.le_refl _, Nat.zero_le _, ?_, htop _ record⟩
    intro k c hk
    simp at hk
  | group first record inside listed below ih =>
    rename_i parent index id name span children
    obtain ⟨-, -⟩ | ⟨hle, hinside, hapart, hbelow⟩ := hs
    rcases Nat.eq_or_lt_of_le hid with rfl | hlt
    · refine ⟨_, record, hkinds name (name_mem_kindsOf_steps (.group name span children)), hle,
        Nat.le_add_right _ _, inside, ?_, htop _ record⟩
      -- The entries of the stretch are the children, whose records name this node.
      intro k c hk hc
      have hk' : k < children.length := by
        simp only at hk
        omega
      have hget : children[k]? = some children[k] := List.getElem?_eq_getElem hk'
      obtain ⟨r, hr, -, -, hparent, hindex⟩ := (below k _ hget).exists_record
      obtain rfl : _ = c := Option.some.inj ((listed k _ hget).symm.trans hc)
      exact ⟨by omega, r, hr, hparent, hindex⟩
    · -- Every other record belongs to the tree of a child.
      rw [descendants] at hj
      obtain ⟨k, c, hc, hle', hlt'⟩ :=
        exists_child_of_lt_countAll (l := children) (j := j - (id + 1)) (by omega)
      have hmem : c ∈ children := List.mem_of_getElem? hc
      refine ih k c hc (hbelow c hmem)
        (fun kind hk => hkinds kind (kindsOf_steps_subset hmem hk)) ?_ (by omega) (by omega)
      intro r hr _
      exact placed_child record listed below hinside hapart hc hr

end Stored

end Shape

end TreeAssist
