import TreeAssist.Proofs.Assembly.Names
import TreeAssist.Tree.Draft

/-!
# Drafts in range

A draft goes on after a violation, with spans that do not fit, leaves that are missing and nodes
that are closed in place of others. What carries its look-ups through all of this is less than a
tree: the open nodes and their children have records, and the kinds of the records have names
(`Draft.InRange`). Every step finds what it looks for in such a draft, leaves another one, and keeps
the violation that is there (`Draft.InRange.take?`), and so does every run (`Draft.InRange.run?`).

So the first violation of a run belongs to one of its steps, and what comes behind that step is of
no account (`Draft.exists_first_violation`).
-/

namespace TreeAssist

namespace Draft

/-! ### Records that stay in range -/

/-- The kinds of the records have names. -/
def Known (names : NameTable) (nodes : Array NodeRecord) : Prop :=
  ∀ k ∈ nodes.map NodeRecord.kind, k < names.names.size

/-- The records have been changed in other fields than their kinds. -/
def SameKinds (nodes nodes' : Array NodeRecord) : Prop :=
  nodes'.map NodeRecord.kind = nodes.map NodeRecord.kind

variable {names : NameTable} {nodes nodes' : Array NodeRecord}

theorem SameKinds.trans {nodes'' : Array NodeRecord} (h : SameKinds nodes nodes')
    (h' : SameKinds nodes' nodes'') : SameKinds nodes nodes'' :=
  Eq.trans h' h

theorem SameKinds.size_eq (h : SameKinds nodes nodes') : nodes'.size = nodes.size := by
  simpa using congrArg Array.size h

theorem SameKinds.known (h : SameKinds nodes nodes') (hk : Known names nodes) :
    Known names nodes' := by
  unfold Known
  rwa [show nodes'.map NodeRecord.kind = nodes.map NodeRecord.kind from h]

theorem Known.kind_lt (h : Known names nodes) {i : Nat} (hi : i < nodes.size) :
    nodes[i].kind < names.names.size :=
  h _ (Array.mem_map_of_mem (Array.getElem_mem hi))

/-- A new record of a known kind joins the others, while names may be added. -/
theorem Known.push {names' : NameTable} {r : NodeRecord} (h : Known names nodes)
    (hle : names.names.size ≤ names'.names.size) (hr : r.kind < names'.names.size) :
    Known names' (nodes.push r) := by
  intro k hk
  rw [Array.map_push, Array.mem_push] at hk
  rcases hk with hk | rfl
  · exact Nat.lt_of_lt_of_le (h k hk) hle
  · exact hr

/-- Changing a record finds it and leaves the kinds as they are, if its own kind is kept. -/
theorem exists_amend? {i : Nat} (hi : i < nodes.size) {f : NodeRecord → NodeRecord}
    (hf : ∀ r, (f r).kind = r.kind) :
    ∃ nodes', amend? nodes i f = some nodes' ∧ SameKinds nodes nodes' := by
  refine ⟨nodes.setIfInBounds i (f nodes[i]), by simp [amend?, hi], ?_⟩
  unfold SameKinds
  rw [Array.map_setIfInBounds, hf]
  ext j hj hj'
  · simp
  · rw [Array.getElem_setIfInBounds (by simpa using hj')]
    split
    · subst j
      simp
    · rfl

/-- Linking children finds all of them. -/
theorem exists_link? (parent : Nat) {ids : List Nat} (hids : ∀ i ∈ ids, i < nodes.size) (k : Nat) :
    ∃ nodes', link? nodes parent k ids = some nodes' ∧ SameKinds nodes nodes' := by
  induction ids generalizing nodes k with
  | nil => exact ⟨nodes, rfl, rfl⟩
  | cons i rest ih =>
    obtain ⟨hi, hrest⟩ := List.forall_mem_cons.mp hids
    obtain ⟨nodes₁, hamend, hsame⟩ := exists_amend? hi
      (f := .under parent (toIndex k)) fun _ => rfl
    -- The other children are in range of the changed records as well.
    have hrest₁ : ∀ j ∈ rest, j < nodes₁.size := fun j hj => hsame.size_eq ▸ hrest j hj
    obtain ⟨nodes₂, hlink, hsame'⟩ := ih hrest₁ (k + 1)
    exact ⟨nodes₂, by simp [link?, hamend, hlink], hsame.trans hsame'⟩

/-! ### Look-ups that stay in range -/

theorem exists_nameOf? (hk : Known names nodes) {i : Nat} (hi : i < nodes.size) :
    ∃ name, nameOf? names nodes i = some name := by
  have := hk.kind_lt hi
  exact ⟨names.names[nodes[i].kind], by simp [nameOf?, hi, this]⟩

theorem exists_firstBehind? (stop : Nat) {ids : List Nat} (hids : ∀ i ∈ ids, i < nodes.size) :
    ∃ found, firstBehind? nodes stop ids = some found ∧ ∀ c ∈ found, c ∈ ids := by
  induction ids with
  | nil => exact ⟨none, rfl, by simp⟩
  | cons i rest ih =>
    obtain ⟨hi, hrest⟩ := List.forall_mem_cons.mp hids
    obtain ⟨found, hfound, hmem⟩ := ih hrest
    by_cases hstop : stop < nodes[i].span.stop
    · exact ⟨some i, by simp [firstBehind?, hi, hstop], by simp⟩
    · exact ⟨found, by simp [firstBehind?, hi, hstop, hfound],
        fun c hc => List.mem_cons_of_mem i (hmem c hc)⟩

theorem exists_inverted? (hk : Known names nodes) {i : Nat} (hi : i < nodes.size) (stop : Nat) :
    ∃ v, inverted? names nodes i stop = some v := by
  obtain ⟨name, hname⟩ := exists_nameOf? hk hi
  by_cases h : stop < nodes[i].span.start
  · exact ⟨_, by simp [inverted?, hi, h, hname]; rfl⟩
  · exact ⟨none, by simp [inverted?, hi, h]⟩

theorem exists_protruding? (hk : Known names nodes) {i : Nat} (hi : i < nodes.size)
    {ids : List Nat} (hids : ∀ c ∈ ids, c < nodes.size) :
    ∃ v, protruding? names nodes i ids = some v := by
  obtain ⟨found, hfound, hmem⟩ := exists_firstBehind? nodes[i].span.stop hids
  cases found with
  | none => exact ⟨none, by simp [protruding?, hi, hfound]⟩
  | some c =>
    have hc : c < nodes.size := hids c (hmem c rfl)
    obtain ⟨name, hname⟩ := exists_nameOf? hk hi
    obtain ⟨childName, hchild⟩ := exists_nameOf? hk hc
    exact ⟨_, by simp [protruding?, hi, hfound, hc, hname, hchild]; rfl⟩

/-- A node that can be opened gets a record. -/
theorem take?_opens_eq {d : Draft} {kind : String} (hins : d.names.insert? kind = some names)
    (start : Nat) :
    d.take? (.opens kind start) = some { d.push names kind ⟨start, start⟩ with
      frames := ⟨toIndex d.nodes.size, []⟩ :: d.frames } := by
  simp [take?, hins]

/-- A leaf gets a record and is handed on. -/
theorem take?_leaf_eq {d : Draft} {kind : String} {span : Span}
    (hspan : ¬ span.stop < span.start) (hins : d.names.insert? kind = some names) :
    d.take? (.leaf kind span) = (d.push names kind span).attach? (toIndex d.nodes.size) := by
  simp [take?, hspan, hins]

/-- A completed node is handed to the innermost open node even if it is out of place there. -/
theorem attach?_eq {d : Draft} {i : Nat} {f : OpenNode} {outer : List OpenNode}
    (hi : i < d.nodes.size) (hframes : d.frames = f :: outer) {v : Option Violation}
    (hv : d.misplaced? i f = some v) :
    d.attach? i =
      some { d.report v with frames := { f with children := i :: f.children } :: outer } := by
  simp [attach?, hi, hframes, hv]

/-- Closing a node whose look-ups all succeed: its record is given its end, its children are linked
and listed, and it is handed on. -/
theorem close?_eq {d : Draft} {f : OpenNode} {outer : List OpenNode} {stop : Nat}
    {v w : Option Violation} {nodes₁ nodes₂ nodes₃ : Array NodeRecord}
    (hv : inverted? d.names d.nodes f.id stop = some v)
    (hspan : amend? d.nodes f.id (.endingAt stop) = some nodes₁)
    (hw : protruding? d.names nodes₁ f.id f.children.reverse = some w)
    (hlink : link? nodes₁ f.id 0 f.children.reverse = some nodes₂)
    (hchildren : amend? nodes₂ f.id (.listing ⟨toIndex d.childTable.size,
      toIndex (d.childTable ++ f.children.reverse.toArray).size⟩) = some nodes₃) :
    d.close? f outer stop = attach? { (d.report v).report w with
      nodes := nodes₃, childTable := d.childTable ++ f.children.reverse.toArray,
      frames := outer } f.id := by
  simp only [close?, hv, hspan, hw, hlink, hchildren, Option.bind_eq_bind, Option.bind_some]

/-! ### Drafts in range -/

/-- The open nodes and their children have records, and the kinds of all records have names. -/
structure InRange (d : Draft) : Prop where
  /-- The kinds have names. -/
  known : Known d.names d.nodes
  /-- The open nodes have records. -/
  frames : ∀ f ∈ d.frames, f.id < d.nodes.size
  /-- The children of the open nodes have records. -/
  children : ∀ f ∈ d.frames, ∀ c ∈ f.children, c < d.nodes.size

/-- What a step makes of a draft: it is in range, and a violation that was there still is. -/
structure Continues (d d' : Draft) : Prop where
  /-- The draft is in range. -/
  inRange : d'.InRange
  /-- The violation is kept. -/
  violation : ∀ v, d.violation = some v → d'.violation = some v

theorem Continues.trans {d d' d'' : Draft} (h : d.Continues d') (h' : d'.Continues d'') :
    d.Continues d'' :=
  ⟨h'.inRange, fun v hv => h'.violation v (h.violation v hv)⟩

theorem inRange_empty : empty.InRange where
  known := by simp [Known, empty]
  frames := by simp [empty]
  children := by simp [empty]

/-- An index is not greater than the number that it is made of. -/
theorem toIndex_le (k : Nat) : toIndex k ≤ k :=
  Nat.mod_le k addressLimit

namespace InRange

variable {d : Draft}

/-- Keeping a violation changes nothing else. -/
theorem report (h : d.InRange) (v : Option Violation) : d.Continues (d.report v) :=
  ⟨⟨h.known, h.frames, h.children⟩, fun w hw => by simp [Draft.report, hw]⟩

/-- A new record does not take others out of range. -/
theorem push (h : d.InRange) {names : NameTable} {kind : String}
    (hins : d.names.insert? kind = some names) (span : Span) :
    d.Continues (d.push names kind span) := by
  have hsize : d.nodes.size ≤ (d.push names kind span).nodes.size := by
    simp [Draft.push]
  refine ⟨⟨?_, ?_, ?_⟩, fun _ hv => hv⟩
  · exact h.known.push (NameTable.size_le_of_insert? hins)
      (NameTable.number_lt (NameTable.mem_of_insert? hins))
  · exact fun f hf => Nat.lt_of_lt_of_le (h.frames f hf) hsize
  · exact fun f hf c hc => Nat.lt_of_lt_of_le (h.children f hf c hc) hsize

theorem exists_misplaced? (h : d.InRange) {i : Nat} (hi : i < d.nodes.size) {f : OpenNode}
    (hf : f ∈ d.frames) : ∃ v, d.misplaced? i f = some v := by
  have hid := h.frames f hf
  obtain ⟨name, hname⟩ := exists_nameOf? h.known hi
  obtain ⟨parentName, hparent⟩ := exists_nameOf? h.known hid
  by_cases hstart : d.nodes[i].span.start < d.nodes[f.id].span.start
  · exact ⟨_, by simp [misplaced?, hi, hid, hstart, hname, hparent]; rfl⟩
  · cases hc : f.children with
    | nil => exact ⟨none, by simp [misplaced?, hi, hid, hstart, hc]⟩
    | cons latest rest =>
      have hl : latest < d.nodes.size := h.children f hf latest (by simp [hc])
      by_cases hprev : d.nodes[i].span.start < d.nodes[latest].span.stop
      · exact ⟨_, by simp [misplaced?, hi, hid, hstart, hc, hl, hprev, hname]; rfl⟩
      · exact ⟨none, by simp [misplaced?, hi, hid, hstart, hc, hl, hprev]⟩

/-- A completed node can be handed on, whatever its span. -/
theorem attach? (h : d.InRange) {i : Nat} (hi : i < d.nodes.size) :
    ∃ d', d.attach? i = some d' ∧ d.Continues d' := by
  obtain ⟨name, hname⟩ := exists_nameOf? h.known hi
  cases hframes : d.frames with
  | nil =>
    cases hroot : d.root with
    | none =>
      exact ⟨{ d with root := some i }, by simp [Draft.attach?, hi, hframes, hroot],
        ⟨h.known, h.frames, h.children⟩, fun _ hv => hv⟩
    | some _ =>
      exact ⟨_, by simp [Draft.attach?, hi, hframes, hroot, hname]; rfl, h.report _⟩
  | cons f outer =>
    obtain ⟨v, hv⟩ := h.exists_misplaced? hi (f := f) (by simp [hframes])
    refine ⟨_, attach?_eq hi hframes hv, ⟨h.known, ?_, ?_⟩, (h.report v).violation⟩
    · -- The open nodes are the same, with one more child of the innermost one.
      have hids := h.frames
      rw [hframes, List.forall_mem_cons] at hids
      exact List.forall_mem_cons.mpr hids
    · have hchildren := h.children
      rw [hframes, List.forall_mem_cons] at hchildren
      exact List.forall_mem_cons.mpr
        ⟨List.forall_mem_cons.mpr ⟨hi, hchildren.1⟩, hchildren.2⟩

/-- Closing the innermost open node finds its record and those of its children. What is wrong with
the node is kept, unless there is a violation already, and then the node is handed on. -/
theorem close? (h : d.InRange) {f : OpenNode} {outer : List OpenNode}
    (hframes : d.frames = f :: outer) (stop : Nat) :
    ∃ (v w : Option Violation) (nodes : Array NodeRecord) (e d' : Draft),
      inverted? d.names d.nodes f.id stop = some v ∧
      amend? d.nodes f.id (.endingAt stop) = some nodes ∧
      protruding? d.names nodes f.id f.children.reverse = some w ∧
      e.violation = (d.violation.or v).or w ∧ e.Continues d' ∧
      d.close? f outer stop = some d' := by
  have hid : f.id < d.nodes.size := h.frames f (by simp [hframes])
  have hids : ∀ c ∈ f.children.reverse, c < d.nodes.size := fun c hc =>
    h.children f (by simp [hframes]) c (by simpa using hc)
  obtain ⟨v, hv⟩ := exists_inverted? h.known hid stop
  -- The records are changed three times: the end, the links of the children, and their stretch.
  obtain ⟨nodes₁, hamend₁, hsame₁⟩ := exists_amend? hid (f := .endingAt stop) fun _ => rfl
  have hids₁ : ∀ c ∈ f.children.reverse, c < nodes₁.size := fun c hc =>
    hsame₁.size_eq ▸ hids c hc
  obtain ⟨w, hw⟩ := exists_protruding? (hsame₁.known h.known) (hsame₁.size_eq ▸ hid) hids₁
  obtain ⟨nodes₂, hlink, hsame₂⟩ := exists_link? f.id hids₁ 0
  have hsame := hsame₁.trans hsame₂
  obtain ⟨nodes₃, hamend₃, hsame₃⟩ := exists_amend? (hsame.size_eq ▸ hid)
    (f := .listing ⟨toIndex d.childTable.size,
      toIndex (d.childTable ++ f.children.reverse.toArray).size⟩) fun _ => rfl
  have hall := hsame.trans hsame₃
  let e : Draft := { (d.report v).report w with
    nodes := nodes₃, childTable := d.childTable ++ f.children.reverse.toArray, frames := outer }
  have he : e.InRange := by
    have hmem : ∀ g ∈ outer, g ∈ d.frames := fun g hg => by simp [hframes, hg]
    refine ⟨hall.known h.known, fun g hg => ?_, fun g hg c hc => ?_⟩
    · exact hall.size_eq ▸ h.frames g (hmem g hg)
    · exact hall.size_eq ▸ h.children g (hmem g hg) c hc
  obtain ⟨d', hattach, hcont⟩ := he.attach? (i := f.id) (hall.size_eq ▸ hid)
  exact ⟨v, w, nodes₁, e, d', hv, hamend₁, hw, rfl, hcont,
    (close?_eq hv hamend₁ hw hlink hamend₃).trans hattach⟩

/-- Every step can be taken in a draft in range, and leads to one. -/
theorem take? (h : d.InRange) (x : Step) : ∃ d', d.take? x = some d' ∧ d.Continues d' := by
  cases x with
  | opens kind start =>
    cases hins : d.names.insert? kind with
    | none => exact ⟨_, by simp [Draft.take?, hins]; rfl, h.report _⟩
    | some names =>
      have hpush := h.push hins ⟨start, start⟩
      refine ⟨_, take?_opens_eq hins start, ⟨hpush.inRange.known, ?_, ?_⟩, hpush.violation⟩
      · -- The index of the new record is in range even when it has lost its upper bits.
        refine List.forall_mem_cons.mpr ⟨?_, hpush.inRange.frames⟩
        have := toIndex_le d.nodes.size
        simp [Draft.push]
        omega
      · exact List.forall_mem_cons.mpr ⟨by simp, hpush.inRange.children⟩
  | leaf kind span =>
    by_cases hspan : span.stop < span.start
    · exact ⟨_, by simp [Draft.take?, hspan]; rfl, h.report _⟩
    · cases hins : d.names.insert? kind with
      | none => exact ⟨_, by simp [Draft.take?, hspan, hins]; rfl, h.report _⟩
      | some names =>
        have hpush := h.push hins span
        obtain ⟨d', hattach, hcont⟩ := hpush.inRange.attach? (i := toIndex d.nodes.size) <| by
          have := toIndex_le d.nodes.size
          simp [Draft.push]
          omega
        exact ⟨d', (take?_leaf_eq hspan hins).trans hattach, hpush.trans hcont⟩
  | closes stop =>
    cases hframes : d.frames with
    | nil => exact ⟨_, by simp [Draft.take?, hframes]; rfl, h.report _⟩
    | cons f outer =>
      obtain ⟨v, w, nodes, e, d', -, -, -, he, hcont, hclose⟩ := h.close? hframes stop
      refine ⟨d', by simp [Draft.take?, hframes, hclose], hcont.inRange, fun u hu => ?_⟩
      exact hcont.violation u (by simp [he, hu])

/-- Every run can be taken in a draft in range, and leads to one. -/
theorem run? (h : d.InRange) (steps : List Step) :
    ∃ d', d.run? steps = some d' ∧ d.Continues d' := by
  induction steps generalizing d with
  | nil => exact ⟨d, rfl, h, fun _ hv => hv⟩
  | cons x rest ih =>
    obtain ⟨d₁, htake, hcont⟩ := h.take? x
    obtain ⟨d₂, hrun, hcont'⟩ := ih hcont.inRange
    exact ⟨d₂, by simp [Draft.run?, htake, hrun], hcont.trans hcont'⟩

end InRange

/-! ### The first violation -/

/-- Steps are taken one after the other. -/
theorem run?_append (d : Draft) (steps more : List Step) :
    d.run? (steps ++ more) = d.run? steps >>= fun e => e.run? more := by
  induction steps generalizing d with
  | nil => rfl
  | cons x rest ih =>
    cases htake : d.take? x with
    | none => simp [run?, htake]
    | some e => simp [run?, htake, ih]

/-- A violation that a run ends with is raised by one of its steps, the first one that finds
something wrong. -/
theorem exists_first_violation {d d' : Draft} (hd : d.InRange) (hnone : d.violation = none)
    {steps : List Step} (hrun : d.run? steps = some d') {v : Violation}
    (hv : d'.violation = some v) :
    ∃ before x after e e', steps = before ++ x :: after ∧ d.run? before = some e ∧
      e.violation = none ∧ e.take? x = some e' ∧ e'.violation = some v := by
  induction steps generalizing d with
  | nil =>
    obtain rfl : d = d' := by simpa [run?] using hrun
    rw [hnone] at hv
    cases hv
  | cons x rest ih =>
    obtain ⟨e, htake, hcont⟩ := hd.take? x
    have hrest : e.run? rest = some d' := by simpa [run?, htake] using hrun
    cases hviol : e.violation with
    | none =>
      obtain ⟨before, y, after, b, b', rfl, hbefore, hb, hy, hb'⟩ := ih hcont.inRange hviol hrest
      exact ⟨x :: before, y, after, b, b', rfl, by simp [run?, htake, hbefore], hb, hy, hb'⟩
    | some w =>
      -- The violation of the first step is kept to the end, so it is the one in question.
      obtain ⟨d'', hrun', hcont'⟩ := hcont.inRange.run? rest
      obtain rfl : d' = d'' := Option.some.inj (hrest.symm.trans hrun')
      obtain rfl : v = w := Option.some.inj (hv.symm.trans (hcont'.violation w hviol))
      exact ⟨[], x, rest, d, e, rfl, rfl, hnone, htake, hviol⟩

end Draft

/-- More steps may still mend it: some nodes are open, or nothing has been completed. -/
def Violation.Provisional : Violation → Prop
  | .leftOpen _ _ => True
  | .noRoot => True
  | _ => False

namespace Draft

/-- A draft in range can be finished, and its violation is the outcome. Without a violation
something may be missing at most. -/
theorem InRange.finish? {d : Draft} (h : d.InRange) :
    ∃ r, d.finish? = some r ∧ (∀ v, d.violation = some v → r = .error v) ∧
      (d.violation = none → ∀ v, r = .error v → v.Provisional) := by
  cases hv : d.violation with
  | some v => exact ⟨.error v, by simp [Draft.finish?, hv], by simp, by simp⟩
  | none =>
    cases hframes : d.frames with
    | cons f outer =>
      obtain ⟨name, hname⟩ := exists_nameOf? h.known (h.frames f (by simp [hframes]))
      refine ⟨_, by simp [Draft.finish?, hv, hframes, hname]; rfl, by simp, ?_⟩
      rintro - v ⟨⟩
      trivial
    | nil =>
      cases hroot : d.root with
      | none =>
        refine ⟨.error .noRoot, by simp [Draft.finish?, hv, hframes, hroot], by simp, ?_⟩
        rintro - v ⟨⟩
        trivial
      | some i => exact ⟨_, by simp [Draft.finish?, hv, hframes, hroot]; rfl, by simp, by simp⟩

/-- The violation of a draft that is left by steps is their outcome. -/
theorem outcome?_of_violation {steps : List Step} {d : Draft} (hrun : empty.run? steps = some d)
    {v : Violation} (hv : d.violation = some v) : outcome? steps = some (.error v) := by
  simp [outcome?, hrun, finish?, hv]

/-- Steps whose outcome is more than provisional leave a draft with a violation. -/
theorem violation_of_outcome? {steps : List Step} {v : Violation}
    (h : outcome? steps = some (.error v)) (hv : ¬ v.Provisional) :
    ∃ d, empty.run? steps = some d ∧ d.violation = some v := by
  obtain ⟨d, hrun, hcont⟩ := inRange_empty.run? steps
  obtain ⟨r, hfinish, hsome, hnone⟩ := hcont.inRange.finish?
  obtain rfl : r = .error v := by simpa [outcome?, hrun, hfinish] using h
  refine ⟨d, hrun, ?_⟩
  cases hd : d.violation with
  | none => exact absurd (hnone hd v rfl) hv
  | some w =>
    obtain rfl : v = w := by simpa using hsome w hd
    rfl

/-- No steps lead outside the tables. -/
theorem exists_outcome? (steps : List Step) :
    ∃ d r, empty.run? steps = some d ∧ d.finish? = some r ∧ outcome? steps = some r := by
  obtain ⟨d, hrun, hcont⟩ := inRange_empty.run? steps
  obtain ⟨r, hfinish, -, -⟩ := hcont.inRange.finish?
  exact ⟨d, r, hrun, hfinish, by simp [outcome?, hrun, hfinish]⟩

/-- A violation that more steps could not mend stays the outcome. -/
theorem outcome?_append {steps : List Step} {v : Violation}
    (h : outcome? steps = some (.error v)) (hv : ¬ v.Provisional) (more : List Step) :
    outcome? (steps ++ more) = some (.error v) := by
  obtain ⟨d, hrun, hviolation⟩ := violation_of_outcome? h hv
  obtain ⟨d', hrun', hcont⟩ := inRange_empty.run? steps
  obtain rfl : d = d' := Option.some.inj (hrun.symm.trans hrun')
  obtain ⟨e, hmore, hkept⟩ := hcont.inRange.run? more
  refine outcome?_of_violation (d := e) ?_ (hkept.violation v hviolation)
  simp [run?_append, hrun, hmore]

/-- As long as there is no violation, the outcome of all steps up to here could still be mended. -/
theorem provisional_of_prefix {before p : List Step} {d : Draft}
    (hrun : empty.run? before = some d) (hnone : d.violation = none) (hp : p <+: before) :
    ∃ r, outcome? p = some r ∧ ∀ w, r = .error w → w.Provisional := by
  obtain ⟨rest, rfl⟩ := hp
  obtain ⟨r, hr⟩ : ∃ r, outcome? p = some r := by
    obtain ⟨-, r, -, -, hr⟩ := exists_outcome? p
    exact ⟨r, hr⟩
  refine ⟨r, hr, ?_⟩
  rintro w rfl
  by_contra hw
  -- A violation here would still be there at the end.
  obtain ⟨e, he, hviolation⟩ := violation_of_outcome? (outcome?_append hr hw rest) hw
  obtain rfl : d = e := Option.some.inj (hrun.symm.trans he)
  rw [hnone] at hviolation
  cases hviolation

end Draft

end TreeAssist
