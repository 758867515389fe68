import TreeAssist.Proofs.Assembly.Drafts
import TreeAssist.Proofs.Assembly.Exactness
import TreeAssist.Proofs.Assembly.Progress

/-!
# Drafts and assemblies

An assembly stops at the first violation, and lays its shapes out at the end. A draft fills in the
tables as it goes, and does not stop. Up to the first violation the tables of the draft are those of
the assembly, and both find the same thing wrong (`Assembly.take?_draft`, `Assembly.run?_draft`). So
a sequence of steps has the same outcome with both, as long as the indices have room in their 32
bits (`Draft.outcome?_eq_ofSteps`).

The main result, `first_violation_sticks`, says that the first violation is final.
-/

namespace TreeAssist

open Shape

namespace Assembly

open Draft

/-! ### Steps -/

variable {kindOf : String → Nat} {names : NameTable} {root : Option Shape} {outer : List Frame}
  {f : Frame}

/-- What the assembly comes to is what the draft shows: the same tables, or the same violation. -/
def Mirrors (kindOf : String → Nat) : Except Violation Assembly → Draft → Prop
  | .ok a, d => d = a.draft kindOf
  | .error v, d => d.violation = some v

/-- Handing on a completed node. -/
theorem attach?_holding {a : Assembly} {s : Shape}
    (ha : Finds kindOf a.names (kindsOf a.history))
    (hs : a.names.names[kindOf s.name]? = some s.name) :
    ∃ d, (a.holding kindOf s).attach? (a.tables kindOf).1.nodes.size = some d ∧
      Mirrors kindOf (a.adopt s) d := by
  have hshape : ShowsShape (a.holding kindOf s).names (a.holding kindOf s).nodes
      (a.tables kindOf).1.nodes.size s := showsShape_layOut hs _ none 0
  have hkept := (laidOut_layOut kindOf s (a.tables kindOf).1 none 0).kept
  have hname := hshape.nameOf?
  obtain ⟨r, hr, -, hspan⟩ := id hshape
  obtain ⟨names, frames, root⟩ := a
  match frames, root with
  | [], none =>
    exact ⟨draft kindOf ⟨names, [], some s⟩, by simp [attach?, hr]; rfl, rfl⟩
  | [], some s' =>
    refine ⟨(holding kindOf ⟨names, [], some s'⟩ s).report (some (.secondRoot s.name s.span.start)),
      ?_, rfl⟩
    simp [attach?, hr, hname, hspan]
    rfl
  | f :: outer, root =>
    obtain ⟨hkind, hcompleted⟩ := ha.frame
    obtain ⟨hf, hc⟩ := shows_layOpen hkind hcompleted (tables kindOf ⟨names, outer, root⟩).1
    -- The open node and its children are still shown once the new node has been laid out.
    obtain ⟨v, hv, hadopt⟩ := misplaced?_eq hshape (hf.mono hkept)
      (hc.imp fun i c hi => Shows.mono hi hkept) outer root
    refine ⟨_, attach?_eq (Array.getElem?_eq_some_iff.mp hr).1 rfl hv, ?_⟩
    rw [show adopt ⟨names, f :: outer, root⟩ s = _ from hadopt]
    cases v with
    | none => rfl
    | some v => rfl

/-- Closing an open node completes its record, links its children and lists them, and this makes the
tables of a group. -/
theorem complete_layOpen (T : Layout) (f : Frame) (stop : Nat)
    (hnodes : (f.layOpen kindOf T).1.nodes.size < addressLimit)
    (htable : T.childTable.size ≤ T.nodes.size) :
    let opened := f.layOpen kindOf T
    let ended := layLoose kindOf (T.push ((f.record kindOf).endingAt stop)) f.completed
    let ids := opened.2.children.reverse
    let closed := layOut kindOf T none 0 (.group f.kind ⟨f.start, stop⟩ f.completed.reverse)
    ∃ linked,
      amend? opened.1.nodes T.nodes.size (.endingAt stop) = some ended.1.nodes ∧
      link? ended.1.nodes T.nodes.size 0 ids = some linked ∧
      amend? linked T.nodes.size (.listing ⟨toIndex opened.1.childTable.size,
        toIndex (opened.1.childTable ++ ids.toArray).size⟩) = some closed.nodes ∧
      opened.1.childTable ++ ids.toArray = closed.childTable := by
  intro opened ended ids closed
  obtain ⟨hsize, hcount⟩ : opened.1.nodes.size = _ ∧ opened.1.childTable.size + _ = _ :=
    size_layOpen kindOf T f
  have hnodes' : opened.1.nodes.size < addressLimit := hnodes
  have hlist : (opened.1.childTable ++ ids.toArray).size =
      opened.1.childTable.size + f.completed.length := by
    simp [ids, opened, Frame.layOpen]
  -- The stretch that the record is given last is the one that a group has from the start.
  have hstretch : (⟨toIndex opened.1.childTable.size,
      toIndex (opened.1.childTable ++ ids.toArray).size⟩ : Span) =
      ⟨T.childTable.size + countAll 0 f.completed.reverse - f.completed.reverse.length,
        T.childTable.size + countAll 0 f.completed.reverse⟩ := by
    rw [hlist, toIndex_eq (by omega), toIndex_eq (by omega), hcount, List.length_reverse, ← hcount,
      Nat.add_sub_cancel]
  obtain ⟨linked, hend, hlink, hlisting, htable', hids⟩ := complete_layLoose kindOf T
    (f.record kindOf) (l := f.completed) (by omega) stop ⟨toIndex opened.1.childTable.size,
      toIndex (opened.1.childTable ++ ids.toArray).size⟩
  refine ⟨linked, hend, hlink, ?_, ?_⟩
  · rw [hlisting, hstretch]
    simp only [closed, layOut]
    rfl
  · rw [hstretch] at htable' hids
    simp only [closed, layOut]
    exact congrArg₂ (· ++ ·) htable'.symm hids.symm

/-- Opening a node. -/
theorem take?_opens {frames : List Frame} {kind : String}
    (hnumber : ∀ names', names.insert? kind = some names' → names'.number kind = kindOf kind)
    (hsize : (tables kindOf ⟨names, frames, root⟩).1.nodes.size < addressLimit) (start : Nat) :
    ∃ d, (draft kindOf ⟨names, frames, root⟩).take? (.opens kind start) = some d ∧
      Mirrors kindOf (step ⟨names, frames, root⟩ (.opens kind start)) d := by
  cases hins : names.insert? kind with
  | none =>
    have hstep : step ⟨names, frames, root⟩ (.opens kind start) = .error .kindOverflow := by
      simp [step, bind_eq_error_iff, hins]
    rw [hstep]
    exact ⟨(draft kindOf ⟨names, frames, root⟩).report (some .kindOverflow),
      by simp [take?, draft, hins], rfl⟩
  | some names' =>
    have hid : toIndex (draft kindOf ⟨names, frames, root⟩).nodes.size = _ := toIndex_eq hsize
    rw [step_opens_eq_ok_iff.mpr ⟨names', hins, rfl⟩, take?_opens_eq hins, hid, Draft.push,
      hnumber names' hins]
    exact ⟨_, rfl, rfl⟩

/-- Adding a leaf. -/
theorem take?_leaf {frames : List Frame} {kind : String}
    (hinsert : ∀ names', names.insert? kind = some names' → names'.number kind = kindOf kind ∧
      Finds kindOf names' (kindsOf (history ⟨names, frames, root⟩) ++ [kind]))
    (hsize : (tables kindOf ⟨names, frames, root⟩).1.nodes.size < addressLimit) (span : Span) :
    ∃ d, (draft kindOf ⟨names, frames, root⟩).take? (.leaf kind span) = some d ∧
      Mirrors kindOf (step ⟨names, frames, root⟩ (.leaf kind span)) d := by
  by_cases hspan : span.stop < span.start
  · have hstep : step ⟨names, frames, root⟩ (.leaf kind span) = .error (.inverted kind span) := by
      simp [step, bind_eq_error_iff, hspan]
    rw [hstep]
    exact ⟨(draft kindOf ⟨names, frames, root⟩).report (some (.inverted kind span)),
      by simp [take?, hspan], rfl⟩
  · have hle : span.start ≤ span.stop := by omega
    cases hins : names.insert? kind with
    | none =>
      have hstep : step ⟨names, frames, root⟩ (.leaf kind span) = .error .kindOverflow := by
        simp [step, bind_eq_error_iff, hins, hle]
      rw [hstep]
      exact ⟨(draft kindOf ⟨names, frames, root⟩).report (some .kindOverflow),
        by simp [take?, draft, hins, hspan], rfl⟩
    | some names' =>
      have hstep : step ⟨names, frames, root⟩ (.leaf kind span) =
          adopt ⟨names', frames, root⟩ (.leaf kind span) := by
        simp only [step, require, if_pos hle, orFail, hins]
        rfl
      -- A leaf is complete as soon as it has its record.
      obtain ⟨hnumber, hfinds⟩ := hinsert names' hins
      obtain ⟨d, hattach, hmirrors⟩ := attach?_holding (a := ⟨names', frames, root⟩)
        (s := .leaf kind span) (fun k h => hfinds k (List.mem_append_left _ h))
        (hfinds kind (by simp))
      have hid : toIndex (draft kindOf ⟨names, frames, root⟩).nodes.size = _ := toIndex_eq hsize
      rw [hstep, take?_leaf_eq hspan hins, hid, Draft.push, hnumber]
      exact ⟨d, hattach, hmirrors⟩

/-- A child that ends behind its parent is found among the records once the parent has its end. -/
theorem protruding?_layLoose (hkind : names.names[kindOf f.kind]? = some f.kind)
    (hcompleted : ∀ c ∈ f.completed, names.names[kindOf c.name]? = some c.name) (T : Layout)
    (stop : Nat) :
    protruding? names
        (layLoose kindOf (T.push ((f.record kindOf).endingAt stop)) f.completed).1.nodes
        T.nodes.size (f.layOpen kindOf T).2.children.reverse =
      some ((f.completed.reverse.find? (stop < ·.span.stop)).map fun c =>
        .escapes c.name c.span f.kind ⟨f.start, stop⟩) := by
  have hself : Shows names
      (layLoose kindOf (T.push ((f.record kindOf).endingAt stop)) f.completed).1.nodes T.nodes.size
      f.kind ⟨f.start, stop⟩ := shows_layLoose_push hkind rfl T f.completed
  have hchildren := showsShape_layLoose hcompleted (T.push ((f.record kindOf).endingAt stop))
  -- The end of the parent does not change the numbers of its children.
  rw [(amend?_layLoose kindOf T (f.record kindOf) f.completed (.endingAt stop)).2.2] at hchildren
  exact hself.protruding? (List.forall₂_reverse_iff.mpr hchildren)

/-- A node with which nothing is wrong is closed and then handed on. -/
theorem close?_draft (hkind : names.names[kindOf f.kind]? = some f.kind)
    (hcompleted : ∀ c ∈ f.completed, names.names[kindOf c.name]? = some c.name)
    (hsize : (tables kindOf ⟨names, f :: outer, root⟩).1.nodes.size < addressLimit) {stop : Nat}
    (hstop : ¬ stop < f.start) (hfind : f.completed.reverse.find? (stop < ·.span.stop) = none) :
    (draft kindOf ⟨names, f :: outer, root⟩).close?
        (f.layOpen kindOf (tables kindOf ⟨names, outer, root⟩).1).2
        (tables kindOf ⟨names, outer, root⟩).2 stop =
      (holding kindOf ⟨names, outer, root⟩
        (.group f.kind ⟨f.start, stop⟩ f.completed.reverse)).attach?
        (tables kindOf ⟨names, outer, root⟩).1.nodes.size := by
  obtain ⟨linked, hend, hlink, hlisting, htable⟩ := complete_layOpen
    (tables kindOf ⟨names, outer, root⟩).1 f stop hsize (size_tables kindOf ⟨names, outer, root⟩).2
  have hinverted := (shows_layOpen hkind hcompleted
    (tables kindOf ⟨names, outer, root⟩).1).1.inverted? stop
  have hprotruding := protruding?_layLoose hkind hcompleted
    (tables kindOf ⟨names, outer, root⟩).1 stop
  rw [if_neg hstop] at hinverted
  rw [hfind] at hprotruding
  refine (close?_eq hinverted hend hprotruding hlink hlisting).trans ?_
  rw [holding, ← htable]
  rfl

/-- Closing the innermost open node. -/
theorem take?_closes (hfinds : Finds kindOf names (kindsOf (history ⟨names, f :: outer, root⟩)))
    (hsize : (tables kindOf ⟨names, f :: outer, root⟩).1.nodes.size < addressLimit)
    (hrange : (draft kindOf ⟨names, f :: outer, root⟩).InRange) (stop : Nat) :
    ∃ d, (draft kindOf ⟨names, f :: outer, root⟩).take? (.closes stop) = some d ∧
      Mirrors kindOf (step ⟨names, f :: outer, root⟩ (.closes stop)) d := by
  obtain ⟨hkind, hcompleted⟩ := hfinds.frame
  let T := (tables kindOf ⟨names, outer, root⟩).1
  have hinverted := (shows_layOpen hkind hcompleted T).1.inverted? stop
  have hend := (amend?_layLoose kindOf T (f.record kindOf) f.completed (.endingAt stop)).1
  have hprotruding := protruding?_layLoose hkind hcompleted T stop
  -- Whatever is found wrong, the node is closed, and the violation is kept.
  obtain ⟨v, w, ended, e, d, hv, hended, hw, he, hcont, hclose⟩ := hrange.close? rfl stop
  obtain rfl : _ = ended := Option.some.inj (hend.symm.trans hended)
  obtain rfl : _ = v := Option.some.inj (hinverted.symm.trans hv)
  obtain rfl : _ = w := Option.some.inj (hprotruding.symm.trans hw)
  by_cases hstop : stop < f.start
  · have hstep : step ⟨names, f :: outer, root⟩ (.closes stop) =
        .error (.inverted f.kind ⟨f.start, stop⟩) := by
      simp [step, bind_eq_error_iff, hstop]
    rw [hstep]
    exact ⟨d, hclose, hcont.violation _ (by simp [he, hstop, draft])⟩
  · have hle : f.start ≤ stop := by omega
    cases hfind : f.completed.reverse.find? (stop < ·.span.stop) with
    | some c =>
      have hstep : step ⟨names, f :: outer, root⟩ (.closes stop) =
          .error (.escapes c.name c.span f.kind ⟨f.start, stop⟩) := by
        simp [step, bind_eq_error_iff, hle, hfind]
      rw [hstep]
      exact ⟨d, hclose, hcont.violation _ (by simp [he, hstop, hfind, draft])⟩
    | none =>
      have hstep : step ⟨names, f :: outer, root⟩ (.closes stop) =
          adopt ⟨names, outer, root⟩ (.group f.kind ⟨f.start, stop⟩ f.completed.reverse) := by
        simp only [step, require, if_pos hle, hfind]
        rfl
      have houter : Finds kindOf names (kindsOf (history ⟨names, outer, root⟩)) := by
        intro kind hmem
        apply hfinds
        rw [history_cons, kindsOf_append]
        exact List.mem_append_left _ hmem
      obtain ⟨d', hattach, hmirrors⟩ := attach?_holding (a := ⟨names, outer, root⟩)
        (s := .group f.kind ⟨f.start, stop⟩ f.completed.reverse) houter hkind
      rw [hstep]
      exact ⟨d', (close?_draft hkind hcompleted hsize hstop hfind).trans hattach, hmirrors⟩

/-- A step of the assembly is a step of its draft, with the same violation if there is one. -/
theorem take?_draft {a : Assembly} {done : List Step} {x : Step} {all : List String}
    (ha : a.Sound done) (hall : kindsOf (done ++ [x]) <+: all) (hsize : all.length < addressLimit)
    (hrange : (a.draft (NameTable.numberIn all)).InRange) :
    ∃ d, (a.draft (NameTable.numberIn all)).take? x = some d ∧
      Mirrors (NameTable.numberIn all) (a.step x) d := by
  obtain ⟨names, frames, root⟩ := a
  obtain ⟨rfl, hnames, -⟩ := ha
  have hlen := hall.length_le
  have hnodes := (size_tables (NameTable.numberIn all) ⟨names, frames, root⟩).1
  rw [kindsOf_append] at hall hlen
  rw [List.length_append] at hlen
  have hroom : (tables (NameTable.numberIn all) ⟨names, frames, root⟩).1.nodes.size <
      addressLimit := by omega
  -- The names in use have the numbers that they will keep, and a new one gets it.
  have hinsert : ∀ kind names', kindsOf [x] = [kind] → names.insert? kind = some names' →
      names'.number kind = NameTable.numberIn all kind ∧ Finds (NameTable.numberIn all) names'
        (kindsOf (history ⟨names, frames, root⟩) ++ [kind]) := by
    intro kind names' hx hins
    have hlists := hnames.insert? hins
    rw [hx] at hall
    exact ⟨hlists.number_eq_numberIn hall (by simp), fun k h => hlists.names_numberIn hall h⟩
  cases x with
  | opens kind start =>
    exact take?_opens (fun names' hins => (hinsert kind names' rfl hins).1) hroom start
  | leaf kind span =>
    exact take?_leaf (fun names' hins => hinsert kind names' rfl hins) hroom span
  | closes stop =>
    cases frames with
    | nil => exact ⟨_, rfl, rfl⟩
    | cons f outer =>
      have hused := (List.prefix_append _ _).trans hall
      exact take?_closes (fun kind h => hnames.names_numberIn hused h) hroom hrange stop

/-- A run of the assembly is a run of its draft, with the same violation if there is one. -/
theorem run?_draft {a : Assembly} {done : List Step} {all : List String} (steps : List Step)
    (ha : a.Sound done) (hall : kindsOf (done ++ steps) <+: all)
    (hsize : all.length < addressLimit) (hrange : (a.draft (NameTable.numberIn all)).InRange) :
    ∃ d, (a.draft (NameTable.numberIn all)).run? steps = some d ∧
      Mirrors (NameTable.numberIn all) (a.run steps) d := by
  induction steps generalizing a done with
  | nil => exact ⟨_, rfl, rfl⟩
  | cons x rest ih =>
    have hassoc : done ++ x :: rest = done ++ [x] ++ rest := by simp
    rw [hassoc] at hall
    have hfirst : kindsOf (done ++ [x]) <+: all := by
      rw [kindsOf_append] at hall
      exact (List.prefix_append _ _).trans hall
    obtain ⟨d₁, htake, hmirrors⟩ := take?_draft ha hfirst hsize hrange
    obtain ⟨d₁', htake', hcont⟩ := hrange.take? x
    obtain rfl : d₁ = d₁' := Option.some.inj (htake.symm.trans htake')
    cases hstep : a.step x with
    | ok b =>
      rw [hstep] at hmirrors
      obtain rfl : d₁ = b.draft (NameTable.numberIn all) := hmirrors
      obtain ⟨d, hrun, hmirrors'⟩ := ih (ha.step hstep) hall hcont.inRange
      exact ⟨d, by simp [run?, htake, hrun], by rw [run, hstep]; exact hmirrors'⟩
    | error v =>
      -- The violation is kept to the end of the run.
      rw [hstep] at hmirrors
      obtain ⟨d, hrun, hcont'⟩ := hcont.inRange.run? rest
      refine ⟨d, by simp [run?, htake, hrun], ?_⟩
      rw [run, hstep]
      exact hcont'.violation v hmirrors

/-- There are never more names than numbers. -/
theorem room_of_step {a a' : Assembly} {x : Step} (h : a.step x = .ok a')
    (hroom : a.names.names.size ≤ kindLimit) : a'.names.names.size ≤ kindLimit := by
  -- Handing on a node leaves the names as they are.
  have hadopt : ∀ {b : Assembly} {s : Shape}, b.adopt s = .ok a' → a'.names = b.names := by
    rintro ⟨names, frames, root⟩ s hb
    obtain ⟨-, -, rfl⟩ | ⟨f, outer, -, -, -, rfl⟩ := adopt_eq_ok_iff.mp hb <;> rfl
  obtain ⟨names, frames, root⟩ := a
  cases x with
  | opens kind start =>
    obtain ⟨names', hins, rfl⟩ := step_opens_eq_ok_iff.mp h
    exact NameTable.room_of_insert? hins hroom
  | leaf kind span =>
    obtain ⟨-, names', hins, hb⟩ := step_leaf_eq_ok_iff.mp h
    rw [hadopt hb]
    exact NameTable.room_of_insert? hins hroom
  | closes stop =>
    obtain ⟨f, outer, -, -, -, hb⟩ := step_closes_eq_ok_iff.mp h
    rw [hadopt hb]
    exact hroom

theorem room_of_run {a a' : Assembly} {steps : List Step} (h : a.run steps = .ok a')
    (hroom : a.names.names.size ≤ kindLimit) : a'.names.names.size ≤ kindLimit := by
  induction steps generalizing a with
  | nil =>
    cases h
    exact hroom
  | cons x rest ih =>
    rw [run, bind_eq_ok_iff] at h
    obtain ⟨b, hstep, hrun⟩ := h
    exact ih hrun (room_of_step hstep hroom)

theorem length_layFrames (kindOf : String → Nat) (T : Layout) (frames : List Frame) :
    (layFrames kindOf T frames).2.length = frames.length := by
  induction frames with
  | nil => rfl
  | cons f outer ih => simp [layFrames, ih]

/-- The draft of an assembly is finished as the assembly is. -/
theorem finish?_draft {a : Assembly} {steps : List Step} (ha : a.Sound steps)
    (hroom : a.names.names.size ≤ kindLimit) (hsize : (kindsOf steps).length < addressLimit) :
    (a.draft a.names.number).finish? = some (a.result.map Tree.toArena) := by
  obtain ⟨names, frames, root⟩ := a
  obtain ⟨rfl, hnames, hlawful⟩ := ha
  match frames, root with
  | [], none => rfl
  | [], some s =>
    -- The tables of the draft are those that the shape of the root is laid out in.
    have hsteps : history ⟨names, [], some s⟩ = s.steps := by simp [history]
    rw [hsteps] at hnames hsize
    have hkinds : (kindsOf s.steps).eraseDups.length ≤ kindLimit := by
      rw [← show names.names.toList = _ from hnames, Array.length_toList]
      exact hroom
    have hwf := wellFormed_arena (hlawful.root s rfl) hnames hkinds hsize
    have hresult : result ⟨names, [], some s⟩ = .ok ⟨arena names s, hwf⟩ :=
      result_eq_ok_iff.mpr ⟨s, rfl, rfl, rfl⟩
    rw [hresult]
    rfl
  | f :: outer, root =>
    have hfinds : Finds names.number names (kindsOf (history ⟨names, f :: outer, root⟩)) := by
      intro kind hkind
      apply NameTable.names_number
      rwa [show names.names.toList = _ from hnames, List.mem_eraseDups]
    obtain ⟨hkind, hcompleted⟩ := hfinds.frame
    have hname := (shows_layOpen hkind hcompleted
      (tables names.number ⟨names, outer, root⟩).1).1.nameOf?
    have hlen := length_layFrames names.number (rootTables names.number root) outer
    calc (draft names.number ⟨names, f :: outer, root⟩).finish?
        = (nameOf? names
            (f.layOpen names.number (tables names.number ⟨names, outer, root⟩).1).1.nodes
            (f.layOpen names.number (tables names.number ⟨names, outer, root⟩).1).2.id).bind
            fun name => some (.error (.leftOpen
              ((layFrames names.number (rootTables names.number root) outer).2.length + 1) name)) :=
          rfl
      _ = some (.error (.leftOpen (outer.length + 1) f.kind)) := by rw [hname, hlen]; rfl

end Assembly

/-- The outcome of steps for fewer than `addressLimit` nodes is the tree that they make, or their
first violation. -/
theorem Draft.outcome?_eq_ofSteps {steps : List Step}
    (hsize : (kindsOf steps).length < addressLimit) :
    Draft.outcome? steps = some ((Tree.ofSteps steps).map Tree.toArena) := by
  obtain ⟨d, hrun, hmirrors⟩ := Assembly.run?_draft steps Assembly.sound_empty
    (List.prefix_refl _) hsize Draft.inRange_empty
  rw [List.nil_append] at hrun hmirrors
  rw [Tree.ofSteps]
  cases hassembly : Assembly.empty.run steps with
  | error v =>
    rw [hassembly] at hmirrors
    exact Draft.outcome?_of_violation hrun hmirrors
  | ok a =>
    rw [hassembly] at hmirrors
    obtain rfl : d = a.draft (NameTable.numberIn (kindsOf steps)) := hmirrors
    have hsound := Assembly.sound_empty.run hassembly
    rw [List.nil_append] at hsound
    have hroom := Assembly.room_of_run hassembly (Nat.zero_le _)
    have hfinish := Assembly.finish?_draft hsound hroom hsize
    rw [hsound.names.number_eq] at hfinish
    rw [Draft.outcome?, show Draft.empty.run? steps = _ from hrun]
    exact hfinish

/-- For all steps whatsoever, no look-up leads outside the tables, also behind a violation. If the
outcome is a violation that more steps could not mend, then it stays the outcome whatever comes
behind. It is raised by one step: in front of this step every outcome is a tree or can still be
mended, and behind it every outcome is this violation. The outcome is that of `Tree.ofSteps`, as
long as there are fewer than `addressLimit` nodes. -/
theorem first_violation_sticks (steps : List Step) :
    (∃ d r, Draft.empty.run? steps = some d ∧ d.finish? = some r ∧
      Draft.outcome? steps = some r) ∧
    (∀ v, Draft.outcome? steps = some (.error v) → ¬ v.Provisional →
      (∀ more, Draft.outcome? (steps ++ more) = some (.error v)) ∧
      ∃ before x after d d', steps = before ++ x :: after ∧
        Draft.empty.run? before = some d ∧ d.violation = none ∧
        d.take? x = some d' ∧ d'.violation = some v ∧
        (∀ p, p <+: before → ∃ r, Draft.outcome? p = some r ∧
          ∀ w, r = .error w → w.Provisional) ∧
        (∀ p, p <+: steps → before.length < p.length →
          Draft.outcome? p = some (.error v))) ∧
    ((kindsOf steps).length < addressLimit →
      Draft.outcome? steps = some ((Tree.ofSteps steps).map Tree.toArena)) := by
  refine ⟨Draft.exists_outcome? steps, fun v hv hfinal => ⟨?_, ?_⟩, Draft.outcome?_eq_ofSteps⟩
  · exact Draft.outcome?_append hv hfinal
  · obtain ⟨e, hrun, hviolation⟩ := Draft.violation_of_outcome? hv hfinal
    obtain ⟨before, x, after, d, d', rfl, hbefore, hnone, htake, hd'⟩ :=
      Draft.exists_first_violation Draft.inRange_empty rfl hrun hviolation
    refine ⟨before, x, after, d, d', rfl, hbefore, hnone, htake, hd', ?_, ?_⟩
    · exact fun p hp => Draft.provisional_of_prefix hbefore hnone hp
    · intro p hp hlen
      have hstep : Draft.outcome? (before ++ [x]) = some (.error v) :=
        Draft.outcome?_of_violation (by simp [Draft.run?_append, hbefore, Draft.run?, htake]) hd'
      -- A longer beginning of the steps has this step in it.
      obtain ⟨more, rfl⟩ : before ++ [x] <+: p :=
        List.prefix_of_prefix_length_le ⟨after, by simp⟩ hp (by simp; omega)
      exact Draft.outcome?_append hstep hfinal more

/-- An inverted leaf is reported, though a node is closed and another one opened behind it. -/
theorem first_violation_sticks_invertedLeaf :
    ¬ (Violation.inverted "pass" ⟨4, 0⟩).Provisional ∧
      Draft.outcome? [.leaf "pass" ⟨4, 0⟩, .closes 3] =
        some (.error (.inverted "pass" ⟨4, 0⟩)) ∧
      Draft.outcome? ([.leaf "pass" ⟨4, 0⟩, .closes 3] ++ [.opens "Script" 0]) =
        some (.error (.inverted "pass" ⟨4, 0⟩)) ∧
      Draft.outcome? [.leaf "pass" ⟨4, 0⟩, .closes 3] =
        some ((Tree.ofSteps [.leaf "pass" ⟨4, 0⟩, .closes 3]).map Tree.toArena) := by
  obtain ⟨-, hsticks, hagree⟩ := first_violation_sticks [.leaf "pass" ⟨4, 0⟩, .closes 3]
  have hfinal : ¬ (Violation.inverted "pass" ⟨4, 0⟩).Provisional := fun h => h
  exact ⟨hfinal, rfl, (hsticks _ rfl hfinal).1 _, hagree (by decide)⟩

end TreeAssist
