import TreeAssist.Proofs.Assembly.Steps

/-!
# Runs of an assembly

What an assembly has taken in can be read off it again: the completed root, then the open nodes from
the outermost inward, each with its completed children (`Assembly.history`). A step that succeeds
adds itself to this history and keeps all completed nodes lawful (`Assembly.Sound.step`), so a run
that ends with a root and no open node has read the steps of a lawful shape. Conversely a run on the
steps of a lawful shape meets no violation (`Assembly.run_steps`).

* `NameTable.Lists` — the table holds the given names, each once, in the order of first use.
* `Assembly.Sound` — the invariant of a run.
* `Assembly.steps_eq_of_run_empty`, `Assembly.run_empty_steps` — the runs that end with a root and
  nothing open are the runs on the steps of lawful shapes.
-/

namespace TreeAssist

namespace NameTable

/-- The table holds the names `used`, each once, in the order of their first use. -/
def Lists (t : NameTable) (used : List String) : Prop :=
  t.names.toList = used.eraseDups

theorem lists_empty : empty.Lists [] := rfl

/-- A name without a number is not in the table. -/
theorem numbers_eq_none_iff {t : NameTable} {name : String} :
    t.numbers[name]? = none ↔ name ∉ t.names.toList := by
  constructor
  · intro h hmem
    obtain ⟨i, hi⟩ := List.mem_iff_getElem?.mp hmem
    rw [Array.getElem?_toList, ← t.agree, h] at hi
    cases hi
  · intro hmem
    rw [Option.eq_none_iff_forall_ne_some]
    intro i hi
    rw [t.agree, ← Array.getElem?_toList] at hi
    exact hmem (List.mem_of_getElem? hi)

/-- The number of a name in the table leads back to the name. -/
theorem names_number {t : NameTable} {name : String} (h : name ∈ t.names.toList) :
    t.names[t.number name]? = some name := by
  obtain ⟨i, hi⟩ := List.mem_iff_getElem?.mp h
  rw [Array.getElem?_toList, ← t.agree] at hi
  rw [number, Std.HashMap.getD_eq_getD_getElem?, hi]
  exact (t.agree name i).mp hi

/-- Adding a name that is in the list of names in use changes nothing, and a new one comes last. -/
theorem eraseDups_concat (used : List String) (name : String) :
    (used ++ [name]).eraseDups =
      if name ∈ used then used.eraseDups else used.eraseDups ++ [name] := by
  rw [List.eraseDups_append]
  by_cases h : name ∈ used
  · simp [List.removeAll, h]
  · simp [List.removeAll, h, List.eraseDups_cons]

/-- The table goes on listing the names in use. -/
theorem Lists.insert? {t t' : NameTable} {used : List String} {name : String} (h : t.Lists used)
    (hins : t.insert? name = some t') : t'.Lists (used ++ [name]) := by
  unfold Lists at h ⊢
  unfold NameTable.insert? at hins
  rw [eraseDups_concat]
  split at hins
  · -- The name has a number already, so it was in use.
    rename_i i hi
    have hmem : name ∈ used := by
      by_contra hno
      have : name ∉ t.names.toList := by rwa [h, List.mem_eraseDups]
      rw [numbers_eq_none_iff.mpr this] at hi
      cases hi
    cases hins
    rw [if_pos hmem, h]
  · rename_i hnone
    have hmem : name ∉ used := by
      rw [numbers_eq_none_iff, h, List.mem_eraseDups] at hnone
      exact hnone
    split at hins
    · cases hins
      rw [if_neg hmem, push, Array.toList_push, h]
    · cases hins

/-- There is room for a name as long as there are not too many different ones. -/
theorem Lists.exists_insert? {t : NameTable} {used : List String} {name : String}
    (h : t.Lists used) (hroom : (used ++ [name]).eraseDups.length ≤ kindLimit) :
    ∃ t', t.insert? name = some t' := by
  unfold Lists at h
  unfold NameTable.insert?
  split
  · exact ⟨t, rfl⟩
  · rename_i hnone
    have hmem : name ∉ used := by
      rw [numbers_eq_none_iff, h, List.mem_eraseDups] at hnone
      exact hnone
    have hsize : t.names.size < kindLimit := by
      rw [eraseDups_concat, if_neg hmem, ← h, List.length_append, Array.length_toList,
        List.length_singleton] at hroom
      omega
    exact ⟨_, if_pos hsize⟩

/-- More names in use are not fewer different ones. -/
theorem length_eraseDups_le_append (used more : List String) :
    used.eraseDups.length ≤ (used ++ more).eraseDups.length := by
  rw [List.eraseDups_append, List.length_append]
  omega

end NameTable

namespace Assembly

open Shape

/-! ### When a step succeeds -/

/-- A node is adopted by the innermost open node if it starts inside it and behind its latest child;
with no open node it becomes the root if there is none yet. -/
theorem adopt_eq_ok_iff {names : NameTable} {frames : List Frame} {root : Option Shape} {s : Shape}
    {a : Assembly} :
    adopt ⟨names, frames, root⟩ s = .ok a ↔
      (frames = [] ∧ root = none ∧ a = ⟨names, [], some s⟩) ∨
      ∃ f outer, frames = f :: outer ∧ f.start ≤ s.span.start ∧
        (∀ prev ∈ f.completed.head?, prev.span.stop ≤ s.span.start) ∧
        a = ⟨names, { f with completed := s :: f.completed } :: outer, root⟩ := by
  match frames, root with
  | [], none => simp [adopt, @eq_comm _ a]
  | [], some r => simp [adopt]
  | f :: outer, root =>
    cases hc : f.completed with
    | nil => simp [adopt, bind_eq_ok_iff, hc, @eq_comm _ a]
    | cons prev rest => simp [adopt, bind_eq_ok_iff, hc, @eq_comm _ a]

/-- A node can be opened as long as there is a number for its kind. -/
theorem step_opens_eq_ok_iff {names : NameTable} {frames : List Frame} {root : Option Shape}
    {kind : String} {start : Nat} {a : Assembly} :
    step ⟨names, frames, root⟩ (.opens kind start) = .ok a ↔
      ∃ names', names.insert? kind = some names' ∧
        a = ⟨names', ⟨kind, start, []⟩ :: frames, root⟩ := by
  simp [step, bind_eq_ok_iff, @eq_comm _ a]

/-- A leaf is taken if its span is not inverted, its kind has a number and it can be adopted. -/
theorem step_leaf_eq_ok_iff {names : NameTable} {frames : List Frame} {root : Option Shape}
    {kind : String} {span : Span} {a : Assembly} :
    step ⟨names, frames, root⟩ (.leaf kind span) = .ok a ↔
      span.start ≤ span.stop ∧ ∃ names', names.insert? kind = some names' ∧
        adopt ⟨names', frames, root⟩ (.leaf kind span) = .ok a := by
  simp [step, bind_eq_ok_iff]

/-- The innermost open node is closed if its span is not inverted, its children end inside it and
the completed node can be adopted. -/
theorem step_closes_eq_ok_iff {names : NameTable} {frames : List Frame} {root : Option Shape}
    {stop : Nat} {a : Assembly} :
    step ⟨names, frames, root⟩ (.closes stop) = .ok a ↔
      ∃ f outer, frames = f :: outer ∧ f.start ≤ stop ∧ (∀ c ∈ f.completed, c.span.stop ≤ stop) ∧
        adopt ⟨names, outer, root⟩ (.group f.kind ⟨f.start, stop⟩ f.completed.reverse) = .ok a := by
  cases frames with
  | nil => simp [step]
  | cons f outer =>
    simp only [step, bind_eq_ok_iff, require_eq_ok_iff, exists_const, List.cons.injEq]
    -- The search for a child that ends too late finds one exactly if there is one.
    have hfind : ∀ c, f.completed.reverse.find? (stop < ·.span.stop) = some c →
        c ∈ f.completed ∧ stop < c.span.stop := by
      intro c hc
      exact ⟨by simpa using List.mem_of_find?_eq_some hc, by simpa using List.find?_some hc⟩
    split
    · rename_i c hc
      obtain ⟨hmem, hlt⟩ := hfind c hc
      simp only [reduceCtorEq, and_false, false_iff]
      rintro ⟨f', outer', ⟨rfl, rfl⟩, -, hall, -⟩
      exact absurd (hall c hmem) (by omega)
    · rename_i hnone
      have hall : ∀ c ∈ f.completed, c.span.stop ≤ stop := by
        intro c hc
        simpa using List.find?_eq_none.mp hnone c (by simpa using hc)
      constructor
      · rintro ⟨hle, h⟩
        exact ⟨f, outer, ⟨rfl, rfl⟩, hle, hall, h⟩
      · rintro ⟨f', outer', ⟨rfl, rfl⟩, hle, -, h⟩
        exact ⟨hle, h⟩

end Assembly

/-! ### What a run has read -/

namespace Frame

/-- The steps that an open node has taken in. -/
def steps (f : Frame) : List Step :=
  .opens f.kind f.start :: Shape.stepsAll f.completed.reverse

/-- The completed children of an open node obey the law of spans, as far as it is known. -/
structure Lawful (f : Frame) : Prop where
  /-- Each completed child is lawful and starts inside the node. -/
  completed : ∀ c ∈ f.completed, c.Lawful ∧ f.start ≤ c.span.start
  /-- The completed children do not overlap. -/
  apart : f.completed.reverse.IsChain fun c d => c.span.stop ≤ d.span.start

/-- A new child comes last in what an open node has taken in. -/
theorem steps_cons (f : Frame) (s : Shape) :
    steps { f with completed := s :: f.completed } = f.steps ++ s.steps := by
  simp [steps, Shape.stepsAll_append, Shape.stepsAll]

/-- An open node stays lawful if its new child starts inside it and behind its latest child. -/
theorem Lawful.cons {f : Frame} {s : Shape} (hf : f.Lawful) (hs : s.Lawful)
    (hstart : f.start ≤ s.span.start)
    (hprev : ∀ prev ∈ f.completed.head?, prev.span.stop ≤ s.span.start) :
    Lawful { f with completed := s :: f.completed } where
  completed := List.forall_mem_cons.mpr ⟨⟨hs, hstart⟩, hf.completed⟩
  apart := by
    rw [List.reverse_cons]
    refine hf.apart.append (.singleton s) ?_
    intro prev hlast s' hhead
    obtain rfl : s = s' := by simpa using hhead
    rw [List.getLast?_reverse] at hlast
    exact hprev prev hlast

/-- A lawful open node becomes a lawful node if it is closed at or behind the end of each child. -/
theorem Lawful.close {f : Frame} {stop : Nat} (hf : f.Lawful) (hle : f.start ≤ stop)
    (hends : ∀ c ∈ f.completed, c.span.stop ≤ stop) :
    (Shape.group f.kind ⟨f.start, stop⟩ f.completed.reverse).Lawful := by
  refine .group hle ?_ hf.apart ?_
  · intro c hc
    have hc' : c ∈ f.completed := by simpa using hc
    exact ⟨(hf.completed c hc').2, hends c hc'⟩
  · intro c hc
    exact (hf.completed c (by simpa using hc)).1

end Frame

namespace Assembly

open Shape

/-- The steps that led to the assembly. -/
def history (a : Assembly) : List Step :=
  (a.root.elim [] Shape.steps) ++ a.frames.reverse.flatMap Frame.steps

/-- All that is completed so far obeys the law of spans. -/
structure Lawful (a : Assembly) : Prop where
  /-- The root is lawful. -/
  root : ∀ s ∈ a.root, s.Lawful
  /-- The open nodes are lawful. -/
  frames : ∀ f ∈ a.frames, f.Lawful

/-- The assembly is what the steps `done` lead to. -/
structure Sound (a : Assembly) (done : List Step) : Prop where
  /-- The steps can be read off the assembly. -/
  history : a.history = done
  /-- The names are those that the steps use. -/
  names : a.names.Lists (kindsOf done)
  /-- No law of spans is broken. -/
  lawful : a.Lawful

theorem sound_empty : empty.Sound [] where
  history := rfl
  names := NameTable.lists_empty
  lawful := ⟨by simp [empty], by simp [empty]⟩

/-- An innermost open node adds its steps to the history. -/
theorem history_cons (names : NameTable) (f : Frame) (outer : List Frame) (root : Option Shape) :
    history ⟨names, f :: outer, root⟩ = history ⟨names, outer, root⟩ ++ f.steps := by
  simp [history]

/-- Names are no part of the history. -/
theorem history_names (names names' : NameTable) (frames : List Frame) (root : Option Shape) :
    history ⟨names, frames, root⟩ = history ⟨names', frames, root⟩ := rfl

/-- Adopting a lawful node adds its steps to the history and breaks no law. -/
theorem Lawful.adopt {a a' : Assembly} {s : Shape} (ha : a.Lawful) (hs : s.Lawful)
    (h : a.adopt s = .ok a') :
    a'.Lawful ∧ a'.history = a.history ++ s.steps ∧ a'.names = a.names := by
  obtain ⟨names, frames, root⟩ := a
  obtain ⟨rfl, rfl, rfl⟩ | ⟨f, outer, rfl, hstart, hprev, rfl⟩ := adopt_eq_ok_iff.mp h
  · refine ⟨⟨?_, by simp⟩, by simp [history], rfl⟩
    intro s' hs'
    obtain rfl : s = s' := by simpa using hs'
    exact hs
  · obtain ⟨hf, houter⟩ := List.forall_mem_cons.mp ha.frames
    refine ⟨⟨ha.root, ?_⟩, ?_, rfl⟩
    · exact List.forall_mem_cons.mpr ⟨hf.cons hs hstart hprev, houter⟩
    · rw [history_cons, history_cons, Frame.steps_cons, List.append_assoc]

/-- A step that succeeds adds itself to what the assembly has read. -/
theorem Sound.step {a a' : Assembly} {done : List Step} {x : Step} (ha : a.Sound done)
    (h : a.step x = .ok a') : a'.Sound (done ++ [x]) := by
  obtain ⟨names, frames, root⟩ := a
  obtain ⟨rfl, hnames, hlawful⟩ := ha
  cases x with
  | opens kind start =>
    obtain ⟨names', hins, rfl⟩ := step_opens_eq_ok_iff.mp h
    refine ⟨?_, by simpa using hnames.insert? hins, hlawful.root, ?_⟩
    · rw [history_cons, history_names names' names]
      rfl
    · exact List.forall_mem_cons.mpr ⟨⟨by simp, by simp⟩, hlawful.frames⟩
  | leaf kind span =>
    obtain ⟨hle, names', hins, hadopt⟩ := step_leaf_eq_ok_iff.mp h
    -- A leaf is complete at once.
    obtain ⟨hl, hhist, hn⟩ :=
      Lawful.adopt (a := ⟨names', frames, root⟩) ⟨hlawful.root, hlawful.frames⟩ (.leaf hle) hadopt
    refine ⟨hhist, ?_, hl⟩
    rw [hn]
    simpa using hnames.insert? hins
  | closes stop =>
    obtain ⟨f, outer, rfl, hle, hends, hadopt⟩ := step_closes_eq_ok_iff.mp h
    obtain ⟨hf, houter⟩ := List.forall_mem_cons.mp hlawful.frames
    -- What was an open node becomes a completed one, with the same steps and the closing one.
    obtain ⟨hl, hhist, hn⟩ :=
      Lawful.adopt (a := ⟨names, outer, root⟩) ⟨hlawful.root, houter⟩ (hf.close hle hends) hadopt
    refine ⟨?_, ?_, hl⟩
    · rw [hhist, history_cons]
      simp [Frame.steps, Shape.steps]
    · rw [hn]
      simpa using hnames

/-- A run that succeeds adds its steps to what the assembly has read. -/
theorem Sound.run {a a' : Assembly} {done steps : List Step} (ha : a.Sound done)
    (h : a.run steps = .ok a') : a'.Sound (done ++ steps) := by
  induction steps generalizing a done with
  | nil =>
    cases h
    simpa using ha
  | cons x rest ih =>
    rw [Assembly.run, bind_eq_ok_iff] at h
    obtain ⟨b, hstep, hrun⟩ := h
    simpa using ih (ha.step hstep) hrun

/-! ### Runs without a violation -/

/-- The run on the steps of `s` ends with `s` being adopted, whatever is open, as long as there are
not too many different names. -/
def Reads (s : Shape) : Prop :=
  ∀ (names : NameTable) (frames : List Frame) (root : Option Shape) (used : List String)
    (rest : List Step), names.Lists used →
    (used ++ kindsOf s.steps).eraseDups.length ≤ kindLimit →
    ∃ names' : NameTable, names'.Lists (used ++ kindsOf s.steps) ∧
      run ⟨names, frames, root⟩ (s.steps ++ rest) =
        adopt ⟨names', frames, root⟩ s >>= fun a => a.run rest

/-- If each of the shapes `l` is read as it should be, then all of them become children of the open
node in front of them. -/
theorem run_stepsAll {l : List Shape} (hreads : ∀ c ∈ l, Reads c) {names : NameTable}
    (f : Frame) (outer : List Frame) (root : Option Shape) {used : List String} (rest : List Step)
    (hnames : names.Lists used)
    (hroom : (used ++ kindsOf (stepsAll l)).eraseDups.length ≤ kindLimit)
    (hstart : ∀ c ∈ l, f.start ≤ c.span.start)
    (hapart : l.IsChain fun c d => c.span.stop ≤ d.span.start)
    (hprev : ∀ prev ∈ f.completed.head?, ∀ c ∈ l.head?, prev.span.stop ≤ c.span.start) :
    ∃ names' : NameTable, names'.Lists (used ++ kindsOf (stepsAll l)) ∧
      run ⟨names, f :: outer, root⟩ (stepsAll l ++ rest) =
        run ⟨names', { f with completed := l.reverse ++ f.completed } :: outer, root⟩ rest := by
  induction l generalizing names f used with
  | nil => exact ⟨names, by simpa [stepsAll] using hnames, by simp [stepsAll]⟩
  | cons c l ih =>
    rw [stepsAll, kindsOf_append, ← List.append_assoc] at hroom
    have hroom₁ := Nat.le_trans (NameTable.length_eraseDups_le_append _ _) hroom
    obtain ⟨names₁, hnames₁, hrun₁⟩ :=
      hreads c (by simp) names (f :: outer) root used (stepsAll l ++ rest) hnames hroom₁
    -- The first child is adopted; it is then the latest one.
    have hadopt : adopt ⟨names₁, f :: outer, root⟩ c =
        .ok ⟨names₁, { f with completed := c :: f.completed } :: outer, root⟩ :=
      adopt_eq_ok_iff.mpr (.inr ⟨f, outer, rfl, hstart c (by simp),
        fun prev hp => hprev prev hp c (by simp), rfl⟩)
    obtain ⟨hnext, hapart'⟩ := List.isChain_cons.mp hapart
    obtain ⟨names₂, hnames₂, hrun₂⟩ := ih (fun d hd => hreads d (by simp [hd]))
      { f with completed := c :: f.completed } hnames₁ hroom
      (fun d hd => hstart d (by simp [hd])) hapart' (by simpa using hnext)
    refine ⟨names₂, by simpa [stepsAll] using hnames₂, ?_⟩
    rw [stepsAll, List.append_assoc, hrun₁, hadopt]
    simpa [bind, Except.bind] using hrun₂

/-- A run on the steps of a lawful shape meets no violation before the shape is adopted. -/
theorem run_steps {s : Shape} (hs : s.Lawful) : Reads s := by
  induction s using Shape.inductionOn with
  | leaf name span =>
    intro names frames root used rest hnames hroom
    obtain ⟨names', hins⟩ := hnames.exists_insert? hroom
    refine ⟨names', hnames.insert? hins, ?_⟩
    have hle : span.start ≤ span.stop := hs.start_le_stop
    simp [steps, run, step, require, hle, hins, orFail, bind, Except.bind]
  | group name span children ih =>
    intro names frames root used rest hnames hroom
    obtain ⟨-, -⟩ | ⟨hle, hinside, hapart, hbelow⟩ := hs
    -- Opening the node, reading its children, and closing it.
    have hkinds : used ++ kindsOf (steps (.group name span children)) =
        used ++ [name] ++ kindsOf (stepsAll children) := by
      simp [steps]
    rw [hkinds] at hroom ⊢
    have hroom₁ := Nat.le_trans (NameTable.length_eraseDups_le_append _ _) hroom
    obtain ⟨names₁, hins⟩ := hnames.exists_insert? hroom₁
    obtain ⟨names₂, hnames₂, hrun⟩ :=
      run_stepsAll (fun c hc => ih c hc (hbelow c hc)) ⟨name, span.start, []⟩ frames root
        (.closes span.stop :: rest) (hnames.insert? hins) hroom (fun c hc => (hinside c hc).1)
        hapart (by simp)
    refine ⟨names₂, hnames₂, ?_⟩
    -- No child ends behind the node, so closing it meets no violation either.
    have hends : children.find? (span.stop < ·.span.stop) = none := by
      rw [List.find?_eq_none]
      intro c hc
      simpa using (hinside c hc).2
    have hopen : step ⟨names, frames, root⟩ (.opens name span.start) =
        .ok ⟨names₁, ⟨name, span.start, []⟩ :: frames, root⟩ :=
      step_opens_eq_ok_iff.mpr ⟨names₁, hins, rfl⟩
    rw [steps, List.cons_append, List.append_assoc, run, hopen]
    simp only [bind, Except.bind, List.singleton_append]
    rw [hrun]
    simp [run, step, require, hle, hends, bind, Except.bind]

/-- A run that ends with a root and nothing open has read the steps of that root. -/
theorem steps_eq_of_run_empty {steps : List Step} {names : NameTable} {s : Shape}
    (h : empty.run steps = .ok ⟨names, [], some s⟩) :
    s.steps = steps ∧ s.Lawful ∧ names.Lists (kindsOf steps) := by
  obtain ⟨hhist, hnames, hlawful⟩ := sound_empty.run h
  exact ⟨by simpa [history] using hhist, hlawful.root s rfl, hnames⟩

/-- The run on the steps of a lawful shape ends with that shape as the root. -/
theorem run_empty_steps {s : Shape} (hs : s.Lawful)
    (hroom : (kindsOf s.steps).eraseDups.length ≤ kindLimit) :
    ∃ names : NameTable, names.Lists (kindsOf s.steps) ∧
      empty.run s.steps = .ok ⟨names, [], some s⟩ := by
  obtain ⟨names, hnames, hrun⟩ :=
    run_steps hs .empty [] none [] [] NameTable.lists_empty (by simpa using hroom)
  refine ⟨names, by simpa using hnames, ?_⟩
  simpa [empty, adopt, run, bind, Except.bind] using hrun

end Assembly

end TreeAssist
