import TreeAssist.Tree.Violation

/-!
# Which arenas are trees

`Arena.check` looks through the tables of an arena in a fixed order and reports the first thing
that is wrong. It visits the records in order of their index and for each of them looks at its
kind, its span, its stretch of the child table, the records it lists there, and last its place
inside its parent.

`Arena.WellFormed` says the same without an order, and the two agree (`check_eq_ok_iff`). The
records of a well-formed arena refer only to entries that exist, every node comes after its parent,
and the two ways of following a link, down through the child table and up through the stored
parent and index, are inverse to each other.
-/

namespace TreeAssist

/-! ### Sequences of checks -/

/-- Passes if `p` holds and fails with `e` otherwise. -/
def require {ε : Type} (p : Prop) [Decidable p] (e : ε) : Except ε Unit :=
  if p then .ok () else .error e

/-- Runs `f` on the members of a list in order, up to the first failure. -/
def checkAll {ε α : Type} (f : α → Except ε Unit) : List α → Except ε Unit
  | [] => .ok ()
  | x :: xs => do f x; checkAll f xs

/-- A value that is there, or the failure `e`. -/
def orFail {ε α : Type} (e : ε) : Option α → Except ε α
  | some x => .ok x
  | none => .error e

section Sequences

variable {ε α β : Type}

/-- A sequence succeeds if its first part does and its second part does on what the first gave. -/
theorem bind_eq_ok_iff {x : Except ε α} {f : α → Except ε β} {b : β} :
    (x >>= f) = .ok b ↔ ∃ a, x = .ok a ∧ f a = .ok b := by
  cases x with
  | error e => simp [bind, Except.bind]
  | ok a => simp [bind, Except.bind]

/-- A requirement passes exactly if it holds. -/
@[simp]
theorem require_eq_ok_iff {p : Prop} [Decidable p] {e : ε} {u : Unit} :
    require p e = .ok u ↔ p := by
  by_cases h : p <;> simp [require, h]

/-- A list of checks passes exactly if each of them does. -/
theorem checkAll_eq_ok_iff {f : α → Except ε Unit} {xs : List α} {u : Unit} :
    checkAll f xs = .ok u ↔ ∀ x ∈ xs, f x = .ok () := by
  induction xs with
  | nil => simp [checkAll]
  | cons x xs ih =>
    simp only [checkAll, bind_eq_ok_iff, ih, List.forall_mem_cons]
    exact ⟨fun ⟨_, hx, hxs⟩ => ⟨hx, hxs⟩, fun ⟨hx, hxs⟩ => ⟨(), hx, hxs⟩⟩

/-- `orFail` gives what is there. -/
@[simp]
theorem orFail_eq_ok_iff {e : ε} {o : Option α} {x : α} : orFail e o = .ok x ↔ o = some x := by
  cases o <;> simp [orFail]

/-- A sequence fails if its first part does, or its second part on what the first gave. -/
theorem bind_eq_error_iff {x : Except ε α} {f : α → Except ε β} {e : ε} :
    (x >>= f) = .error e ↔ x = .error e ∨ ∃ a, x = .ok a ∧ f a = .error e := by
  cases x with
  | error e' => simp [bind, Except.bind]
  | ok a => simp [bind, Except.bind]

/-- A requirement fails if it does not hold, and with its own failure. -/
@[simp]
theorem require_eq_error_iff {p : Prop} [Decidable p] {e e' : ε} :
    require p e = .error e' ↔ ¬ p ∧ e = e' := by
  by_cases h : p <;> simp [require, h]

/-- `orFail` fails if nothing is there, and with its own failure. -/
@[simp]
theorem orFail_eq_error_iff {e e' : ε} {o : Option α} :
    orFail e o = .error e' ↔ o = none ∧ e = e' := by
  cases o <;> simp [orFail]

end Sequences

/-- How many kinds can be told apart, by numbers of 16 bits. -/
def kindLimit : Nat := 65536

/-- How many records or table entries can be told apart, by numbers of 32 bits. -/
def addressLimit : Nat := 4294967296

namespace Arena

/-! ### The checks -/

/-- The record numbered `i`. -/
def record (a : Arena) (i : Nat) : Except Violation NodeRecord :=
  orFail (.brokenLinks .dangling) a.nodes[i]?

/-- The stretch `s` of the child table, if it lies inside. -/
def slice (a : Arena) (s : Span) : Except Violation a.Slice :=
  if h : s.start ≤ s.stop ∧ s.stop ≤ a.childTable.size then .ok ⟨s, h.1, h.2⟩
  else .error (.brokenLinks .dangling)

/-- The record `c` comes after `i`, names `i` as its parent and `k` as its place there. -/
def LinksBack (a : Arena) (i k c : Nat) : Prop :=
  i < c ∧ ∃ r, a.nodes[c]? = some r ∧ r.parent = some i ∧ r.index = k

instance (a : Arena) (i k c : Nat) : Decidable (a.LinksBack i k c) :=
  decidable_of_iff (i < c ∧ a.nodes[c]?.any fun r => r.parent = some i ∧ r.index = k) (by
    unfold LinksBack
    cases a.nodes[c]? <;> simp)

/-- The record numbered `i`, called `name`, lies inside its parent and behind its previous
sibling. -/
def checkPlace (a : Arena) (i : Nat) (r : NodeRecord) (name : String) :
    Except Violation Unit := do
  let p ← orFail (.brokenLinks (.noParentBefore i)) (r.parent.filter (· < i))
  let parent ← a.record p
  let siblings ← a.slice parent.children
  require (siblings.get? r.index = some i) (.brokenLinks (.missingFromParent i))
  let parentKind ← orFail (.brokenLinks .dangling) a.kinds[parent.kind]?
  require (parent.span.start ≤ r.span.start ∧ r.span.stop ≤ parent.span.stop)
    (.escapes name r.span parentKind.name parent.span)
  if 0 < r.index then
    let prev ← orFail (.brokenLinks .dangling) (siblings.get? (r.index - 1))
    let prevRecord ← a.record prev
    require (prevRecord.span.stop ≤ r.span.start) (.overlaps name r.span.start prevRecord.span.stop)
  else .ok ()

/-- The record numbered `i` fits into the arena. -/
def checkNode (a : Arena) (i : Nat) : Except Violation Unit := do
  let r ← a.record i
  let kind ← orFail (.brokenLinks (.unknownKind i r.kind)) a.kinds[r.kind]?
  require (r.span.start ≤ r.span.stop) (.inverted kind.name r.span)
  require (r.children.start ≤ r.children.stop ∧ r.children.stop ≤ a.childTable.size)
    (.brokenLinks (.childRange i r.children a.childTable.size))
  let own ← a.slice r.children
  checkAll (fun k => do
    let c ← orFail (.brokenLinks .dangling) (own.get? k)
    require (a.LinksBack i k c) (.brokenLinks (.childLink i c))) (List.range own.size)
  if 0 < i then a.checkPlace i r kind.name else .ok ()

/-- The arena is a tree; if not, the first thing that is wrong. -/
def check (a : Arena) : Except Violation Unit := do
  let root ← orFail .noRoot a.nodes[0]?
  require (root.parent = none) (.brokenLinks .rootHasParent)
  require (a.kinds.size ≤ kindLimit) .kindOverflow
  require (a.nodes.size < addressLimit ∧ a.childTable.size < addressLimit) (.brokenLinks .tooLarge)
  checkAll (fun k => require k.Consistent (.brokenLinks (.errorFlag k.name))) a.kinds.toList
  checkAll a.checkNode (List.range a.nodes.size)

/-! ### The rules -/

/-- The record `r`, numbered `i`, lies inside its parent and behind its previous sibling. -/
def Placed (a : Arena) (i : Nat) (r : NodeRecord) : Prop :=
  ∃ p parent, r.parent = some p ∧ p < i ∧ a.nodes[p]? = some parent ∧
    parent.children.start + r.index < parent.children.stop ∧
    a.childTable[parent.children.start + r.index]? = some i ∧
    parent.span.start ≤ r.span.start ∧ r.span.stop ≤ parent.span.stop ∧
    ∀ c prev, 0 < r.index → a.childTable[parent.children.start + (r.index - 1)]? = some c →
      a.nodes[c]? = some prev → prev.span.stop ≤ r.span.start

/-- The record `r`, numbered `i`, fits into the arena. -/
structure Fits (a : Arena) (i : Nat) (r : NodeRecord) : Prop where
  /-- The kind is in the table. -/
  kind_lt : r.kind < a.kinds.size
  /-- The span is not inverted. -/
  span_le : r.span.start ≤ r.span.stop
  /-- The children are a stretch … -/
  children_le : r.children.start ≤ r.children.stop
  /-- … of the child table. -/
  children_inside : r.children.stop ≤ a.childTable.size
  /-- The children link back. -/
  children_link : ∀ k c, r.children.start + k < r.children.stop →
    a.childTable[r.children.start + k]? = some c → a.LinksBack i k c
  /-- A record other than the root's has its place in another. -/
  placed : 0 < i → a.Placed i r

/-- The arena is a tree. -/
structure WellFormed (a : Arena) : Prop where
  /-- There is a root, and it has no parent. -/
  root : ∃ r, a.nodes[0]? = some r ∧ r.parent = none
  /-- There are not too many kinds. -/
  kinds_le : a.kinds.size ≤ kindLimit
  /-- There are not too many records. -/
  nodes_lt : a.nodes.size < addressLimit
  /-- The child table is not too long. -/
  childTable_lt : a.childTable.size < addressLimit
  /-- All error flags are right. -/
  kinds_consistent : ∀ k ∈ a.kinds, k.Consistent
  /-- All records fit. -/
  fits : ∀ i r, a.nodes[i]? = some r → a.Fits i r

/-! ### The checks decide the rules -/

/-- `slice` gives the stretch with the wanted offsets, if there is one. -/
theorem slice_eq_ok_iff {a : Arena} {s : Span} {t : a.Slice} : a.slice s = .ok t ↔ t.span = s := by
  unfold slice
  split
  · rename_i h
    constructor
    · intro e
      cases e
      rfl
    · rintro rfl
      rfl
  · rename_i h
    simp only [reduceCtorEq, false_iff]
    rintro rfl
    exact h ⟨t.ordered, t.inside⟩

/-- A stretch holds what the child table holds at its offsets. -/
theorem Slice.get?_eq_some_iff {a : Arena} {s : a.Slice} {k c : Nat} :
    s.get? k = some c ↔
      s.span.start + k < s.span.stop ∧ a.childTable[s.span.start + k]? = some c := by
  have := s.inside
  unfold get? size
  split
  · rename_i h
    have hlt : s.span.start + k < s.span.stop := by omega
    have hin : s.span.start + k < a.childTable.size := by omega
    simp [get, hlt, hin]
  · simp only [reduceCtorEq, false_iff, not_and]
    omega

/-- The check of a record's place decides `Placed`, if all records before it fit. -/
theorem checkPlace_eq_ok_iff {a : Arena} {i : Nat} {r : NodeRecord} {name : String} {u : Unit}
    (h : ∀ p parent, p < i → a.nodes[p]? = some parent → a.Fits p parent) :
    a.checkPlace i r name = .ok u ↔ a.Placed i r := by
  constructor
  · intro hc
    simp only [checkPlace, record, bind_eq_ok_iff, orFail_eq_ok_iff, require_eq_ok_iff,
      slice_eq_ok_iff, Slice.get?_eq_some_iff, Option.filter_eq_some_iff, exists_const] at hc
    obtain ⟨p, ⟨hp, hlt⟩, parent, hparent, s, hs, hlisted, pk, hpk, hspan, hprev⟩ := hc
    rw [hs] at hlisted
    refine ⟨p, parent, hp, by simpa using hlt, hparent, hlisted.1, hlisted.2, hspan.1, hspan.2, ?_⟩
    -- The check looks at one previous sibling, and it is the one that `Placed` is about.
    intro c prev hpos hc hrec
    rw [if_pos hpos] at hprev
    simp only [bind_eq_ok_iff, orFail_eq_ok_iff, require_eq_ok_iff, Slice.get?_eq_some_iff] at hprev
    obtain ⟨c', ⟨_, hc'⟩, prev', hprev', hle⟩ := hprev
    rw [hs, hc] at hc'
    cases hc'
    rw [hrec] at hprev'
    cases hprev'
    exact hle
  · rintro ⟨p, parent, hp, hlt, hparent, hin, hlisted, hstart, hstop, hprev⟩
    -- The parent comes before the record, so its own look-ups are known to succeed.
    have hfit := h p parent hlt hparent
    have hkind := hfit.kind_lt
    simp only [checkPlace, record, bind_eq_ok_iff, orFail_eq_ok_iff, require_eq_ok_iff,
      slice_eq_ok_iff, Slice.get?_eq_some_iff, Option.filter_eq_some_iff, exists_const]
    refine ⟨p, ⟨hp, by simpa using hlt⟩, parent, hparent,
      ⟨parent.children, hfit.children_le, hfit.children_inside⟩, rfl, ⟨hin, hlisted⟩,
      a.kinds[parent.kind], by simp [hkind], ⟨hstart, hstop⟩, ?_⟩
    split
    · -- The previous sibling is listed too, and so has a record.
      rename_i hpos
      have hk : parent.children.start + (r.index - 1) < parent.children.stop := by omega
      have hk' : parent.children.start + (r.index - 1) < a.childTable.size :=
        Nat.lt_of_lt_of_le hk hfit.children_inside
      have hget : a.childTable[parent.children.start + (r.index - 1)]? =
          some a.childTable[parent.children.start + (r.index - 1)] := by simp [hk']
      obtain ⟨-, prev, hrec, -⟩ := hfit.children_link _ _ hk hget
      simp only [bind_eq_ok_iff, orFail_eq_ok_iff, require_eq_ok_iff, Slice.get?_eq_some_iff]
      exact ⟨_, ⟨hk, hget⟩, prev, hrec, hprev _ _ hpos hget hrec⟩
    · rfl

/-- The check of a record decides `Fits`, if all records before it fit. -/
theorem checkNode_eq_ok_iff {a : Arena} {i : Nat} {r : NodeRecord} {u : Unit}
    (hr : a.nodes[i]? = some r)
    (h : ∀ p parent, p < i → a.nodes[p]? = some parent → a.Fits p parent) :
    a.checkNode i = .ok u ↔ a.Fits i r := by
  -- What the check of a single child says.
  have hchild : ∀ (s : a.Slice) (k : Nat),
      ((orFail (Violation.brokenLinks .dangling) (s.get? k) >>= fun c =>
        require (a.LinksBack i k c) (.brokenLinks (.childLink i c))) = .ok ()) ↔
      ∃ c, s.get? k = some c ∧ a.LinksBack i k c := by
    simp [bind_eq_ok_iff]
  constructor
  · intro hc
    simp only [checkNode, record, bind_eq_ok_iff, orFail_eq_ok_iff, require_eq_ok_iff,
      slice_eq_ok_iff, checkAll_eq_ok_iff, List.mem_range, hchild, Slice.get?_eq_some_iff] at hc
    obtain ⟨r', hr', kind, hkind, -, hspan, -, ⟨hle, hin⟩, s, hs, -, hlinks, hplaced⟩ := hc
    rw [hr] at hr'
    cases hr'
    refine ⟨?_, hspan, hle, hin, ?_, ?_⟩
    · exact (Array.getElem?_eq_some_iff.mp hkind).1
    · intro k c hk hc
      obtain ⟨c', ⟨-, hc'⟩, hlink⟩ := hlinks k (by simp only [Slice.size, hs]; omega)
      rw [hs, hc] at hc'
      cases hc'
      exact hlink
    · intro hpos
      rw [if_pos hpos] at hplaced
      exact (checkPlace_eq_ok_iff h).mp hplaced
  · rintro ⟨hkind, hspan, hle, hin, hlinks, hplaced⟩
    simp only [checkNode, record, bind_eq_ok_iff, orFail_eq_ok_iff, require_eq_ok_iff,
      slice_eq_ok_iff, checkAll_eq_ok_iff, List.mem_range, hchild, Slice.get?_eq_some_iff]
    refine ⟨r, hr, a.kinds[r.kind], by simp [hkind], (), hspan, (), ⟨hle, hin⟩,
      ⟨r.children, hle, hin⟩, rfl, (), ?_, ?_⟩
    · intro k hk
      have hk : r.children.start + k < r.children.stop := by
        simp only [Slice.size] at hk
        omega
      have hk' : r.children.start + k < a.childTable.size := Nat.lt_of_lt_of_le hk hin
      have hget : a.childTable[r.children.start + k]? =
          some a.childTable[r.children.start + k] := by simp [hk']
      exact ⟨_, ⟨hk, hget⟩, hlinks k _ hk hget⟩
    · split
      · rename_i hpos
        exact (checkPlace_eq_ok_iff h).mpr (hplaced hpos)
      · rfl

/-- The checks pass exactly on the trees. -/
theorem check_eq_ok_iff {a : Arena} {u : Unit} : a.check = .ok u ↔ a.WellFormed := by
  have hrec : ∀ i, i < a.nodes.size → ∃ r, a.nodes[i]? = some r :=
    fun i hi => ⟨_, Array.getElem?_eq_getElem hi⟩
  simp only [check, bind_eq_ok_iff, orFail_eq_ok_iff, require_eq_ok_iff, checkAll_eq_ok_iff,
    List.mem_range, Array.mem_toList_iff]
  constructor
  · rintro ⟨root, hroot, -, hnone, -, hkinds, -, ⟨hnodes, htable⟩, -, hflags, hall⟩
    refine ⟨⟨root, hroot, hnone⟩, hkinds, hnodes, htable, hflags, ?_⟩
    -- That a record fits depends on the records before it.
    intro i
    induction i using Nat.strongRecOn with
    | ind i ih =>
      intro r hr
      exact (checkNode_eq_ok_iff hr fun p parent hp => ih p hp parent).mp
        (hall i (Array.getElem?_eq_some_iff.mp hr).1)
  · rintro ⟨⟨root, hroot, hnone⟩, hkinds, hnodes, htable, hflags, hfits⟩
    refine ⟨root, hroot, (), hnone, (), hkinds, (), ⟨hnodes, htable⟩, (), hflags, ?_⟩
    intro i hi
    obtain ⟨r, hr⟩ := hrec i hi
    exact (checkNode_eq_ok_iff hr fun p parent _ => hfits p parent).mpr (hfits i r hr)

end Arena

end TreeAssist
