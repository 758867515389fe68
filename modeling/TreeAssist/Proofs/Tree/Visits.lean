import TreeAssist.Proofs.Tree.Descent

/-!
# Walking through an arena

An arena that has not been checked can still be walked through: from a record to the records that
its stretch of the child table lists, and from each of these on. Such a walk need not end, and it
can come to a record more than once. `Arena.Walk` relates a record to the visits of a walk that
ends, and `Arena.IsTree` says that the walk from the first record ends, visits every record once and
finds there where it came from. Loading accepts just these arenas (`ofArena_exact`).
-/

namespace TreeAssist

namespace Arena

/-- The record `i` lists the record `c` in the place numbered `k`. -/
def Lists (a : Arena) (i k c : Nat) : Prop :=
  ∃ r, a.nodes[i]? = some r ∧ r.children.start + k < r.children.stop ∧
    a.childTable[r.children.start + k]? = some c

/-- A stop of a walk: a record, and where it was found. -/
structure Visit where
  /-- Index of the record. -/
  id : Nat
  /-- Index of the record that lists it. -/
  parent : Nat
  /-- The place in which it is listed. -/
  place : Nat

/-- `a.Walk i k visits`: the walk through the children of the record `i` from the place `k` on, and
through all that lies below each of them, makes the given visits and ends. -/
inductive Walk (a : Arena) : Nat → Nat → List Visit → Prop
  /-- There is nothing in the place `k`. -/
  | done {i k : Nat} (none : ∀ c, ¬ a.Lists i k c) : Walk a i k []
  /-- The record in the place `k` is visited, then those below it, then those behind it. -/
  | visit {i k c : Nat} {inner rest : List Visit} (listed : a.Lists i k c)
      (below : Walk a c 0 inner) (behind : Walk a i (k + 1) rest) :
      Walk a i k (⟨c, i, k⟩ :: (inner ++ rest))

/-- The arena is a tree, as a walk through it shows. -/
structure IsTree (a : Arena) : Prop where
  /-- There is a first record, and it has no parent. -/
  root : ∃ r, a.nodes[0]? = some r ∧ r.parent = none
  /-- There are not too many kinds. -/
  kinds_le : a.kinds.size ≤ kindLimit
  /-- Only the recovery name names a kind of recovered errors. -/
  errors : ∀ k ∈ a.kinds, k.isError = true ↔ k.name = recoveryName
  /-- Each record has a kind of the table, a span that is not inverted, and a stretch of the child
  table. -/
  records : ∀ (i : Nat) (r : NodeRecord), a.nodes[i]? = some r →
    r.kind < a.kinds.size ∧ r.span.start ≤ r.span.stop ∧
      r.children.start ≤ r.children.stop ∧ r.children.stop ≤ a.childTable.size
  /-- The walk from the first record visits every record once, each after the one that lists it, and
  each record names the record and the place where it was found. -/
  walk : ∃ visits, a.Walk 0 0 visits ∧ (0 :: visits.map Visit.id).Nodup ∧
    (∀ i, i ∈ 0 :: visits.map Visit.id ↔ i < a.nodes.size) ∧
    ∀ v ∈ visits, v.parent < v.id ∧
      ∃ r, a.nodes[v.id]? = some r ∧ r.parent = some v.parent ∧ r.index = v.place
  /-- A record lies inside the span of its parent. -/
  inside : ∀ (i p : Nat) (r parent : NodeRecord), a.nodes[i]? = some r → r.parent = some p →
    a.nodes[p]? = some parent →
    parent.span.start ≤ r.span.start ∧ r.span.stop ≤ parent.span.stop
  /-- A record starts at or behind the end of the record listed in front of it. -/
  apart : ∀ (i k c d : Nat) (prev r : NodeRecord), a.Lists i k c → a.Lists i (k + 1) d →
    a.nodes[c]? = some prev → a.nodes[d]? = some r → prev.span.stop ≤ r.span.start

namespace Walk

variable {a : Arena} {i k : Nat} {visits : List Visit}

/-- What is visited is listed where the visit says. -/
theorem lists_of_mem (h : a.Walk i k visits) {v : Visit} (hv : v ∈ visits) :
    a.Lists v.parent v.place v.id := by
  induction h with
  | done => simp at hv
  | visit listed _ _ ihbelow ihbehind =>
    simp only [List.mem_cons, List.mem_append] at hv
    rcases hv with rfl | hv | hv
    · exact listed
    · exact ihbelow hv
    · exact ihbehind hv

/-- A walk visits what it comes past: all places from the first one on. -/
theorem mem_of_lists (h : a.Walk i k visits) {l c : Nat} (hkl : k ≤ l) (hc : a.Lists i l c) :
    ⟨c, i, l⟩ ∈ visits := by
  induction h with
  | done none =>
    -- An empty place is the first of the places behind the stretch.
    rename_i i k
    exfalso
    obtain ⟨r, hr, hlt, hget⟩ := hc
    have hl : r.children.start + l < a.childTable.size := (Array.getElem?_eq_some_iff.mp hget).1
    exact none _ ⟨r, hr, by omega, Array.getElem?_eq_getElem (by omega)⟩
  | visit listed below behind ihbelow ihbehind =>
    rename_i i k c' inner rest
    rcases Nat.eq_or_lt_of_le hkl with rfl | hlt
    · obtain ⟨r, hr, -, hget⟩ := listed
      obtain ⟨r', hr', -, hget'⟩ := hc
      obtain rfl : r = r' := Option.some.inj (hr.symm.trans hr')
      obtain rfl : c' = c := Option.some.inj (hget.symm.trans hget')
      simp
    · have := ihbehind hlt hc
      simp [this]

/-- A walk visits what is listed by a record that it visits. -/
theorem mem_of_lists_of_mem (h : a.Walk i k visits) {v : Visit} (hv : v ∈ visits) {l c : Nat}
    (hc : a.Lists v.id l c) : ⟨c, v.id, l⟩ ∈ visits := by
  induction h with
  | done => simp at hv
  | visit _ below _ ihbelow ihbehind =>
    simp only [List.mem_cons, List.mem_append] at hv ⊢
    rcases hv with rfl | hv | hv
    · exact .inr (.inl (below.mem_of_lists (Nat.zero_le l) hc))
    · exact .inr (.inl (ihbelow hv))
    · exact .inr (.inr (ihbehind hv))

end Walk

/-! ### A walk that shows a tree -/

/-- In an arena that a walk shows to be a tree, what is listed links back. -/
theorem IsTree.linksBack {a : Arena} (h : a.IsTree) {i k c : Nat} (hc : a.Lists i k c) :
    a.LinksBack i k c := by
  obtain ⟨visits, hwalk, -, hall, hlinks⟩ := h.walk
  have hi : i < a.nodes.size := by
    obtain ⟨r, hr, -⟩ := hc
    exact (Array.getElem?_eq_some_iff.mp hr).1
  -- The record `i` is visited, so what it lists is visited too.
  have hmem : ⟨c, i, k⟩ ∈ visits := by
    rcases List.mem_cons.mp ((hall i).mpr hi) with rfl | hi'
    · exact hwalk.mem_of_lists (Nat.zero_le k) hc
    · obtain ⟨v, hv, rfl⟩ := List.mem_map.mp hi'
      exact hwalk.mem_of_lists_of_mem hv hc
  exact hlinks _ hmem

/-- In an arena that a walk shows to be a tree, every record but the first has its place. -/
theorem IsTree.placed {a : Arena} (h : a.IsTree) {i : Nat} {r : NodeRecord}
    (hr : a.nodes[i]? = some r) (hpos : 0 < i) : a.Placed i r := by
  obtain ⟨visits, hwalk, -, hall, hlinks⟩ := h.walk
  -- Every record but the first is visited, and the visit names its place.
  have hi : i ∈ visits.map Visit.id := by
    rcases List.mem_cons.mp ((hall i).mpr (Array.getElem?_eq_some_iff.mp hr).1) with rfl | hi
    · exact absurd hpos (Nat.lt_irrefl 0)
    · exact hi
  obtain ⟨v, hv, rfl⟩ := List.mem_map.mp hi
  obtain ⟨hlt, r', hr', hparent, hindex⟩ := hlinks v hv
  obtain rfl : r = r' := Option.some.inj (hr.symm.trans hr')
  have hlisted := hwalk.lists_of_mem hv
  obtain ⟨parent, hp, hin, hget⟩ := hwalk.lists_of_mem hv
  obtain ⟨hstart, hstop⟩ := h.inside v.id v.parent r parent hr hparent hp
  refine ⟨v.parent, parent, hparent, hlt, hp, by rwa [hindex], by rwa [hindex], hstart, hstop, ?_⟩
  -- The sibling in front is listed one place before.
  intro c prev hidx hc hprev
  rw [hindex] at hidx hc
  have hback : v.place - 1 + 1 = v.place := by omega
  refine h.apart v.parent (v.place - 1) c v.id prev r ⟨parent, hp, by omega, hc⟩ ?_ hprev hr
  rwa [hback]

/-- An arena that a walk shows to be a tree passes all checks. -/
theorem IsTree.wellFormed {a : Arena} (h : a.IsTree) (hnodes : a.nodes.size < addressLimit)
    (htable : a.childTable.size < addressLimit) : a.WellFormed where
  root := h.root
  kinds_le := h.kinds_le
  nodes_lt := hnodes
  childTable_lt := htable
  kinds_consistent k hk := by
    unfold Kind.Consistent
    rw [Bool.eq_iff_iff, h.errors k hk, beq_iff_eq]
  fits i r hr := by
    obtain ⟨hkind, hspan, hle, hin⟩ := h.records i r hr
    exact ⟨hkind, hspan, hle, hin, fun k c hk hc => h.linksBack ⟨r, hr, hk, hc⟩, h.placed hr⟩

end Arena

/-! ### The walk through a tree -/

namespace Tree.Node

variable {t : Tree}

/-- A node lists its children in their places. -/
theorem lists_iff {n : t.Node} {k c : Nat} :
    t.toArena.Lists n.id k c ↔ ∃ h : k < n.childCount, (n.child k h).id = c := by
  have hget : t.toArena.Lists n.id k c ↔ n.slice.get? k = some c := by
    rw [Arena.Slice.get?_eq_some_iff]
    constructor
    · rintro ⟨r, hr, h⟩
      obtain rfl : n.record = r := Option.some.inj (n.nodes_getElem?_id.symm.trans hr)
      exact h
    · exact fun h => ⟨n.record, n.nodes_getElem?_id, h⟩
  rw [hget]
  by_cases hk : k < n.childCount
  · simp [n.slice_get?_child hk, hk]
  · have hnone : n.slice.get? k = none := dif_neg hk
    simp [hnone, hk]

/-- The walk through the children of a node from some place on, if the walks through what lies below
each of them are known. -/
private theorem exists_walk_from (n : t.Node)
    (ih : ∀ c : t.Node, c.parent? = some n → ∃ visits, t.toArena.Walk c.id 0 visits ∧
      visits.map Arena.Visit.id = c.children.flatMap fun d => d.preorder.map Node.id)
    (m : Nat) (hm : m ≤ n.childCount) :
    ∃ visits, t.toArena.Walk n.id (n.childCount - m) visits ∧
      visits.map Arena.Visit.id =
        (n.children.drop (n.childCount - m)).flatMap fun d => d.preorder.map Node.id := by
  -- The induction is on the number `m` of children that are left.
  induction m with
  | zero =>
    refine ⟨[], .done ?_, ?_⟩
    · intro c hc
      obtain ⟨hk, -⟩ := lists_iff.mp hc
      omega
    · simp [List.drop_eq_nil_of_le]
  | succ m ihm =>
    have hk : n.childCount - (m + 1) < n.childCount := by omega
    obtain ⟨rest, hrest, hrestIds⟩ := ihm (by omega)
    obtain ⟨inner, hinner, hinnerIds⟩ := ih (n.child _ hk) (n.parent?_child _ hk)
    rw [show n.childCount - m = n.childCount - (m + 1) + 1 by omega] at hrest hrestIds
    refine ⟨_, .visit (lists_iff.mpr ⟨hk, rfl⟩) hinner hrest, ?_⟩
    have hget : n.children[n.childCount - (m + 1)]? = some (n.child _ hk) := by
      rw [children_getElem?]
      exact child?_eq_some_iff.mpr ⟨hk, rfl⟩
    obtain ⟨hlt, hchild⟩ := List.getElem?_eq_some_iff.mp hget
    rw [List.drop_eq_getElem_cons hlt, hchild, List.flatMap_cons, preorder_eq]
    simp [hinnerIds, hrestIds, List.map_flatMap]

/-- The walk through a tree visits its nodes in pre-order. -/
theorem exists_walk (n : t.Node) :
    ∃ visits, t.toArena.Walk n.id 0 visits ∧
      n.preorder.map Node.id = n.id :: visits.map Arena.Visit.id := by
  have hwalk : ∃ visits, t.toArena.Walk n.id 0 visits ∧
      visits.map Arena.Visit.id = n.children.flatMap fun d => d.preorder.map Node.id := by
    induction n using upward with
    | step n ih => simpa using exists_walk_from n ih n.childCount (Nat.le_refl _)
  obtain ⟨visits, hvisits, hids⟩ := hwalk
  refine ⟨visits, hvisits, ?_⟩
  rw [preorder_eq, hids, List.map_cons, List.map_flatMap]

end Tree.Node

/-- A tree is shown to be one by the walk through it. -/
theorem Tree.isTree (t : Tree) : t.toArena.IsTree where
  root := t.wellFormed.root
  kinds_le := t.wellFormed.kinds_le
  errors k hk := by
    rw [t.wellFormed.kinds_consistent k hk, beq_iff_eq]
  records i r hr := by
    have h := t.wellFormed.fits i r hr
    exact ⟨h.kind_lt, h.span_le, h.children_le, h.children_inside⟩
  walk := by
    obtain ⟨visits, hwalk, hids⟩ := t.root.exists_walk
    refine ⟨visits, hwalk, ?_, ?_, ?_⟩
    · -- The visits are the nodes in pre-order, so none comes twice and none is left out.
      rw [show 0 = t.root.id from rfl, ← hids]
      exact t.root.nodup_preorder.map fun n m => Node.ext
    · intro i
      rw [show 0 = t.root.id from rfl, ← hids, List.mem_map]
      constructor
      · rintro ⟨n, -, rfl⟩
        exact n.isLt
      · intro hi
        exact ⟨⟨i, hi⟩, Node.mem_preorder_iff.mpr (Node.root_encloses _), rfl⟩
    · -- What is visited is listed, and what is listed links back.
      intro v hv
      obtain ⟨r, hr, hlt, hget⟩ := hwalk.lists_of_mem hv
      exact (t.wellFormed.fits _ _ hr).children_link _ _ hlt hget
  inside i p r parent hr hp hparent := by
    have hi := (Array.getElem?_eq_some_iff.mp hr).1
    have hpi := (Array.getElem?_eq_some_iff.mp hparent).1
    obtain rfl := Option.some.inj ((Node.nodes_getElem?_id (t := t) ⟨i, hi⟩).symm.trans hr)
    obtain rfl := Option.some.inj ((Node.nodes_getElem?_id (t := t) ⟨p, hpi⟩).symm.trans hparent)
    exact Node.span_of_parent? (n := ⟨i, hi⟩) (p := ⟨p, hpi⟩) (Node.parent?_eq_some_iff.mpr hp)
  apart i k c d prev r hc hd hprev hr := by
    have hi : i < t.nodes.size := by
      obtain ⟨r', hr', -⟩ := hc
      exact (Array.getElem?_eq_some_iff.mp hr').1
    obtain ⟨hk, rfl⟩ := (Node.lists_iff (n := ⟨i, hi⟩)).mp hc
    obtain ⟨hk', rfl⟩ := (Node.lists_iff (n := ⟨i, hi⟩)).mp hd
    obtain rfl := Option.some.inj ((Node.nodes_getElem?_id _).symm.trans hprev)
    obtain rfl := Option.some.inj ((Node.nodes_getElem?_id _).symm.trans hr)
    exact Node.stop_child_le_start_child_succ ⟨i, hi⟩ k hk'

/-- An arena with fewer than `addressLimit` records and table entries is loaded exactly if the walk
through it shows that it is a tree. -/
theorem ofArena_exact (a : Arena) (hnodes : a.nodes.size < addressLimit)
    (htable : a.childTable.size < addressLimit) :
    (∃ t, Tree.ofArena a = .ok t) ↔ a.IsTree := by
  constructor
  · rintro ⟨t, ht⟩
    rw [← Tree.ofArena_eq_ok_iff.mp ht]
    exact t.isTree
  · intro h
    exact ⟨⟨a, h.wellFormed hnodes htable⟩, Tree.ofArena_eq_ok_iff.mpr rfl⟩

/-- An arena for the text `pass`. The first entry of its child table belongs to no record. -/
def spareEntryArena : Arena where
  kinds := #[.ofName "Script", .ofName "pass"]
  nodes := #[{ kind := 0, span := ⟨0, 5⟩, parent := none, index := 0, children := ⟨1, 2⟩ },
    { kind := 1, span := ⟨0, 4⟩, parent := some 0, index := 0, children := ⟨0, 0⟩ }]
  childTable := #[7, 1]

/-- A table entry that belongs to no record does no harm. -/
theorem ofArena_exact_spareEntry :
    (∃ t, Tree.ofArena spareEntryArena = .ok t) ∧ spareEntryArena.IsTree := by
  have hcheck : spareEntryArena.check = .ok () := by rfl
  have hload : ∃ t, Tree.ofArena spareEntryArena = .ok t :=
    ⟨⟨_, Arena.check_eq_ok_iff.mp hcheck⟩, Tree.ofArena_eq_ok_iff.mpr rfl⟩
  exact ⟨hload, (ofArena_exact spareEntryArena (by decide) (by decide)).mp hload⟩

end TreeAssist
