import TreeAssist.Proofs.Tree.Counterparts
import TreeAssist.Proofs.Tree.Order
import TreeAssist.Proofs.Tree.Search
import TreeAssist.Proofs.Tree.Visits
import TreeAssist.Tree.Unchecked

/-!
# Look-ups stay inside the tables

`Arena.check` follows links before it is known where they lead, and fails with `Defect.dangling` if
one leads outside the tables. This never happens (`Arena.check_ne_dangling`): the record of a parent
is looked at only after all records up to it have passed, and a previous sibling only after its
parent has been found to list children that link back.

Once an arena has passed, its links may be followed without looking. All walks by bare indices end
after at most as many rounds as there are nodes, make no look-up outside the tables, and come to the
nodes that the walks through the tree come to (`Tree.Node.Followed`).

Main statement: `lookups_inside`, for all arenas whatsoever.
-/

namespace TreeAssist

/-! ### Failing sequences -/

/-- A list of checks fails at one of its members, and those in front of it have passed. -/
theorem exists_of_checkAll_eq_error {ε α : Type} {f : α → Except ε Unit} {l : List α} {e : ε}
    (h : checkAll f l = .error e) :
    ∃ before x after, l = before ++ x :: after ∧ (∀ y ∈ before, f y = .ok ()) ∧ f x = .error e := by
  induction l with
  | nil => cases h
  | cons x rest ih =>
    rw [checkAll, bind_eq_error_iff] at h
    rcases h with hx | ⟨u, hx, hrest⟩
    · exact ⟨[], x, rest, rfl, by simp, hx⟩
    · obtain ⟨before, y, after, rfl, hbefore, hy⟩ := ih hrest
      exact ⟨x :: before, y, after, rfl, List.forall_mem_cons.mpr ⟨hx, hbefore⟩, hy⟩

/-! ### Checking -/

namespace Arena

/-- A stretch that is in order and inside the child table can be looked up. -/
theorem slice_ne_error {a : Arena} {s : Span} (hle : s.start ≤ s.stop)
    (hin : s.stop ≤ a.childTable.size) (e : Violation) : a.slice s ≠ .error e := by
  rw [slice, dif_pos ⟨hle, hin⟩]
  intro h
  cases h

/-- In front of an entry of a stretch there are others. -/
theorem Slice.exists_get?_of_le {a : Arena} {s : a.Slice} {j k c : Nat} (h : s.get? k = some c)
    (hj : j ≤ k) : ∃ c', s.get? j = some c' := by
  have hlt := (get?_eq_some_iff.mp h).1
  have hj : j < s.size := by
    unfold size
    omega
  exact ⟨s.get j hj, dif_pos hj⟩

/-- All look-ups for the place of a record succeed if all records before it fit. -/
theorem checkPlace_ne_dangling {a : Arena} {i : Nat} {r : NodeRecord} {name : String}
    (hi : i < a.nodes.size)
    (h : ∀ p parent, p < i → a.nodes[p]? = some parent → a.Fits p parent) :
    a.checkPlace i r name ≠ .error (.brokenLinks .dangling) := by
  intro hc
  simp only [checkPlace, record, bind_eq_error_iff, orFail_eq_error_iff, require_eq_error_iff,
    orFail_eq_ok_iff, require_eq_ok_iff, slice_eq_ok_iff, Option.filter_eq_some_iff,
    Violation.brokenLinks.injEq, reduceCtorEq, and_false, and_true, false_or] at hc
  obtain ⟨p, ⟨-, hlt⟩, hc⟩ := hc
  have hlt : p < i := by simpa using hlt
  -- The parent comes before the record.
  rcases hc with hnone | ⟨parent, hparent, hc⟩
  · rw [Array.getElem?_eq_none_iff] at hnone
    omega
  have hfit := h p parent hlt hparent
  rcases hc with hslice | ⟨siblings, hspan, hc⟩
  · exact slice_ne_error hfit.children_le hfit.children_inside _ hslice
  obtain ⟨-, hlisted, hc⟩ := hc
  rcases hc with hnone | ⟨-, -, -, -, hc⟩
  · rw [Array.getElem?_eq_none_iff] at hnone
    have := hfit.kind_lt
    omega
  split at hc
  · -- The record stands in its parent's stretch, so there is an entry in front of it, and what is
    -- listed there has a record.
    obtain ⟨c, hprev⟩ := Slice.exists_get?_of_le hlisted (Nat.sub_le r.index 1)
    obtain ⟨hk, hget⟩ := Slice.get?_eq_some_iff.mp hprev
    rw [hspan] at hk hget
    obtain ⟨-, prev, hrec, -⟩ := hfit.children_link _ _ hk hget
    have hlt := (Array.getElem?_eq_some_iff.mp hrec).1
    simp [bind_eq_error_iff, hprev] at hc
    omega
  · cases hc

/-- All look-ups for a record succeed if all records before it fit. -/
theorem checkNode_ne_dangling {a : Arena} {i : Nat} (hi : i < a.nodes.size)
    (h : ∀ p parent, p < i → a.nodes[p]? = some parent → a.Fits p parent) :
    a.checkNode i ≠ .error (.brokenLinks .dangling) := by
  intro hc
  simp only [checkNode, record, bind_eq_error_iff, orFail_eq_error_iff, require_eq_error_iff,
    orFail_eq_ok_iff, require_eq_ok_iff, slice_eq_ok_iff, Violation.brokenLinks.injEq, reduceCtorEq,
    and_false, and_true, false_or] at hc
  rcases hc with hnone | ⟨r, hr, kind, hkind, -, hspan, -, ⟨hle, hin⟩, hc⟩
  · rw [Array.getElem?_eq_none_iff] at hnone
    omega
  rcases hc with hslice | ⟨own, hown, hc⟩
  · exact slice_ne_error hle hin _ hslice
  rcases hc with hall | ⟨-, -, hplace⟩
  · -- The entries are numbered up to the size of the stretch.
    obtain ⟨before, k, after, hsplit, -, hk⟩ := exists_of_checkAll_eq_error hall
    have hlt : k < own.size := by
      have hmem : k ∈ List.range own.size := by rw [hsplit]; simp
      simpa using hmem
    simp [bind_eq_error_iff, Slice.get?, hlt] at hk
  · split at hplace
    · exact checkPlace_ne_dangling hi h hplace
    · cases hplace

/-- Whatever is wrong with an arena, the checks never look outside its tables. -/
theorem check_ne_dangling (a : Arena) : a.check ≠ .error (.brokenLinks .dangling) := by
  intro hc
  simp only [check, bind_eq_error_iff, orFail_eq_error_iff, require_eq_error_iff, orFail_eq_ok_iff,
    require_eq_ok_iff, Violation.brokenLinks.injEq, reduceCtorEq, and_false, false_or] at hc
  obtain ⟨root, -, -, -, -, -, -, -, hc⟩ := hc
  rcases hc with hflags | ⟨-, -, hnodes⟩
  · obtain ⟨before, k, after, -, -, hk⟩ := exists_of_checkAll_eq_error hflags
    simp at hk
  · obtain ⟨before, i, after, hsplit, hbefore, hi⟩ := exists_of_checkAll_eq_error hnodes
    -- The records in front of the failing one are those with smaller indices.
    have hlength : before.length = i := by
      have hget : (List.range a.nodes.size)[before.length]? = some i := by rw [hsplit]; simp
      obtain ⟨hlt, heq⟩ := List.getElem?_eq_some_iff.mp hget
      simpa using heq
    have hlt : i < a.nodes.size := by
      have hmem : i ∈ List.range a.nodes.size := by rw [hsplit]; simp
      simpa using hmem
    have hpassed : ∀ p, p < i → a.checkNode p = .ok () := by
      intro p hp
      apply hbefore
      have hget : (List.range a.nodes.size)[p]? = before[p]? := by
        rw [hsplit, List.getElem?_append_left (by omega)]
      rw [List.getElem?_range (by omega)] at hget
      exact List.mem_of_getElem? hget.symm
    have hfits : ∀ p, p < i → ∀ parent, a.nodes[p]? = some parent → a.Fits p parent := by
      intro p
      induction p using Nat.strongRecOn with
      | ind p ih =>
        intro hp parent hparent
        exact (checkNode_eq_ok_iff hparent fun q r hq => ih q hq (Nat.lt_trans hq hp) r).mp
          (hpassed p hp)
    exact checkNode_ne_dangling hlt (fun p parent hp => hfits p hp parent) hi

end Arena

/-! ### Following links -/

namespace Tree.Node

variable {t : Tree} (n : t.Node) (pos : Nat) (bias : Bias)

theorem kind?_id : t.toArena.kind? n.id = some n.kind := by
  rw [Arena.kind?, n.nodes_getElem?_id]
  exact Array.getElem?_eq_getElem n.fits.kind_lt

/-- The stretch of a node lists the indices of its children. -/
theorem childIds?_id : t.toArena.childIds? n.id = some (n.children.map id) := by
  have hin : n.record.children.start ≤ n.record.children.stop ∧
      n.record.children.stop ≤ t.childTable.size := ⟨n.fits.children_le, n.fits.children_inside⟩
  have hlist : (t.childTable.extract n.record.children.start n.record.children.stop).toList =
      n.children.map id := by
    apply List.ext_getElem?
    intro k
    rw [Array.getElem?_toList, Array.getElem?_extract, List.getElem?_map, children_getElem?,
      Nat.min_eq_left hin.2]
    by_cases hk : k < n.childCount
    · have hget := Arena.Slice.get?_eq_some_iff.mp (n.slice_get?_child hk)
      rw [child?, dif_pos hk, Option.map_some]
      exact (if_pos hk).trans hget.2
    · rw [child?, dif_neg hk]
      exact if_neg hk
  rw [Arena.childIds?, n.nodes_getElem?_id]
  show (if _ then _ else _) = _
  rw [if_pos hin, hlist]

/-- What a node lists as its child numbered `k`. -/
theorem map_id_children_getElem? (k : Nat) : (n.children.map id)[k]? = (n.child? k).map id := by
  rw [List.getElem?_map, children_getElem?]

/-- The record of a node names the index of its parent. -/
theorem record_parent : n.record.parent = n.parent?.map id := by
  unfold parent?
  split
  · rename_i h
    exact h
  · rename_i p h
    exact h

/-- In front of a child that is not the first there is another child. -/
theorem exists_child?_pred {n p : t.Node} (h : n.parent? = some p) :
    ∃ c, p.child? (n.index - 1) = some c := by
  obtain ⟨hk, -⟩ := child?_eq_some_iff.mp (child?_index h)
  have hk' : n.index - 1 < p.childCount := by omega
  exact ⟨p.child _ hk', child?_eq_some_iff.mpr ⟨hk', rfl⟩⟩

theorem prev?_id : t.toArena.prev? n.id = some (n.prev?.map id) := by
  simp only [Arena.prev?, n.nodes_getElem?_id, Option.bind_eq_bind, Option.bind_some, record_parent]
  cases hp : n.parent? with
  | none => simp [prev?, hp]
  | some p =>
    obtain ⟨c, hc⟩ := exists_child?_pred hp
    simp only [Option.map_some, childIds?_id, Option.bind_some, map_id_children_getElem?, prev?, hp]
    by_cases hpos : 0 < n.index
    · have hpos' : 0 < n.record.index := hpos
      rw [if_pos hpos, if_pos hpos', show n.record.index = n.index from rfl, hc]
      rfl
    · have hpos' : ¬ 0 < n.record.index := hpos
      rw [if_neg hpos, if_neg hpos']
      rfl

theorem next?_id : t.toArena.next? n.id = some (n.next?.map id) := by
  simp only [Arena.next?, n.nodes_getElem?_id, Option.bind_eq_bind, Option.bind_some, record_parent]
  cases hp : n.parent? with
  | none => simp [next?, hp]
  | some p =>
    simp only [Option.map_some, childIds?_id, Option.bind_some, map_id_children_getElem?, next?, hp]
    rfl

/-! ### Children by position -/

/-- Looking up listed nodes one after the other finds all of them. -/
theorem mapM_nodes (p : NodeRecord → Bool) (l : List t.Node) :
    (l.map id).mapM (fun i => t.nodes[i]?.map p) = some (l.map fun c => p c.record) := by
  induction l with
  | nil => rfl
  | cons c l ih =>
    rw [List.map_cons, List.mapM_cons, ih, c.nodes_getElem?_id]
    rfl

/-- Counting records counts the children. -/
theorem countFirst?_children (p : NodeRecord → Bool) :
    t.toArena.countFirst? (n.children.map id) p =
      some (n.countChildren fun c => p c.record) := by
  have hany : (fun k => ((n.children.map fun c => p c.record)[k]?).any fun b => b) =
      fun k => (n.child? k).any fun c => p c.record := by
    funext k
    rw [List.getElem?_map, children_getElem?]
    cases n.child? k <;> rfl
  rw [Arena.countFirst?, mapM_nodes]
  show some _ = _
  rw [List.length_map, length_children]
  exact congrArg (fun q => some (bisect q 0 n.childCount)) hany

theorem childStartingBefore?_id :
    t.toArena.childStartingBefore? n.id pos = some ((n.childStartingBefore pos).map id) := by
  have hcount : t.toArena.countFirst? (n.children.map id) (·.span.start < pos) =
      some (n.countChildren (·.start < pos)) := n.countFirst?_children _
  have hle := n.countChildren_le (·.start < pos)
  simp only [Arena.childStartingBefore?, childIds?_id, Option.bind_eq_bind, Option.bind_some,
    hcount, map_id_children_getElem?, childStartingBefore]
  by_cases hpos : 0 < n.countChildren (·.start < pos)
  · -- Not more children are counted than there are.
    have hk : n.countChildren (·.start < pos) - 1 < n.childCount := by omega
    rw [if_pos hpos, if_pos hpos, child?_eq_some_iff.mpr ⟨hk, rfl⟩]
    rfl
  · rw [if_neg hpos, if_neg hpos]
    rfl

theorem childEndingAfter?_id :
    t.toArena.childEndingAfter? n.id pos = some ((n.childEndingAfter pos).map id) := by
  simp only [Arena.childEndingAfter?, childIds?_id, Option.bind_eq_bind, Option.bind_some,
    countFirst?_children, map_id_children_getElem?]
  rfl

theorem span_keeps : n.record.span.keeps pos bias = n.keeps pos bias := by
  cases bias <;> rfl

theorem span_admits : n.record.span.admits pos bias = n.admits pos bias := by
  cases bias <;> rfl

theorem childAt?_id : t.toArena.childAt? n.id pos bias = some ((n.childAt? pos bias).map id) := by
  -- Whatever the number of the child that is looked at, it is entered if it admits the position.
  have henter : ∀ k, ((n.child? k).map id).elim (some none) (fun c =>
      t.nodes[c]?.bind fun r => some (if r.span.admits pos bias then some c else none)) =
      some (((n.child? k).filter (·.admits pos bias)).map id) := by
    intro k
    cases hc : n.child? k with
    | none => rfl
    | some c =>
      simp only [Option.map_some, Option.elim_some, c.nodes_getElem?_id, Option.bind_some,
        span_admits, Option.filter_some]
      split <;> rfl
  simp only [Arena.childAt?, childIds?_id, Option.bind_eq_bind, Option.bind_some,
    countFirst?_children]
  cases bias <;> simp only [map_id_children_getElem?] <;> exact henter _

/-! ### Walks -/

/-- The way up has at most one round more than the index of the node it starts from, since parents
come first. -/
theorem ancestors?_id {rounds : Nat} (hrounds : n.id < rounds) :
    t.toArena.ancestors? rounds n.id = some (n.ancestors.map id) := by
  induction rounds generalizing n with
  | zero => omega
  | succ rounds ih =>
    rw [Arena.ancestors?]
    simp only [n.nodes_getElem?_id, Option.bind_eq_bind, Option.bind_some, record_parent]
    cases hp : n.parent? with
    | none =>
      rw [ancestors_of_parent?_eq_none hp]
      rfl
    | some p =>
      have hlt := id_lt_of_parent? hp
      simp only [Option.map_some, ih p (by omega), Option.bind_some, ancestors_of_parent? hp,
        List.map_cons]

theorem climb?_id {rounds : Nat} (hrounds : n.id < rounds) :
    t.toArena.climb? pos bias rounds n.id = some (n.climb pos bias).id := by
  induction rounds generalizing n with
  | zero => omega
  | succ rounds ih =>
    rw [Arena.climb?, climb_eq]
    simp only [n.nodes_getElem?_id, Option.bind_eq_bind, Option.bind_some, record_parent,
      span_keeps]
    by_cases hkeeps : n.keeps pos bias = true
    · rw [if_pos hkeeps, if_pos hkeeps]
    · rw [if_neg hkeeps, if_neg hkeeps]
      cases hp : n.parent? with
      | none => rfl
      | some p =>
        have hlt := id_lt_of_parent? hp
        exact ih p (by omega)

/-- The way down has at most as many rounds as there are records from the node on, since children
come later. -/
theorem descend?_id {rounds : Nat} (hrounds : t.size ≤ rounds + n.id) :
    t.toArena.descend? pos bias rounds n.id = some (n.descend pos bias).id := by
  induction rounds generalizing n with
  | zero =>
    have hlt : n.id < t.size := n.isLt
    omega
  | succ rounds ih =>
    rw [Arena.descend?, descend_eq]
    simp only [childAt?_id, Option.bind_eq_bind, Option.bind_some]
    cases hc : n.childAt? pos bias with
    | none => rfl
    | some c =>
      have hlt := id_lt_of_parent? (childAt?_eq_some_iff.mp hc).1
      exact ih c (by omega)

theorem innermostAt?_id {rounds : Nat} (hrounds : t.size ≤ rounds) :
    t.toArena.innermostAt? pos bias rounds n.id = some (n.innermostAt pos bias).id := by
  have hlt : n.id < t.size := n.isLt
  rw [Arena.innermostAt?, climb?_id n pos bias (by omega)]
  exact descend?_id _ pos bias (by omega)

/-- The last of the listed children. -/
theorem getLast?_map_id_children : (n.children.map id).getLast? = n.lastChild?.map id := by
  rw [List.getLast?_eq_getElem?, map_id_children_getElem?, List.length_map, length_children,
    lastChild?_eq_child?]

theorem unfinishedFrom?_id (found scan : t.Node) {rounds : Nat}
    (hrounds : t.size ≤ rounds + scan.id) :
    t.toArena.unfinishedFrom? rounds found.id scan.id = some (unfinishedFrom found scan).id := by
  induction rounds generalizing found scan with
  | zero =>
    have hlt : scan.id < t.size := scan.isLt
    omega
  | succ rounds ih =>
    rw [Arena.unfinishedFrom?, unfinishedFrom_eq]
    simp only [childIds?_id, Option.bind_eq_bind, Option.bind_some, getLast?_map_id_children]
    cases hlast : scan.lastChild? with
    | none => rfl
    | some last =>
      have hparent := parent?_of_lastChild? hlast
      have hlt := id_lt_of_parent? hparent
      simp only [Option.map_some, nodes_getElem?_id, Option.bind_some, kind?_id, prev?_id,
        Option.elim_some]
      show (if last.stop = scan.stop then if last.isGap = true then _ else _ else _) = _
      by_cases hstop : last.stop = scan.stop
      · rw [if_pos hstop, if_pos hstop]
        by_cases hgap : last.isGap = true
        · rw [if_pos hgap, if_pos hgap]
          -- The walk goes on in front of the gap, or ends if there is nothing.
          cases hprev : last.prev? with
          | none => rfl
          | some prev =>
            have hlt' := id_lt_of_parent? ((parent?_of_prev? hprev).trans hparent)
            exact ih scan prev (by omega)
        · rw [if_neg hgap, if_neg hgap]
          exact ih found last (by omega)
      · rw [if_neg hstop, if_neg hstop]

theorem unfinishedBefore?_id {rounds : Nat} (hrounds : t.size ≤ rounds) :
    t.toArena.unfinishedBefore? pos rounds n.id = some (n.unfinishedBefore pos).id := by
  rw [Arena.unfinishedBefore?, childStartingBefore?_id, unfinishedBefore]
  cases n.childStartingBefore pos with
  | none => rfl
  | some c => exact unfinishedFrom?_id n c (by omega)

/-- From the node, all links can be followed by bare indices: no walk makes a look-up outside the
tables or has more rounds than there are nodes, and each leads to what the tree says. -/
structure Followed : Prop where
  /-- The kind is in the table. -/
  kind : t.toArena.kind? n.id = some n.kind
  /-- The children stand in the child table. -/
  children : t.toArena.childIds? n.id = some (n.children.map id)
  /-- So does the sibling in front. -/
  prev : t.toArena.prev? n.id = some (n.prev?.map id)
  /-- So does the sibling behind. -/
  next : t.toArena.next? n.id = some (n.next?.map id)
  /-- The child before a position is found. -/
  childStartingBefore : ∀ pos,
    t.toArena.childStartingBefore? n.id pos = some ((n.childStartingBefore pos).map id)
  /-- The child after a position is found. -/
  childEndingAfter : ∀ pos,
    t.toArena.childEndingAfter? n.id pos = some ((n.childEndingAfter pos).map id)
  /-- The child to enter is found. -/
  childAt : ∀ pos bias, t.toArena.childAt? n.id pos bias = some ((n.childAt? pos bias).map id)
  /-- The way to the innermost node at a position ends. -/
  innermostAt : ∀ pos bias rounds, t.size ≤ rounds →
    t.toArena.innermostAt? pos bias rounds n.id = some (n.innermostAt pos bias).id
  /-- The way to the root ends. -/
  ancestors : ∀ rounds, t.size ≤ rounds →
    t.toArena.ancestors? rounds n.id = some (n.ancestors.map id)
  /-- The way to an unfinished node ends. -/
  unfinishedBefore : ∀ pos rounds, t.size ≤ rounds →
    t.toArena.unfinishedBefore? pos rounds n.id = some (n.unfinishedBefore pos).id

theorem followed : n.Followed where
  kind := n.kind?_id
  children := n.childIds?_id
  prev := n.prev?_id
  next := n.next?_id
  childStartingBefore := n.childStartingBefore?_id
  childEndingAfter := n.childEndingAfter?_id
  childAt := n.childAt?_id
  innermostAt pos bias _ hrounds := n.innermostAt?_id pos bias hrounds
  ancestors _ hrounds := n.ancestors?_id (Nat.lt_of_lt_of_le n.isLt hrounds)
  unfinishedBefore pos _ hrounds := n.unfinishedBefore?_id pos hrounds

end Tree.Node

/-- Whatever stands in the tables of an arena, none of the checks looks outside them; and once the
checks have passed, all links can be followed by bare indices from every node, without leaving the
tables and without going on for more rounds than there are nodes. -/
theorem lookups_inside (a : Arena) :
    a.check ≠ .error (.brokenLinks .dangling) ∧
      ∀ t : Tree, Tree.ofArena a = .ok t → t.toArena = a ∧ ∀ n : t.Node, n.Followed :=
  ⟨a.check_ne_dangling, fun _ ht => ⟨Tree.ofArena_eq_ok_iff.mp ht, Tree.Node.followed⟩⟩

/-- The tree of an arena with an entry of the child table that leads nowhere. -/
def spareEntry : Tree where
  toArena := spareEntryArena
  wellFormed := Arena.check_eq_ok_iff.mp (show spareEntryArena.check = .ok () from rfl)

/-- An entry of the child table that leads nowhere does no harm if it belongs to no record. -/
theorem lookups_inside_spareEntry :
    Tree.ofArena spareEntryArena = .ok spareEntry ∧
      spareEntryArena.childIds? 0 = some [1] ∧ spareEntryArena.ancestors? 2 1 = some [1, 0] ∧
      spareEntryArena.innermostAt? 5 .left 2 1 = some 0 ∧
      spareEntryArena.unfinishedBefore? 5 2 0 = some 0 := by
  have hload : Tree.ofArena spareEntryArena = .ok spareEntry := Tree.ofArena_eq_ok_iff.mpr rfl
  obtain ⟨-, hfollowed⟩ := (lookups_inside spareEntryArena).2 spareEntry hload
  have hroot := hfollowed ⟨0, by decide⟩
  have hleaf := hfollowed ⟨1, by decide⟩
  have hsize : spareEntry.size ≤ 2 := by decide
  refine ⟨hload, hroot.children.trans ?_, (hleaf.ancestors 2 hsize).trans ?_,
    (hleaf.innermostAt 5 .left 2 hsize).trans ?_, (hroot.unfinishedBefore 5 2 hsize).trans ?_⟩
  all_goals decide +kernel

end TreeAssist
