import TreeAssist.Proofs.Assembly.Layout
import TreeAssist.Tree.Draft

/-!
# Children that are linked late

A shape is laid out with its parent and its place known from the start. A draft knows them only when
the parent is closed: until then its children stand behind each other as roots would
(`Shape.layLoose`), and closing the parent tells each of them where it belongs. Both ways lead to
the same tables (`Draft.link?_layLoose`), because what is laid out depends on what is there by the
sizes of the tables only (`Shape.layOut_local`), and its parent is named in its first record alone.
-/

namespace TreeAssist

namespace Shape

/-! ### What is added to the tables -/

namespace Layout

/-- The tables with one more record. -/
def push (T : Layout) (r : NodeRecord) : Layout :=
  { T with nodes := T.nodes.push r }

/-- The tables with those of `X` behind them. -/
def append (T X : Layout) : Layout :=
  { nodes := T.nodes ++ X.nodes, childTable := T.childTable ++ X.childTable }

@[simp]
theorem nodes_push (T : Layout) (r : NodeRecord) : (T.push r).nodes = T.nodes.push r := rfl

@[simp]
theorem childTable_push (T : Layout) (r : NodeRecord) : (T.push r).childTable = T.childTable := rfl

@[simp]
theorem nodes_append (T X : Layout) : (T.append X).nodes = T.nodes ++ X.nodes := rfl

@[simp]
theorem childTable_append (T X : Layout) : (T.append X).childTable = T.childTable ++ X.childTable :=
  rfl

@[simp]
theorem append_empty (T : Layout) : T.append {} = T := by
  simp [append]

theorem append_assoc (T X Y : Layout) : (T.append X).append Y = T.append (X.append Y) := by
  simp [append, Array.append_assoc]

theorem push_eq_append (T : Layout) (r : NodeRecord) : T.push r = T.append (push {} r) := by
  rw [push, append, Array.push_eq_append]
  simp [push]

end Layout

/-- What is added to tables with `n` records and `k` entries when the shape is laid out does not
depend on what they hold. Its parent and its place there are named in the first record only. -/
def Local (kindOf : String → Nat) (s : Shape) : Prop :=
  ∀ n k, ∃ (children : Span) (X : Layout), ∀ T parent index,
    T.nodes.size = n → T.childTable.size = k →
    layOut kindOf T parent index s =
      (T.push { kind := kindOf s.name, span := s.span, parent, index, children }).append X

/-- Neither does it when several shapes are laid out, if it does not for each of them. -/
theorem layOutAll_local {kindOf : String → Nat} {l : List Shape} (hl : ∀ c ∈ l, Local kindOf c)
    (parent index n k : Nat) :
    ∃ (ids : Array Nat) (X : Layout), ∀ T more, T.nodes.size = n → T.childTable.size = k →
      layOutAll kindOf T parent index more l = (T.append X, more ++ ids) := by
  induction l generalizing index n k with
  | nil => exact ⟨#[], {}, fun T more _ _ => by simp [layOutAll]⟩
  | cons c l ih =>
    obtain ⟨hc, hl⟩ := List.forall_mem_cons.mp hl
    obtain ⟨children, X, hX⟩ := hc n k
    obtain ⟨ids, Y, hY⟩ := ih hl (index + 1) (n + 1 + X.nodes.size) (k + X.childTable.size)
    let record : NodeRecord :=
      { kind := kindOf c.name, span := c.span, parent := some parent, index, children }
    refine ⟨#[n] ++ ids, (Layout.push {} record).append (X.append Y), fun T more hn hk => ?_⟩
    rw [layOutAll, hX T (some parent) index hn hk, hY _ _ (by simp [hn]) (by simp [hk]), hn,
      Layout.append_assoc, Layout.push_eq_append, Layout.append_assoc, Array.push_eq_append,
      Array.append_assoc]

/-- Every shape is laid out in this way. -/
theorem layOut_local (kindOf : String → Nat) (s : Shape) : Local kindOf s := by
  induction s using inductionOn with
  | leaf name span =>
    intro n k
    refine ⟨⟨0, 0⟩, {}, ?_⟩
    intro T parent index _ _
    simp [layOut, Layout.push, Shape.name, Shape.span]
  | group name span children ih =>
    intro n k
    -- The group's record comes in front of the children's, and their indices come last.
    obtain ⟨ids, X, hX⟩ := layOutAll_local ih n 0 (n + 1) k
    refine ⟨⟨k + countAll 0 children - children.length, k + countAll 0 children⟩,
      { X with childTable := X.childTable ++ ids }, fun T parent index hn hk => ?_⟩
    rw [layOut, hn, hX { T with nodes := T.nodes.push _ } #[] (by simp [hn]) hk]
    simp [Layout.append, Layout.push, hk, Shape.name, Shape.span]

/-! ### Loose trees -/

/-- Adds the given trees to the tables as if they had no parent, the last of the list first, and
collects the numbers of their records. -/
def layLoose (kindOf : String → Nat) (T : Layout) : List Shape → Layout × List Nat
  | [] => (T, [])
  | s :: earlier =>
    let before := layLoose kindOf T earlier
    (layOut kindOf before.1 none 0 s, before.1.nodes.size :: before.2)

@[simp]
theorem length_layLoose (kindOf : String → Nat) (T : Layout) (l : List Shape) :
    (layLoose kindOf T l).2.length = l.length := by
  induction l with
  | nil => rfl
  | cons s l ih => simp [layLoose, ih]

/-- What loose trees add to tables with `n` records and `k` entries does not depend on what these
hold. -/
theorem layLoose_local (kindOf : String → Nat) (l : List Shape) (n k : Nat) :
    ∃ (ids : List Nat) (X : Layout), ∀ T, T.nodes.size = n → T.childTable.size = k →
      layLoose kindOf T l = (T.append X, ids) := by
  induction l with
  | nil => exact ⟨[], {}, fun T _ _ => by simp [layLoose]⟩
  | cons s l ih =>
    obtain ⟨ids, X, hX⟩ := ih
    obtain ⟨children, Y, hY⟩ :=
      layOut_local kindOf s (n + X.nodes.size) (k + X.childTable.size)
    let record : NodeRecord :=
      { kind := kindOf s.name, span := s.span, parent := none, index := 0, children }
    refine ⟨(n + X.nodes.size) :: ids, X.append ((Layout.push {} record).append Y),
      fun T hn hk => ?_⟩
    rw [layLoose, hX T hn hk]
    simp only
    rw [hY _ none 0 (by simp [hn]) (by simp [hk]), Layout.push_eq_append, Layout.append_assoc,
      Layout.append_assoc]
    simp [hn, record]

/-- One more tree behind the others. -/
theorem layOutAll_concat (kindOf : String → Nat) (T : Layout) (parent index : Nat)
    (ids : Array Nat) (l : List Shape) (s : Shape) :
    layOutAll kindOf T parent index ids (l ++ [s]) =
      (layOut kindOf (layOutAll kindOf T parent index ids l).1 (some parent) (index + l.length) s,
        (layOutAll kindOf T parent index ids l).2.push
          (layOutAll kindOf T parent index ids l).1.nodes.size) := by
  induction l generalizing T index ids with
  | nil => simp [layOutAll]
  | cons c l ih =>
    rw [List.cons_append, layOutAll, ih, layOutAll, List.length_cons, Nat.add_right_comm,
      Nat.add_assoc]

/-- Loose trees take up as much room as children do, and are numbered alike. -/
theorem layOutAll_layLoose (kindOf : String → Nat) (T : Layout) (parent : Nat) (l : List Shape) :
    (layOutAll kindOf T parent 0 #[] l.reverse).2 = (layLoose kindOf T l).2.reverse.toArray ∧
    (layOutAll kindOf T parent 0 #[] l.reverse).1.nodes.size = (layLoose kindOf T l).1.nodes.size ∧
    (layOutAll kindOf T parent 0 #[] l.reverse).1.childTable =
      (layLoose kindOf T l).1.childTable := by
  induction l with
  | nil => exact ⟨rfl, rfl, rfl⟩
  | cons s l ih =>
    obtain ⟨hids, hsize, htable⟩ := ih
    rw [List.reverse_cons, layOutAll_concat, layLoose]
    generalize layLoose kindOf T l = U at *
    generalize layOutAll kindOf T parent 0 #[] l.reverse = W at *
    obtain ⟨children, X, hX⟩ := layOut_local kindOf s U.1.nodes.size U.1.childTable.size
    rw [hX W.1 _ _ hsize (by rw [htable]), hX U.1 none 0 rfl rfl]
    simp [hids, hsize, htable]

end Shape

namespace Draft

open Shape

/-! ### Linking -/

variable {nodes nodes' : Array NodeRecord}

/-- Records behind the changed one stay as they are. -/
theorem amend?_append {i : Nat} {f : NodeRecord → NodeRecord} (h : amend? nodes i f = some nodes')
    (X : Array NodeRecord) : amend? (nodes ++ X) i f = some (nodes' ++ X) := by
  unfold amend? at h ⊢
  cases hr : nodes[i]? with
  | none => simp [hr] at h
  | some r =>
    obtain ⟨hi, -⟩ := Array.getElem?_eq_some_iff.mp hr
    obtain rfl : nodes.setIfInBounds i (f r) = nodes' := by simpa [hr] using h
    rw [Array.getElem?_append_left hi, hr]
    simp [Array.setIfInBounds_append_left hi]

/-- The record between two tables is changed alone. -/
theorem amend?_push_append (nodes X : Array NodeRecord) (r : NodeRecord)
    (f : NodeRecord → NodeRecord) :
    amend? (nodes.push r ++ X) nodes.size f = some (nodes.push (f r) ++ X) := by
  have hset : (nodes.push r).setIfInBounds nodes.size (f r) = nodes.push (f r) := by
    apply Array.toList_inj.mp
    simp
  exact amend?_append (by simp [amend?, hset]) X

/-- Records behind the linked ones stay as they are. -/
theorem link?_append {parent k : Nat} {ids : List Nat} (h : link? nodes parent k ids = some nodes')
    (X : Array NodeRecord) : link? (nodes ++ X) parent k ids = some (nodes' ++ X) := by
  induction ids generalizing nodes k with
  | nil =>
    obtain rfl : nodes = nodes' := by simpa [link?] using h
    rfl
  | cons i rest ih =>
    rw [link?, Option.bind_eq_bind, Option.bind_eq_some_iff] at h
    obtain ⟨nodes₁, hamend, hrest⟩ := h
    simp [link?, amend?_append hamend X, ih hrest]

/-- The last child is linked last. -/
theorem link?_concat {parent k i : Nat} {ids : List Nat}
    (h : link? nodes parent k ids = some nodes') :
    link? nodes parent k (ids ++ [i]) =
      amend? nodes' i (.under parent (toIndex (k + ids.length))) := by
  induction ids generalizing nodes k with
  | nil =>
    obtain rfl : nodes = nodes' := by simpa [link?] using h
    simp [link?]
  | cons j rest ih =>
    rw [link?, Option.bind_eq_bind, Option.bind_eq_some_iff] at h
    obtain ⟨nodes₁, hamend, hrest⟩ := h
    rw [List.cons_append, link?, hamend, Option.bind_eq_bind, Option.bind_some, ih hrest,
      List.length_cons, Nat.add_right_comm, Nat.add_assoc]

/-- An index that has room in its 32 bits loses none of them. -/
theorem toIndex_eq {k : Nat} (h : k < addressLimit) : toIndex k = k :=
  Nat.mod_eq_of_lt h

/-- Loose trees become the children of `parent` once they are linked. -/
theorem link?_layLoose (kindOf : String → Nat) (T : Layout) (parent : Nat) {l : List Shape}
    (hl : l.length ≤ addressLimit) :
    link? (layLoose kindOf T l).1.nodes parent 0 (layLoose kindOf T l).2.reverse =
      some (layOutAll kindOf T parent 0 #[] l.reverse).1.nodes := by
  -- The list is the one that an open node keeps, so that the latest tree is taken off it first.
  induction l with
  | nil => rfl
  | cons s l ih =>
    rw [List.length_cons] at hl
    have hlink := ih (by omega)
    have hlen := length_layLoose kindOf T l
    obtain ⟨-, hsize, htable⟩ := layOutAll_layLoose kindOf T parent l
    rw [List.reverse_cons, layOutAll_concat, layLoose]
    generalize layLoose kindOf T l = U at *
    generalize layOutAll kindOf T parent 0 #[] l.reverse = W at *
    -- The new tree adds the same to both tables, its first record apart.
    obtain ⟨children, X, hX⟩ := layOut_local kindOf s U.1.nodes.size U.1.childTable.size
    rw [hX W.1 _ _ hsize (by rw [htable]), hX U.1 none 0 rfl rfl]
    -- The earlier trees are linked as before, and then the first record of the new one.
    have hrest := link?_append hlink (#[NodeRecord.mk (kindOf s.name) s.span none 0 children] ++
      X.nodes)
    rw [← Array.append_assoc, ← Array.append_assoc, ← Array.push_eq_append,
      ← Array.push_eq_append] at hrest
    rw [Layout.nodes_append, Layout.nodes_push, List.reverse_cons, link?_concat hrest, ← hsize,
      amend?_push_append, List.length_reverse, hlen, List.length_reverse, toIndex_eq (by omega)]
    rfl

/-- Changing the record in front of loose trees changes nothing about them. -/
theorem amend?_layLoose (kindOf : String → Nat) (T : Layout) (r : NodeRecord) (l : List Shape)
    (f : NodeRecord → NodeRecord) :
    amend? (layLoose kindOf (T.push r) l).1.nodes T.nodes.size f =
        some (layLoose kindOf (T.push (f r)) l).1.nodes ∧
      (layLoose kindOf (T.push (f r)) l).1.childTable =
        (layLoose kindOf (T.push r) l).1.childTable ∧
      (layLoose kindOf (T.push (f r)) l).2 = (layLoose kindOf (T.push r) l).2 := by
  obtain ⟨ids, X, hX⟩ := layLoose_local kindOf l (T.nodes.size + 1) T.childTable.size
  rw [hX (T.push r) (by simp) rfl, hX (T.push (f r)) (by simp) rfl]
  exact ⟨amend?_push_append T.nodes X.nodes r f, rfl, rfl⟩

/-- Changing the record in front of children changes nothing about them. -/
theorem amend?_layOutAll (kindOf : String → Nat) (T : Layout) (r : NodeRecord) (parent : Nat)
    (l : List Shape) (f : NodeRecord → NodeRecord) :
    amend? (layOutAll kindOf (T.push r) parent 0 #[] l).1.nodes T.nodes.size f =
        some (layOutAll kindOf (T.push (f r)) parent 0 #[] l).1.nodes ∧
      (layOutAll kindOf (T.push (f r)) parent 0 #[] l).1.childTable =
        (layOutAll kindOf (T.push r) parent 0 #[] l).1.childTable ∧
      (layOutAll kindOf (T.push (f r)) parent 0 #[] l).2 =
        (layOutAll kindOf (T.push r) parent 0 #[] l).2 := by
  obtain ⟨ids, X, hX⟩ := layOutAll_local (fun c _ => layOut_local kindOf c) parent 0
    (T.nodes.size + 1) T.childTable.size (l := l)
  rw [hX (T.push r) #[] (by simp) rfl, hX (T.push (f r)) #[] (by simp) rfl]
  exact ⟨amend?_push_append T.nodes X.nodes r f, rfl, rfl⟩

/-- The three changes that closing a node makes: its record is given its end, its loose children are
linked, and its record is given the stretch of the child table that lists them. They lead to the
tables that have the completed record from the start. -/
theorem complete_layLoose (kindOf : String → Nat) (T : Layout) (r : NodeRecord) {l : List Shape}
    (hl : l.length ≤ addressLimit) (stop : Nat) (stretch : Span) :
    let ids := (layLoose kindOf (T.push r) l).2
    let closed := layOutAll kindOf (T.push ((r.endingAt stop).listing stretch)) T.nodes.size 0 #[]
      l.reverse
    ∃ linked,
      amend? (layLoose kindOf (T.push r) l).1.nodes T.nodes.size (.endingAt stop) =
        some (layLoose kindOf (T.push (r.endingAt stop)) l).1.nodes ∧
      link? (layLoose kindOf (T.push (r.endingAt stop)) l).1.nodes T.nodes.size 0 ids.reverse =
        some linked ∧
      amend? linked T.nodes.size (.listing stretch) = some closed.1.nodes ∧
      closed.1.childTable = (layLoose kindOf (T.push r) l).1.childTable ∧
      closed.2 = ids.reverse.toArray := by
  obtain ⟨hend, htable₁, hids₁⟩ := amend?_layLoose kindOf T r l (.endingAt stop)
  obtain ⟨hids₂, -, htable₂⟩ := layOutAll_layLoose kindOf (T.push (r.endingAt stop)) T.nodes.size l
  have hlink := link?_layLoose kindOf (T.push (r.endingAt stop)) T.nodes.size hl
  obtain ⟨hlist, htable₃, hids₃⟩ :=
    amend?_layOutAll kindOf T (r.endingAt stop) T.nodes.size l.reverse (.listing stretch)
  refine ⟨_, hend, ?_, hlist, ?_, ?_⟩
  · rw [← hids₁]
    exact hlink
  · rw [htable₃, htable₂, htable₁]
  · rw [hids₃, hids₂, hids₁]

end Draft

end TreeAssist
