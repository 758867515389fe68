import TreeAssist.Proofs.Assembly.Steps

/-!
# The tables of a shape

Laying a shape out numbers its nodes in pre-order: the record of a node is followed by those of its
first child's tree, then by those of the second child's tree, and so on. `Shape.Stored` says that
tables hold a shape in this way from a given record on, and `Shape.stored_layOut` that laying out
establishes it. Tables only grow while a shape is laid out (`Layout.Extends`), so what is stored
stays stored.
-/

namespace TreeAssist.Shape

/-! ### Growing tables -/

/-- `T'` holds all that `T` holds, in the same places. -/
structure Layout.Extends (T T' : Layout) : Prop where
  /-- The records are kept. -/
  nodes : ∀ {i : Nat} {r : NodeRecord}, T.nodes[i]? = some r → T'.nodes[i]? = some r
  /-- The entries of the child table are kept. -/
  childTable : ∀ {j c : Nat}, T.childTable[j]? = some c → T'.childTable[j]? = some c
  /-- The child table does not get shorter. -/
  size_le : T.childTable.size ≤ T'.childTable.size

namespace Layout.Extends

theorem refl (T : Layout) : T.Extends T :=
  ⟨id, id, Nat.le_refl _⟩

theorem trans {T T' T'' : Layout} (h : T.Extends T') (h' : T'.Extends T'') : T.Extends T'' :=
  ⟨fun e => h'.nodes (h.nodes e), fun e => h'.childTable (h.childTable e),
    Nat.le_trans h.size_le h'.size_le⟩

/-- A record at the end of the table leaves the others where they are. -/
theorem push (T : Layout) (r : NodeRecord) : T.Extends { T with nodes := T.nodes.push r } := by
  refine ⟨fun {i r'} e => ?_, id, Nat.le_refl _⟩
  obtain ⟨hi, rfl⟩ := Array.getElem?_eq_some_iff.mp e
  rw [Array.getElem?_push_lt hi]

/-- Entries at the end of the child table leave the others where they are. -/
theorem append (T : Layout) (ids : Array Nat) :
    T.Extends { T with childTable := T.childTable ++ ids } := by
  refine ⟨id, fun {j c} e => ?_, by simp⟩
  obtain ⟨hj, rfl⟩ := Array.getElem?_eq_some_iff.mp e
  rw [Array.getElem?_append_left hj, Array.getElem?_eq_getElem hj]

end Layout.Extends

/-! ### Stored shapes -/

/-- The tables hold the shape in pre-order from the record `id` on, as the child numbered `index` of
`parent`. The child numbered `k` of a group comes behind the group's own record and the trees of the
children in front of it. -/
inductive Stored (kindOf : String → Nat) (T : Layout) : Option Nat → Nat → Nat → Shape → Prop
  | leaf {parent : Option Nat} {index id : Nat} {name : String} {span : Span}
      (record : T.nodes[id]? =
        some { kind := kindOf name, span, parent, index, children := ⟨0, 0⟩ }) :
      Stored kindOf T parent index id (.leaf name span)
  | group {parent : Option Nat} {index id : Nat} {name : String} {span : Span}
      {children : List Shape} (first : Nat)
      (record : T.nodes[id]? = some
        { kind := kindOf name, span, parent, index,
          children := ⟨first, first + children.length⟩ })
      (inside : first + children.length ≤ T.childTable.size)
      (listed : ∀ k c, children[k]? = some c →
        T.childTable[first + k]? = some (id + 1 + countAll 0 (children.take k)))
      (below : ∀ k c, children[k]? = some c →
        Stored kindOf T (some id) k (id + 1 + countAll 0 (children.take k)) c) :
      Stored kindOf T parent index id (.group name span children)

/-- What is stored stays stored while the tables grow. -/
theorem Stored.mono {kindOf : String → Nat} {T T' : Layout} {parent : Option Nat} {index id : Nat}
    {s : Shape} (h : Stored kindOf T parent index id s) (hext : T.Extends T') :
    Stored kindOf T' parent index id s := by
  induction h with
  | leaf record => exact .leaf (hext.nodes record)
  | group first record inside listed _ ih =>
    exact .group first (hext.nodes record) (Nat.le_trans inside hext.size_le)
      (fun k c hc => hext.childTable (listed k c hc)) ih

/-! ### Laying out -/

/-- What laying out one tree does to the tables. -/
structure LaidOut (kindOf : String → Nat) (T T' : Layout) (parent : Option Nat) (index : Nat)
    (s : Shape) : Prop where
  /-- There is one more record for each node. -/
  nodes_size : T'.nodes.size = T.nodes.size + 1 + s.descendants
  /-- There is one more entry in the child table for each node below the topmost one. -/
  childTable_size : T'.childTable.size = T.childTable.size + s.descendants
  /-- What was there is kept. -/
  kept : T.Extends T'
  /-- The tree is stored in the new records. -/
  stored : Stored kindOf T' parent index T.nodes.size s

/-- What laying out several trees does to the tables and to the list of their first records. -/
structure LaidOutAll (kindOf : String → Nat) (T T' : Layout) (parent index : Nat)
    (ids ids' : Array Nat) (l : List Shape) : Prop where
  /-- There is one more record for each node. -/
  nodes_size : T'.nodes.size = T.nodes.size + countAll 0 l
  /-- The trees themselves are not yet listed in the child table. -/
  childTable_size : T'.childTable.size + l.length = T.childTable.size + countAll 0 l
  /-- What was there is kept. -/
  kept : T.Extends T'
  /-- The list gets one more member for each tree. -/
  ids_size : ids'.size = ids.size + l.length
  /-- The members of the list are kept. -/
  ids_kept : ∀ {j : Nat}, j < ids.size → ids'[j]? = ids[j]?
  /-- Each tree is listed behind the trees in front of it. -/
  listed : ∀ k c, l[k]? = some c →
    ids'[ids.size + k]? = some (T.nodes.size + countAll 0 (l.take k))
  /-- Each tree is stored behind the trees in front of it. -/
  stored : ∀ k c, l[k]? = some c →
    Stored kindOf T' (some parent) (index + k) (T.nodes.size + countAll 0 (l.take k)) c

/-- Trees are laid out one behind the other, if each of them is laid out as it should be. -/
theorem laidOutAll_layOutAll {kindOf : String → Nat} {l : List Shape}
    (hl : ∀ c ∈ l, ∀ T parent index,
      LaidOut kindOf T (layOut kindOf T parent index c) parent index c)
    (T : Layout) (parent index : Nat) (ids : Array Nat) :
    LaidOutAll kindOf T (layOutAll kindOf T parent index ids l).1 parent index ids
      (layOutAll kindOf T parent index ids l).2 l := by
  induction l generalizing T index ids with
  | nil => exact ⟨rfl, rfl, .refl T, rfl, fun _ => rfl, by simp, by simp⟩
  | cons c l ih =>
    have hc := hl c (by simp) T (some parent) index
    have hrest := ih (fun d hd => hl d (by simp [hd])) (layOut kindOf T (some parent) index c)
      (index + 1) (ids.push T.nodes.size)
    -- The trees behind the first one are numbered from the end of its records on.
    have hnum : ∀ k, T.nodes.size + countAll 0 ((c :: l).take (k + 1)) =
        (layOut kindOf T (some parent) index c).nodes.size + countAll 0 (l.take k) := by
      intro k
      rw [List.take_succ_cons, countAll_cons, hc.nodes_size]
      omega
    rw [layOutAll]
    refine ⟨?_, ?_, hc.kept.trans hrest.kept, ?_, ?_, ?_, ?_⟩
    · rw [hrest.nodes_size, hc.nodes_size, countAll_cons]
      omega
    · have := hrest.childTable_size
      rw [hc.childTable_size] at this
      rw [countAll_cons, List.length_cons]
      omega
    · rw [hrest.ids_size, Array.size_push, List.length_cons]
      omega
    · intro j hj
      rw [hrest.ids_kept (by rw [Array.size_push]; omega), Array.getElem?_push_lt hj,
        Array.getElem?_eq_getElem hj]
    · -- The index of the first tree was pushed first, and the others follow it.
      intro k d hd
      cases k with
      | zero =>
        rw [hrest.ids_kept (by rw [Array.size_push]; omega)]
        simp [countAll]
      | succ k =>
        have := hrest.listed k d (by simpa using hd)
        rw [Array.size_push, Nat.add_right_comm] at this
        rw [hnum, ← this, Nat.add_assoc]
    · -- What is stored stays stored while the rest is laid out.
      intro k d hd
      cases k with
      | zero =>
        obtain rfl : c = d := by simpa using hd
        simpa [countAll] using hc.stored.mono hrest.kept
      | succ k =>
        have := hrest.stored k d (by simpa using hd)
        rw [Nat.add_right_comm] at this
        rw [hnum, ← Nat.add_assoc]
        exact this

/-- Laying out a tree stores it behind what is there. -/
theorem laidOut_layOut (kindOf : String → Nat) (s : Shape) (T : Layout) (parent : Option Nat)
    (index : Nat) : LaidOut kindOf T (layOut kindOf T parent index s) parent index s := by
  induction s using inductionOn generalizing T parent index with
  | leaf name span =>
    refine ⟨by simp [layOut, descendants], rfl, .push T _, .leaf ?_⟩
    rw [layOut, Array.getElem?_push_size]
  | group name span children ih =>
    rw [layOut]
    generalize hrec : ({ kind := kindOf name, span, parent, index, children :=
      ⟨T.childTable.size + countAll 0 children - children.length,
        T.childTable.size + countAll 0 children⟩ } : NodeRecord) = record
    have hall := laidOutAll_layOutAll ih { T with nodes := T.nodes.push record } T.nodes.size 0 #[]
    generalize layOutAll kindOf { T with nodes := T.nodes.push record } T.nodes.size 0 #[] children
      = res at hall ⊢
    obtain ⟨T', ids⟩ := res
    obtain ⟨hnodes, htable, hkept, hids, -, hlisted, hstored⟩ := hall
    simp only [Array.size_push, List.size_toArray, List.length_nil, Nat.zero_add] at *
    -- The record is pushed before the children are laid out, with a stretch computed from their
    -- number; it begins where the child table ends once they are.
    have hfirst : T.childTable.size + countAll 0 children - children.length =
        T'.childTable.size := by omega
    have hstop : T.childTable.size + countAll 0 children =
        T'.childTable.size + children.length := by omega
    rw [hfirst, hstop] at hrec
    subst hrec
    have hext := Layout.Extends.append T' ids
    refine ⟨hnodes, ?_, (Layout.Extends.push T _).trans (hkept.trans hext), ?_⟩
    · simp only [Array.size_append, hids, descendants]
      omega
    · refine .group T'.childTable.size ?_ (by simp [hids]) ?_ ?_
      · exact (hkept.trans hext).nodes Array.getElem?_push_size
      · -- The children's entries are the last ones of the child table.
        intro k c hc
        rw [Array.getElem?_append_right (Nat.le_add_right _ _), Nat.add_sub_cancel_left]
        exact hlisted k c hc
      · intro k c hc
        exact (hstored k c hc).mono hext

end TreeAssist.Shape
