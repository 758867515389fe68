import TreeAssist.Proofs.Assembly.Run

/-!
# Numbers of names

A name table only grows: a name that has a number keeps it, and a new one is put at the end
(`NameTable.insert?_cases`). So the number of a name can be told in advance from all names that will
come into use: it is the place of the name among them (`NameTable.numberIn`), however many of them
are in the table yet (`NameTable.Lists.number_eq_numberIn`).
-/

namespace TreeAssist.NameTable

/-! ### Growing tables -/

variable {t t' : NameTable} {name : String}

/-- A table to which a name is added has the name already, or gets it as its last entry. -/
theorem insert?_cases (h : t.insert? name = some t') :
    (name ∈ t.names.toList ∧ t' = t) ∨
      (t.names.size < kindLimit ∧ t'.names = t.names.push name) := by
  unfold insert? at h
  split at h
  · rename_i i hi
    rw [t.agree, ← Array.getElem?_toList] at hi
    exact .inl ⟨List.mem_of_getElem? hi, by simpa using h.symm⟩
  · split at h
    · rename_i hlt
      obtain rfl := Option.some.inj h
      exact .inr ⟨hlt, rfl⟩
    · cases h

/-- A name that has been added is in the table. -/
theorem mem_of_insert? (h : t.insert? name = some t') : name ∈ t'.names.toList := by
  obtain ⟨hmem, rfl⟩ | ⟨-, hpush⟩ := insert?_cases h
  · exact hmem
  · simp [hpush]

/-- A table does not lose names. -/
theorem size_le_of_insert? (h : t.insert? name = some t') : t.names.size ≤ t'.names.size := by
  obtain ⟨-, rfl⟩ | ⟨-, hpush⟩ := insert?_cases h
  · exact Nat.le_refl _
  · simp [hpush]

/-- There are never more names than numbers. -/
theorem room_of_insert? (h : t.insert? name = some t') (hroom : t.names.size ≤ kindLimit) :
    t'.names.size ≤ kindLimit := by
  obtain ⟨-, rfl⟩ | ⟨hlt, hpush⟩ := insert?_cases h
  · exact hroom
  · rw [hpush, Array.size_push]
    omega

/-- The number of a name in the table is the number of one of its entries. -/
theorem number_lt (h : name ∈ t.names.toList) : t.number name < t.names.size :=
  (Array.getElem?_eq_some_iff.mp (names_number h)).1

/-! ### Places among all names -/

/-- The place of a name among the different names in use. -/
def numberIn (used : List String) (name : String) : Nat :=
  (used.eraseDups.idxOf? name).getD 0

/-- The number of a name is its place in the table. -/
theorem number_eq (t : NameTable) (name : String) :
    t.number name = (t.names.toList.idxOf? name).getD 0 := by
  rw [number, Std.HashMap.getD_eq_getD_getElem?]
  congr 1
  cases h : t.numbers[name]? with
  | none => rw [List.idxOf?_eq_none_iff.mpr (numbers_eq_none_iff.mp h)]
  | some i =>
    have hi := (t.agree name i).mp h
    obtain ⟨hlt, hget⟩ := Array.getElem?_eq_some_iff.mp hi
    refine (List.idxOf?_eq_some_iff.mpr ⟨by simpa using hlt, by simpa using hget, ?_⟩).symm
    -- An earlier place of the name would be its number as well.
    intro j hj heq
    have hj' : t.names[j]? = some name := by
      rw [← Array.getElem?_toList, List.getElem?_eq_getElem (by simp; omega), heq]
    rw [← t.agree, h, Option.some.injEq] at hj'
    omega

theorem Lists.number_eq {t : NameTable} {used : List String} (h : t.Lists used) :
    t.number = numberIn used := by
  funext name
  rw [NameTable.number_eq, numberIn, h]

/-- The places of the names in use do not change when more names come into use. -/
theorem numberIn_append {used : List String} {name : String} (h : name ∈ used)
    (more : List String) : numberIn (used ++ more) name = numberIn used name := by
  unfold numberIn
  rw [List.eraseDups_append]
  have hmem : name ∈ used.eraseDups := List.mem_eraseDups.mpr h
  cases hi : used.eraseDups.idxOf? name with
  | none => exact absurd hmem (List.idxOf?_eq_none_iff.mp hi)
  | some i =>
    unfold List.idxOf? at hi ⊢
    rw [List.findIdx?_append, hi]
    rfl

/-- A name in use has the number that it will keep. -/
theorem Lists.number_eq_numberIn {t : NameTable} {used all : List String} (h : t.Lists used)
    (hall : used <+: all) {name : String} (hname : name ∈ used) :
    t.number name = numberIn all name := by
  obtain ⟨more, rfl⟩ := hall
  rw [h.number_eq, numberIn_append hname]

/-- A name in use is found under the number that it will keep. -/
theorem Lists.names_numberIn {t : NameTable} {used all : List String} (h : t.Lists used)
    (hall : used <+: all) {name : String} (hname : name ∈ used) :
    t.names[numberIn all name]? = some name := by
  rw [← h.number_eq_numberIn hall hname]
  apply names_number
  rw [h, List.mem_eraseDups]
  exact hname

end TreeAssist.NameTable
