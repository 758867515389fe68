import Mathlib.Data.List.Induction
import TreeAssist.Style.Tag

/-!
# The scope chosen for a tag

A theme lists the scopes that it knows, and a tag takes the one that describes it best. Scopes are
compared with the dotted name of the tag part by part. The parts of a scope begin the parts of a
name exactly if the scope is the name, or the name goes on with a dot behind it, also where dots are
doubled or stand at an end (`Text.splitOn_isPrefix_splitOn_iff`). The search remembers the best
scope seen so far (`Scope.Chosen`), and one more scope replaces it only if it has more parts
(`Scope.Chosen.concat`).

Main statement: `bestScope_exact`.
-/

namespace TreeAssist

namespace Text

/-! ### Beginnings of cut texts -/

theorem consFirst_isPrefix_consFirst_iff {α : Type} {a b : α} {ls ms : List (List α)}
    (hls : ls ≠ []) (hms : ms ≠ []) : consFirst a ls <+: consFirst b ms ↔ a = b ∧ ls <+: ms := by
  cases ls with
  | nil => exact absurd rfl hls
  | cons l ls =>
    cases ms with
    | nil => exact absurd rfl hms
    | cons m ms => simp [consFirst, List.cons_prefix_cons, and_assoc]

/-- A first part with something put in front is not empty. -/
theorem not_isPrefix_consFirst {α : Type} (a : α) (rest ls : List (List α)) :
    ¬ [] :: rest <+: consFirst a ls := by
  cases ls <;> simp [consFirst, List.cons_prefix_cons]

theorem not_consFirst_isPrefix {α : Type} (a : α) (rest ls : List (List α)) :
    ¬ consFirst a ls <+: [] :: rest := by
  cases ls <;> simp [consFirst, List.cons_prefix_cons]

/-- The parts of `p` begin the parts of `cs` if `p` is `cs`, or `cs` goes on with the separator
behind `p`. -/
theorem splitOn_isPrefix_splitOn_iff {sep : Char} {p cs : List Char} :
    splitOn sep p <+: splitOn sep cs ↔ p = cs ∨ p ++ [sep] <+: cs := by
  induction p generalizing cs with
  | nil =>
    cases cs with
    | nil => simp [splitOn]
    | cons c cs =>
      by_cases hc : c = sep
      · simp [splitOn, hc, List.cons_prefix_cons]
      · simp [splitOn, hc, not_isPrefix_consFirst, List.cons_prefix_cons, Ne.symm hc]
  | cons a p ih =>
    cases cs with
    | nil =>
      by_cases ha : a = sep
      · simp [splitOn, ha, List.cons_prefix_cons, splitOn_ne_nil]
      · simp [splitOn, ha, not_consFirst_isPrefix]
    | cons c cs =>
      -- Both texts begin with the same character, or neither side holds.
      simp only [List.cons.injEq, List.cons_append, List.cons_prefix_cons, ← and_or_left, ← ih]
      by_cases ha : a = sep
      · by_cases hc : c = sep
        · simp [splitOn, ha, hc, List.cons_prefix_cons]
        · simp [splitOn, ha, hc, not_isPrefix_consFirst, Ne.symm hc]
      · by_cases hc : c = sep
        · simp [splitOn, ha, hc, not_consFirst_isPrefix]
        · simp only [splitOn, ha, hc, if_false]
          exact consFirst_isPrefix_consFirst_iff (splitOn_ne_nil sep p) (splitOn_ne_nil sep cs)

/-- There is one part more than there are separators. -/
theorem length_splitOn (sep : Char) (cs : List Char) :
    (splitOn sep cs).length = cs.count sep + 1 := by
  induction cs with
  | nil => rfl
  | cons c cs ih =>
    by_cases hc : c = sep
    · simp [splitOn, hc, ih]
    · cases hs : splitOn sep cs with
      | nil => exact absurd hs (splitOn_ne_nil sep cs)
      | cons part parts =>
        rw [hs] at ih
        simpa [splitOn, hc, hs, consFirst] using ih

end Text

namespace Scope

/-! ### The best of some scopes -/

/-- The scope `s` stands for the dotted name: it is the name, or the name goes on with a dot behind
it. -/
def Covers (s name : String) : Prop :=
  s = name ∨ s.toList ++ ['.'] <+: name.toList

/-- Number of parts between the dots of a scope. -/
def numParts (s : String) : Nat :=
  s.toList.count '.' + 1

/-- A scope is cut into so many parts. -/
theorem numParts_eq (s : String) : numParts s = (Text.splitOn '.' s.toList).length :=
  (Text.length_splitOn '.' s.toList).symm

/-- The parts of a scope begin the parts of a name if the scope covers the name. -/
theorem isPrefixOf_splitOn_iff {s name : String} :
    (Text.splitOn '.' s.toList).isPrefixOf (Text.splitOn '.' name.toList) = true ↔
      Covers s name := by
  rw [List.isPrefixOf_iff_prefix, Text.splitOn_isPrefix_splitOn_iff, String.toList_inj, Covers]

/-- `s`, in the place `i` of a list of scopes, is the one to choose for a name: of the scopes that
cover the name it has the most parts, and is the first with that many. -/
structure IsBest (name : String) (scopes : List String) (i : Nat) (s : String) : Prop where
  /-- It stands in the place `i`. -/
  listed : scopes[i]? = some s
  /-- It covers the name. -/
  covers : Covers s name
  /-- None that covers the name has more parts. -/
  longest : ∀ s' ∈ scopes, Covers s' name → numParts s' ≤ numParts s
  /-- None with as many parts stands in front of it. -/
  first : ∀ j s', scopes[j]? = some s' → Covers s' name → numParts s' = numParts s → i ≤ j

variable {name : String} {scopes : List String}

/-- There is only one place of a best scope. -/
theorem IsBest.eq {i j : Nat} {s s' : String} (h : IsBest name scopes i s)
    (h' : IsBest name scopes j s') : i = j := by
  have hparts : numParts s' = numParts s :=
    Nat.le_antisymm (h.longest s' (List.mem_of_getElem? h'.listed) h'.covers)
      (h'.longest s (List.mem_of_getElem? h.listed) h.covers)
  exact Nat.le_antisymm (h.first j s' h'.listed h'.covers hparts)
    (h'.first i s h.listed h.covers hparts.symm)

/-- The best scope remains the best if one without more parts is added at the end. -/
theorem IsBest.concat {i : Nat} {s s' : String} (h : IsBest name scopes i s)
    (hs' : Covers s' name → numParts s' ≤ numParts s) : IsBest name (scopes ++ [s']) i s where
  listed := by
    rw [List.getElem?_append_left (List.getElem?_eq_some_iff.mp h.listed).1]
    exact h.listed
  covers := h.covers
  longest := by
    intro r hr hcovers
    rcases List.mem_append.mp hr with hr | hr
    · exact h.longest r hr hcovers
    · obtain rfl := List.mem_singleton.mp hr
      exact hs' hcovers
  first := by
    intro j r hj hcovers hparts
    rw [List.getElem?_append] at hj
    split at hj
    · exact h.first j r hj hcovers hparts
    · -- The new scope stands behind all others.
      have hi := (List.getElem?_eq_some_iff.mp h.listed).1
      omega

/-- A scope at the end that covers the name and has more parts than all others that do is the
best. -/
theorem isBest_concat {s : String} (hs : Covers s name)
    (hmore : ∀ s' ∈ scopes, Covers s' name → numParts s' < numParts s) :
    IsBest name (scopes ++ [s]) scopes.length s where
  listed := List.getElem?_concat_length
  covers := hs
  longest := by
    intro r hr hcovers
    rcases List.mem_append.mp hr with hr | hr
    · exact Nat.le_of_lt (hmore r hr hcovers)
    · exact Nat.le_of_eq (congrArg numParts (List.mem_singleton.mp hr))
  first := by
    intro j r hj hcovers hparts
    by_contra hlt
    rw [List.getElem?_append_left (Nat.not_le.mp hlt)] at hj
    have hless := hmore r (List.mem_of_getElem? hj) hcovers
    omega

/-! ### The search -/

/-- What the search remembers after it has seen the scopes: place and number of parts of the best
one, and nothing if none covers the name. -/
def Chosen (name : String) (scopes : List String) : Option (Nat × Nat) → Prop
  | none => ∀ s ∈ scopes, ¬ Covers s name
  | some (i, parts) => ∃ s, IsBest name scopes i s ∧ parts = numParts s

/-- One more scope is taken if it covers the name and has more parts than what is remembered, and
otherwise is passed over. -/
theorem betterScope_cases (name s : String) (best : Option (Nat × Nat)) (i : Nat) :
    (Covers s name ∧ ∀ b ∈ best, b.2 < numParts s) ∧
        Tag.betterScope (Text.splitOn '.' name.toList) best (s, i) = some (i, numParts s) ∨
      ¬ (Covers s name ∧ ∀ b ∈ best, b.2 < numParts s) ∧
        Tag.betterScope (Text.splitOn '.' name.toList) best (s, i) = best := by
  have hcond : ((Text.splitOn '.' s.toList).isPrefixOf (Text.splitOn '.' name.toList) &&
      best.all (·.2 < (Text.splitOn '.' s.toList).length)) = true ↔
        Covers s name ∧ ∀ b ∈ best, b.2 < numParts s := by
    simp only [Bool.and_eq_true, isPrefixOf_splitOn_iff, Option.all_eq_true, decide_eq_true_eq,
      Option.mem_def, numParts_eq]
  by_cases h : Covers s name ∧ ∀ b ∈ best, b.2 < numParts s
  · refine .inl ⟨h, (if_pos (hcond.mpr h)).trans ?_⟩
    rw [numParts_eq]
  · exact .inr ⟨h, if_neg (mt hcond.mp h)⟩

/-- What the search remembers remains right when it sees one more scope. -/
theorem Chosen.concat {best : Option (Nat × Nat)} (h : Chosen name scopes best) (s : String) :
    Chosen name (scopes ++ [s])
      (Tag.betterScope (Text.splitOn '.' name.toList) best (s, scopes.length)) := by
  rcases betterScope_cases name s best scopes.length with ⟨⟨hcovers, hmore⟩, heq⟩ | ⟨hnot, heq⟩
  · rw [heq]
    refine ⟨s, isBest_concat hcovers fun r hr hr' => ?_, rfl⟩
    cases best with
    | none => exact absurd hr' (h r hr)
    | some b =>
      obtain ⟨s', hbest, hparts⟩ := h
      calc numParts r
        _ ≤ numParts s' := hbest.longest r hr hr'
        _ = b.2 := hparts.symm
        _ < numParts s := hmore b rfl
  · rw [heq]
    cases best with
    | none =>
      intro r hr hr'
      rcases List.mem_append.mp hr with hr | hr
      · exact h r hr hr'
      · rw [List.mem_singleton.mp hr] at hr'
        exact hnot ⟨hr', fun b hb => by cases hb⟩
    | some b =>
      obtain ⟨s', hbest, hparts⟩ := h
      refine ⟨s', hbest.concat fun hcovers => ?_, hparts⟩
      -- The new scope is passed over, so it has no more parts than the old one.
      rw [← hparts, ← Nat.not_lt]
      intro hlt
      exact hnot ⟨hcovers, fun b' hb' => Option.some.inj hb' ▸ hlt⟩

/-- After all scopes the search remembers the best of them. -/
theorem chosen_foldl (name : String) (scopes : List String) :
    Chosen name scopes
      (scopes.zipIdx.foldl (Tag.betterScope (Text.splitOn '.' name.toList)) none) := by
  induction scopes using List.reverseRecOn with
  | nil => exact fun s hs => absurd hs List.not_mem_nil
  | append_singleton scopes s ih =>
    rw [List.zipIdx_append, List.foldl_append]
    simpa using ih.concat s

end Scope

/-- A tag has no scope in a list exactly if none of the scopes there is its dotted name or is
followed by a dot at the beginning of that name. Otherwise it has the first of those with the
greatest number of parts. -/
theorem bestScope_exact (t : Tag) (scopes : List String) :
    (t.bestScope scopes = none ↔ ∀ s ∈ scopes, ¬ Scope.Covers s t.dottedName) ∧
      ∀ i, t.bestScope scopes = some i ↔ ∃ s, Scope.IsBest t.dottedName scopes i s := by
  have hchosen := Scope.chosen_foldl t.dottedName scopes
  unfold Tag.bestScope
  cases hbest : scopes.zipIdx.foldl
      (Tag.betterScope (Text.splitOn '.' t.dottedName.toList)) none with
  | none =>
    rw [hbest] at hchosen
    refine ⟨iff_of_true rfl hchosen, fun i => iff_of_false nofun ?_⟩
    rintro ⟨s, hs⟩
    exact hchosen s (List.mem_of_getElem? hs.listed) hs.covers
  | some b =>
    rw [hbest] at hchosen
    obtain ⟨s, hs, -⟩ := hchosen
    refine ⟨iff_of_false nofun ?_, fun i => ⟨?_, ?_⟩⟩
    · exact fun h => h s (List.mem_of_getElem? hs.listed) hs.covers
    · intro h
      cases h
      exact ⟨s, hs⟩
    · rintro ⟨s', hs'⟩
      rw [Option.map_some, hs.eq hs']

-- Neither a part that is cut short nor a dot too many counts.
example : ({ category := .controlKeyword } : Tag).bestScope
    ["key", "keyword.", "keyword", "keyword"] = some 2 := by
  decide +kernel

end TreeAssist
