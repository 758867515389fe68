import TreeAssist.Text.Blank
import TreeAssist.Text.Quoted

/-!
# Tables keyed by kinds of nodes

A `KindTable` holds at most one entry for each name of a kind. Entries are given for several names
at once, as words of one text; a later entry for a name replaces an earlier one
(`KindTable.get?_put`). What holds for the entries of all lines holds for whatever is found in the
table that they fill (`KindTable.all_ofLines`), and lines that give one new name each are the
entries of that table (`KindTable.entries_ofLines`).
-/

namespace TreeAssist

/-- Entries under names of kinds. -/
structure KindTable (β : Type) where
  /-- The names with their entries. -/
  entries : List (String × β) := []

namespace KindTable

variable {β : Type}

/-- The entry for `kind`. -/
def get? (t : KindTable β) (kind : String) : Option β :=
  t.entries.lookup kind

/-- There is an entry for `kind`. -/
def contains (t : KindTable β) (kind : String) : Bool :=
  (t.get? kind).isSome

/-- Number of names with an entry. -/
def size (t : KindTable β) : Nat :=
  t.entries.length

/-- Makes `b` the entry for `kind`. -/
def put (t : KindTable β) (kind : String) (b : β) : KindTable β :=
  ⟨t.entries.filter (·.1 != kind) ++ [(kind, b)]⟩

/-- Makes `b` the entry for every word of `kinds`. -/
def putAll (t : KindTable β) (kinds : String) (b : β) : KindTable β :=
  (Text.wordsOf kinds).foldl (·.put · b) t

/-- The table that the given lines fill in order. -/
def ofLines (lines : List (String × β)) : KindTable β :=
  lines.foldl (fun t line => t.putAll line.1 line.2) {}

/-- The names with an entry, in ascending order. -/
def kinds (t : KindTable β) : List String :=
  (t.entries.map (·.1)).mergeSort

/-- A summary that lists the names. -/
def describe (t : KindTable β) (title : String) : String :=
  title ++ " \x7b kinds: [" ++ ", ".intercalate (t.kinds.map Text.quoted) ++ "] \x7d"

/-- The entry last put under a name is the one found there. -/
theorem get?_put (t : KindTable β) (kind other : String) (b : β) :
    (t.put kind b).get? other = if other = kind then some b else t.get? other := by
  unfold get? put
  induction t.entries with
  | nil =>
    by_cases h : other = kind
    · simp [h]
    · simp [List.lookup_cons, h, beq_eq_false_iff_ne.mpr h]
  | cons e es ih =>
    obtain ⟨k, v⟩ := e
    by_cases hk : k = kind
    · -- The old entry for `kind` is dropped.
      subst hk
      by_cases h : other = k
      · simpa [h] using ih
      · simpa [List.lookup_cons, h, beq_eq_false_iff_ne.mpr h] using ih
    · by_cases h : other = k
      · subst h
        simp [hk]
      · simpa [hk, List.lookup_cons, beq_eq_false_iff_ne.mpr h] using ih

/-- Everything that is found in the table satisfies `p`. -/
def All (t : KindTable β) (p : β → Prop) : Prop :=
  ∀ kind b, t.get? kind = some b → p b

theorem All.put {t : KindTable β} {p : β → Prop} (h : t.All p) (kind : String) {b : β} (hb : p b) :
    (t.put kind b).All p := by
  intro other c hc
  rw [get?_put] at hc
  split at hc
  · cases hc
    exact hb
  · exact h other c hc

theorem All.putAll {t : KindTable β} {p : β → Prop} (h : t.All p) (kinds : String) {b : β}
    (hb : p b) : (t.putAll kinds b).All p := by
  unfold KindTable.putAll
  induction Text.wordsOf kinds generalizing t with
  | nil => exact h
  | cons kind rest ih => exact ih (h.put kind hb)

/-- What holds for the entries of all lines holds for everything that is found. -/
theorem all_ofLines {lines : List (String × β)} {p : β → Prop} (h : ∀ line ∈ lines, p line.2) :
    (ofLines lines).All p := by
  -- The table is filled line by line, and each line keeps what holds so far.
  have hfold : ∀ t : KindTable β, t.All p →
      (lines.foldl (fun t line => t.putAll line.1 line.2) t).All p := by
    induction lines with
    | nil => exact fun t ht => ht
    | cons line rest ih =>
      intro t ht
      exact ih (fun l hl => h l (List.mem_cons_of_mem _ hl)) _
        (ht.putAll line.1 (h line List.mem_cons_self))
  exact hfold {} fun _ _ hnone => nomatch hnone

/-- A new name comes last. -/
theorem entries_put {t : KindTable β} {kind : String} (h : kind ∉ t.entries.map (·.1)) (b : β) :
    (t.put kind b).entries = t.entries ++ [(kind, b)] := by
  unfold put
  rw [List.filter_eq_self.mpr]
  intro e he
  exact bne_iff_ne.mpr fun heq => h (heq ▸ List.mem_map_of_mem he)

/-- Lines that give one new name each are the entries of the table. -/
theorem entries_ofLines {lines : List (String × β)}
    (hword : ∀ kind ∈ lines.map (·.1), Text.wordsOf kind = [kind])
    (hnew : (lines.map (·.1)).Nodup) : (ofLines lines).entries = lines := by
  -- The names of the lines to come are not in the table yet.
  have hfold : ∀ t : KindTable β, (∀ kind ∈ lines.map (·.1), kind ∉ t.entries.map (·.1)) →
      (lines.foldl (fun t line => t.putAll line.1 line.2) t).entries = t.entries ++ lines := by
    induction lines with
    | nil => simp
    | cons line rest ih =>
      intro t ht
      rw [List.map_cons, List.nodup_cons] at hnew
      rw [List.map_cons, List.forall_mem_cons] at hword ht
      have hput : (t.putAll line.1 line.2).entries = t.entries ++ [line] := by
        unfold putAll
        rw [hword.1]
        exact entries_put ht.1 line.2
      rw [List.foldl_cons, ih hword.2 hnew.2 _ ?_, hput, List.append_assoc, List.singleton_append]
      intro kind hkind
      rw [hput, List.map_append, List.mem_append, not_or, List.map_singleton, List.mem_singleton]
      refine ⟨ht.2 kind hkind, ?_⟩
      rintro rfl
      exact hnew.1 hkind
  exact hfold {} (by simp)

end KindTable

end TreeAssist
