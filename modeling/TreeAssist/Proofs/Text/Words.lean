import Mathlib.Data.List.TakeWhile
import TreeAssist.Text.Blank

/-!
# Words of a text

A word is a run of characters that are not blank, and cannot be made longer to either side
(`Text.IsWordOf`). A blank separates the words on its two sides (`Text.words_append_blank`), and a
run without blanks is a single word (`Text.words_of_not_isBlank`). So `Text.words` gives the words
of a text, and nothing else (`Text.mem_words_iff`).
-/

namespace TreeAssist.Text

/-- `word` stands in `cs` as a run of characters that are not blank, and on either side of it there
is a blank or an end of the text. -/
def IsWordOf (word cs : List Char) : Prop :=
  ∃ before behind, cs = before ++ (word ++ behind) ∧ word ≠ [] ∧ (∀ c ∈ word, isBlank c = false) ∧
    (∀ c, before.getLast? = some c → isBlank c = true) ∧
    ∀ c, behind.head? = some c → isBlank c = true

@[simp]
theorem words_nil : words [] = [] := by
  rw [words.eq_def]

/-- A blank in front belongs to no word. -/
theorem words_cons_of_isBlank {c : Char} (hc : isBlank c = true) (cs : List Char) :
    words (c :: cs) = words cs := by
  rw [words.eq_def]
  exact if_pos hc

/-- Another character begins a word, which goes on up to the first blank. -/
theorem words_cons_of_not_isBlank {c : Char} (hc : ¬ isBlank c = true) (cs : List Char) :
    words (c :: cs) = (c :: cs.takeWhile (!isBlank ·)) :: words (cs.dropWhile (!isBlank ·)) := by
  rw [words.eq_def]
  exact if_neg hc

/-- A blank separates the words on its two sides. -/
theorem words_append_blank {c : Char} (hc : isBlank c = true) (x y : List Char) :
    words (x ++ c :: y) = words x ++ words y := by
  fun_induction words x with
  | case1 => rw [List.nil_append, List.nil_append, words_cons_of_isBlank hc]
  | case2 d x hd ih => rw [List.cons_append, words_cons_of_isBlank hd, ih]
  | case3 d x hd ih =>
    -- The first word ends in `x`, or at the blank behind it.
    have htake : (x ++ c :: y).takeWhile (!isBlank ·) = x.takeWhile (!isBlank ·) := by
      rw [List.takeWhile_append]
      split
      · rename_i hall
        rw [List.takeWhile_cons_of_neg (by simpa using hc), List.append_nil]
        exact ((List.takeWhile_prefix _).eq_of_length hall).symm
      · rfl
    have hdrop : (x ++ c :: y).dropWhile (!isBlank ·) = x.dropWhile (!isBlank ·) ++ c :: y := by
      rw [List.dropWhile_append]
      split
      · rename_i hnone
        rw [List.isEmpty_iff.mp hnone, List.dropWhile_cons_of_neg (by simpa using hc)]
        rfl
      · rfl
    rw [List.cons_append, words_cons_of_not_isBlank hd, htake, hdrop, ih]
    rfl

/-- A run without blanks is a single word. -/
theorem words_of_not_isBlank {word : List Char} (hne : word ≠ [])
    (h : ∀ c ∈ word, isBlank c = false) : words word = [word] := by
  obtain ⟨c, word, rfl⟩ := List.exists_cons_of_ne_nil hne
  obtain ⟨hc, hword⟩ := List.forall_mem_cons.mp h
  have hall : ∀ d ∈ word, (!isBlank d) = true := by
    intro d hd
    rw [hword d hd]
    rfl
  rw [words_cons_of_not_isBlank (by simp [hc]), List.takeWhile_eq_self_iff.mpr hall,
    List.dropWhile_eq_nil_iff.mpr hall, words_nil]

/-- What is a word behind some text is one in the whole, if that text ends in a blank or what is
behind it begins with one. -/
theorem IsWordOf.append_left {word cs : List Char} (h : IsWordOf word cs) (front : List Char)
    (hfront : (∀ c, front.getLast? = some c → isBlank c = true) ∨
      ∀ c, cs.head? = some c → isBlank c = true) :
    IsWordOf word (front ++ cs) := by
  obtain ⟨before, behind, rfl, hne, hword, hbefore, hbehind⟩ := h
  refine ⟨front ++ before, behind, by simp, hne, hword, ?_, hbehind⟩
  intro c hc
  rw [List.getLast?_append, Option.or_eq_some_iff] at hc
  rcases hc with hc | ⟨hnone, hc⟩
  · exact hbefore c hc
  · -- The word follows `front` at once, so `front` ends in a blank: the word begins with none.
    rcases hfront with hfront | hhead
    · exact hfront c hc
    · obtain rfl := List.getLast?_eq_none_iff.mp hnone
      obtain ⟨d, word, rfl⟩ := List.exists_cons_of_ne_nil hne
      have hd := hhead d rfl
      rw [hword d List.mem_cons_self] at hd
      cases hd

/-- `words` gives the words. -/
theorem mem_words_iff {word cs : List Char} : word ∈ words cs ↔ IsWordOf word cs := by
  constructor
  · intro h
    fun_induction words cs with
    | case1 => cases h
    | case2 c cs hc ih =>
      refine (ih h).append_left [c] (.inl ?_)
      simpa using hc
    | case3 c cs hc ih =>
      have hwhole := List.takeWhile_append_dropWhile (p := (!isBlank ·)) (l := cs)
      have hhead : ∀ d, (cs.dropWhile (!isBlank ·)).head? = some d → isBlank d = true := by
        intro d hd
        have hnot := List.head?_dropWhile_not (!isBlank ·) cs
        rw [hd] at hnot
        simpa using hnot
      rcases List.mem_cons.mp h with rfl | h
      · -- The first word reaches up to the first blank.
        have hmem : c :: cs.takeWhile (!isBlank ·) ∈ words (c :: cs) := by
          rw [words_cons_of_not_isBlank hc]
          exact List.mem_cons_self
        refine ⟨[], _, ?_, List.cons_ne_nil _ _, not_isBlank_of_mem_words hmem, by simp, hhead⟩
        rw [List.nil_append, List.cons_append, hwhole]
      · have hword := (ih h).append_left (c :: cs.takeWhile (!isBlank ·)) (.inr hhead)
        rwa [List.cons_append, hwhole] at hword
  · rintro ⟨before, behind, rfl, hne, hword, hbefore, hbehind⟩
    have hfirst : word ∈ words (word ++ behind) := by
      cases behind with
      | nil => rw [List.append_nil, words_of_not_isBlank hne hword, List.mem_singleton]
      | cons b behind =>
        rw [words_append_blank (hbehind b rfl), words_of_not_isBlank hne hword]
        exact List.mem_append_left _ (List.mem_singleton_self word)
    rcases List.eq_nil_or_concat before with rfl | ⟨before, b, rfl⟩
    · exact hfirst
    · rw [List.concat_eq_append] at hbefore ⊢
      rw [List.append_assoc, List.singleton_append,
        words_append_blank (hbefore b List.getLast?_concat)]
      exact List.mem_append_right _ hfirst

end TreeAssist.Text
