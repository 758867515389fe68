import TreeAssist.Proofs.Text.Tiling

/-!
# What stays of a line's break

A text is cut after each of its breaks (`Text.lineBreaks`). A piece is thus a body without breaks
and one break behind it, and the last piece is a body alone (`Text.exists_of_rawLines_getElem?`).
From the end of a piece only a line feed, with a carriage return before it, is taken away, so a
break of another kind stays in the line's own text (`Text.stripBreak_append`). Such a text reaches
up to the next line (`Document.forall_isBreak_iff`).

Main statement: `line_text_exact`. The text of a line is free of breaks, and ends just before its
break, exactly if the break is a line feed or a carriage return and a line feed.
-/

namespace TreeAssist

open Text

namespace Text

/-- The breaks that end a line. -/
def lineBreaks : List (List Char) :=
  [['\n'], ['\r', '\n'], ['\r'], ['\x0b'], ['\x0c'], ['\u0085'], ['\u2028'], ['\u2029']]

/-- The breaks of one character. -/
theorem isBreak_iff {c : Char} : isBreak c = true ↔ [c] ∈ lineBreaks := by
  constructor
  · intro h
    have hcode : c.toNat ∈ [0x0A, 0x0B, 0x0C, 0x0D, 0x85, 0x2028, 0x2029] := by
      simp only [isBreak, Bool.or_eq_true, Bool.and_eq_true, decide_eq_true_eq, beq_iff_eq] at h
      simp only [List.mem_cons, List.not_mem_nil, or_false]
      omega
    have hall : ∀ code ∈ [0x0A, 0x0B, 0x0C, 0x0D, 0x85, 0x2028, 0x2029],
        [Char.ofNat code] ∈ lineBreaks := by decide
    rw [← Char.ofNat_toNat c]
    exact hall c.toNat hcode
  · intro h
    have hall : ∀ cs ∈ lineBreaks, cs.all isBreak = true := by decide
    simpa using hall [c] h

/-- No break is empty. -/
theorem byteLength_pos_of_mem_lineBreaks {cs : List Char} (h : cs ∈ lineBreaks) :
    0 < byteLength cs := by
  have hall : ∀ cs ∈ lineBreaks, 0 < byteLength cs := by decide
  exact hall cs h

/-! ### Pieces -/

/-- Each piece that a text is cut into is a body without breaks and a break. Behind the last body
there is none. -/
theorem exists_of_rawLines_getElem? {cs raw : List Char} {k : Nat}
    (h : (rawLines cs)[k]? = some raw) :
    ∃ body ending, raw = body ++ ending ∧ (∀ c ∈ body, isBreak c = false) ∧
      (k + 1 < (rawLines cs).length ∧ ending ∈ lineBreaks ∨
        k + 1 = (rawLines cs).length ∧ ending = []) := by
  fun_induction rawLines cs generalizing k raw with
  | case1 =>
    cases k with
    | zero =>
      cases h
      exact ⟨[], [], rfl, by simp, .inr ⟨rfl, rfl⟩⟩
    | succ k => cases h
  | case2 cs ih =>
    have hpos := List.length_pos_iff.mpr (rawLines_ne_nil cs)
    cases k with
    | zero =>
      cases h
      exact ⟨[], ['\r', '\n'], rfl, by simp, .inl ⟨by simpa using hpos, by decide⟩⟩
    | succ k =>
      obtain ⟨body, ending, hraw, hbody, hending⟩ := ih h
      refine ⟨body, ending, hraw, hbody, ?_⟩
      simpa using hending
  | case3 c cs hcr hbreak ih =>
    have hpos := List.length_pos_iff.mpr (rawLines_ne_nil cs)
    cases k with
    | zero =>
      cases h
      exact ⟨[], [c], rfl, by simp, .inl ⟨by simpa using hpos, isBreak_iff.mp hbreak⟩⟩
    | succ k =>
      obtain ⟨body, ending, hraw, hbody, hending⟩ := ih h
      refine ⟨body, ending, hraw, hbody, ?_⟩
      simpa using hending
  | case4 c cs hcr hbreak ih =>
    obtain ⟨l, ls, hls⟩ := List.exists_cons_of_ne_nil (rawLines_ne_nil cs)
    rw [hls] at h ih ⊢
    cases k with
    | zero =>
      -- The character goes to the front of the first body.
      cases h
      obtain ⟨body, ending, rfl, hbody, hending⟩ := ih (show (l :: ls)[0]? = some l from rfl)
      exact ⟨c :: body, ending, rfl, by simpa [hbreak] using hbody, hending⟩
    | succ k => exact ih h

/-! ### What is taken away -/

/-- A text that does not end in a line feed stays as it is. -/
theorem stripBreak_of_getLast?_ne {raw : List Char} (h : raw.getLast? ≠ some '\n') :
    stripBreak raw = raw := by
  rw [← List.head?_reverse] at h
  unfold stripBreak
  split
  · rename_i heq
    rw [heq] at h
    exact absurd rfl h
  · rename_i heq
    rw [heq] at h
    exact absurd rfl h
  · rfl

/-- A line feed is taken away. -/
theorem stripBreak_concat_lineFeed {body : List Char} (h : body.getLast? ≠ some '\r') :
    stripBreak (body ++ ['\n']) = body := by
  rw [← List.head?_reverse] at h
  unfold stripBreak
  rw [List.reverse_append, List.reverse_singleton, List.singleton_append]
  split
  · rename_i heq
    rw [(List.cons.inj heq).2] at h
    exact absurd rfl h
  · rename_i heq
    rw [← (List.cons.inj heq).2, List.reverse_reverse]
  · rename_i hnone
    exact absurd rfl (hnone _)

/-- A line feed is taken away with the carriage return before it. -/
theorem stripBreak_append_both (body : List Char) : stripBreak (body ++ ['\r', '\n']) = body := by
  unfold stripBreak
  simp

/-- A body without breaks does not end in one. -/
theorem getLast?_ne_of_isBreak {body : List Char} (hbody : ∀ c ∈ body, isBreak c = false) {c : Char}
    (hc : isBreak c = true) : body.getLast? ≠ some c := by
  intro hlast
  rw [hbody c (List.mem_of_getLast? hlast)] at hc
  cases hc

/-- Of the breaks behind a body, only a line feed and a carriage return with a line feed are taken
away. -/
theorem stripBreak_append {body ending : List Char} (hbody : ∀ c ∈ body, isBreak c = false)
    (hending : ending ∈ lineBreaks ∨ ending = []) :
    stripBreak (body ++ ending) =
      if ending = ['\n'] ∨ ending = ['\r', '\n'] then body else body ++ ending := by
  split
  · rename_i hstripped
    rcases hstripped with rfl | rfl
    · exact stripBreak_concat_lineFeed (getLast?_ne_of_isBreak hbody rfl)
    · exact stripBreak_append_both body
  · rename_i hkept
    refine stripBreak_of_getLast?_ne (getLast?_append_ne ?_ ?_)
    · exact fun _ => getLast?_ne_of_isBreak hbody rfl
    · -- The other breaks end in another character.
      have hall : ∀ cs ∈ lineBreaks, ¬ (cs = ['\n'] ∨ cs = ['\r', '\n']) →
          cs.getLast? ≠ some '\n' := by decide
      rcases hending with hending | rfl
      · exact hall ending hending hkept
      · simp

end Text

namespace Document

variable {d : Document} {n : Nat} {body ending : List Char}

/-- The line numbered `n` is the text `body`, which is free of breaks, and the break `ending` behind
it. The last line has no break. -/
structure BrokenAs (d : Document) (n : Nat) (body ending : List Char) : Prop where
  /-- The two stand between the start of the line and that of the next one. -/
  charsBetween : d.charsBetween (d.nthLine n).start (d.nextStart n) = body ++ ending
  /-- There is no break in the body. -/
  body : ∀ c ∈ body, isBreak c = false
  /-- There is one behind it, unless the line is the last one. -/
  ending : n + 1 < d.numLines ∧ ending ∈ lineBreaks ∨ n + 1 = d.numLines ∧ ending = []

instance (d : Document) (n : Nat) (body ending : List Char) :
    Decidable (d.BrokenAs n body ending) :=
  -- The body is gone through as a list, not all characters there are.
  decidable_of_iff
    (d.charsBetween (d.nthLine n).start (d.nextStart n) = body ++ ending ∧
      body.any isBreak = false ∧
      (n + 1 < d.numLines ∧ ending ∈ lineBreaks ∨ n + 1 = d.numLines ∧ ending = []))
    ⟨fun ⟨h, h', h''⟩ => ⟨h, by simpa using h', h''⟩,
      fun ⟨h, h', h''⟩ => ⟨h, by simpa using h', h''⟩⟩

/-- Between the starts of two lines in a row there is the first of them with its break. -/
theorem rawLines_getElem?_eq (h : n < d.numLines) :
    (rawLines d.chars)[n]? = some (d.charsBetween (d.nthLine n).start (d.nextStart n)) := by
  obtain ⟨gap, -, behind, hraw, hsplit, hnext⟩ := exists_split_nthLine h
  rw [hraw, hnext, stop_nthLine h, start_nthLine h, Nat.add_assoc, ← byteLength_append]
  rw [← List.append_assoc (d.nthLine n).chars] at hsplit
  rw [charsBetween_of_eq_append hsplit]

/-- The text of a line is what is left of the line without its break. -/
theorem chars_nthLine (h : n < d.numLines) :
    (d.nthLine n).chars = stripBreak (d.charsBetween (d.nthLine n).start (d.nextStart n)) := by
  obtain ⟨raw, hraw, -, hchars⟩ := lines_getElem?_eq_some (lines_getElem?_nthLine h)
  rw [rawLines_getElem?_eq h] at hraw
  rw [hchars, Option.some.inj hraw]

theorem exists_brokenAs (h : n < d.numLines) : ∃ body ending, d.BrokenAs n body ending := by
  obtain ⟨body, ending, hraw, hbody, hending⟩ :=
    exists_of_rawLines_getElem? (rawLines_getElem?_eq h)
  rw [← numLines_eq] at hending
  exact ⟨body, ending, hraw, hbody, hending⟩

namespace BrokenAs

/-- A line's own text keeps every break but a line feed, and a carriage return with one. -/
theorem chars_nthLine (h : d.BrokenAs n body ending) (hn : n < d.numLines) :
    (d.nthLine n).chars =
      if ending = ['\n'] ∨ ending = ['\r', '\n'] then body else body ++ ending := by
  rw [Document.chars_nthLine hn, h.charsBetween]
  exact stripBreak_append h.body (h.ending.imp And.right And.right)

/-- A break that is kept is a break in the text of the line. -/
theorem ending_mem_of_free (h : d.BrokenAs n body ending) (hn : n < d.numLines)
    (hfree : ∀ c ∈ (d.nthLine n).chars, isBreak c = false) :
    ending ∈ [[], ['\n'], ['\r', '\n']] := by
  rw [h.chars_nthLine hn] at hfree
  rcases h.ending with ⟨-, hending⟩ | ⟨-, rfl⟩
  · split at hfree
    · rename_i hstripped
      rcases hstripped with rfl | rfl <;> simp
    · have hall : ∀ cs ∈ lineBreaks, cs.any isBreak = true := by decide
      obtain ⟨c, hc, hbreak⟩ := List.any_eq_true.mp (hall ending hending)
      rw [hfree c (List.mem_append_right body hc)] at hbreak
      cases hbreak
  · simp

/-- If its break is not kept, the text of a line is its body. -/
theorem chars_nthLine_of_mem (h : d.BrokenAs n body ending) (hn : n < d.numLines)
    (hending : ending ∈ [[], ['\n'], ['\r', '\n']]) : (d.nthLine n).chars = body := by
  rw [h.chars_nthLine hn]
  simp only [List.mem_cons, List.not_mem_nil, or_false] at hending
  rcases hending with rfl | hending
  · simp
  · rw [if_pos hending]

/-- The next line starts behind the body and the break of a line. -/
theorem nextStart_eq (h : d.BrokenAs n body ending) (hn : n < d.numLines) :
    d.nextStart n = (d.nthLine n).start + (byteLength body + byteLength ending) := by
  rw [Document.nextStart_eq hn, textBefore_succ (rawLines_getElem?_eq hn), h.charsBetween,
    start_nthLine hn, byteLength_append, byteLength_append]

end BrokenAs

/-- Only the last line can be empty with its break. -/
theorem start_lt_nextStart (hn : n + 1 < d.numLines) : (d.nthLine n).start < d.nextStart n := by
  have hn' : n < d.numLines := Nat.lt_of_succ_lt hn
  obtain ⟨body, ending, h⟩ := exists_brokenAs hn'
  rcases h.ending with ⟨-, hending⟩ | ⟨hlast, -⟩
  · have hpos := byteLength_pos_of_mem_lineBreaks hending
    rw [h.nextStart_eq hn']
    omega
  · omega

/-- A line's own text is free of breaks exactly if the line is the last one or something stands
between its text and the next line. -/
theorem forall_isBreak_iff (hn : n < d.numLines) :
    (∀ c ∈ (d.nthLine n).chars, isBreak c = false) ↔
      n + 1 = d.numLines ∨ (d.nthLine n).stop < d.nextStart n := by
  obtain ⟨body, ending, h⟩ := exists_brokenAs hn
  have hstop := stop_nthLine hn
  have hnext := h.nextStart_eq hn
  constructor
  · intro hfree
    -- The text is the body, and a break follows it unless the line is the last one.
    rw [h.chars_nthLine_of_mem hn (h.ending_mem_of_free hn hfree)] at hstop
    rcases h.ending with ⟨-, hending⟩ | ⟨hlast, -⟩
    · have hpos := byteLength_pos_of_mem_lineBreaks hending
      exact .inr (by omega)
    · exact .inl hlast
  · intro hends
    have hchars : (d.nthLine n).chars = body := by
      rcases h.ending with ⟨hnotLast, -⟩ | ⟨-, rfl⟩
      · have hkept := h.chars_nthLine hn
        split at hkept
        · exact hkept
        · -- A break that is kept would reach up to the next line.
          rw [hkept, byteLength_append] at hstop
          omega
      · exact h.chars_nthLine_of_mem hn (by simp)
    rw [hchars]
    exact h.body

end Document

/-- Each line is a body without breaks and a break behind it, which only the last line lacks. The
text of the line is the body if the break is a line feed or a carriage return and a line feed, and
otherwise the body with its break. So the text is free of breaks and ends just before the break
exactly if the break is one of these two, or there is none. -/
theorem line_text_exact (d : Document) {n : Nat} (hn : n < d.numLines) :
    (∃ body ending, d.BrokenAs n body ending) ∧
      ∀ body ending, d.BrokenAs n body ending →
        (d.nthLine n).chars =
            (if ending = ['\n'] ∨ ending = ['\r', '\n'] then body else body ++ ending) ∧
          ((∀ c ∈ (d.nthLine n).chars, isBreak c = false) ∧
              (d.nthLine n).stop = (d.nthLine n).start + byteLength body ↔
            ending ∈ [[], ['\n'], ['\r', '\n']]) := by
  refine ⟨Document.exists_brokenAs hn, fun body ending h => ⟨h.chars_nthLine hn, ?_⟩⟩
  constructor
  · rintro ⟨hfree, -⟩
    exact h.ending_mem_of_free hn hfree
  · intro hending
    have hchars := h.chars_nthLine_of_mem hn hending
    rw [Document.stop_nthLine hn, hchars]
    exact ⟨h.body, rfl⟩

/-- A line that ends in a carriage return and a line feed loses both, and one that ends in a line
separator keeps it. -/
theorem line_text_exact_separator :
    (Document.ofString "a\r\nb\u2028c").BrokenAs 0 ['a'] ['\r', '\n'] ∧
      (Document.ofString "a\r\nb\u2028c").BrokenAs 1 ['b'] ['\u2028'] ∧
      (∀ c ∈ ((Document.ofString "a\r\nb\u2028c").nthLine 0).chars, isBreak c = false) ∧
      ((Document.ofString "a\r\nb\u2028c").nthLine 1).chars = ['b', '\u2028'] := by
  have hfirst : (Document.ofString "a\r\nb\u2028c").BrokenAs 0 ['a'] ['\r', '\n'] := by
    decide +kernel
  have hsecond : (Document.ofString "a\r\nb\u2028c").BrokenAs 1 ['b'] ['\u2028'] := by
    decide +kernel
  obtain ⟨-, hfirst'⟩ := line_text_exact (Document.ofString "a\r\nb\u2028c")
    (show 0 < _ by decide +kernel)
  obtain ⟨-, hsecond'⟩ := line_text_exact (Document.ofString "a\r\nb\u2028c")
    (show 1 < _ by decide +kernel)
  exact ⟨hfirst, hsecond, ((hfirst' _ _ hfirst).2.mpr (by decide)).1, (hsecond' _ _ hsecond).1⟩

/-- A line that ends in a carriage return alone keeps it in its text, and ends behind it. -/
theorem carriageReturn_mem_line :
    0 < (Document.ofString "a\rb").numLines ∧ isBreak '\r' = true ∧
      '\r' ∈ ((Document.ofString "a\rb").nthLine 0).chars ∧
      ((Document.ofString "a\rb").nthLine 0).stop = 2 := by
  decide +kernel

end TreeAssist
