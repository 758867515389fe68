import TreeAssist.Proofs.Text.Boundaries
import TreeAssist.Proofs.Text.Breaks
import TreeAssist.Settings.Basic

/-!
# Columns and widths of indentation

A character moves the column on by at least one and at most the distance of tab stops
(`Text.foldl_advance_le`), and a tab moves it to a multiple of that distance
(`Text.dvd_advance_tab`). So along a line the column of a position is known up to the tabs in front
of it. The blanks of a level are all alike: from the start of a line on, each of them is equally
wide (`Level.columnAfter_replicate_fill`), and so the width of some levels in a row is the sum of
theirs, although widths do not add up in general.

The end of a line's own text is a position on the line, unless the text keeps its break
(`Document.lineHolding_stop_iff`). In that case it is the start of the next line, whose column is
`0`, and the bounds on columns fail between the line and this position, but nowhere else.

Main statement: `columns_and_widths`.
-/

namespace TreeAssist

open Text

namespace Text

/-! ### Columns -/

/-- A character moves the column on by at most the distance of tab stops. -/
theorem advance_le {tab : Nat} (h : 0 < tab) (col : Nat) (c : Char) :
    advance tab col c ≤ col + tab := by
  unfold advance
  split <;> omega

/-- Some characters move the column on by at most the distance of tab stops each. -/
theorem foldl_advance_le {tab : Nat} (h : 0 < tab) (col : Nat) (cs : List Char) :
    cs.foldl (advance tab) col ≤ col + cs.length * tab := by
  induction cs generalizing col with
  | nil => exact Nat.le_add_right _ _
  | cons c cs ih =>
    have hfirst := advance_le h col c
    have hrest := ih (advance tab col c)
    simp only [List.foldl_cons, List.length_cons, Nat.succ_mul]
    omega

/-- A tab moves the column to a tab stop. -/
theorem dvd_advance_tab {tab : Nat} (h : 0 < tab) (col : Nat) : tab ∣ advance tab col '\t' := by
  have hlt := Nat.mod_lt col h
  have hdiv := Nat.div_add_mod col tab
  refine ⟨col / tab + 1, ?_⟩
  rw [advance, if_pos rfl, Nat.mul_succ]
  omega

/-- Behind a tab, the column is a tab stop. -/
theorem dvd_foldl_advance {tab : Nat} (h : 0 < tab) (col : Nat) {cs : List Char}
    (hcs : cs.getLast? = some '\t') : tab ∣ cs.foldl (advance tab) col := by
  obtain ⟨front, rfl⟩ := List.getLast?_eq_some_iff.mp hcs
  rw [List.foldl_append]
  exact dvd_advance_tab h _

/-! ### Indentation -/

theorem isIndent_iff {c : Char} : isIndent c = true ↔ c = ' ' ∨ c = '\t' := by
  simp [isIndent]

/-- Neither a space nor a tab ends a line. -/
theorem isBreak_of_isIndent {c : Char} (h : isIndent c = true) : isBreak c = false := by
  rcases isIndent_iff.mp h with rfl | rfl <;> rfl

/-- The indentation of a text is the width of the spaces and tabs that it begins with. -/
theorem leadingWidth_append {lead rest : List Char} (hlead : ∀ c ∈ lead, isIndent c = true)
    (hrest : ∀ c ∈ rest.head?, isIndent c = false) (tab : Nat) :
    leadingWidth tab (lead ++ rest) = columnAfter tab lead := by
  have hnone : rest.takeWhile isIndent = [] := by
    cases rest with
    | nil => rfl
    | cons c rest => rw [List.takeWhile_cons, hrest c rfl, if_neg Bool.false_ne_true]
  unfold leadingWidth
  rw [List.takeWhile_append_of_pos hlead, hnone, List.append_nil]

end Text

namespace Level

variable {s : String} {l : Level}

/-- How wide each character of the level is at the start of a line. -/
def step (l : Level) (tab : Nat) : Nat :=
  if l.tabs then max tab 1 else 1

/-- Behind some characters of a level, one more is as wide as each of them. -/
theorem advance_fill (l : Level) (tab k : Nat) :
    advance (max tab 1) (k * l.step tab) l.fill = (k + 1) * l.step tab := by
  unfold advance fill step
  cases l.tabs with
  | true =>
    simp only [↓reduceIte, Nat.mul_mod_left, Nat.sub_zero]
    exact (Nat.succ_mul _ _).symm
  | false => simp

/-- Characters of a level at the start of a line are all equally wide. -/
theorem columnAfter_replicate_fill (l : Level) (tab k : Nat) :
    columnAfter tab (List.replicate k l.fill) = k * l.step tab := by
  -- The induction is on the number of characters in front: a tab is as wide as the one before it
  -- only because that one ended at a tab stop.
  induction k with
  | zero => rw [Nat.zero_mul, List.replicate_zero, columnAfter_nil]
  | succ k ih =>
    rw [List.replicate_succ', columnAfter_append, ih, List.foldl_cons, List.foldl_nil,
      advance_fill]

theorem width_eq (l : Level) (tab : Nat) : l.width tab = l.count * l.step tab :=
  l.columnAfter_replicate_fill tab l.count

theorem isIndent_fill (l : Level) : isIndent l.fill = true := by
  unfold fill
  cases l.tabs <;> rfl

/-- A level that is accepted consists of the characters that it was given as. -/
theorem chars_of_ofString (h : Level.ofString s = .ok l) : l.chars = s.toList := by
  unfold ofString at h
  split at h
  · rename_i u hu
    cases h
    unfold ofChars? at hu
    -- All characters are the one that the level repeats.
    split_ifs at hu with hpos hspaces htabs
    · cases hu
      exact (List.eq_replicate_iff.mpr ⟨rfl, by simpa [fill] using hspaces⟩).symm
    · cases hu
      exact (List.eq_replicate_iff.mpr ⟨rfl, by simpa [fill] using htabs⟩).symm
  · cases h

/-- Some copies of a level are as many times as wide as the level. -/
theorem leadingWidth_of_ofString (h : Level.ofString s = .ok l) (m : Nat) {rest : List Char}
    (hrest : ∀ c ∈ rest.head?, isIndent c = false) (tab : Nat) :
    leadingWidth tab ((List.replicate m s.toList).flatten ++ rest) = m * l.width tab := by
  have hcopies : (List.replicate m s.toList).flatten = List.replicate (m * l.count) l.fill := by
    rw [← chars_of_ofString h, chars, List.flatten_replicate_replicate]
  have hlead : ∀ c ∈ List.replicate (m * l.count) l.fill, isIndent c = true := by
    intro c hc
    rw [List.eq_of_mem_replicate hc]
    exact l.isIndent_fill
  rw [hcopies, leadingWidth_append hlead hrest, columnAfter_replicate_fill, width_eq, Nat.mul_assoc]

end Level

namespace Document

variable {d : Document} {n p q : Nat}

/-! ### Positions on a line -/

/-- A line holds its own start. -/
theorem lineHolding_start (hn : n < d.numLines) :
    d.lineHolding (d.nthLine n).start = d.nthLine n := by
  rw [lineHolding_eq_nthLine_iff hn, (snap_nthLine hn).1]
  refine ⟨Nat.le_refl _, ?_⟩
  rcases Nat.lt_or_ge (n + 1) d.numLines with hnext | hlast
  · exact .inr (start_lt_nextStart hnext)
  · exact .inl (by omega)

/-- A line holds the positions in front of the end of its own text. -/
theorem lineHolding_of_lt_stop (hn : n < d.numLines) (hstart : (d.nthLine n).start ≤ q)
    (hq : q < (d.nthLine n).stop) : d.lineHolding q = d.nthLine n := by
  have hline := lineHolding_start hn
  rw [← hline] at hq
  rw [lineHolding_eq_of_lt_stop hstart hq, hline]

/-- A line holds the end of its own text exactly if the text is free of breaks. -/
theorem lineHolding_stop_iff (hn : n < d.numLines) :
    d.lineHolding (d.nthLine n).stop = d.nthLine n ↔
      ∀ c ∈ (d.nthLine n).chars, isBreak c = false := by
  have hle := stop_nthLine hn
  rw [lineHolding_eq_nthLine_iff hn, (snap_nthLine hn).2, forall_isBreak_iff hn]
  exact ⟨fun h => h.2, fun h => ⟨by omega, h⟩⟩

/-! ### Columns on a line -/

/-- At the start of a line the column is `0`. -/
theorem columnOf_start (hn : n < d.numLines) (tab : Nat) :
    d.columnOf (d.nthLine n).start tab = 0 := by
  have hstop := stop_nthLine hn
  rw [columnOf_eq_columnAfter, lineHolding_start hn, Nat.sub_self, takeBytes_zero, columnAfter_nil]
  rw [lineHolding_start hn]
  omega

/-- Behind a break that a line's text keeps, the next line starts. -/
theorem columnOf_stop_of_kept (hn : n < d.numLines)
    (hkept : ¬ ∀ c ∈ (d.nthLine n).chars, isBreak c = false) (tab : Nat) :
    d.columnOf (d.nthLine n).stop tab = 0 := by
  rw [forall_isBreak_iff hn, not_or] at hkept
  have hnext : n + 1 < d.numLines := by omega
  -- Nothing stands between the text and the next line.
  have hstart : (d.nthLine n).stop = (d.nthLine (n + 1)).start := by
    obtain ⟨-, -, hgap⟩ := gapAfter_spec hn
    unfold nextStart at hkept hgap
    rw [if_pos hnext] at hkept hgap
    omega
  rw [hstart]
  exact columnOf_start hnext tab

/-- The column behind the first characters of a line is their width. -/
theorem columnOf_behind {lead rest : List Char} (hchars : (d.nthLine n).chars = lead ++ rest)
    (hn : n < d.numLines)
    (hline : d.lineHolding ((d.nthLine n).start + byteLength lead) = d.nthLine n) (tab : Nat) :
    d.columnOf ((d.nthLine n).start + byteLength lead) tab = columnAfter tab lead := by
  have hstop := stop_nthLine hn
  rw [hchars, byteLength_append] at hstop
  rw [columnOf_eq_columnAfter, hline, hchars, Nat.add_sub_cancel_left, takeBytes_byteLength]
  rw [hline]
  omega

/-- Without characters between them, two positions have the same column. -/
theorem columnOf_eq_of_charsBetween (h : p ≤ q) (hnone : d.charsBetween p q = []) (tab : Nat) :
    d.columnOf q tab = d.columnOf p tab := by
  have hcut := d.takeBytes_append_charsBetween h
  rw [hnone, List.append_nil] at hcut
  have hsnap : d.snap q = d.snap p := by
    unfold snap
    rw [hcut]
  rw [← columnOf_snap, hsnap, columnOf_snap]

/-- Two positions between the ends of a line's own text are on the line, unless the later one is the
end of a text that keeps its break. -/
theorem lineHolding_eq_or (hn : n < d.numLines) (hstart : (d.nthLine n).start ≤ p) (h : p ≤ q)
    (hq : q ≤ (d.nthLine n).stop) :
    d.lineHolding p = d.nthLine n ∧ d.lineHolding q = d.nthLine n ∨
      q = (d.nthLine n).stop ∧ ¬ ∀ c ∈ (d.nthLine n).chars, isBreak c = false := by
  by_cases hkept : q = (d.nthLine n).stop ∧ ¬ ∀ c ∈ (d.nthLine n).chars, isBreak c = false
  · exact .inr hkept
  · have hon : ∀ r, (d.nthLine n).start ≤ r → r ≤ q → d.lineHolding r = d.nthLine n := by
      intro r hr hrq
      rcases Nat.lt_or_eq_of_le (Nat.le_trans hrq hq) with hlt | rfl
      · exact lineHolding_of_lt_stop hn hr hlt
      · rw [lineHolding_stop_iff hn]
        rw [not_and, not_not] at hkept
        exact hkept (by omega)
    exact .inl ⟨hon p hstart h, hon q (Nat.le_trans hstart h) (Nat.le_refl q)⟩

/-- The column of `q` is that of `p` and at least one more for each character between them, but not
more than the distance of tab stops for each. -/
def ColumnBounds (d : Document) (tab p q : Nat) : Prop :=
  d.columnOf p tab + (d.charsBetween p q).length ≤ d.columnOf q tab ∧
    d.columnOf q tab ≤ d.columnOf p tab + (d.charsBetween p q).length * max tab 1

instance (d : Document) (tab p q : Nat) : Decidable (d.ColumnBounds tab p q) :=
  inferInstanceAs (Decidable (_ ∧ _))

/-- On a line the bounds on columns hold, except between some character of the line and the end of a
text that keeps its break. -/
theorem columnBounds_iff (hn : n < d.numLines) (hstart : (d.nthLine n).start ≤ p) (h : p ≤ q)
    (hq : q ≤ (d.nthLine n).stop) (tab : Nat) :
    d.ColumnBounds tab p q ↔
      d.charsBetween p q = [] ∨ q < (d.nthLine n).stop ∨
        ∀ c ∈ (d.nthLine n).chars, isBreak c = false := by
  have hpos : 0 < max tab 1 := by omega
  unfold ColumnBounds
  rcases lineHolding_eq_or hn hstart h hq with ⟨hp, hline⟩ | ⟨rfl, hkept⟩
  · -- Both positions are on the line, so the bounds hold, and they are promised.
    have hcolumn := columnOf_eq_foldl_of_lineHolding_eq h (hline.trans hp.symm) (hp ▸ hq) tab
    refine iff_of_true ?_ ?_
    · rw [hcolumn]
      exact ⟨add_length_le_foldl_advance hpos _ _, foldl_advance_le hpos _ _⟩
    · rcases Nat.lt_or_eq_of_le hq with hlt | rfl
      · exact .inr (.inl hlt)
      · exact .inr (.inr ((lineHolding_stop_iff hn).mp hline))
  · -- The column is `0` at the end, so nothing may stand in front of it.
    rw [columnOf_stop_of_kept hn hkept]
    constructor
    · rintro ⟨hlower, -⟩
      exact .inl (List.length_eq_zero_iff.mp (by omega))
    · rintro (hnone | hlt | hfree)
      · have hcolumn := columnOf_eq_of_charsBetween h hnone tab
        rw [columnOf_stop_of_kept hn hkept] at hcolumn
        rw [hnone, ← hcolumn]
        exact ⟨Nat.le_refl _, Nat.zero_le _⟩
      · exact absurd hlt (Nat.lt_irrefl _)
      · exact absurd hfree hkept

/-- Behind a tab on a line, the column is a tab stop. -/
theorem dvd_columnOf (hn : n < d.numLines) (hstart : (d.nthLine n).start ≤ p) (h : p ≤ q)
    (hq : q ≤ (d.nthLine n).stop) (htab : (d.charsBetween p q).getLast? = some '\t') (tab : Nat) :
    max tab 1 ∣ d.columnOf q tab := by
  have hpos : 0 < max tab 1 := by omega
  rcases lineHolding_eq_or hn hstart h hq with ⟨hp, hline⟩ | ⟨rfl, hkept⟩
  · rw [columnOf_eq_foldl_of_lineHolding_eq h (hline.trans hp.symm) (hp ▸ hq)]
    exact dvd_foldl_advance hpos _ htab
  · rw [columnOf_stop_of_kept hn hkept]
    exact Nat.dvd_zero _

/-- The indentation of a line is the column behind the spaces and tabs that it begins with. -/
theorem leadingWidth_nthLine (hn : n < d.numLines) {lead rest : List Char}
    (hchars : (d.nthLine n).chars = lead ++ rest) (hlead : ∀ c ∈ lead, isIndent c = true)
    (hrest : ∀ c ∈ rest.head?, isIndent c = false) (tab : Nat) :
    (d.nthLine n).leadingWidth tab = d.columnOf ((d.nthLine n).start + byteLength lead) tab := by
  have hstop := stop_nthLine hn
  have hline : d.lineHolding ((d.nthLine n).start + byteLength lead) = d.nthLine n := by
    cases rest with
    | nil =>
      -- The whole text is spaces and tabs, and so free of breaks.
      rw [List.append_nil] at hchars
      rw [← hchars, ← hstop, lineHolding_stop_iff hn, hchars]
      exact fun c hc => isBreak_of_isIndent (hlead c hc)
    | cons c rest =>
      have hpos := c.utf8Size_pos
      rw [hchars, byteLength_append, byteLength_cons] at hstop
      exact lineHolding_of_lt_stop hn (Nat.le_add_right _ _) (by omega)
  rw [columnOf_behind hchars hn hline, Line.leadingWidth, hchars, leadingWidth_append hlead hrest]

end Document

/-- From the start of a line to the end of its own text, each character between two positions adds
at least one to the column and at most the distance of tab stops. The one exception is the end of a
text that keeps its break: it is the start of the next line, and the bounds fail if a character
stands between the earlier position and that end. Behind a tab the column is a multiple of the
distance of tab stops. The indentation of a line is the column of its first character other than a
space or a tab, and of its end if there is none. Copies of a level that is accepted, with nothing or
another character behind them, are an indentation of as many times the width of the level. -/
theorem columns_and_widths (d : Document) (tab : Nat) :
    (∀ n p q, (d.nthLine n).start ≤ p → p ≤ q → q ≤ (d.nthLine n).stop →
      (d.ColumnBounds tab p q ↔
        d.charsBetween p q = [] ∨ q < (d.nthLine n).stop ∨
          ∀ c ∈ (d.nthLine n).chars, isBreak c = false) ∧
      ((d.charsBetween p q).getLast? = some '\t' → max tab 1 ∣ d.columnOf q tab)) ∧
    (∀ n lead c rest, (d.nthLine n).chars = lead ++ c :: rest →
      (∀ b ∈ lead, isIndent b = true) → isIndent c = false →
      (d.nthLine n).leadingWidth tab = d.columnOf ((d.nthLine n).start + byteLength lead) tab) ∧
    (∀ n, (∀ b ∈ (d.nthLine n).chars, isIndent b = true) →
      (d.nthLine n).leadingWidth tab = d.columnOf (d.nthLine n).stop tab) ∧
    ∀ s level, Level.ofString s = .ok level → ∀ m rest, (∀ c ∈ rest.head?, isIndent c = false) →
      leadingWidth tab ((List.replicate m s.toList).flatten ++ rest) = m * level.width tab := by
  refine ⟨fun n p q => ?_, fun n lead c rest => ?_, fun n => ?_, ?_⟩
  · obtain ⟨m, hm, hline, -⟩ := d.exists_nthLine_eq n
    rw [hline]
    intro hstart h hq
    exact ⟨Document.columnBounds_iff hm hstart h hq tab,
      fun htab => Document.dvd_columnOf hm hstart h hq htab tab⟩
  · obtain ⟨m, hm, hline, -⟩ := d.exists_nthLine_eq n
    rw [hline]
    intro hchars hlead hc
    exact Document.leadingWidth_nthLine hm hchars hlead (by simpa using hc) tab
  · obtain ⟨m, hm, hline, -⟩ := d.exists_nthLine_eq n
    rw [hline]
    intro hlead
    rw [Document.stop_nthLine hm]
    exact Document.leadingWidth_nthLine hm (List.append_nil _).symm hlead (by simp) tab
  · intro s level h m rest hrest
    exact Level.leadingWidth_of_ofString h m hrest tab

/-- A line with a tab and a character of two bytes that ends in a carriage return, and one of a
space and a tab. -/
def returnedLine : Document :=
  .ofString "\té b\r \t"

/-- The bounds hold up to the carriage return that the first line keeps, and not behind it. -/
theorem columns_and_widths_returnedLine :
    returnedLine.ColumnBounds 4 0 5 ∧ ¬ returnedLine.ColumnBounds 4 0 6 ∧
      4 ∣ returnedLine.columnOf 1 4 ∧
      (returnedLine.nthLine 0).leadingWidth 4 = returnedLine.columnOf 1 4 ∧
      (returnedLine.nthLine 1).leadingWidth 4 = returnedLine.columnOf 8 4 ∧
      leadingWidth 4 "\t\t\t\t\t\tx".toList = 3 * (Level.mk true 2 (by decide)).width 4 := by
  have hline : returnedLine.nthLine 0 = ⟨0, 0, 6, ['\t', 'é', ' ', 'b', '\r']⟩ := by decide +kernel
  have hblank : returnedLine.nthLine 1 = ⟨1, 6, 8, [' ', '\t']⟩ := by decide +kernel
  obtain ⟨hcolumns, hfirst, hall, hlevels⟩ := columns_and_widths returnedLine 4
  replace hcolumns := hcolumns 0 0
  replace hfirst := hfirst 0 ['\t'] 'é' [' ', 'b', '\r']
  replace hall := hall 1
  rw [hline] at hcolumns hfirst ⊢
  rw [hblank] at hall ⊢
  refine ⟨(hcolumns 5 (by decide) (by decide) (by decide)).1.mpr (.inr (.inl (by decide))), ?_,
    (hcolumns 1 (by decide) (by decide) (by decide)).2 (by decide +kernel),
    hfirst rfl (by simp [isIndent]) rfl, hall (by simp [isIndent]),
    hlevels "\t\t" _ rfl 3 ['x'] (by simp [isIndent])⟩
  intro h
  rcases (hcolumns 6 (by decide) (by decide) (by decide)).1.mp h with hnone | hlt | hfree
  · exact absurd hnone (by decide +kernel)
  · exact absurd hlt (by decide)
  · exact absurd (hfree '\r' (by simp)) (by decide)

/-- The end of a line's own text that keeps a carriage return is a boundary on that line, and yet
its column is less than the number of characters in front of it. -/
theorem columnOf_keptReturn :
    ((Document.ofString "a\rb").nthLine 0).start = 0 ∧
      ((Document.ofString "a\rb").nthLine 0).stop = 2 ∧
      (Document.ofString "a\rb").IsBoundary 0 ∧ (Document.ofString "a\rb").IsBoundary 2 ∧
      (Document.ofString "a\rb").charsBetween 0 2 = ['a', '\r'] ∧
      ¬ (Document.ofString "a\rb").columnOf 0 4 + 2 ≤ (Document.ofString "a\rb").columnOf 2 4 := by
  decide +kernel

end TreeAssist
