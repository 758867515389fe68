import TreeAssist.Proofs.Text.Lines

/-!
# Columns along a line

Up to the end of a line's own text, positions behind one on the line lie on the same line
(`Document.lineHolding_eq_of_lt_stop`). The column of such a position continues that of the earlier
one with the characters between the two (`Document.columnOf_eq_foldl`), each of which is at least
one column wide (`Text.add_length_le_foldl_advance`). So two positions of a line have the same
column exactly if no character stands between them (`Document.columnOf_eq_iff`).
-/

namespace TreeAssist

open Text

namespace Text

/-- Every character moves the column on by at least one. -/
theorem add_length_le_foldl_advance {tab : Nat} (h : 0 < tab) (col : Nat) (cs : List Char) :
    col + cs.length ≤ cs.foldl (advance tab) col := by
  induction cs generalizing col with
  | nil => exact Nat.le_refl _
  | cons c cs ih =>
    have hlt := lt_advance h col c
    have hrest := ih (advance tab col c)
    simp only [List.foldl_cons, List.length_cons]
    omega

/-- A line begins with what is left of it without its break, and only a line feed, a carriage return
and a line feed, or nothing follows. -/
theorem exists_eq_stripBreak_append (raw : List Char) :
    ∃ ending ∈ [[], ['\n'], ['\r', '\n']], raw = stripBreak raw ++ ending := by
  -- A break is looked for from the end.
  unfold stripBreak
  split
  · rename_i cs heq
    exact ⟨['\r', '\n'], by simp, by simpa using congrArg List.reverse heq⟩
  · rename_i cs heq
    exact ⟨['\n'], by simp, by simpa using congrArg List.reverse heq⟩
  · exact ⟨[], by simp, (List.append_nil raw).symm⟩

theorem byteLength_stripBreak_le (raw : List Char) :
    byteLength (stripBreak raw) ≤ byteLength raw := by
  obtain ⟨ending, -, hending⟩ := exists_eq_stripBreak_append raw
  have hlength := congrArg byteLength hending
  rw [byteLength_append] at hlength
  omega

end Text

namespace Document

/-- A line ends where its own text does. -/
theorem stop_of_mem_linesFrom {number start : Nat} {raws : List (List Char)} {l : Line}
    (h : l ∈ linesFrom number start raws) : l.stop = l.start + byteLength l.chars := by
  induction raws generalizing number start with
  | nil => cases h
  | cons raw raws ih =>
    rcases List.mem_cons.mp h with rfl | h
    · rfl
    · exact ih h

theorem stop_lineHolding (d : Document) (pos : Nat) :
    (d.lineHolding pos).stop =
      (d.lineHolding pos).start + byteLength (d.lineHolding pos).chars :=
  stop_of_mem_linesFrom (d.lineHolding_mem pos)

/-- A line ends at or before the start of every later one. -/
theorem stop_lineHolding_le_start {d : Document} {p q : Nat}
    (h : d.lineNumberOf p < d.lineNumberOf q) :
    (d.lineHolding p).stop ≤ (d.lineHolding q).start := by
  obtain ⟨raw, hraw, hstart, hchars⟩ :=
    lines_getElem?_eq_some (d.lines_getElem?_lineNumberOf p)
  obtain ⟨-, -, hstart', -⟩ := lines_getElem?_eq_some (d.lines_getElem?_lineNumberOf q)
  -- In front of the later line there is at least the earlier one with its break.
  have hown := byteLength_stripBreak_le raw
  have hmono := d.byteLength_textBefore_mono (show d.lineNumberOf p + 1 ≤ d.lineNumberOf q from h)
  rw [textBefore_succ hraw, byteLength_append] at hmono
  rw [d.stop_lineHolding, hstart, hstart', hchars]
  omega

/-- Up to the end of a line's own text, later positions lie on the same line. -/
theorem lineHolding_eq_of_lt_stop {d : Document} {p q : Nat} (h : p ≤ q)
    (hq : q < (d.lineHolding p).stop) : d.lineHolding q = d.lineHolding p := by
  have hle := d.lineNumberOf_mono h
  rcases Nat.lt_or_eq_of_le hle with hlt | heq
  · have hstop := stop_lineHolding_le_start hlt
    have hstart := d.start_lineHolding_le q
    omega
  · unfold lineHolding
    rw [heq]

/-- A cut inside a line's own text is a cut of that text, behind all that stands before the line. -/
theorem exists_takeBytes_eq (d : Document) (pos : Nat) :
    ∃ before, (d.lineHolding pos).start = byteLength before ∧
      ∀ k ≤ byteLength (d.lineHolding pos).chars,
        takeBytes ((d.lineHolding pos).start + k) d.chars =
          before ++ takeBytes k (d.lineHolding pos).chars := by
  obtain ⟨before, raw, behind, hsplit, hstart, hchars, -⟩ := d.exists_split_lineHolding pos
  obtain ⟨ending, -, hending⟩ := exists_eq_stripBreak_append raw
  refine ⟨before, hstart, fun k hk => ?_⟩
  have hbehind : raw ++ behind = (d.lineHolding pos).chars ++ (ending ++ behind) := by
    rw [hchars, ← List.append_assoc, ← hending]
  rw [hstart, hsplit, hbehind, takeBytes_byteLength_add, takeBytes_append _ hk]

/-- The characters of the document between two positions. -/
def charsBetween (d : Document) (p q : Nat) : List Char :=
  (takeBytes q d.chars).drop (takeBytes p d.chars).length

/-- What stands before a position is what stands before an earlier one and between the two. -/
theorem takeBytes_append_charsBetween (d : Document) {p q : Nat} (h : p ≤ q) :
    takeBytes p d.chars ++ d.charsBetween p q = takeBytes q d.chars := by
  obtain ⟨k, hk⟩ := takeBytes_eq_append h d.chars
  unfold charsBetween
  rw [hk, List.drop_left]

/-- The column of a position in a line's own text is that of what stands before it in the line. -/
theorem columnOf_eq_columnAfter (d : Document) {pos : Nat} (h : pos ≤ (d.lineHolding pos).stop)
    (tab : Nat) :
    d.columnOf pos tab =
      columnAfter tab (takeBytes (pos - (d.lineHolding pos).start) (d.lineHolding pos).chars) := by
  obtain ⟨before, hstart, hcut⟩ := d.exists_takeBytes_eq pos
  have hle := d.start_lineHolding_le pos
  have hstop := d.stop_lineHolding pos
  have hpos := hcut (pos - (d.lineHolding pos).start) (by omega)
  rw [Nat.add_sub_cancel' hle] at hpos
  -- Snapping cuts the line's text at the same place.
  have hsnap : d.snap pos - (d.lineHolding pos).start = byteLength
      (takeBytes (pos - (d.lineHolding pos).start) (d.lineHolding pos).chars) := by
    unfold snap
    rw [hpos, byteLength_append, ← hstart, Nat.add_sub_cancel_left]
  unfold columnOf
  simp only
  rw [hsnap, takeBytes_byteLength_takeBytes]

/-- On a line, the column of a position continues that of an earlier one with the characters between
them. -/
theorem columnOf_eq_foldl_of_lineHolding_eq {d : Document} {p q : Nat} (h : p ≤ q)
    (hline : d.lineHolding q = d.lineHolding p) (hq : q ≤ (d.lineHolding p).stop) (tab : Nat) :
    d.columnOf q tab = (d.charsBetween p q).foldl (advance (max tab 1)) (d.columnOf p tab) := by
  rw [d.columnOf_eq_columnAfter (hline ▸ hq), hline, d.columnOf_eq_columnAfter (by omega),
    ← columnAfter_append]
  -- Both cuts of the line stand behind the same text, as the cuts of the document do.
  obtain ⟨before, -, hcut⟩ := d.exists_takeBytes_eq p
  have hle := d.start_lineHolding_le p
  have hstop := d.stop_lineHolding p
  have hcutp := hcut (p - (d.lineHolding p).start) (by omega)
  have hcutq := hcut (q - (d.lineHolding p).start) (by omega)
  rw [Nat.add_sub_cancel' hle] at hcutp
  rw [Nat.add_sub_cancel' (Nat.le_trans hle h), ← d.takeBytes_append_charsBetween h, hcutp,
    List.append_assoc] at hcutq
  rw [List.append_cancel_left hcutq]

/-- Along a line's own text, the column of a position continues that of an earlier one with the
characters between them. -/
theorem columnOf_eq_foldl {d : Document} {p q : Nat} (h : p ≤ q)
    (hq : q < (d.lineHolding p).stop) (tab : Nat) :
    d.columnOf q tab = (d.charsBetween p q).foldl (advance (max tab 1)) (d.columnOf p tab) :=
  columnOf_eq_foldl_of_lineHolding_eq h (lineHolding_eq_of_lt_stop h hq) (Nat.le_of_lt hq) tab

/-- Along a line's own text, columns grow by at least one for each character. -/
theorem columnOf_add_length_le {d : Document} {p q : Nat} (h : p ≤ q)
    (hq : q < (d.lineHolding p).stop) (tab : Nat) :
    d.columnOf p tab + (d.charsBetween p q).length ≤ d.columnOf q tab := by
  rw [columnOf_eq_foldl h hq]
  exact add_length_le_foldl_advance (Nat.lt_of_lt_of_le Nat.zero_lt_one (Nat.le_max_right _ _)) _ _

/-- Along a line's own text, two positions have the same column exactly if no character stands
between them. -/
theorem columnOf_eq_iff {d : Document} {p q : Nat} (h : p ≤ q)
    (hq : q < (d.lineHolding p).stop) (tab : Nat) :
    d.columnOf p tab = d.columnOf q tab ↔ d.charsBetween p q = [] := by
  constructor
  · intro heq
    have hle := columnOf_add_length_le h hq tab
    exact List.length_eq_zero_iff.mp (by omega)
  · intro hnone
    rw [columnOf_eq_foldl h hq, hnone, List.foldl_nil]

end Document

end TreeAssist
