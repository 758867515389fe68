import TreeAssist.Proofs.Text.Columns

/-!
# Lines tile the document

The lines of a document with their breaks stand one behind the other: a line starts where the text
in front of it ends (`Document.start_nthLine`), and the next one where the text up to its end ends
(`Document.nextStart_eq`). Between a line's own text and the next line there is a gap
(`Document.gapAfter`), which is a line feed, a carriage return and a line feed, or empty; a line and
its gap are one of the pieces that the text is cut into (`Document.gapAfter_spec`).

A position lies on one line only (`Document.number_lineHolding_eq_iff`). No line starts between a
carriage return and a line feed (`Text.getLast?_take_rawLines_ne`), so a position between the two
lies on the line that they end (`Document.lineHolding_inside_break`).

Main statement: `lines_tile`.
-/

namespace TreeAssist

open Text

namespace Text

/-- A list in two parts ends as the second part does, or as the first if the second is empty. -/
theorem getLast?_append_ne {α : Type} {x : α} {l l' : List α} (h : l' = [] → l.getLast? ≠ some x)
    (h' : l'.getLast? ≠ some x) : (l ++ l').getLast? ≠ some x := by
  intro heq
  rw [List.getLast?_append, Option.or_eq_some_iff] at heq
  rcases heq with heq | ⟨hnone, heq⟩
  · exact h' heq
  · exact h (List.getLast?_eq_none_iff.mp hnone) heq

/-- A text is not cut between a carriage return and a line feed. -/
theorem getLast?_take_rawLines_ne {cs ds : List Char} {n : Nat}
    (h : ((rawLines cs).drop n).flatten = '\n' :: ds) :
    ((rawLines cs).take n).flatten.getLast? ≠ some '\r' := by
  -- The piece in front of the cut is the first one, if the others up to the cut are empty, and
  -- otherwise one of those.
  fun_induction rawLines cs generalizing n with
  | case1 => cases n <;> simp at h
  | case2 cs ih =>
    cases n with
    | zero => simp
    | succ n =>
      rw [List.take_succ_cons, List.flatten_cons]
      exact getLast?_append_ne (by simp) (ih h)
  | case3 c cs hcr hbreak ih =>
    cases n with
    | zero => simp
    | succ n =>
      rw [List.drop_succ_cons] at h
      rw [List.take_succ_cons, List.flatten_cons]
      refine getLast?_append_ne (fun hnil => ?_) (ih h)
      -- Nothing stands between `c` and the line feed, so the two would be one break.
      have hcs : cs = '\n' :: ds := by
        rw [← flatten_rawLines cs, ← List.take_append_drop n (rawLines cs), List.flatten_append,
          hnil, h, List.nil_append]
      simpa using fun hc => hcr ds hc hcs
  | case4 c cs hcr hbreak ih =>
    obtain ⟨l, ls, hls⟩ := List.exists_cons_of_ne_nil (rawLines_ne_nil cs)
    rw [hls] at h ih ⊢
    cases n with
    | zero => simp
    | succ n =>
      rw [consFirst, List.take_succ_cons, List.flatten_cons, List.cons_append, ← List.flatten_cons,
        ← List.take_succ_cons, ← List.singleton_append]
      refine getLast?_append_ne (fun _ => ?_) (ih h)
      -- A carriage return is a break.
      intro hc
      obtain rfl : c = '\r' := by simpa using hc
      exact hbreak rfl

end Text

namespace Document

variable {d : Document} {n : Nat}

/-! ### Pieces of the text -/

/-- The text between the ends of two pieces in a row is the second piece. -/
theorem charsBetween_of_eq_append {before cs behind : List Char}
    (h : d.chars = before ++ (cs ++ behind)) :
    d.charsBetween (byteLength before) (byteLength before + byteLength cs) = cs := by
  unfold charsBetween
  rw [h, takeBytes_byteLength_add, takeBytes_byteLength, takeBytes_byteLength, List.drop_left]

/-- The end of a first piece of the text lies between two characters. -/
theorem snap_of_eq_append {before behind : List Char} (h : d.chars = before ++ behind) :
    d.snap (byteLength before) = byteLength before := by
  unfold snap
  rw [h, takeBytes_byteLength]

/-- Where the line behind the line numbered `n` starts. Behind the last line that is the end of the
document. -/
def nextStart (d : Document) (n : Nat) : Nat :=
  if n + 1 < d.numLines then (d.nthLine (n + 1)).start else d.size

/-- What stands between the text of the line numbered `n` and the line behind it. -/
def gapAfter (d : Document) (n : Nat) : List Char :=
  d.charsBetween (d.nthLine n).stop (d.nextStart n)

/-! ### Lines by their numbers -/

/-- The numbers behind that of the last line stand for the last line. -/
theorem exists_nthLine_eq (d : Document) (n : Nat) :
    ∃ m < d.numLines, d.nthLine n = d.nthLine m ∧ d.nextStart n = d.nextStart m := by
  have hpos := d.numLines_pos
  rcases Nat.lt_or_ge n d.numLines with h | h
  · exact ⟨n, h, rfl, rfl⟩
  · refine ⟨d.numLines - 1, by omega, ?_, ?_⟩
    · have hmin : min n (d.numLines - 1) = min (d.numLines - 1) (d.numLines - 1) := by omega
      unfold nthLine
      simp only [hmin]
    · unfold nextStart
      rw [if_neg (by omega), if_neg (by omega)]

/-- A line starts behind the text in front of it. -/
theorem start_nthLine (h : n < d.numLines) :
    (d.nthLine n).start = byteLength (d.textBefore n) := by
  obtain ⟨-, -, hstart, -⟩ := lines_getElem?_eq_some (lines_getElem?_nthLine h)
  exact hstart

/-- A line ends where its own text does. -/
theorem stop_nthLine (h : n < d.numLines) :
    (d.nthLine n).stop = (d.nthLine n).start + byteLength (d.nthLine n).chars :=
  stop_of_mem_linesFrom (List.mem_of_getElem? (lines_getElem?_nthLine h))

/-- The next line starts behind the text up to the end of a line. -/
theorem nextStart_eq (h : n < d.numLines) :
    d.nextStart n = byteLength (d.textBefore (n + 1)) := by
  unfold nextStart
  split
  · rename_i hnext
    exact start_nthLine hnext
  · rename_i hlast
    have hend : n + 1 = d.numLines := by omega
    rw [hend, textBefore_numLines, size]

/-! ### Lines and gaps -/

/-- Behind a line's own text there is a piece of the text that reaches up to the next line. -/
theorem exists_split_nthLine (h : n < d.numLines) :
    ∃ gap ∈ [[], ['\n'], ['\r', '\n']], ∃ behind,
      (rawLines d.chars)[n]? = some ((d.nthLine n).chars ++ gap) ∧
      d.chars = d.textBefore n ++ ((d.nthLine n).chars ++ (gap ++ behind)) ∧
      d.nextStart n = (d.nthLine n).stop + byteLength gap := by
  obtain ⟨raw, hraw, -, hchars⟩ := lines_getElem?_eq_some (lines_getElem?_nthLine h)
  obtain ⟨gap, hgap, hsplit⟩ := exists_eq_stripBreak_append raw
  rw [← hchars] at hsplit
  have hnext := textBefore_succ hraw
  refine ⟨gap, hgap, ((rawLines d.chars).drop (n + 1)).flatten, hsplit ▸ hraw, ?_, ?_⟩
  · calc d.chars
        = d.textBefore (n + 1) ++ ((rawLines d.chars).drop (n + 1)).flatten :=
          (d.textBefore_append (n + 1)).symm
      _ = d.textBefore n ++ raw ++ ((rawLines d.chars).drop (n + 1)).flatten := by rw [hnext]
      _ = _ := by rw [hsplit]; simp only [List.append_assoc]
  · rw [nextStart_eq h, hnext, hsplit, stop_nthLine h, start_nthLine h]
    simp only [byteLength_append, Nat.add_assoc]

/-- A line is the text between its ends. -/
theorem charsBetween_nthLine (h : n < d.numLines) :
    d.charsBetween (d.nthLine n).start (d.nthLine n).stop = (d.nthLine n).chars := by
  obtain ⟨gap, -, behind, -, hsplit, -⟩ := exists_split_nthLine h
  rw [stop_nthLine h, start_nthLine h]
  exact charsBetween_of_eq_append hsplit

/-- A line starts and ends between characters. -/
theorem snap_nthLine (h : n < d.numLines) :
    d.snap (d.nthLine n).start = (d.nthLine n).start ∧
      d.snap (d.nthLine n).stop = (d.nthLine n).stop := by
  obtain ⟨gap, -, behind, -, hsplit, -⟩ := exists_split_nthLine h
  rw [stop_nthLine h, start_nthLine h]
  refine ⟨snap_of_eq_append hsplit, ?_⟩
  rw [← List.append_assoc] at hsplit
  rw [← byteLength_append]
  exact snap_of_eq_append hsplit

/-- The gap behind a line is a line feed, a carriage return and a line feed, or empty. A line and
its gap are one of the pieces that the text is cut into. -/
theorem gapAfter_spec (h : n < d.numLines) :
    d.gapAfter n ∈ [[], ['\n'], ['\r', '\n']] ∧
      (rawLines d.chars)[n]? = some ((d.nthLine n).chars ++ d.gapAfter n) ∧
      d.nextStart n = (d.nthLine n).stop + byteLength (d.gapAfter n) := by
  obtain ⟨gap, hgap, behind, hraw, hsplit, hnext⟩ := exists_split_nthLine h
  have heq : d.gapAfter n = gap := by
    rw [← List.append_assoc] at hsplit
    unfold gapAfter
    rw [hnext, stop_nthLine h, start_nthLine h, ← byteLength_append]
    exact charsBetween_of_eq_append hsplit
  rw [heq]
  exact ⟨hgap, hraw, hnext⟩

/-- The lines and the gaps behind them make up the text. -/
theorem flatMap_chars_append_gapAfter (d : Document) :
    ((List.range d.numLines).flatMap fun n => (d.nthLine n).chars ++ d.gapAfter n) = d.chars := by
  have hpieces : ((List.range d.numLines).map fun n => (d.nthLine n).chars ++ d.gapAfter n) =
      rawLines d.chars := by
    apply List.ext_getElem?
    intro n
    rw [List.getElem?_map]
    rcases Nat.lt_or_ge n d.numLines with h | h
    · rw [List.getElem?_range h, (gapAfter_spec h).2.1]
      rfl
    · rw [List.getElem?_eq_none (by simpa using h), List.getElem?_eq_none (d.numLines_eq ▸ h)]
      rfl
  rw [List.flatMap, hpieces, flatten_rawLines]

/-! ### The line of a position -/

/-- The line that holds a position is the only one that starts at or before it and goes on up to the
next line, or is the last one. -/
theorem number_lineHolding_eq_iff (d : Document) (pos n : Nat) :
    (d.lineHolding pos).number = n ↔
      n < d.numLines ∧ (d.nthLine n).start ≤ d.snap pos ∧
        (n + 1 = d.numLines ∨ d.snap pos < (d.nthLine (n + 1)).start) := by
  have hlt := d.lineNumberOf_lt pos
  have hstart := d.start_lineHolding_le_snap pos
  have hnext : d.lineNumberOf pos + 1 < d.numLines →
      d.snap pos < (d.nthLine (d.lineNumberOf pos + 1)).start :=
    fun h => snap_lt_start_next (lines_getElem?_nthLine h)
  rw [number_lineHolding]
  constructor
  · rintro rfl
    refine ⟨hlt, hstart, ?_⟩
    rcases Nat.lt_or_ge (d.lineNumberOf pos + 1) d.numLines with h | h
    · exact .inr (hnext h)
    · exact .inl (by omega)
  · rintro ⟨hn, hle, hbehind⟩
    change (d.nthLine (d.lineNumberOf pos)).start ≤ _ at hstart
    rw [start_nthLine hlt] at hstart
    rw [start_nthLine hn] at hle
    -- If one of the two lines came before the other, the line behind it would start too early.
    rcases Nat.lt_trichotomy (d.lineNumberOf pos) n with hbefore | heq | hafter
    · have hmono := d.byteLength_textBefore_mono (show d.lineNumberOf pos + 1 ≤ n from hbefore)
      have hsnap := hnext (by omega)
      rw [start_nthLine (by omega)] at hsnap
      omega
    · exact heq
    · have hmono := d.byteLength_textBefore_mono (show n + 1 ≤ d.lineNumberOf pos from hafter)
      rcases hbehind with hlast | hsnap
      · omega
      · rw [start_nthLine (by omega)] at hsnap
        omega

/-- A line holds the positions from its start up to the start of the next one. -/
theorem lineHolding_eq_nthLine_iff (hn : n < d.numLines) :
    d.lineHolding q = d.nthLine n ↔
      (d.nthLine n).start ≤ d.snap q ∧ (n + 1 = d.numLines ∨ d.snap q < d.nextStart n) := by
  have hnumber : d.lineHolding q = d.nthLine n ↔ (d.lineHolding q).number = n := by
    constructor
    · intro h
      rw [h, number_of_linesFrom_getElem? (lines_getElem?_nthLine hn), Nat.zero_add]
    · intro h
      rw [number_lineHolding] at h
      unfold lineHolding
      rw [h]
  rw [hnumber, number_lineHolding_eq_iff, nextStart]
  split
  · simp [hn]
  · rename_i hlast
    have hend : n + 1 = d.numLines := by omega
    simp [hn, hend]

/-- No line starts between a carriage return and a line feed. -/
theorem start_nthLine_ne {before behind : List Char}
    (h : d.chars = before ++ '\r' :: '\n' :: behind) (hn : n < d.numLines) :
    (d.nthLine n).start ≠ byteLength (before ++ ['\r']) := by
  have hsplit : d.chars = (before ++ ['\r']) ++ '\n' :: behind := by simpa using h
  intro heq
  rw [start_nthLine hn] at heq
  -- The text in front of the line would be the text up to the carriage return.
  have hfront : d.textBefore n = before ++ ['\r'] := by
    have hline := takeBytes_byteLength (d.textBefore n) ((rawLines d.chars).drop n).flatten
    have hreturn := takeBytes_byteLength (before ++ ['\r']) ('\n' :: behind)
    rw [textBefore_append] at hline
    rw [← hsplit, ← heq] at hreturn
    exact hline.symm.trans hreturn
  have hbehind := (d.textBefore_append n).trans hsplit
  rw [hfront] at hbehind
  refine getLast?_take_rawLines_ne (List.append_cancel_left hbehind) ?_
  change (d.textBefore n).getLast? = _
  rw [hfront, List.getLast?_concat]

/-- A position between a carriage return and a line feed lies on the line of the carriage return. -/
theorem lineHolding_inside_break {before behind : List Char}
    (h : d.chars = before ++ '\r' :: '\n' :: behind) :
    d.lineHolding (byteLength (before ++ ['\r'])) = d.lineHolding (byteLength before) := by
  have hsplit : d.chars = (before ++ ['\r']) ++ '\n' :: behind := by simpa using h
  have hlength : byteLength (before ++ ['\r']) = byteLength before + 1 := byteLength_append _ _
  obtain ⟨hlt, hle, hnext⟩ := (d.number_lineHolding_eq_iff (byteLength before) _).mp rfl
  rw [snap_of_eq_append h, number_lineHolding] at hle hnext
  rw [number_lineHolding] at hlt
  have hnumber : (d.lineHolding (byteLength (before ++ ['\r']))).number =
      d.lineNumberOf (byteLength before) := by
    rw [number_lineHolding_eq_iff, snap_of_eq_append hsplit]
    refine ⟨hlt, by omega, ?_⟩
    rcases Nat.lt_or_ge (d.lineNumberOf (byteLength before) + 1) d.numLines with hlines | hlines
    · -- The next line starts behind the carriage return, and not right behind it.
      have hne := start_nthLine_ne h hlines
      omega
    · exact .inl (by omega)
  rw [number_lineHolding] at hnumber
  unfold lineHolding
  rw [hnumber]

/-- A line's own text up to a position and the rest of the line from there make up the line. -/
theorem charsBetween_append_restOfLine (d : Document) (pos : Nat) :
    d.charsBetween (d.lineHolding pos).start (min (d.snap pos) (d.lineHolding pos).stop) ++
      d.restOfLine pos = (d.lineHolding pos).chars := by
  obtain ⟨before, -, hcut⟩ := d.exists_takeBytes_eq pos
  have hle := d.start_lineHolding_le_snap pos
  have hstop := d.stop_lineHolding pos
  have hmin : min (d.snap pos) (d.lineHolding pos).stop = (d.lineHolding pos).start +
      min (d.snap pos - (d.lineHolding pos).start) (byteLength (d.lineHolding pos).chars) := by
    omega
  -- What stands between is what the later cut adds to the text in front of the line.
  have hfront := hcut 0 (Nat.zero_le _)
  rw [Nat.add_zero, takeBytes_zero, List.append_nil] at hfront
  have hpiece : d.charsBetween (d.lineHolding pos).start
      (min (d.snap pos) (d.lineHolding pos).stop) =
        takeBytes (d.snap pos - (d.lineHolding pos).start) (d.lineHolding pos).chars := by
    unfold charsBetween
    rw [hmin, hcut _ (Nat.min_le_right _ _), hfront, List.drop_left, takeBytes_min]
  rw [hpiece]
  exact takeBytes_append_dropBytes _ _

end Document

/-- The first line starts at the start of the document. Each line is the text between its ends,
which lie between characters, and what stands between a line and the next one, or the end of the
document, is a line feed, a carriage return and a line feed, or nothing. So the lines and these gaps
make up the text. The line that holds a position is the only one that starts at or before the
position and is the last one or is followed by a line that starts behind the position; between a
carriage return and a line feed it is the line of the carriage return. What stands on it in front of
the position and the rest of the line from there make up its text. -/
theorem lines_tile (d : Document) :
    (d.nthLine 0).start = 0 ∧
      (∀ n, (d.nthLine n).start ≤ (d.nthLine n).stop ∧ (d.nthLine n).stop ≤ d.nextStart n ∧
        d.snap (d.nthLine n).start = (d.nthLine n).start ∧
        d.snap (d.nthLine n).stop = (d.nthLine n).stop ∧
        d.charsBetween (d.nthLine n).start (d.nthLine n).stop = (d.nthLine n).chars ∧
        d.gapAfter n ∈ [[], ['\n'], ['\r', '\n']]) ∧
      ((List.range d.numLines).flatMap fun n => (d.nthLine n).chars ++ d.gapAfter n) = d.chars ∧
      (∀ pos, d.nthLine (d.lineHolding pos).number = d.lineHolding pos ∧
        ∀ n, (d.lineHolding pos).number = n ↔
          n < d.numLines ∧ (d.nthLine n).start ≤ d.snap pos ∧
            (n + 1 = d.numLines ∨ d.snap pos < (d.nthLine (n + 1)).start)) ∧
      (∀ before behind, d.chars = before ++ '\r' :: '\n' :: behind →
        d.lineHolding (byteLength (before ++ ['\r'])) = d.lineHolding (byteLength before)) ∧
      ∀ pos, d.charsBetween (d.lineHolding pos).start
          (min (d.snap pos) (d.lineHolding pos).stop) ++ d.restOfLine pos =
        (d.lineHolding pos).chars := by
  refine ⟨Document.start_nthLine d.numLines_pos, ?_, d.flatMap_chars_append_gapAfter, ?_,
    fun _ _ => Document.lineHolding_inside_break, d.charsBetween_append_restOfLine⟩
  · intro n
    obtain ⟨m, hm, hline, hnext⟩ := d.exists_nthLine_eq n
    have hgap : d.gapAfter n = d.gapAfter m := by
      unfold Document.gapAfter
      rw [hline, hnext]
    obtain ⟨hmem, -, hbehind⟩ := Document.gapAfter_spec hm
    have hstop := Document.stop_nthLine hm
    rw [hline, hnext, hgap]
    exact ⟨by omega, by omega, (Document.snap_nthLine hm).1, (Document.snap_nthLine hm).2,
      Document.charsBetween_nthLine hm, hmem⟩
  · intro pos
    rw [d.number_lineHolding pos]
    refine ⟨rfl, fun n => ?_⟩
    rw [← d.number_lineHolding pos]
    exact d.number_lineHolding_eq_iff pos n

/-- Between the carriage return and the line feed behind a character of two bytes, a position lies
on the first line, and the line's text is that character. -/
theorem lines_tile_twoBytes :
    (Document.ofString "é\r\nb").lineHolding 3 = (Document.ofString "é\r\nb").lineHolding 2 ∧
      (Document.ofString "é\r\nb").charsBetween 0 2 = ['é'] := by
  obtain ⟨-, hlines, -, -, hinside, -⟩ := lines_tile (Document.ofString "é\r\nb")
  exact ⟨hinside ['é'] ['b'] rfl, (hlines 0).2.2.2.2.1⟩

end TreeAssist
