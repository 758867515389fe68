import Mathlib.Data.List.TakeWhile
import TreeAssist.Proofs.Text.Bytes

/-!
# Lines of a document

The line that holds a position is a piece of the text around it
(`Document.exists_split_lineHolding`): it starts at or before the position, and the next line starts
behind it. In front of a position in a blank line, text therefore ends at or before the start of
that line (`Document.endOfTextBefore_le_start`). Later positions lie on later lines
(`Document.lineNumberOf_mono`).

A text that ends in a line feed has the same lines whatever follows it (`exists_rawLines_append`),
so documents that begin with it have the same line at each of its positions
(`Document.lineHolding_append`).
-/

namespace TreeAssist

open Text

namespace Text

/-- A line is blank with its break if it is without. -/
theorem all_isBlank_of_stripBreak {raw : List Char} (h : (stripBreak raw).all isBlank = true) :
    raw.all isBlank = true := by
  -- A break is looked for from the end, and what is stripped is blank.
  rw [← List.all_reverse]
  revert h
  unfold stripBreak
  split
  · rename_i cs heq
    rw [heq, List.all_reverse]
    intro h
    simp only [List.all_cons, h, Bool.and_true]
    decide
  · rename_i cs heq
    rw [heq, List.all_reverse]
    intro h
    simp only [List.all_cons, h, Bool.and_true]
    decide
  · rw [List.all_reverse]
    exact id

/-- A character at the front of some lines goes to the first of them. -/
theorem consFirst_append {α : Type} (x : α) {ls : List (List α)} (h : ls ≠ [])
    (ms : List (List α)) : consFirst x (ls ++ ms) = consFirst x ls ++ ms := by
  cases ls with
  | nil => exact absurd rfl h
  | cons l ls => rfl

/-- The first character of a text decides on the first line, unless a carriage return and a line
feed come together. -/
theorem rawLines_cons {c : Char} {cs : List Char} (h : c = '\r' → cs.head? ≠ some '\n') :
    rawLines (c :: cs) =
      if isBreak c then [c] :: rawLines cs else consFirst c (rawLines cs) := by
  rw [rawLines]
  rintro ds rfl rfl
  exact h rfl rfl

/-- What follows a text that is not empty does not change how it begins. -/
theorem head?_append_ne {c : Char} {cs : List Char} (hne : cs ≠ [])
    (h : ∀ ds, c = '\r' → cs = '\n' :: ds → False) (ds : List Char) :
    c = '\r' → (cs ++ ds).head? ≠ some '\n' := by
  intro hc
  cases cs with
  | nil => exact absurd rfl hne
  | cons d cs =>
    simp only [List.cons_append, List.head?_cons, ne_eq, Option.some.injEq]
    rintro rfl
    exact h cs hc rfl

/-- A text that ends in a line feed is cut into the same lines whatever follows. -/
theorem exists_rawLines_append {cs : List Char} (h : cs.getLast? = some '\n') :
    ∃ ls, ls ≠ [] ∧ ∀ ds, rawLines (cs ++ ds) = ls ++ rawLines ds := by
  -- A carriage return at the end could join a line feed behind it, but `cs` ends in a line feed:
  -- what follows never changes how a character of `cs` is read.
  fun_induction rawLines cs with
  | case1 => cases h
  | case2 cs ih =>
    by_cases hne : cs = []
    · subst hne
      exact ⟨[['\r', '\n']], by simp, fun ds => rfl⟩
    · rw [List.getLast?_cons_cons, List.getLast?_cons_of_ne_nil hne] at h
      obtain ⟨ls, -, hls⟩ := ih h
      refine ⟨['\r', '\n'] :: ls, by simp, fun ds => ?_⟩
      simp only [List.cons_append, rawLines]
      rw [hls ds]
  | case3 c cs hcr hbreak ih =>
    by_cases hne : cs = []
    · -- The line feed itself.
      subst hne
      obtain rfl : c = '\n' := by simpa using h
      exact ⟨[['\n']], by simp, fun ds => rfl⟩
    · rw [List.getLast?_cons_of_ne_nil hne] at h
      obtain ⟨ls, -, hls⟩ := ih h
      refine ⟨[c] :: ls, by simp, fun ds => ?_⟩
      rw [List.cons_append, rawLines_cons (head?_append_ne hne hcr ds), if_pos hbreak, hls ds]
      rfl
  | case4 c cs hcr hbreak ih =>
    by_cases hne : cs = []
    · -- A line feed is a break.
      subst hne
      obtain rfl : c = '\n' := by simpa using h
      exact absurd (by decide) hbreak
    · rw [List.getLast?_cons_of_ne_nil hne] at h
      obtain ⟨ls, hls_ne, hls⟩ := ih h
      refine ⟨consFirst c ls, ?_, fun ds => ?_⟩
      · cases ls <;> simp [consFirst]
      · rw [List.cons_append, rawLines_cons (head?_append_ne hne hcr ds), if_neg hbreak, hls ds,
          consFirst_append c hls_ne]

end Text

namespace Document

/-- The lines of two texts in a row: those of the second go on where the first ends. -/
theorem linesFrom_append (number start : Nat) (ls ms : List (List Char)) :
    linesFrom number start (ls ++ ms) =
      linesFrom number start ls ++
        linesFrom (number + ls.length) (start + byteLength ls.flatten) ms := by
  induction ls generalizing number start with
  | nil => simp [linesFrom]
  | cons l ls ih =>
    simp only [List.cons_append, linesFrom, List.length_cons, List.flatten_cons, byteLength_append]
    rw [ih, Nat.add_right_comm, Nat.add_assoc number, Nat.add_assoc start]

/-- A line stands in the text between the lines before and behind it. -/
theorem linesFrom_getElem?_eq_some {number start k : Nat} {raws : List (List Char)} {l : Line}
    (h : (linesFrom number start raws)[k]? = some l) :
    ∃ raw, raws[k]? = some raw ∧ l.start = start + byteLength (raws.take k).flatten ∧
      l.chars = stripBreak raw := by
  induction raws generalizing number start k with
  | nil => simp [linesFrom] at h
  | cons raw raws ih =>
    cases k with
    | zero =>
      simp only [linesFrom, List.getElem?_cons_zero, Option.some.injEq] at h
      subst h
      exact ⟨raw, rfl, by simp, rfl⟩
    | succ k =>
      obtain ⟨raw', hraw, hstart, hchars⟩ := ih h
      refine ⟨raw', hraw, ?_, hchars⟩
      rw [hstart, List.take_succ_cons, List.flatten_cons, byteLength_append, Nat.add_assoc]

/-- A line carries its number. -/
theorem number_of_linesFrom_getElem? {number start k : Nat} {raws : List (List Char)} {l : Line}
    (h : (linesFrom number start raws)[k]? = some l) : l.number = number + k := by
  induction raws generalizing number start k with
  | nil => simp [linesFrom] at h
  | cons raw raws ih =>
    cases k with
    | zero =>
      simp only [linesFrom, List.getElem?_cons_zero, Option.some.injEq] at h
      subst h
      rfl
    | succ k =>
      rw [ih h]
      omega

/-! ### The text in front of a line -/

theorem numLines_eq (d : Document) : d.numLines = (rawLines d.chars).length :=
  length_linesFrom 0 0 _

/-- The text in front of the line numbered `n`, breaks included. -/
def textBefore (d : Document) (n : Nat) : List Char :=
  ((rawLines d.chars).take n).flatten

/-- In front of the end of the last line there is the whole text. -/
theorem textBefore_numLines (d : Document) : d.textBefore d.numLines = d.chars := by
  rw [textBefore, numLines_eq, List.take_length, flatten_rawLines]

/-- The text goes on behind what stands in front of a line. -/
theorem textBefore_append (d : Document) (n : Nat) :
    d.textBefore n ++ ((rawLines d.chars).drop n).flatten = d.chars := by
  rw [textBefore, ← List.flatten_append, List.take_append_drop, flatten_rawLines]

/-- A line with its break stands in front of the next line. -/
theorem textBefore_succ {d : Document} {n : Nat} {raw : List Char}
    (h : (rawLines d.chars)[n]? = some raw) : d.textBefore (n + 1) = d.textBefore n ++ raw := by
  obtain ⟨hn, rfl⟩ := List.getElem?_eq_some_iff.mp h
  unfold textBefore
  rw [List.take_succ_eq_append_getElem hn, List.flatten_append, List.flatten_singleton]

/-- In front of a later line there is no less. -/
theorem byteLength_textBefore_mono (d : Document) {m n : Nat} (h : m ≤ n) :
    byteLength (d.textBefore m) ≤ byteLength (d.textBefore n) := by
  obtain ⟨rest, hrest⟩ := List.take_prefix_take_left (l := rawLines d.chars) h
  unfold textBefore
  rw [← hrest, List.flatten_append, byteLength_append]
  exact Nat.le_add_right _ _

/-- A line starts behind the text in front of it, and its own text is what is left of it without its
break. -/
theorem lines_getElem?_eq_some {d : Document} {n : Nat} {l : Line} (h : d.lines[n]? = some l) :
    ∃ raw, (rawLines d.chars)[n]? = some raw ∧ l.start = byteLength (d.textBefore n) ∧
      l.chars = stripBreak raw := by
  obtain ⟨raw, hraw, hstart, hchars⟩ := linesFrom_getElem?_eq_some h
  rw [Nat.zero_add] at hstart
  exact ⟨raw, hraw, hstart, hchars⟩

theorem lines_getElem?_nthLine {d : Document} {n : Nat} (h : n < d.numLines) :
    d.lines[n]? = some (d.nthLine n) := by
  have hmin : min n (d.numLines - 1) = n := by omega
  unfold nthLine
  simp only [hmin, List.get_eq_getElem]
  exact List.getElem?_eq_getElem _

/-! ### The line that holds a position -/

theorem lineNumberOf_lt (d : Document) (pos : Nat) : d.lineNumberOf pos < d.numLines := by
  have hpos := d.numLines_pos
  have hle : d.lineNumberOf pos ≤ d.numLines - 1 := by
    have := (List.takeWhile_prefix (l := d.lines.tail) (·.start ≤ d.snap pos)).length_le
    simpa [lineNumberOf, numLines] using this
  omega

/-- The line that holds `pos` stands among all lines under its number. -/
theorem lines_getElem?_lineNumberOf (d : Document) (pos : Nat) :
    d.lines[d.lineNumberOf pos]? = some (d.lineHolding pos) :=
  lines_getElem?_nthLine (d.lineNumberOf_lt pos)

theorem number_lineHolding (d : Document) (pos : Nat) :
    (d.lineHolding pos).number = d.lineNumberOf pos := by
  rw [number_of_linesFrom_getElem? (d.lines_getElem?_lineNumberOf pos), Nat.zero_add]

/-- A later position does not lie on an earlier line. -/
theorem lineNumberOf_mono (d : Document) {pos pos' : Nat} (h : pos ≤ pos') :
    d.lineNumberOf pos ≤ d.lineNumberOf pos' := by
  have hsnap := d.snap_mono h
  -- The lines counted for `pos` are the first of those counted for `pos'`.
  have hpre : d.lines.tail.takeWhile (·.start ≤ d.snap pos) =
      (d.lines.tail.takeWhile (·.start ≤ d.snap pos')).takeWhile (·.start ≤ d.snap pos) := by
    rw [List.takeWhile_takeWhile]
    congr 1
    funext l
    simp only [decide_eq_true_eq, decide_eq_decide]
    omega
  unfold lineNumberOf
  simp only
  rw [hpre]
  exact (List.takeWhile_prefix _).length_le

theorem lineHolding_mem (d : Document) (pos : Nat) : d.lineHolding pos ∈ d.lines :=
  List.mem_of_getElem? (d.lines_getElem?_lineNumberOf pos)

@[simp]
theorem lineHolding_snap (d : Document) (pos : Nat) :
    d.lineHolding (d.snap pos) = d.lineHolding pos := by
  unfold lineHolding lineNumberOf
  rw [snap_snap]

/-- The line behind the one that holds `pos` starts behind `pos`. -/
theorem snap_lt_start_next {d : Document} {pos : Nat} {l : Line}
    (h : d.lines[d.lineNumberOf pos + 1]? = some l) : d.snap pos < l.start := by
  -- It is the first line that was not counted.
  have hnext : (d.lines.tail.dropWhile (·.start ≤ d.snap pos)).head? = some l := by
    have hsplit := List.takeWhile_append_dropWhile (p := (·.start ≤ d.snap pos)) (l := d.lines.tail)
    have hnumber : d.lineNumberOf pos =
        (d.lines.tail.takeWhile (·.start ≤ d.snap pos)).length := rfl
    rw [← List.getElem?_tail, ← hsplit, hnumber, List.getElem?_append_right (Nat.le_refl _),
      Nat.sub_self] at h
    rwa [List.head?_eq_getElem?]
  have hfails := List.head?_dropWhile_not (·.start ≤ d.snap pos) d.lines.tail
  rw [hnext] at hfails
  simpa using hfails

/-- The line that holds `pos` is a piece of the text that begins at or before `pos`, and goes beyond
it unless it is the last line. -/
theorem exists_split_lineHolding (d : Document) (pos : Nat) :
    ∃ before raw behind, d.chars = before ++ (raw ++ behind) ∧
      (d.lineHolding pos).start = byteLength before ∧
      (d.lineHolding pos).chars = stripBreak raw ∧
      (behind = [] ∨ d.snap pos < byteLength before + byteLength raw) := by
  obtain ⟨raw, hraw, hstart, hchars⟩ :=
    lines_getElem?_eq_some (d.lines_getElem?_lineNumberOf pos)
  refine ⟨_, raw, ((rawLines d.chars).drop (d.lineNumberOf pos + 1)).flatten, ?_, hstart, hchars,
    ?_⟩
  · rw [← List.append_assoc, ← textBefore_succ hraw, textBefore_append]
  · rcases Nat.lt_or_ge (d.lineNumberOf pos + 1) d.numLines with hnext | hlast
    · -- The next line starts where this one ends with its break.
      have hlt := snap_lt_start_next (List.getElem?_eq_getElem hnext)
      obtain ⟨-, -, hstart', -⟩ := lines_getElem?_eq_some (List.getElem?_eq_getElem hnext)
      rw [hstart', textBefore_succ hraw, byteLength_append] at hlt
      exact .inr hlt
    · rw [List.drop_eq_nil_of_le (d.numLines_eq ▸ hlast)]
      exact .inl rfl

/-- Before a position in a blank line, text ends at or before the start of that line. -/
theorem endOfTextBefore_le_start {d : Document} {pos : Nat}
    (h : (d.lineHolding pos).isBlank = true) :
    d.endOfTextBefore pos ≤ (d.lineHolding pos).start := by
  obtain ⟨before, raw, behind, hsplit, hstart, hchars, hbehind⟩ := d.exists_split_lineHolding pos
  have hle := d.start_lineHolding_le_snap pos
  have hraw : raw.all isBlank = true := by
    apply all_isBlank_of_stripBreak
    rw [← hchars]
    exact h
  -- The cut at `pos` is the text before the line and some of the line.
  obtain ⟨k, hcut⟩ : ∃ k, takeBytes pos d.chars = before ++ takeBytes k raw := by
    refine ⟨d.snap pos - byteLength before, ?_⟩
    have htake : takeBytes pos d.chars = before ++ takeBytes (d.snap pos - byteLength before)
        (raw ++ behind) := by
      rw [← takeBytes_byteLength_add, ← hsplit, Nat.add_sub_cancel' (hstart ▸ hle)]
      exact (takeBytes_byteLength_takeBytes pos d.chars).symm
    rw [htake]
    rcases hbehind with rfl | hlt
    · rw [List.append_nil]
    · rw [takeBytes_append]
      omega
  have hpiece : (takeBytes k raw).all isBlank = true := by
    rw [← takeBytes_append_dropBytes k raw, List.all_append, Bool.and_eq_true] at hraw
    exact hraw.1
  unfold endOfTextBefore
  rw [hcut, dropWhile_reverse_append hpiece, hstart, ← byteLength_reverse before]
  exact byteLength_dropWhile_le _ _

/-! ### What follows a line feed -/

/-- A position in front of some lines at the end lies on one of the other lines, and these decide on
which. -/
theorem lineHolding_of_lines_eq_append {d : Document} {pos : Nat} {ls ms : List Line}
    (hlines : d.lines = ls ++ ms) (hne : ls ≠ [])
    (hms : ms.takeWhile (·.start ≤ d.snap pos) = []) :
    ls[(ls.tail.takeWhile (·.start ≤ d.snap pos)).length]? = some (d.lineHolding pos) := by
  have hnumber : d.lineNumberOf pos = (ls.tail.takeWhile (·.start ≤ d.snap pos)).length := by
    unfold lineNumberOf
    simp only
    rw [hlines, List.tail_append_of_ne_nil hne, List.takeWhile_append, hms]
    split
    · rename_i hall
      rw [List.append_nil, hall]
    · rfl
  have hget := d.lines_getElem?_lineNumberOf pos
  rw [hlines, hnumber, List.getElem?_append_left] at hget
  · exact hget
  · have hle := (List.takeWhile_prefix (l := ls.tail) (·.start ≤ d.snap pos)).length_le
    have hpos := List.length_pos_iff.mpr hne
    rw [List.length_tail] at hle
    omega

/-- Below the end of a text, what follows it does not change where a position snaps to. -/
theorem snap_append {cs : List Char} {pos : Nat} (hpos : pos < byteLength cs) (ds : List Char) :
    (⟨cs ++ ds⟩ : Document).snap pos = byteLength (takeBytes pos cs) := by
  unfold snap
  rw [takeBytes_append ds (Nat.le_of_lt hpos)]

/-- Below the end of a text that ends in a line feed, what follows the text does not change on which
line a position lies. -/
theorem lineHolding_append {cs : List Char} (h : cs.getLast? = some '\n') {pos : Nat}
    (hpos : pos < byteLength cs) (ds ds' : List Char) :
    (⟨cs ++ ds⟩ : Document).lineHolding pos = (⟨cs ++ ds'⟩ : Document).lineHolding pos := by
  obtain ⟨ls, hne, hls⟩ := exists_rawLines_append h
  have hflat : ls.flatten = cs := by
    have := congrArg List.flatten (hls [])
    rw [flatten_rawLines] at this
    simpa [rawLines] using this.symm
  have hcons : linesFrom 0 0 ls ≠ [] := by
    rw [← List.length_pos_iff, length_linesFrom]
    exact List.length_pos_iff.mpr hne
  -- The lines of `cs` come first, and those of what follows start behind `pos`.
  have hkey : ∀ es, (linesFrom 0 0 ls)[((linesFrom 0 0 ls).tail.takeWhile
      (·.start ≤ byteLength (takeBytes pos cs))).length]? =
        some ((⟨cs ++ es⟩ : Document).lineHolding pos) := by
    intro es
    have hlines : (⟨cs ++ es⟩ : Document).lines = linesFrom 0 0 ls ++
        linesFrom ls.length (byteLength cs) (rawLines es) := by
      unfold lines
      simp only
      rw [hls es, linesFrom_append, hflat, Nat.zero_add, Nat.zero_add]
    rw [← snap_append hpos es]
    apply lineHolding_of_lines_eq_append hlines hcons
    rw [snap_append hpos es]
    have hlt := Nat.lt_of_le_of_lt (byteLength_takeBytes_le pos cs) hpos
    cases rawLines es with
    | nil => rfl
    | cons raw raws => simp [linesFrom, hlt]
  exact Option.some.inj ((hkey ds).symm.trans (hkey ds'))

/-- Two documents in which everything below `limit` looks the same from there: the text and the
lines, and whether only blanks follow. -/
structure AgreeBelow (d d' : Document) (limit : Nat) : Prop where
  /-- The text before a position is the same. -/
  takeBytes : ∀ pos < limit, Text.takeBytes pos d.chars = Text.takeBytes pos d'.chars
  /-- The line at a position is the same. -/
  lineHolding : ∀ pos < limit, d.lineHolding pos = d'.lineHolding pos
  /-- Only blanks follow a position in both documents or in none. -/
  onlyBlanksFrom : ∀ pos < limit, d.onlyBlanksFrom pos = d'.onlyBlanksFrom pos

/-- Whatever follows a text that ends in a line feed looks the same from there, if both
continuations are blank or none is. -/
theorem agreeBelow_append {cs : List Char} (h : cs.getLast? = some '\n') {ds ds' : List Char}
    (hblank : ds.all isBlank = ds'.all isBlank) :
    AgreeBelow ⟨cs ++ ds⟩ ⟨cs ++ ds'⟩ (byteLength cs) where
  takeBytes := by
    intro pos hpos
    rw [takeBytes_append ds (Nat.le_of_lt hpos), takeBytes_append ds' (Nat.le_of_lt hpos)]
  lineHolding := fun pos hpos => lineHolding_append h hpos ds ds'
  onlyBlanksFrom := by
    intro pos hpos
    unfold onlyBlanksFrom
    rw [dropBytes_append ds (Nat.le_of_lt hpos), dropBytes_append ds' (Nat.le_of_lt hpos),
      List.all_append, List.all_append, hblank]

namespace AgreeBelow

variable {d d' : Document} {limit pos : Nat}

theorem snap (h : AgreeBelow d d' limit) (hpos : pos < limit) : d.snap pos = d'.snap pos := by
  unfold Document.snap
  rw [h.takeBytes pos hpos]

theorem endOfTextBefore (h : AgreeBelow d d' limit) (hpos : pos < limit) :
    d.endOfTextBefore pos = d'.endOfTextBefore pos := by
  unfold Document.endOfTextBefore
  rw [h.takeBytes pos hpos]

theorem restOfLine (h : AgreeBelow d d' limit) (hpos : pos < limit) :
    d.restOfLine pos = d'.restOfLine pos := by
  unfold Document.restOfLine
  rw [h.lineHolding pos hpos, h.snap hpos]

theorem indentOfLine (h : AgreeBelow d d' limit) (hpos : pos < limit) (tab : Nat) :
    d.indentOfLine pos tab = d'.indentOfLine pos tab := by
  unfold Document.indentOfLine
  rw [h.lineHolding pos hpos]

end AgreeBelow

end Document

end TreeAssist
