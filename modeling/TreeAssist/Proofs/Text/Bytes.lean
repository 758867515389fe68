import TreeAssist.Text.Document

/-!
# Cuts of a text by bytes

Cutting a text in front of an offset does not look at what stands behind it (`takeBytes_append`),
and a later cut only adds to an earlier one (`takeBytes_eq_append`). So the end of the text before a
position is at or before the position (`Document.endOfTextBefore_le`), and stays where it is while
only blanks follow (`Document.endOfTextBefore_eq`).
-/

namespace TreeAssist

open Text

namespace Text

/-- A cut inside the first part of a text does not depend on the second. -/
theorem takeBytes_append {n : Nat} {cs : List Char} (ds : List Char) (h : n ≤ byteLength cs) :
    takeBytes n (cs ++ ds) = takeBytes n cs := by
  induction cs generalizing n with
  | nil =>
    obtain rfl : n = 0 := Nat.le_zero.mp h
    cases ds with
    | nil => rfl
    | cons d ds =>
      have := d.utf8Size_pos
      simp only [List.nil_append, takeBytes]
      rw [if_neg (by omega)]
  | cons c cs ih =>
    simp only [byteLength_cons] at h
    simp only [List.cons_append, takeBytes]
    split
    · rw [ih (by omega)]
    · rfl

/-- What a cut inside the first part of a text leaves ends with the second. -/
theorem dropBytes_append {n : Nat} {cs : List Char} (ds : List Char) (h : n ≤ byteLength cs) :
    dropBytes n (cs ++ ds) = dropBytes n cs ++ ds := by
  have hwhole : takeBytes n (cs ++ ds) ++ dropBytes n (cs ++ ds) =
      takeBytes n cs ++ (dropBytes n cs ++ ds) := by
    rw [takeBytes_append_dropBytes, ← List.append_assoc, takeBytes_append_dropBytes]
  rw [takeBytes_append ds h] at hwhole
  exact List.append_cancel_left hwhole

/-- A cut behind the first part of a text is a cut of the second. -/
theorem takeBytes_byteLength_add (cs ds : List Char) (n : Nat) :
    takeBytes (byteLength cs + n) (cs ++ ds) = cs ++ takeBytes n ds := by
  induction cs with
  | nil => simp
  | cons c cs ih =>
    have hsub : c.utf8Size + byteLength cs + n - c.utf8Size = byteLength cs + n := by omega
    simp only [byteLength_cons, List.cons_append, takeBytes]
    rw [if_pos (by omega), hsub, ih]

/-- No character fits into no bytes. -/
@[simp]
theorem takeBytes_zero (cs : List Char) : takeBytes 0 cs = [] := by
  have hcut := takeBytes_append cs (Nat.zero_le (byteLength []))
  simpa [takeBytes] using hcut

/-- A cut at the end of the first part of a text gives that part. -/
theorem takeBytes_byteLength (cs ds : List Char) : takeBytes (byteLength cs) (cs ++ ds) = cs := by
  have hcut := takeBytes_byteLength_add cs ds 0
  rwa [Nat.add_zero, takeBytes_zero, List.append_nil] at hcut

/-- A cut behind the end of a text is one at its end. -/
theorem takeBytes_min (n : Nat) (cs : List Char) :
    takeBytes (min n (byteLength cs)) cs = takeBytes n cs := by
  rcases Nat.le_total n (byteLength cs) with h | h
  · rw [Nat.min_eq_left h]
  · have hend := takeBytes_byteLength_add cs [] 0
    have hbehind := takeBytes_byteLength_add cs [] (n - byteLength cs)
    rw [Nat.add_sub_cancel' h] at hbehind
    simp only [List.append_nil, Nat.add_zero, takeBytes] at hend hbehind
    rw [Nat.min_eq_right h, hend, hbehind]

/-- A later cut continues an earlier one. -/
theorem takeBytes_eq_append {m n : Nat} (h : m ≤ n) (cs : List Char) :
    ∃ k, takeBytes n cs = takeBytes m cs ++ takeBytes k (dropBytes m cs) := by
  refine ⟨n - byteLength (takeBytes m cs), ?_⟩
  have hle := byteLength_takeBytes_le m cs
  have hcut := takeBytes_byteLength_add (takeBytes m cs) (dropBytes m cs)
    (n - byteLength (takeBytes m cs))
  rwa [Nat.add_sub_cancel' (Nat.le_trans hle h), takeBytes_append_dropBytes] at hcut

/-- Cutting where a cut ended gives that cut again. -/
@[simp]
theorem takeBytes_byteLength_takeBytes (n : Nat) (cs : List Char) :
    takeBytes (byteLength (takeBytes n cs)) cs = takeBytes n cs := by
  have hcut := takeBytes_byteLength (takeBytes n cs) (dropBytes n cs)
  rwa [takeBytes_append_dropBytes] at hcut

/-- What a cut leaves depends only on where it ended. -/
@[simp]
theorem dropBytes_byteLength_takeBytes (n : Nat) (cs : List Char) :
    dropBytes (byteLength (takeBytes n cs)) cs = dropBytes n cs := by
  have hwhole : takeBytes (byteLength (takeBytes n cs)) cs ++
      dropBytes (byteLength (takeBytes n cs)) cs = takeBytes n cs ++ dropBytes n cs := by
    rw [takeBytes_append_dropBytes, takeBytes_append_dropBytes]
  rw [takeBytes_byteLength_takeBytes] at hwhole
  exact List.append_cancel_left hwhole

theorem byteLength_reverse (cs : List Char) : byteLength cs.reverse = byteLength cs := by
  induction cs with
  | nil => rfl
  | cons c cs ih => simp [ih, Nat.add_comm]

/-- Dropping characters from the front leaves no more bytes than there were. -/
theorem byteLength_dropWhile_le (p : Char → Bool) (cs : List Char) :
    byteLength (cs.dropWhile p) ≤ byteLength cs := by
  have hwhole := congrArg byteLength (List.takeWhile_append_dropWhile (p := p) (l := cs))
  rw [byteLength_append] at hwhole
  omega

/-- The blanks at the end of a text do not count for where its last other character ends. -/
theorem dropWhile_reverse_append {cs ds : List Char} (h : ds.all isBlank = true) :
    (cs ++ ds).reverse.dropWhile isBlank = cs.reverse.dropWhile isBlank := by
  rw [List.reverse_append]
  apply List.dropWhile_append_of_pos
  intro c hc
  exact List.all_eq_true.mp h c (List.mem_reverse.mp hc)

end Text

namespace Document

/-- Snapping twice is snapping once. -/
@[simp]
theorem snap_snap (d : Document) (pos : Nat) : d.snap (d.snap pos) = d.snap pos := by
  unfold snap
  rw [takeBytes_byteLength_takeBytes]

/-- Snapping keeps the order of positions. -/
theorem snap_mono (d : Document) {pos pos' : Nat} (h : pos ≤ pos') : d.snap pos ≤ d.snap pos' := by
  obtain ⟨k, hk⟩ := takeBytes_eq_append h d.chars
  unfold snap
  rw [hk, byteLength_append]
  exact Nat.le_add_right _ _

@[simp]
theorem onlyBlanksFrom_snap (d : Document) (pos : Nat) :
    d.onlyBlanksFrom (d.snap pos) = d.onlyBlanksFrom pos := by
  unfold onlyBlanksFrom snap
  rw [dropBytes_byteLength_takeBytes]

/-- Text before a position ends at or before it. -/
theorem endOfTextBefore_le (d : Document) (pos : Nat) : d.endOfTextBefore pos ≤ pos := by
  calc d.endOfTextBefore pos
      ≤ byteLength (takeBytes pos d.chars).reverse := byteLength_dropWhile_le _ _
    _ = d.snap pos := byteLength_reverse _
    _ ≤ pos := d.snap_le pos

/-- While only blanks follow, the text before a position ends at the same place. -/
theorem endOfTextBefore_eq {d : Document} {pos pos' : Nat} (h : d.onlyBlanksFrom pos = true)
    (hle : pos ≤ pos') : d.endOfTextBefore pos' = d.endOfTextBefore pos := by
  obtain ⟨k, hk⟩ := takeBytes_eq_append hle d.chars
  unfold endOfTextBefore
  rw [hk, dropWhile_reverse_append]
  -- What the later cut adds is part of what follows the earlier one.
  have hrest : (takeBytes k (dropBytes pos d.chars) ++ dropBytes k (dropBytes pos d.chars)).all
      isBlank = true := by
    rw [takeBytes_append_dropBytes]
    exact h
  rw [List.all_append, Bool.and_eq_true] at hrest
  exact hrest.1

end Document

end TreeAssist
