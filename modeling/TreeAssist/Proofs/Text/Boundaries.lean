import Mathlib.Order.Bounds.Defs
import Mathlib.Order.Monotone.Defs
import TreeAssist.Indent.Indenter
import TreeAssist.Proofs.Text.Tiling

/-!
# Boundaries of characters

An offset is a boundary if some first part of the document ends there (`Document.IsBoundary`). Of
the boundaries that are not above an offset, snapping gives the greatest one
(`Document.isGreatest_snap`), and whatever is asked about an offset has the same answer at that
boundary.

The text before an offset ends at the least boundary from which only blanks lead up to the offset
(`Document.isLeast_endOfTextBefore`). Blanks in front of an offset do not change where the text
before it ends (`Document.endOfTextBefore_eq_of_blanks`), nor do they change whether only blanks
follow (`Document.onlyBlanksFrom_eq`).

Main statement: `snapping_and_trimming`.
-/

namespace TreeAssist

open Text

namespace Document

variable {d : Document} {p q pos : Nat}

/-! ### Snapping -/

/-- A first part of the document is `p` bytes long, so that `p` is the offset of a character or of
the end of the document. -/
def IsBoundary (d : Document) (p : Nat) : Prop :=
  ∃ before behind, d.chars = before ++ behind ∧ p = byteLength before

/-- The boundaries are the offsets that snapping leaves where they are. -/
theorem isBoundary_iff : d.IsBoundary p ↔ d.snap p = p := by
  constructor
  · rintro ⟨before, behind, hsplit, rfl⟩
    exact snap_of_eq_append hsplit
  · intro h
    exact ⟨takeBytes p d.chars, dropBytes p d.chars, (takeBytes_append_dropBytes p _).symm, h.symm⟩

instance (d : Document) (p : Nat) : Decidable (d.IsBoundary p) :=
  decidable_of_iff _ isBoundary_iff.symm

theorem snap_le_size (d : Document) (pos : Nat) : d.snap pos ≤ d.size := by
  have hwhole := congrArg byteLength (takeBytes_append_dropBytes pos d.chars)
  rw [byteLength_append] at hwhole
  unfold snap size
  omega

/-- Snapping gives the greatest boundary that is above neither the offset nor the end. -/
theorem isGreatest_snap (d : Document) (pos : Nat) :
    IsGreatest {p | d.IsBoundary p ∧ p ≤ min pos d.size} (d.snap pos) := by
  refine ⟨⟨isBoundary_iff.mpr (d.snap_snap pos), ?_⟩, ?_⟩
  · exact Nat.le_min.mpr ⟨d.snap_le pos, d.snap_le_size pos⟩
  · rintro p ⟨hp, hle⟩
    -- A boundary stays where it is, and snapping keeps the order.
    rw [← isBoundary_iff.mp hp]
    exact d.snap_mono (Nat.le_trans hle (Nat.min_le_left _ _))

@[simp]
theorem restOfLine_snap (d : Document) (pos : Nat) :
    d.restOfLine (d.snap pos) = d.restOfLine pos := by
  unfold restOfLine
  rw [lineHolding_snap, snap_snap]

@[simp]
theorem endOfTextBefore_snap (d : Document) (pos : Nat) :
    d.endOfTextBefore (d.snap pos) = d.endOfTextBefore pos := by
  unfold endOfTextBefore snap
  rw [takeBytes_byteLength_takeBytes]

@[simp]
theorem indentOfLine_snap (d : Document) (pos tab : Nat) :
    d.indentOfLine (d.snap pos) tab = d.indentOfLine pos tab := by
  unfold indentOfLine
  rw [lineHolding_snap]

@[simp]
theorem columnOf_snap (d : Document) (pos tab : Nat) :
    d.columnOf (d.snap pos) tab = d.columnOf pos tab := by
  unfold columnOf
  rw [lineHolding_snap, snap_snap]

/-- The characters up to an offset are those up to the boundary that it is snapped to. -/
@[simp]
theorem charsBetween_snap (d : Document) (p pos : Nat) :
    d.charsBetween p (d.snap pos) = d.charsBetween p pos := by
  unfold charsBetween snap
  rw [takeBytes_byteLength_takeBytes]

end Document

/-- The indentation at an offset is that at the boundary that it is snapped to. -/
@[simp]
theorem Indenter.width_snap (s : Indenter) (t : Tree) (d : Document) (pos : Nat) :
    s.width t d (d.snap pos) = s.width t d pos := by
  unfold width decision
  rw [Document.snap_snap]

namespace Document

variable {d : Document} {p q pos : Nat}

/-! ### Trimming -/

/-- What follows an offset is what stands between it and a later one, and what follows that one. -/
theorem charsBetween_append_dropBytes (d : Document) (h : p ≤ q) :
    d.charsBetween p q ++ dropBytes q d.chars = dropBytes p d.chars := by
  have hwhole : takeBytes p d.chars ++ (d.charsBetween p q ++ dropBytes q d.chars) =
      takeBytes p d.chars ++ dropBytes p d.chars := by
    rw [← List.append_assoc, d.takeBytes_append_charsBetween h, takeBytes_append_dropBytes,
      takeBytes_append_dropBytes]
  exact List.append_cancel_left hwhole

/-- Only blanks follow an offset if there are only blanks up to a later one and behind it. -/
theorem onlyBlanksFrom_eq (d : Document) (h : p ≤ q) :
    d.onlyBlanksFrom p = ((d.charsBetween p q).all isBlank && d.onlyBlanksFrom q) := by
  unfold onlyBlanksFrom
  rw [← d.charsBetween_append_dropBytes h, List.all_append]

/-- With only blanks between two offsets, the text before them ends at the same place. -/
theorem endOfTextBefore_eq_of_blanks (h : p ≤ q)
    (hblank : (d.charsBetween p q).all isBlank = true) :
    d.endOfTextBefore q = d.endOfTextBefore p := by
  unfold endOfTextBefore
  rw [← d.takeBytes_append_charsBetween h, dropWhile_reverse_append hblank]

/-- What stands before an offset is a text and the blanks behind it. -/
theorem exists_split_endOfTextBefore (d : Document) (pos : Nat) :
    ∃ text blanks, takeBytes pos d.chars = text ++ blanks ∧ blanks.all isBlank = true ∧
      d.endOfTextBefore pos = byteLength text := by
  -- Trimming starts from the end, so both parts are read off the reversed text.
  refine ⟨((takeBytes pos d.chars).reverse.dropWhile isBlank).reverse,
    ((takeBytes pos d.chars).reverse.takeWhile isBlank).reverse, ?_, ?_, ?_⟩
  · rw [← List.reverse_append, List.takeWhile_append_dropWhile, List.reverse_reverse]
  · rw [List.all_reverse]
    exact List.all_takeWhile
  · rw [byteLength_reverse]
    rfl

/-- Text ends at a boundary, and from there only blanks lead up to the offset. -/
theorem endOfTextBefore_spec (d : Document) (pos : Nat) :
    d.IsBoundary (d.endOfTextBefore pos) ∧
      (d.charsBetween (d.endOfTextBefore pos) pos).all isBlank = true := by
  obtain ⟨text, blanks, hsplit, hblank, hstop⟩ := d.exists_split_endOfTextBefore pos
  have hchars : d.chars = text ++ (blanks ++ dropBytes pos d.chars) := by
    rw [← List.append_assoc, ← hsplit, takeBytes_append_dropBytes]
  refine ⟨⟨text, _, hchars, hstop⟩, ?_⟩
  -- Cutting the document at the end of the text leaves just the blanks in front of the offset.
  have hcut : takeBytes (byteLength text) d.chars = text := by
    rw [hchars]
    exact takeBytes_byteLength _ _
  unfold charsBetween
  rw [hstop, hcut, hsplit, List.drop_left]
  exact hblank

/-- Text before an offset ends at or before the boundary that the offset is snapped to. -/
theorem endOfTextBefore_le_snap (d : Document) (pos : Nat) :
    d.endOfTextBefore pos ≤ d.snap pos := by
  rw [← endOfTextBefore_snap]
  exact d.endOfTextBefore_le _

/-- Text before an offset ends at the least boundary from which only blanks lead up to the offset.
-/
theorem isLeast_endOfTextBefore (d : Document) (pos : Nat) :
    IsLeast {r | d.IsBoundary r ∧ r ≤ d.snap pos ∧
      ∀ c ∈ d.charsBetween r (d.snap pos), isBlank c = true} (d.endOfTextBefore pos) := by
  obtain ⟨hboundary, hblank⟩ := d.endOfTextBefore_spec pos
  refine ⟨⟨hboundary, d.endOfTextBefore_le_snap pos, ?_⟩, ?_⟩
  · rw [charsBetween_snap]
    exact List.all_eq_true.mp hblank
  · rintro r ⟨-, hle, hr⟩
    -- The text before `r` ends at the same place, and that is not behind `r`.
    rw [← endOfTextBefore_snap, endOfTextBefore_eq_of_blanks hle (List.all_eq_true.mpr hr)]
    exact d.endOfTextBefore_le r

/-- Trimming twice is trimming once. -/
theorem endOfTextBefore_endOfTextBefore (d : Document) (pos : Nat) :
    d.endOfTextBefore (d.endOfTextBefore pos) = d.endOfTextBefore pos :=
  (endOfTextBefore_eq_of_blanks (d.endOfTextBefore_le pos) (d.endOfTextBefore_spec pos).2).symm

/-- Only blanks follow an offset exactly if only blanks follow the text before it. -/
theorem onlyBlanksFrom_endOfTextBefore (d : Document) (pos : Nat) :
    d.onlyBlanksFrom (d.endOfTextBefore pos) = d.onlyBlanksFrom pos := by
  rw [d.onlyBlanksFrom_eq (d.endOfTextBefore_le pos), (d.endOfTextBefore_spec pos).2, Bool.true_and]

end Document

/-- Snapping gives the greatest boundary of characters that is above neither the offset nor the end
of the document; so a second time it changes nothing, and it keeps the order of offsets. The line of
an offset, the rest of that line, whether only blanks follow, where the text before it ends, its
column, the indentation of its line and the indentation that it gets are those of the boundary that
it is snapped to. The text before an offset ends at the least boundary from which only blanks lead
up to where the offset is snapped to; so trimming a second time changes nothing, and only blanks
follow that end exactly if only blanks follow the offset. -/
theorem snapping_and_trimming (d : Document) :
    (∀ pos, IsGreatest {p | d.IsBoundary p ∧ p ≤ min pos d.size} (d.snap pos)) ∧
      (∀ pos, d.snap (d.snap pos) = d.snap pos) ∧ Monotone d.snap ∧
      (∀ pos, d.lineHolding (d.snap pos) = d.lineHolding pos ∧
        d.restOfLine (d.snap pos) = d.restOfLine pos ∧
        d.onlyBlanksFrom (d.snap pos) = d.onlyBlanksFrom pos ∧
        d.endOfTextBefore (d.snap pos) = d.endOfTextBefore pos ∧
        (∀ tab, d.columnOf (d.snap pos) tab = d.columnOf pos tab) ∧
        (∀ tab, d.indentOfLine (d.snap pos) tab = d.indentOfLine pos tab) ∧
        ∀ (s : Indenter) (t : Tree), s.width t d (d.snap pos) = s.width t d pos) ∧
      (∀ pos, IsLeast {r | d.IsBoundary r ∧ r ≤ d.snap pos ∧
        ∀ c ∈ d.charsBetween r (d.snap pos), isBlank c = true} (d.endOfTextBefore pos)) ∧
      (∀ pos, d.endOfTextBefore (d.endOfTextBefore pos) = d.endOfTextBefore pos) ∧
      ∀ pos, d.onlyBlanksFrom (d.endOfTextBefore pos) = d.onlyBlanksFrom pos := by
  refine ⟨d.isGreatest_snap, d.snap_snap, fun _ _ => d.snap_mono, fun pos => ?_,
    d.isLeast_endOfTextBefore, d.endOfTextBefore_endOfTextBefore, d.onlyBlanksFrom_endOfTextBefore⟩
  exact ⟨d.lineHolding_snap pos, d.restOfLine_snap pos, d.onlyBlanksFrom_snap pos,
    d.endOfTextBefore_snap pos, d.columnOf_snap pos, d.indentOfLine_snap pos,
    fun s t => s.width_snap t d pos⟩

/-- An offset inside a wide blank counts as its start, where the text before it ends. -/
example : (Document.ofString "é\u3000 ").snap 4 = 2 ∧
    (Document.ofString "é\u3000 ").endOfTextBefore 6 = 2 ∧
    (Document.ofString "é\u3000 ").onlyBlanksFrom 4 = true := by
  decide +kernel

end TreeAssist
