import TreeAssist.Text.Blank

/-!
# Sets of characters

A set of characters is a list of ranges of code points in ascending order, with a gap between any
two of them.

* `CharSet.holds` — whether a character is in a set.
* `CharSet.union`, `inter`, `diff`, `symmDiff`, `compl` — the operations on sets.
* `CharSet.read` — the set written as ranges in hexadecimal digits.

A union holds what one of its parts holds (`hasPoint_union`, `hasPoint_unions`).
-/

namespace TreeAssist.Text

/-- A set of characters. -/
structure CharSet where
  /-- The ranges of code points, in ascending order and apart from each other. -/
  ranges : List (Nat × Nat)
deriving DecidableEq

namespace CharSet

/-- The largest code point. -/
def maxPoint : Nat := 0x10FFFF

/-- The set holds the code point `n`. -/
def hasPoint (s : CharSet) (n : Nat) : Bool :=
  s.ranges.any fun r => r.1 ≤ n && n ≤ r.2

/-- The set holds `c`. -/
def holds (s : CharSet) (c : Char) : Bool :=
  s.hasPoint c.toNat

/-- Joins ranges that touch or overlap. The ranges are in the order of their first points. -/
def join : List (Nat × Nat) → List (Nat × Nat)
  | r :: s :: rest =>
    if s.1 ≤ r.2 + 1 then join ((r.1, max r.2 s.2) :: rest) else r :: join (s :: rest)
  | rs => rs
termination_by rs => rs.length

/-- The set with the given ranges, in any order. -/
def ofRanges (rs : List (Nat × Nat)) : CharSet :=
  ⟨join (rs.mergeSort fun r s => r.1 ≤ s.1)⟩

/-- Joining ranges keeps their points. -/
theorem any_join (n : Nat) {rs : List (Nat × Nat)} (h : rs.Pairwise fun r s => r.1 ≤ s.1) :
    (join rs).any (fun r => r.1 ≤ n && n ≤ r.2) = rs.any fun r => r.1 ≤ n && n ≤ r.2 := by
  fun_induction join rs with
  | case1 r s rest hs ih =>
    obtain ⟨hr, hrest⟩ := List.pairwise_cons.1 h
    have hle := hr s (by simp)
    have hpair : ((r.1, max r.2 s.2) :: rest).Pairwise fun r s => r.1 ≤ s.1 :=
      List.pairwise_cons.2
        ⟨fun t ht => hr t (List.mem_cons_of_mem _ ht), (List.pairwise_cons.1 hrest).2⟩
    rw [ih hpair, Bool.eq_iff_iff]
    simp only [List.any_cons, Bool.or_eq_true, Bool.and_eq_true, decide_eq_true_eq]
    -- The joined range covers both, since the second begins within or right behind the first.
    constructor
    · rintro (⟨h₁, h₂⟩ | ht)
      · omega
      · exact .inr (.inr ht)
    · rintro (⟨h₁, h₂⟩ | ⟨h₁, h₂⟩ | ht)
      · exact .inl ⟨h₁, by omega⟩
      · exact .inl ⟨by omega, by omega⟩
      · exact .inr ht
  | case2 r s rest hs ih =>
    rw [List.any_cons, ih (List.pairwise_cons.1 h).2]
    rfl
  | case3 => rfl

/-- The set with given ranges holds their points. -/
theorem hasPoint_ofRanges (rs : List (Nat × Nat)) (n : Nat) :
    (ofRanges rs).hasPoint n = rs.any fun r => r.1 ≤ n && n ≤ r.2 := by
  have hsorted : (rs.mergeSort fun r s => r.1 ≤ s.1).Pairwise fun r s => r.1 ≤ s.1 := by
    have h : (rs.mergeSort fun r s => r.1 ≤ s.1).Pairwise fun r s => decide (r.1 ≤ s.1) = true :=
      List.pairwise_mergeSort
        (fun a b c h₁ h₂ => by simp only [decide_eq_true_eq] at *; omega)
        (fun a b => by simp only [Bool.or_eq_true, decide_eq_true_eq]; omega) rs
    simpa only [decide_eq_true_eq] using h
  rw [ofRanges, hasPoint, any_join n hsorted]
  exact (List.mergeSort_perm rs _).any_eq

/-- The set of the given code points. -/
def ofPoints (ns : List Nat) : CharSet :=
  ofRanges (ns.map fun n => (n, n))

/-- No character. -/
def empty : CharSet := ⟨[]⟩

/-- All characters. -/
def full : CharSet := ⟨[(0, maxPoint)]⟩

/-- The code points from `lo` to `hi`. -/
def range (lo hi : Nat) : CharSet := ⟨[(lo, hi)]⟩

/-- The set of `c` alone. -/
def single (c : Char) : CharSet :=
  range c.toNat c.toNat

/-- The first 128 characters. -/
def ascii : CharSet := range 0 0x7F

/-- What is in either set. -/
def union (s t : CharSet) : CharSet :=
  ofRanges (s.ranges ++ t.ranges)

/-- A union holds what either set holds. -/
theorem hasPoint_union (s t : CharSet) (n : Nat) :
    (s.union t).hasPoint n = (s.hasPoint n || t.hasPoint n) := by
  rw [union, hasPoint_ofRanges, List.any_append, hasPoint, hasPoint]

/-- What is in one of the sets. -/
def unions (ss : List CharSet) : CharSet :=
  ofRanges (ss.flatMap ranges)

/-- A union holds what one of the sets holds. -/
theorem hasPoint_unions (ss : List CharSet) (n : Nat) :
    (unions ss).hasPoint n = ss.any fun s => s.hasPoint n := by
  rw [unions, hasPoint_ofRanges, List.any_flatMap]
  rfl

/-- The gaps in front of, between and behind ranges, from `start` on. -/
def gaps (start : Nat) : List (Nat × Nat) → List (Nat × Nat)
  | [] => if start ≤ maxPoint then [(start, maxPoint)] else []
  | r :: rest =>
    if start < r.1 then (start, r.1 - 1) :: gaps (r.2 + 1) rest else gaps (r.2 + 1) rest

/-- What is not in the set. -/
def compl (s : CharSet) : CharSet :=
  ⟨gaps 0 s.ranges⟩

/-- What is in both sets. -/
def inter (s t : CharSet) : CharSet :=
  (s.compl.union t.compl).compl

/-- What is in the first set only. -/
def diff (s t : CharSet) : CharSet :=
  s.inter t.compl

/-- What is in exactly one of the sets. -/
def symmDiff (s t : CharSet) : CharSet :=
  (s.diff t).union (t.diff s)

/-- The blanks. -/
def blank : CharSet :=
  ⟨[(0x9, 0xD), (0x20, 0x20), (0x85, 0x85), (0xA0, 0xA0), (0x1680, 0x1680), (0x2000, 0x200A),
    (0x2028, 0x2029), (0x202F, 0x202F), (0x205F, 0x205F), (0x3000, 0x3000)]⟩

/-- The set of blanks holds the blanks. -/
theorem holds_blank (c : Char) : blank.holds c = isBlank c := by
  rw [Bool.eq_iff_iff]
  simp only [blank, holds, hasPoint, isBlank, List.any_cons, List.any_nil, Bool.or_eq_true,
    Bool.and_eq_true, decide_eq_true_eq, beq_iff_eq, Bool.or_false]
  omega

/-- The set holds nothing but ASCII characters. -/
def isAscii (s : CharSet) : Bool :=
  s.ranges.all fun r => r.2 < 0x80

/-- The only code point of the set, if it has one only. -/
def only? (s : CharSet) : Option Nat :=
  match s.ranges with
  | [(lo, hi)] => if lo = hi then some lo else none
  | _ => none

/-! ### Written sets -/

/-- The number written with hexadecimal digits. -/
def readPoint (cs : List Char) : Nat :=
  cs.foldl (fun n c =>
    16 * n + if c.isDigit then c.toNat - '0'.toNat else c.toNat - 'A'.toNat + 10) 0

/-- The range written as its ends with a dash between them, or as its only point. -/
def readRange (cs : List Char) : Nat × Nat :=
  let lo := cs.takeWhile (· != '-')
  match cs.drop lo.length with
  | [] => (readPoint lo, readPoint lo)
  | _ :: hi => (readPoint lo, readPoint hi)

/-- The set written as ranges in ascending order with blanks between them. -/
def read (text : String) : CharSet :=
  ⟨(words text.toList).map readRange⟩

end CharSet

end TreeAssist.Text
