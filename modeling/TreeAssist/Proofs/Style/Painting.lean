import Mathlib.Data.List.Induction
import TreeAssist.Proofs.Style.Highlighting

/-!
# Painting

Stretches are painted one after the other, each over what was there before (`paint`), so what is
seen at an offset is the tag of the last stretch that covers it (`paint_eq`). In a window around the
offset, a stretch covers the offset exactly if it comes from a node that does
(`StyleTable.exists_covers_iff`). The nodes around an offset lie inside one another and are painted
from the outside in, so the last one is the innermost (`StyleTable.innermost_of_getLast?`).

Main statement: `paint_highlight`. Each offset shows the tag of the innermost tagged node around it,
whatever the window.
-/

namespace TreeAssist

variable {t : Tree}

/-- The stretch covers the offset `x`. -/
def StyledSpan.covers (s : StyledSpan) (x : Nat) : Bool :=
  s.span.start ≤ x && x < s.span.stop

/-- The tag that the offset `x` shows once the stretches have been painted in order. -/
def paint (spans : List StyledSpan) (x : Nat) : Option Tag :=
  spans.foldl (fun shown s => if s.covers x then some s.tag else shown) none

/-- What is seen at an offset is the last stretch that covers it. -/
theorem paint_eq (spans : List StyledSpan) (x : Nat) :
    paint spans x = (spans.filter (·.covers x)).getLast?.map (·.tag) := by
  induction spans using List.reverseRecOn with
  | nil => rfl
  | append_singleton spans s ih =>
    unfold paint at ih ⊢
    rw [List.foldl_append, List.filter_append]
    by_cases hs : s.covers x = true
    · simp [hs]
    · simpa [hs] using ih

namespace StyleTable

variable {table : StyleTable} {lower upper : Bound} {x : Nat}

/-- The node covers the offset `x` and has a tag. -/
structure TagsAt (table : StyleTable) (x : Nat) (n : t.Node) : Prop where
  /-- It starts at or before the offset. -/
  start_le : n.start ≤ x
  /-- It ends behind the offset. -/
  lt_stop : x < n.stop
  /-- It has a tag. -/
  tagged : (table.tagOf n).isSome

instance (table : StyleTable) (x : Nat) (n : t.Node) : Decidable (table.TagsAt x n) :=
  decidable_of_iff (n.start ≤ x ∧ x < n.stop ∧ (table.tagOf n).isSome)
    ⟨fun ⟨h, h', h''⟩ => ⟨h, h', h''⟩, fun ⟨h, h', h''⟩ => ⟨h, h', h''⟩⟩

/-- The node is the deepest of the tagged nodes that cover the offset `x`. -/
structure InnermostAt (table : StyleTable) (x : Nat) (n : t.Node) : Prop where
  /-- It is one of them. -/
  tagsAt : table.TagsAt x n
  /-- All of them lie above it. -/
  encloses : ∀ m : t.Node, table.TagsAt x m → m.encloses n

instance (table : StyleTable) (x : Nat) (n : t.Node) : Decidable (table.InnermostAt x n) :=
  decidable_of_iff (table.TagsAt x n ∧ ∀ m : t.Node, table.TagsAt x m → m.encloses n)
    ⟨fun ⟨h, h'⟩ => ⟨h, h'⟩, fun ⟨h, h'⟩ => ⟨h, h'⟩⟩

/-- Only one node is the innermost. -/
theorem InnermostAt.eq {n m : t.Node} (hn : table.InnermostAt x n) (hm : table.InnermostAt x m) :
    n = m :=
  Tree.Node.encloses_antisymm (hm.encloses n hn.tagsAt) (hn.encloses m hm.tagsAt)

/-- In a window around the offset, a node has a stretch that covers the offset if it covers the
offset itself and has a tag. -/
theorem exists_covers_iff (hx : lower.first ≤ x ∧ x < upper.last t.extent) (n : t.Node) :
    (∃ s, table.spanIn (.ofBounds t.extent lower upper) n = some s ∧ s.covers x = true) ↔
      table.TagsAt x n := by
  constructor
  · rintro ⟨s, hs, hcovers⟩
    obtain ⟨-, htag, hspan⟩ := spanIn_eq_some_iff.mp hs
    rw [StyledSpan.covers, hspan] at hcovers
    simp only [Bool.and_eq_true, decide_eq_true_eq] at hcovers
    exact ⟨by omega, by omega, Option.isSome_of_eq_some htag⟩
  · rintro ⟨hstart, hstop, htagged⟩
    obtain ⟨tag, htag⟩ := Option.isSome_iff_exists.mp htagged
    -- The offset lies in the window, so cutting to the window does not cut it off.
    refine ⟨⟨⟨max n.start lower.first, min n.stop (upper.last t.extent)⟩, tag⟩, ?_, ?_⟩
    · rw [spanIn_eq_some_iff]
      refine ⟨⟨by omega, ?_, ?_⟩, htag, rfl⟩
      · exact Nat.lt_of_le_of_lt hstart hx.2
      · exact Nat.lt_of_le_of_lt hx.1 hstop
    · simp only [StyledSpan.covers, Bool.and_eq_true, decide_eq_true_eq]
      omega

/-- Some stretch covers the offset if some tagged node does. -/
theorem exists_covers_highlight_iff (hx : lower.first ≤ x ∧ x < upper.last t.extent) :
    (∃ s ∈ table.highlight t lower upper, s.covers x = true) ↔
      ∃ n : t.Node, table.TagsAt x n := by
  simp only [mem_highlight_iff]
  constructor
  · rintro ⟨s, ⟨n, hs⟩, hcovers⟩
    exact ⟨n, (exists_covers_iff hx n).mp ⟨s, hs, hcovers⟩⟩
  · rintro ⟨n, hn⟩
    obtain ⟨s, hs, hcovers⟩ := (exists_covers_iff hx n).mpr hn
    exact ⟨s, ⟨n, hs⟩, hcovers⟩

/-- The last stretch that covers an offset in the window is that of the innermost tagged node. -/
theorem innermost_of_getLast? (hx : lower.first ≤ x ∧ x < upper.last t.extent) {s : StyledSpan}
    (h : ((table.highlight t lower upper).filter (·.covers x)).getLast? = some s) :
    ∃ n : t.Node, table.InnermostAt x n ∧ table.tagOf n = some s.tag := by
  rw [highlight_eq, List.filter_filterMap] at h
  obtain ⟨n, -, hn, hothers⟩ :=
    exists_of_getLast? (fun m => .inl m.encloses_refl) t.root.pairwise_preorder h
  obtain ⟨hs, hcovers⟩ := Option.filter_eq_some_iff.mp hn
  have htags : table.TagsAt x n := (exists_covers_iff hx n).mp ⟨s, hs, hcovers⟩
  refine ⟨n, ⟨htags, ?_⟩, (spanIn_eq_some_iff.mp hs).2.1⟩
  intro m hm
  obtain ⟨u, hu, hcovers⟩ := (exists_covers_iff hx m).mpr hm
  have hmem : m ∈ t.root.preorder := Tree.Node.mem_preorder_iff.mpr m.root_encloses
  -- `n` comes last on the walk, so `m` encloses it or ends before it; but both cover the offset.
  rcases hothers m hmem (by rw [hu, Option.filter_some, if_pos hcovers]; rfl) with henc | hle
  · exact henc
  · have := hm.lt_stop
    have := htags.start_le
    omega

/-- The last stretch that covers an offset in the window has the tag of the innermost tagged
node. -/
theorem getLast?_highlight_iff (hx : lower.first ≤ x ∧ x < upper.last t.extent) (tag : Tag) :
    ((table.highlight t lower upper).filter (·.covers x)).getLast?.map (·.tag) = some tag ↔
      ∃ n : t.Node, table.InnermostAt x n ∧ table.tagOf n = some tag := by
  rw [Option.map_eq_some_iff]
  constructor
  · rintro ⟨s, hlast, rfl⟩
    exact innermost_of_getLast? hx hlast
  · rintro ⟨n, hn, htag⟩
    -- Some stretch covers the offset, so there is a last one, and its node is `n`.
    obtain ⟨u, hu, hcovers⟩ := (exists_covers_highlight_iff hx).mpr ⟨n, hn.tagsAt⟩
    have hmem : u ∈ (table.highlight t lower upper).filter (·.covers x) :=
      List.mem_filter.mpr ⟨hu, hcovers⟩
    obtain ⟨s, hlast⟩ := Option.isSome_iff_exists.mp
      (List.getLast?_isSome.mpr (List.ne_nil_of_mem hmem))
    obtain ⟨m, hm, hmtag⟩ := innermost_of_getLast? hx hlast
    rw [hn.eq hm, hmtag] at htag
    exact ⟨s, hlast, Option.some.inj htag⟩

end StyleTable

/-- Let `x` be an offset in the window between two bounds. The last stretch that covers `x` has the
tag of the deepest tagged node that covers `x`, and no stretch covers `x` if no tagged node does. So
`x` shows the same tag in every window that it lies in. -/
theorem paint_highlight (table : StyleTable) (t : Tree) {lower upper : Bound} {x : Nat}
    (hx : lower.first ≤ x ∧ x < upper.last t.extent) :
    (∀ tag, ((table.highlight t lower upper).filter (·.covers x)).getLast?.map (·.tag) = some tag ↔
        ∃ n : t.Node, table.InnermostAt x n ∧ table.tagOf n = some tag) ∧
      ((∃ s ∈ table.highlight t lower upper, s.covers x = true) ↔
        ∃ n : t.Node, table.TagsAt x n) ∧
      ∀ lower' upper', lower'.first ≤ x → x < upper'.last t.extent →
        paint (table.highlight t lower' upper') x = paint (table.highlight t lower upper) x := by
  refine ⟨StyleTable.getLast?_highlight_iff hx, StyleTable.exists_covers_highlight_iff hx, ?_⟩
  intro lower' upper' hlower hupper
  rw [paint_eq, paint_eq]
  ext tag
  rw [StyleTable.getLast?_highlight_iff hx,
    StyleTable.getLast?_highlight_iff ⟨hlower, hupper⟩]

/-- The arena of `formatString`. -/
def formatStringArena : Arena where
  kinds := #[.ofName "Script", .ofName "FormatString", .ofName "VariableName"]
  nodes := #[{ kind := 0, span := ⟨0, 7⟩, parent := none, index := 0, children := ⟨1, 2⟩ },
    { kind := 1, span := ⟨0, 6⟩, parent := some 0, index := 0, children := ⟨0, 1⟩ },
    { kind := 2, span := ⟨3, 4⟩, parent := some 1, index := 0, children := ⟨0, 0⟩ }]
  childTable := #[2, 1]

/-- The tree of a line with a format string that holds a single name. -/
def formatString : Tree where
  toArena := formatStringArena
  wellFormed := Arena.check_eq_ok_iff.mp (show formatStringArena.check = .ok () from rfl)

/-- Tags for format strings and names. -/
def formatStringStyles : StyleTable where
  rules :=
    [{ target := "FormatString", context := [], literal := false, tag := ⟨.string, {}⟩ },
      { target := "VariableName", context := [], literal := false, tag := ⟨.variableName, {}⟩ }]

/-- A name inside a format string is painted over the string, also where only the name is shown. -/
theorem paint_highlight_formatString :
    paint (formatStringStyles.highlight formatString (.included 2) (.included 4)) 3 =
        some ⟨.variableName, {}⟩ ∧
      paint (formatStringStyles.highlight formatString (.excluded 2) (.excluded 4)) 3 =
        some ⟨.variableName, {}⟩ := by
  obtain ⟨hlast, -, hsame⟩ := paint_highlight formatStringStyles formatString
    (show (Bound.included 2).first ≤ 3 ∧ 3 < (Bound.included 4).last formatString.extent by decide)
  have hname : paint (formatStringStyles.highlight formatString (.included 2) (.included 4)) 3 =
      some ⟨.variableName, {}⟩ := by
    rw [paint_eq, hlast]
    exact ⟨⟨2, by decide⟩, by decide +kernel, by decide +kernel⟩
  exact ⟨hname, (hsame (.excluded 2) (.excluded 4) (by decide) (by decide)).trans hname⟩

end TreeAssist
