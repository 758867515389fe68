import TreeAssist.Language.Python
import TreeAssist.Proofs.Tree.Unfinished

/-!
# Which style applies, and where

The search for a style starts at a node that begins at or before the position, also where it has
led to an unfinished construct (`Indenter.start_startNode_le`), and goes outward from there. The
width is the one under the style that it finds (`Indenter.width_eq`). What styles there are for
Python is said by `Python.get?_indentStyles`.
-/

namespace TreeAssist

namespace Indenter

variable {t : Tree}

/-- The search for a style starts at a node that begins at or before the position, if the tree
does. -/
theorem start_startNode_le {pos : Nat} (h : t.root.start ≤ pos) :
    (startNode t pos).start ≤ pos := by
  unfold startNode
  rcases Tree.Node.unfinishedBefore_innermostAt t pos with heq | ⟨c, -, hstop, henc, -⟩
  · rw [heq]
    exact t.root.start_innermostAt_le .strict h
  · -- An unfinished construct lies in a node in front of the position.
    have hspan := Tree.Node.encloses_span henc
    have hle := Tree.Node.start_le_stop ((t.root.innermostAt pos .strict).unfinishedBefore pos)
    omega

/-- The width comes from the style found, or from the line if there is none. -/
theorem width_eq (s : Indenter) (t : Tree) (d : Document) (pos : Nat) :
    s.width t d pos =
      match s.styleFor? (startNode t (d.snap pos)).ancestors with
      | some (n, style) => style.width (s.request d n (d.snap pos))
      | none => d.indentOfLine (d.snap pos) s.tab := by
  unfold width decision
  cases h : s.styleFor? (startNode t (d.snap pos)).ancestors with
  | none => simp only [h, Decision.width]
  | some found => simp only [h, Decision.width]

/-- The style that applies is the one for the kind of one of the nodes. -/
theorem mem_of_styleFor? {s : Indenter} {nodes : List t.Node} {n : t.Node} {style : IndentStyle}
    (h : s.styleFor? nodes = some (n, style)) :
    n ∈ nodes ∧ s.styles.get? n.name = some style := by
  obtain ⟨m, hm, hstyle⟩ := List.exists_of_findSome?_eq_some h
  obtain ⟨style', hget, heq⟩ := Option.map_eq_some_iff.mp hstyle
  cases heq
  exact ⟨hm, hget⟩

/-- The node whose style applies starts at or before the position, if the tree does. -/
theorem start_le_of_styleFor? {s : Indenter} {pos : Nat} (hroot : t.root.start ≤ pos) {n : t.Node}
    {style : IndentStyle} (h : s.styleFor? (startNode t pos).ancestors = some (n, style)) :
    n.start ≤ pos :=
  calc n.start
    _ ≤ (startNode t pos).start :=
        (Tree.Node.encloses_span (Tree.Node.encloses_iff.mpr (mem_of_styleFor? h).1)).1
    _ ≤ pos := start_startNode_le hroot

end Indenter

namespace Python

/-- The kind of whole documents. -/
def documentKind : String := "Script"

theorem map_fst_indentLines (align : Bool) :
    (indentLines align).map (·.1) = [blockKind, documentKind] ++ brackets.map (·.1) := by
  rw [indentLines, List.map_append, List.map_map]
  rfl

/-- Every line of the table is an entry of its own, as it gives one name and none is given twice. -/
theorem indentStyles_entries (align : Bool) : (indentStyles align).entries = indentLines align := by
  refine KindTable.entries_ofLines ?_ ?_
  · rw [map_fst_indentLines]
    decide +kernel
  · rw [map_fst_indentLines]
    decide +kernel

/-- What holds for the styles of blocks, documents and bracketed constructs holds for all. -/
theorem all_indentStyles {p : IndentStyle → Prop} {align : Bool} (hblock : p .block)
    (hdocument : p .document) (hbracketed : ∀ closing, p (.bracketed closing align 1)) :
    (indentStyles align).All p := by
  refine KindTable.all_ofLines ?_
  intro line hline
  rcases List.mem_append.mp hline with hmem | hmem
  · simp only [List.mem_cons, List.not_mem_nil, or_false] at hmem
    rcases hmem with rfl | rfl
    · exact hblock
    · exact hdocument
  · obtain ⟨b, -, rfl⟩ := List.mem_map.mp hmem
    exact hbracketed b.2

/-- Blocks, documents and bracketed constructs have a style, and nothing else has. -/
theorem get?_indentStyles (align : Bool) (kind : String) :
    (indentStyles align).get? kind =
      if kind = blockKind then some .block
      else if kind = documentKind then some .document
      else (brackets.lookup kind).map (.bracketed · align 1) := by
  -- Looking up in the mapped list is mapping what is looked up.
  have hmap : ∀ l : List (String × String),
      (l.map fun b => (b.1, IndentStyle.bracketed b.2 align 1)).lookup kind =
        (l.lookup kind).map (.bracketed · align 1) := by
    intro l
    induction l with
    | nil => rfl
    | cons b l ih =>
      obtain ⟨kind', closing⟩ := b
      cases h : kind == kind' <;> simp [List.lookup_cons, h, ih]
  have hlines : indentLines align = (blockKind, .block) :: (documentKind, .document) ::
      brackets.map fun b => (b.1, .bracketed b.2 align 1) := rfl
  unfold KindTable.get?
  rw [indentStyles_entries, hlines]
  by_cases hblock : kind = blockKind
  · simp [hblock]
  by_cases hdocument : kind = documentKind
  · simp [hdocument, List.lookup_cons, documentKind, blockKind]
  · rw [if_neg hblock, if_neg hdocument, List.lookup_cons, List.lookup_cons,
      beq_eq_false_iff_ne.mpr hblock, beq_eq_false_iff_ne.mpr hdocument]
    exact hmap brackets

/-- Kinds that are not bracketed have no entry among the bracketed ones. -/
theorem lookup_brackets_eq_none {kind : String} (h : kind ∉ brackets.map (·.1)) :
    brackets.lookup kind = none := by
  rw [List.lookup_eq_none_iff]
  intro b hb
  rw [bne_iff_ne]
  rintro rfl
  exact h (List.mem_map_of_mem hb)

end Python

/-- The arena of `unfinishedIf`. -/
def unfinishedIfArena : Arena where
  kinds := #[.ofName "Script", .ofName "IfStatement", .ofName "if", .ofName "VariableName",
    .ofName "Body", .ofName ":", .ofName recoveryName]
  nodes := #[{ kind := 0, span := ⟨0, 6⟩, parent := none, index := 0, children := ⟨5, 6⟩ },
    { kind := 1, span := ⟨0, 6⟩, parent := some 0, index := 0, children := ⟨2, 5⟩ },
    { kind := 2, span := ⟨0, 2⟩, parent := some 1, index := 0, children := ⟨0, 0⟩ },
    { kind := 3, span := ⟨3, 4⟩, parent := some 1, index := 1, children := ⟨0, 0⟩ },
    { kind := 4, span := ⟨4, 6⟩, parent := some 1, index := 2, children := ⟨0, 2⟩ },
    { kind := 5, span := ⟨4, 5⟩, parent := some 4, index := 0, children := ⟨0, 0⟩ },
    { kind := 6, span := ⟨6, 6⟩, parent := some 4, index := 1, children := ⟨0, 0⟩ }]
  childTable := #[5, 6, 2, 3, 4, 1]

/-- The tree of the line `if x:`, the block of which is not finished. -/
def unfinishedIf : Tree where
  toArena := unfinishedIfArena
  wellFormed := Arena.check_eq_ok_iff.mp (show unfinishedIfArena.check = .ok () from rfl)

end TreeAssist
