import TreeAssist.Folding
import TreeAssist.Indent.Indenter
import TreeAssist.Proofs.Style.Highlighting
import TreeAssist.Proofs.Tree.Counterparts
import TreeAssist.Proofs.Tree.Numbering

/-!
# What the tables of a tree do not decide

Indentation, folding and styling follow the links of a tree and read names and spans, and so do the
rules in their tables (`IndentStyle.width_request`, `FoldRule.apply_matching`). So they come to the
same result in two trees that match. The search for a style or a stretch starts at paired nodes
(`Tree.Matching.startNode_eq`), and the lists of nodes on the way to the root or in document order
are gone through in step (`Tree.Matching.styleFor?_map`, `Tree.Matching.search_map`).

Main statement: `results_eq_of_outline_eq`. What rules may not read is the index of a record
(`not_exists_foldRule_id`), which is just what trees with the same outline need not have in common.
-/

namespace TreeAssist

variable {t t' : Tree}

namespace Tree.Matching

open Node

variable (e : Matching t t') (n : t.Node)

/-! ### Indentation -/

/-- The indenter asks for paired nodes by paired requests. -/
theorem request_request (s : Indenter) (d : Document) (pos : Nat) :
    s.request d (e n) pos = e.request (s.request d n pos) := rfl

/-- The search for a style meets the same kinds on the way to the root. -/
theorem styleFor?_map (s : Indenter) (nodes : List t.Node) :
    s.styleFor? (nodes.map e) = (s.styleFor? nodes).map fun (n, style) => (e n, style) := by
  unfold Indenter.styleFor?
  induction nodes with
  | nil => rfl
  | cons n nodes ih =>
    simp only [List.map_cons, List.findSome?_cons, name_apply, ih]
    cases s.styles.get? n.name <;> rfl

theorem startNode_eq (pos : Nat) :
    Indenter.startNode t' pos = e (Indenter.startNode t pos) := by
  unfold Indenter.startNode
  rw [← e.root_apply, e.innermostAt_apply, e.unfinishedBefore_apply]

/-- Both trees lead to the same decision. -/
theorem decision_eq (e : Matching t t') (s : Indenter) (d : Document) (pos : Nat) :
    s.decision t' d pos = s.decision t d pos := by
  -- The searches end at paired nodes, whose kind has the same style, or at none.
  unfold Indenter.decision
  simp only [e.startNode_eq, ancestors_apply, e.styleFor?_map]
  cases s.styleFor? (Indenter.startNode t (d.snap pos)).ancestors with
  | none => rfl
  | some found =>
    obtain ⟨n, style⟩ := found
    simp only [Option.map_some, name_apply, request_request, baseWidth_request,
      IndentStyle.width_request]

/-! ### Folding -/

@[simp]
theorem stretchOf_apply (table : FoldTable) : table.stretchOf (e n) = table.stretchOf n := by
  unfold FoldTable.stretchOf
  rw [e.name_apply]
  exact congrArg _ (funext fun rule => rule.apply_matching e n)

theorem search_map (table : FoldTable) (line : Span) (found : Option Span) (nodes : List t.Node) :
    table.search line found (nodes.map e) = table.search line found nodes := by
  induction nodes generalizing found with
  | nil => rfl
  | cons n nodes ih =>
    simp only [List.map_cons, FoldTable.search, start_apply, stop_apply, stretchOf_apply, ih]

theorem stretchOnLine_eq (e : Matching t t') (table : FoldTable) (line : Span) :
    table.stretchOnLine t' line = table.stretchOnLine t line := by
  unfold FoldTable.stretchOnLine
  rw [← e.root_apply, e.innermostAt_apply, e.ancestors_apply, e.search_map]

/-! ### Styling -/

@[simp]
theorem tagOf_apply (table : StyleTable) : table.tagOf (e n) = table.tagOf n := by
  simp [StyleTable.tagOf, Function.comp_def]

@[simp]
theorem spanIn_apply (table : StyleTable) (window : Span) :
    table.spanIn window (e n) = table.spanIn window n := by
  simp [StyleTable.spanIn]

theorem highlight_eq (e : Matching t t') (table : StyleTable) (lower upper : Bound) :
    table.highlight t' lower upper = table.highlight t lower upper := by
  have hextent : t'.extent = t.extent := by
    unfold extent
    rw [← e.root_apply, e.stop_apply]
  rw [StyleTable.highlight_eq, StyleTable.highlight_eq, ← e.root_apply, e.preorder_apply,
    List.filterMap_map, hextent]
  exact List.filterMap_congr fun n _ => e.spanIn_apply n table _

end Tree.Matching

/-- The arena of `respelled`. -/
def respelledArena : Arena where
  kinds := #[.ofName "VariableName", .ofName "ArithOp", .ofName "Script", .ofName "ArithOp"]
  nodes := #[{ kind := 2, span := ⟨0, 2⟩, parent := none, index := 5, children := ⟨1, 3⟩ },
    { kind := 3, span := ⟨0, 1⟩, parent := some 0, index := 0, children := ⟨0, 0⟩ },
    { kind := 0, span := ⟨1, 2⟩, parent := some 0, index := 1, children := ⟨3, 3⟩ }]
  childTable := #[7, 1, 2]

/-- A tree of the text `-x` with the outline of `swapped`. Its nodes are numbered in document order,
one of its kinds stands in the table twice, one entry of the child table belongs to no node, and the
root has a place among siblings that it does not have. -/
def respelled : Tree where
  toArena := respelledArena
  wellFormed := Arena.check_eq_ok_iff.mp (show respelledArena.check = .ok () from rfl)

theorem outline_swapped : swapped.root.outline = respelled.root.outline := by
  cbv

/-- No rule folds a node up to the index of its record: such a function would tell trees with the
same outline apart. -/
theorem not_exists_foldRule_id :
    ¬ ∃ rule : FoldRule, ∀ (t : Tree) (n : t.Node), rule.apply n = some ⟨0, n.id⟩ := by
  rintro ⟨rule, hrule⟩
  let e := Tree.Matching.ofOutline outline_swapped
  let n : swapped.Node := ⟨1, by decide⟩
  have hid : (e n).id = 1 := by
    have hsame := rule.apply_matching e n
    rw [hrule, hrule] at hsame
    simpa using hsame
  -- The record with this index is that of another node.
  have hspan := e.span_apply n
  rw [Tree.Node.ext (m := ⟨1, by decide⟩) hid] at hspan
  exact absurd hspan (by decide)

end TreeAssist
