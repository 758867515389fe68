import TreeAssist.Proofs.Indent.Alignment

/-!
# Which opening delimiter lines are aligned with

A bracketed construct is aligned with its opening delimiter if content follows the delimiter on its
line. The content is looked for in rounds (`Node.contentRound`). Each round takes the first child
that ends behind an offset, and goes on behind the end of that child if it is a comment
(`Node.lt_of_contentRound`), so that there are not more rounds than children
(`Node.contentWithin_eq`).

A round looks for an end behind the offset. So an empty child at the end of a comment is passed over
together with the comment (`Node.AtCommentEnd`), while an empty child anywhere else counts as
content. Apart from these, what is found is the first child behind the delimiter that is not a
comment (`Node.firstContent_eq_find?`).

Main statement: `alignmentOpener_exact`. In `gapBehindComment` something is missing at the end of a
comment, and the construct is not aligned, since nothing but the closing delimiter follows
(`alignmentOpener_gapBehindComment`).
-/

namespace TreeAssist

variable {t : Tree}

namespace Tree.Node

/-! ### Rounds -/

/-- One round of the search for content behind an offset: it ends the search with a result, or gives
the offset behind a comment at which to go on. -/
def contentRound (n : t.Node) (pos : Nat) : Option t.Node ⊕ Nat :=
  match n.childEndingAfter pos with
  | none => .inl none
  | some c =>
    if n.lastChild? = some c then .inl none
    else if c.name = commentKind then .inr c.stop
    else .inl (some c)

/-- The search for content behind an offset, given up after a number of rounds. -/
def contentWithin (n : t.Node) : Nat → Nat → Option (Option t.Node)
  | 0, _ => none
  | rounds + 1, pos =>
    match n.contentRound pos with
    | .inl result => some result
    | .inr next => n.contentWithin rounds next

/-- A round that does not end the search passes over a comment, whose end lies behind the offset. -/
theorem exists_of_contentRound {n : t.Node} {pos next : Nat} (h : n.contentRound pos = .inr next) :
    ∃ c, n.childEndingAfter pos = some c ∧ c.name = commentKind ∧ c.stop = next := by
  unfold contentRound at h
  split at h
  · cases h
  · rename_i c hc
    split at h
    · cases h
    · split at h
      · rename_i hcomment
        cases h
        exact ⟨c, hc, hcomment, rfl⟩
      · cases h

/-- Every round moves on. -/
theorem lt_of_contentRound {n : t.Node} {pos next : Nat} (h : n.contentRound pos = .inr next) :
    pos < next := by
  obtain ⟨c, hc, -, rfl⟩ := exists_of_contentRound h
  exact (stop_of_childEndingAfter hc).1

/-- The search is made of rounds. -/
theorem firstContent_eq_contentRound (n : t.Node) (pos : Nat) :
    n.firstContent pos =
      match n.contentRound pos with
      | .inl result => result
      | .inr next => n.firstContent next := by
  rw [firstContent]
  split
  · rename_i hnone
    simp [contentRound, hnone]
  · rename_i c hc
    by_cases hlast : n.lastChild? = some c
    · simp [contentRound, hc, hlast]
    · by_cases hcomment : c.name = commentKind
      · simp [contentRound, hc, hlast, hcomment]
      · simp [contentRound, hc, hlast, hcomment]

/-- How many children end behind an offset. -/
def countEndingAfter (n : t.Node) (pos : Nat) : Nat :=
  n.childCount - n.countChildren (·.stop ≤ pos)

/-- Each round leaves fewer children. -/
theorem countEndingAfter_of_contentRound {n : t.Node} {pos next : Nat}
    (h : n.contentRound pos = .inr next) : n.countEndingAfter next < n.countEndingAfter pos := by
  obtain ⟨c, hc, -, rfl⟩ := exists_of_contentRound h
  obtain ⟨hk, hchild⟩ := child?_eq_some_iff.mp hc
  -- The comment is not counted from `pos`, but from its own end.
  have hcounted : n.countChildren (·.stop ≤ pos) < n.countChildren (·.stop ≤ c.stop) := by
    rw [lt_countChildren_stop_le_iff hk, hchild]
  unfold countEndingAfter
  omega

/-- With more rounds than children that end behind the offset, the search is not given up. -/
theorem contentWithin_eq (n : t.Node) {rounds pos : Nat} (h : n.countEndingAfter pos < rounds) :
    n.contentWithin rounds pos = some (n.firstContent pos) := by
  induction rounds generalizing pos with
  | zero => omega
  | succ rounds ih =>
    rw [contentWithin, firstContent_eq_contentRound]
    cases hround : n.contentRound pos with
    | inl result => rfl
    | inr next =>
      have hless := countEndingAfter_of_contentRound hround
      exact ih (by omega)

/-! ### What is found -/

/-- The node `c`, seen as a child of `n`, is empty and stands at the end of a comment in front of
it. -/
def AtCommentEnd (n c : t.Node) : Prop :=
  c.start = c.stop ∧
    ∃ d ∈ n.children, d.index < c.index ∧ d.name = commentKind ∧ d.stop = c.start

instance (n c : t.Node) : Decidable (n.AtCommentEnd c) :=
  inferInstanceAs (Decidable (_ ∧ ∃ d ∈ n.children, _))

/-- The node `c`, seen as a child of `n`, is content behind an offset: it ends behind the offset,
and is neither a comment nor empty at the end of one. -/
def IsContent (n : t.Node) (pos : Nat) (c : t.Node) : Prop :=
  pos < c.stop ∧ c.name ≠ commentKind ∧ ¬ n.AtCommentEnd c

instance (n : t.Node) (pos : Nat) (c : t.Node) : Decidable (n.IsContent pos c) :=
  inferInstanceAs (Decidable (_ ∧ _ ∧ _))

/-- The child after an offset is content behind all offsets before, unless it is a comment. -/
theorem isContent_of_childEndingAfter {n c : t.Node} {start pos : Nat} (hle : start ≤ pos)
    (h : n.childEndingAfter pos = some c) (hname : c.name ≠ commentKind) :
    n.IsContent start c := by
  obtain ⟨-, hstop, hfirst⟩ := childEndingAfter_eq_some_iff.mp h
  refine ⟨Nat.lt_of_le_of_lt hle hstop, hname, ?_⟩
  -- A comment in front of `c` ends at or before the offset, and so before `c`.
  rintro ⟨hempty, d, hd, hlt, -, hend⟩
  have hbefore := hfirst d (mem_children_iff.mp hd) hlt
  omega

/-- If nothing up to an offset is content, and the child after the offset is a comment, then nothing
up to the end of the comment is content. -/
theorem not_isContent_of_comment {n c : t.Node} {start pos : Nat}
    (hc : n.childEndingAfter pos = some c) (hcomment : c.name = commentKind)
    (hnone : ∀ d : t.Node, d.parent? = some n → d.stop ≤ pos → ¬ n.IsContent start d)
    {d : t.Node} (hd : d.parent? = some n) (hstop : d.stop ≤ c.stop) : ¬ n.IsContent start d := by
  obtain ⟨hparent, -, hfirst⟩ := childEndingAfter_eq_some_iff.mp hc
  rcases Nat.lt_trichotomy d.index c.index with hlt | heq | hgt
  · exact hnone d hd (hfirst d hd hlt)
  · rintro ⟨-, hname, -⟩
    rw [eq_of_index_eq hd hparent heq] at hname
    exact hname hcomment
  · -- A child behind the comment that does not reach farther is empty.
    have hbehind := stop_le_start_of_index_lt hparent hd hgt
    have hle := d.start_le_stop
    rintro ⟨-, -, hend⟩
    exact hend ⟨by omega, c, mem_children_iff.mpr hparent, hgt, hcomment, by omega⟩

/-- The last child has the greatest index. -/
theorem index_le_of_lastChild? {n c d : t.Node} (h : n.lastChild? = some c)
    (hd : d.parent? = some n) : d.index ≤ c.index := by
  obtain ⟨hk, rfl⟩ := lastChild?_eq_some_iff.mp h
  obtain ⟨j, hj, rfl⟩ := exists_eq_child hd
  rw [index_child, index_child]
  omega

/-- The search for content finds the first child that is content, unless that is the last child. As
the search moves on from `start` to `pos`, nothing that it leaves behind is content. -/
theorem firstContent_eq_find? (n : t.Node) {start pos : Nat} (hle : start ≤ pos)
    (hnone : ∀ d : t.Node, d.parent? = some n → d.stop ≤ pos → ¬ n.IsContent start d) :
    n.firstContent pos =
      (n.children.find? fun c => n.IsContent start c).filter fun c => n.lastChild? ≠ some c := by
  -- The induction follows the rounds, and `hnone` is what each round hands on to the next.
  fun_induction firstContent n pos with
  | case1 pos hend =>
    have hfind : n.children.find? (fun c => n.IsContent start c) = none := by
      rw [List.find?_eq_none]
      intro d hd
      have hparent := mem_children_iff.mp hd
      simpa using hnone d hparent (childEndingAfter_eq_none_iff.mp hend d hparent)
    rw [hfind, Option.filter_none]
  | case2 pos c hc hlast =>
    -- Content can only be the last child itself.
    cases hfind : n.children.find? fun c => n.IsContent start c with
    | none => rfl
    | some d =>
      obtain ⟨hd, hcontent, -⟩ := find?_children_eq_some_iff.mp hfind
      obtain ⟨hparent, -, hfirst⟩ := childEndingAfter_eq_some_iff.mp hc
      have hge : c.index ≤ d.index := by
        by_contra hlt
        exact hnone d hd (hfirst d hd (Nat.not_le.mp hlt)) (by simpa using hcontent)
      have hsame := eq_of_index_eq hd hparent
        (Nat.le_antisymm (index_le_of_lastChild? hlast hd) hge)
      simp [hsame, hlast, Option.filter_some]
  | case3 pos c hc hlast hcomment ih =>
    have hmoves := (stop_of_childEndingAfter hc).1
    exact ih (by omega) fun d hd hstop => not_isContent_of_comment hc hcomment hnone hd hstop
  | case4 pos c hc hlast hcomment =>
    obtain ⟨hparent, -, hfirst⟩ := childEndingAfter_eq_some_iff.mp hc
    have hfind : n.children.find? (fun c => n.IsContent start c) = some c := by
      refine find?_children_eq_some_iff.mpr ⟨hparent, ?_, fun d hd hlt => ?_⟩
      · simpa using isContent_of_childEndingAfter hle hc hcomment
      · simpa using hnone d hd (hfirst d hd hlt)
    simp [hfind, hlast, Option.filter_some]

end Tree.Node

/-- A bracketed construct is aligned with `o` exactly if `o` is its first child that ends behind its
start, and there is a first child behind `o` that is neither a comment nor empty at the end of one,
which is not the last child and starts before the limit: the end of the line of `o`, lowered to the
position if that lies behind the start of the line. Each round of the search moves on from one end
of a child to a later one, and there are not more rounds than children. -/
theorem alignmentOpener_exact (req : IndentRequest t) :
    (∀ o : t.Node, req.alignmentOpener = some o ↔
        req.node.children.find? (req.node.start < ·.stop) = some o ∧
          ∃ c, req.node.children.find? (fun c => req.node.IsContent o.stop c) = some c ∧
            req.node.lastChild? ≠ some c ∧ c.start < req.alignmentLimit o) ∧
      (∀ pos next, req.node.contentRound pos = .inr next → pos < next) ∧
      ∀ o : t.Node, o.parent? = some req.node → ∀ rounds, req.node.childCount ≤ rounds →
        req.node.contentWithin rounds o.stop = some (req.node.firstContent o.stop) := by
  refine ⟨fun o => ?_, fun _ _ => Tree.Node.lt_of_contentRound, fun o ho rounds hrounds => ?_⟩
  · have hcontent := req.node.firstContent_eq_find? (Nat.le_refl o.stop)
      fun d _ hstop h => Nat.not_lt.mpr hstop h.1
    rw [IndentRequest.alignmentOpener_eq_some_iff, Tree.Node.childEndingAfter_eq_find?, hcontent]
    simp only [Option.filter_eq_some_iff, decide_eq_true_eq, and_assoc]
  · -- The child `o` itself is not among those that end behind its end.
    apply Tree.Node.contentWithin_eq
    obtain ⟨k, hk, rfl⟩ := Tree.Node.exists_eq_child ho
    have hcounted := (Tree.Node.lt_countChildren_stop_le_iff hk).mpr (Nat.le_refl _)
    unfold Tree.Node.countEndingAfter
    omega

/-- The arena of `gapBehindComment`. -/
def gapBehindCommentArena : Arena where
  kinds := #[.ofName "Script", .ofName "ParenthesizedExpression", .ofName "(", .ofName "Comment",
    .recovery, .ofName ")"]
  nodes := #[{ kind := 0, span := ⟨0, 5⟩, parent := none, index := 0, children := ⟨4, 5⟩ },
    { kind := 1, span := ⟨0, 5⟩, parent := some 0, index := 0, children := ⟨0, 4⟩ },
    { kind := 2, span := ⟨0, 1⟩, parent := some 1, index := 0, children := ⟨0, 0⟩ },
    { kind := 3, span := ⟨1, 3⟩, parent := some 1, index := 1, children := ⟨0, 0⟩ },
    { kind := 4, span := ⟨3, 3⟩, parent := some 1, index := 2, children := ⟨0, 0⟩ },
    { kind := 5, span := ⟨4, 5⟩, parent := some 1, index := 3, children := ⟨0, 0⟩ }]
  childTable := #[2, 3, 4, 5, 1]

/-- A tree of the text `(#c )`, in which an expression is missing behind the comment `#c`. -/
def gapBehindComment : Tree where
  toArena := gapBehindCommentArena
  wellFormed := Arena.check_eq_ok_iff.mp (show gapBehindCommentArena.check = .ok () from rfl)

/-- The request for the indentation behind the text of `gapBehindComment`, under the rule for its
parentheses. -/
def gapBehindCommentRequest : IndentRequest gapBehindComment where
  node := ⟨1, by decide⟩
  pos := 5
  doc := .ofString "(#c )"
  level := 4
  tab := 4

/-- In `(#c )` the first child behind the opener that is not a comment is a gap. It is not the last
child and starts before the limit, but as it stands at the end of the comment, it does not count. -/
theorem alignmentOpener_gapBehindComment :
    ∃ o c : gapBehindComment.Node,
      gapBehindCommentRequest.node.children.find?
          (gapBehindCommentRequest.node.start < ·.stop) = some o ∧
        gapBehindCommentRequest.node.contentBehind o = some c ∧
        gapBehindCommentRequest.node.lastChild? ≠ some c ∧
        c.start < gapBehindCommentRequest.alignmentLimit o ∧
        gapBehindCommentRequest.alignmentOpener = none :=
  ⟨⟨2, by decide⟩, ⟨4, by decide⟩, by decide +kernel⟩

end TreeAssist
