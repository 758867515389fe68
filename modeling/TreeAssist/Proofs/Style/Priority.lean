import Mathlib.Data.Prod.Lex
import TreeAssist.Proofs.Style.Painting

/-!
# Which rule of a style table wins

A style table is given as a list of selectors, and each selector is a list of alternatives. The
table keeps one rule for each alternative, the most specific first (`StyleTable.build_eq_ok`), and
takes the first rule that applies. `Alternative` says the same without rules: which alternatives
match a node (`Alternative.Matches`), and how they are ranked (`Alternative.rank`).

A rule applies where its alternative matches (`StyleRule.applies_iff`), and rules of one rank keep
their places when the rules are sorted (`exists_of_find?_mergeSort`). So the first rule that applies
belongs to the first of the alternatives of the highest rank that match.

Main statement: `tagOf_exact`.
-/

namespace TreeAssist

/-! ### Alternatives -/

/-- One alternative of a selector, with the tag of the selector. -/
structure Alternative where
  /-- The items of the path, outermost first. -/
  items : List PathItem
  /-- The tag of a node that matches. -/
  tag : Tag
deriving DecidableEq

namespace Alternative

/-- The alternative that is written `word`. What is no path has no items, and so matches nothing. -/
def ofWord (tag : Tag) (word : List Char) : Alternative where
  items := (Path.parse word).toOption.getD []
  tag

/-- The items above the last one, innermost first. -/
def context (a : Alternative) : List PathItem :=
  a.items.dropLast.reverse

/-- The last item is quoted. -/
def isQuoted (a : Alternative) : Bool :=
  match a.items.getLast? with
  | some (.quoted _) => true
  | _ => false

/-- How much an alternative counts: first by the number of items above the last one, then by
whether the last one is bare. -/
def rank (a : Alternative) : Nat ×ₗ Bool :=
  toLex (a.context.length, !a.isQuoted)

/-- The alternative matches a node of the kind `kind` under kinds that `above` numbers from the
parent upward: the last item names the kind of the node, and the items in front of it stand, from
right to left, for the kinds above the node. `*` stands for any one kind, which must be there. -/
def Matches (a : Alternative) (kind : String) (above : Nat → Option String) : Prop :=
  (a.items.getLast? = some (.bare kind) ∨ a.items.getLast? = some (.quoted kind)) ∧
    ∀ (k : Nat) (item : PathItem), a.context[k]? = some item →
      ∃ name, above k = some name ∧ (item = .any ∨ item = .bare name ∨ item = .quoted name)

/-- The alternative matches a node. -/
def MatchesNode (a : Alternative) {t : Tree} (n : t.Node) : Prop :=
  a.Matches n.name fun k => (n.up? (k + 1)).map (·.name)

end Alternative

/-- The alternatives of a table, in their order. -/
def StyleTable.alternatives (entries : List (String × Tag)) : List Alternative :=
  entries.flatMap fun e => (Text.words e.1.toList).map (Alternative.ofWord e.2)

/-! ### From alternatives to rules -/

/-- If every result of `f` looks the same through `g` as what it is made from through `h`, then so
do the results on a whole list. -/
theorem map_eq_of_mapM {ε α β γ : Type} {f : α → Except ε β} {g : β → γ} {h : α → γ}
    (hf : ∀ x y, f x = .ok y → g y = h x) {l : List α} {l' : List β} (hl : l.mapM f = .ok l') :
    l'.map g = l.map h := by
  induction l generalizing l' with
  | nil =>
    rw [List.mapM_nil] at hl
    cases hl
    rfl
  | cons x l ih =>
    rw [List.mapM_cons] at hl
    obtain ⟨y, hy, hl⟩ := bind_eq_ok_iff.mp hl
    obtain ⟨ys, hys, hl⟩ := bind_eq_ok_iff.mp hl
    cases hl
    rw [List.map_cons, List.map_cons, hf x y hy, ih hys]

namespace StyleRule

/-- The alternative that the rule is made from. -/
def alternative (r : StyleRule) : Alternative where
  items := r.context.reverse ++ [if r.literal then .quoted r.target else .bare r.target]
  tag := r.tag

@[simp]
theorem context_alternative (r : StyleRule) : r.alternative.context = r.context := by
  simp [alternative, Alternative.context]

@[simp]
theorem isQuoted_alternative (r : StyleRule) : r.alternative.isQuoted = r.literal := by
  cases h : r.literal <;> simp [alternative, Alternative.isQuoted, h]

/-- A rule is made from what is written. -/
theorem alternative_eq_of_ofAlternative {selector : String} {tag : Tag} {word : List Char}
    {r : StyleRule} (h : ofAlternative selector tag word = .ok r) :
    r.alternative = .ofWord tag word := by
  unfold ofAlternative at h
  split at h
  · cases h
  · rename_i path hpath
    have hpath' : (Path.parse word).toOption.getD [] = path := by
      rw [hpath]
      rfl
    -- The rule holds the path turned around, and its alternative turns it back.
    split at h
    · cases h
    · cases h
    · rename_i target context hreverse
      cases h
      rw [Alternative.ofWord, hpath', ← List.reverse_reverse path, hreverse]
      simp [alternative]
    · rename_i target context hreverse
      cases h
      rw [Alternative.ofWord, hpath', ← List.reverse_reverse path, hreverse]
      simp [alternative]

/-- The rules of a selector are those of its alternatives, in their order. -/
theorem map_alternative_of_ofSelector {selector : String} {tag : Tag} {rules : List StyleRule}
    (h : ofSelector selector tag = .ok rules) :
    rules.map alternative = (Text.words selector.toList).map (.ofWord tag) := by
  unfold ofSelector at h
  split at h
  · cases h
  · exact map_eq_of_mapM (fun _ _ => alternative_eq_of_ofAlternative) h

end StyleRule

/-- The rules of a table in its order, before they are sorted. -/
theorem StyleTable.build_eq_ok {entries : List (String × Tag)} {table : StyleTable}
    (h : build entries = .ok table) :
    ∃ rules : List StyleRule, rules.map StyleRule.alternative = alternatives entries ∧
      table.rules = rules.mergeSort fun r s => s.specificity ≤ r.specificity := by
  obtain ⟨rules, hrules, h⟩ := bind_eq_ok_iff.mp h
  cases h
  refine ⟨rules.flatten, ?_, rfl⟩
  rw [List.map_flatten, alternatives, List.flatMap]
  exact congrArg List.flatten
    (map_eq_of_mapM (fun _ _ => StyleRule.map_alternative_of_ofSelector) hrules)

/-! ### Which rules apply -/

/-- What an item of a path stands for. -/
theorem PathItem.accepts_iff {item : PathItem} {kind : String} :
    item.accepts kind = true ↔ item = .any ∨ item = .bare kind ∨ item = .quoted kind := by
  cases item <;> simp [accepts]

namespace StyleRule

/-- A context stands for the kinds above a node just if each of its items does. -/
theorem standsUnder_iff {context : List PathItem} {above : List String} :
    standsUnder context above = true ↔
      ∀ (k : Nat) (item : PathItem), context[k]? = some item →
        ∃ name, above[k]? = some name ∧
          (item = .any ∨ item = .bare name ∨ item = .quoted name) := by
  induction context generalizing above with
  | nil => simp [standsUnder]
  | cons item context ih =>
    cases above with
    | nil =>
      -- There is nothing that the first item could stand for.
      simp only [standsUnder, Bool.false_eq_true, false_iff]
      intro h
      obtain ⟨name, hname, -⟩ := h 0 item rfl
      cases hname
    | cons name above =>
      rw [standsUnder, Bool.and_eq_true, ih, PathItem.accepts_iff]
      constructor
      · rintro ⟨hitem, hcontext⟩ k item' hk
        cases k with
        | zero =>
          cases hk
          exact ⟨name, rfl, hitem⟩
        | succ k => exact hcontext k item' hk
      · intro h
        refine ⟨?_, fun k item' hk => h (k + 1) item' hk⟩
        obtain ⟨name', hname, hitem⟩ := h 0 item rfl
        cases hname
        exact hitem

/-- A rule applies just if its alternative matches. -/
theorem applies_iff {r : StyleRule} {kind : String} {above : List String} :
    r.applies kind above = true ↔ r.alternative.Matches kind (above[·]?) := by
  have hlast : (r.alternative.items.getLast? = some (.bare kind) ∨
      r.alternative.items.getLast? = some (.quoted kind)) ↔ r.target = kind := by
    cases h : r.literal <;> simp [alternative, h]
  rw [applies, Bool.and_eq_true, beq_iff_eq, standsUnder_iff, Alternative.Matches, hlast,
    context_alternative]

/-- Rules are as specific as their alternatives are ranked. -/
theorem rank_le_iff {r s : StyleRule} :
    r.alternative.rank ≤ s.alternative.rank ↔ r.specificity ≤ s.specificity := by
  rw [Alternative.rank, Alternative.rank, Prod.Lex.toLex_le_toLex]
  simp only [context_alternative, isQuoted_alternative, specificity]
  cases r.literal <;> cases s.literal <;> simp [Bool.le_iff_imp] <;> omega

end StyleRule

/-! ### The first rule that applies -/

/-- What is found first in a list after a stable sort comes before everything else that could be
found: in the order of the sort, and where that leaves the choice open, in the list. -/
theorem exists_of_find?_mergeSort {α : Type} {le : α → α → Bool}
    (trans : ∀ x y z, le x y = true → le y z = true → le x z = true)
    (total : ∀ x y, (le x y || le y x) = true) {p : α → Bool} {l : List α} {x : α}
    (h : (l.mergeSort le).find? p = some x) :
    ∃ i : Nat, l[i]? = some x ∧ p x = true ∧
      ∀ (j : Nat) (y : α), l[j]? = some y → p y = true →
        le x y = true ∧ (le y x = true → i ≤ j) := by
  -- The members are sorted together with their places in the list.
  rw [← List.mergeSort_zipIdx, List.find?_map] at h
  obtain ⟨⟨x, i⟩, hfind, rfl⟩ := Option.map_eq_some_iff.mp h
  have hmem : ∀ y j, (y, j) ∈ l.zipIdx.mergeSort (List.zipIdxLE le) ↔ l[j]? = some y := by
    intro y j
    rw [List.mem_mergeSort, List.mem_zipIdx_iff_getElem?]
  have hrefl : ∀ a, List.zipIdxLE le a a = true := by
    intro a
    simpa using List.zipIdxLE_total total a a
  have hsorted := List.pairwise_mergeSort (List.zipIdxLE_trans trans) (List.zipIdxLE_total total)
    l.zipIdx
  rw [← List.findSome?_guard] at hfind
  obtain ⟨found, hfound, hguard, hothers⟩ := exists_of_findSome? hrefl hsorted hfind
  obtain ⟨rfl, hp⟩ := Option.guard_eq_some_iff.mp hguard
  refine ⟨i, (hmem x i).mp hfound, hp, ?_⟩
  intro j y hy hpy
  have hsome : (Option.guard (p ∘ fun z => z.1) (y, j)).isSome := by
    rw [Option.isSome_guard]
    exact hpy
  have hle := hothers (y, j) ((hmem y j).mpr hy) hsome
  -- Only members that the sort leaves open are compared by their places.
  rw [List.zipIdxLE] at hle
  split at hle
  · rename_i hxy
    refine ⟨hxy, fun hyx => ?_⟩
    rw [if_pos hyx] at hle
    exact of_decide_eq_true hle
  · cases hle

namespace StyleTable

variable {entries : List (String × Tag)} {table : StyleTable} {kind : String} {above : List String}

/-- Without a tag no alternative matches. -/
theorem tagUnder_eq_none_iff (h : build entries = .ok table) :
    table.tagUnder kind above = none ↔
      ∀ a ∈ alternatives entries, ¬ a.Matches kind (above[·]?) := by
  obtain ⟨rules, hrules, hsorted⟩ := build_eq_ok h
  rw [tagUnder, Option.map_eq_none_iff, List.find?_eq_none, hsorted, ← hrules]
  simp [StyleRule.applies_iff]

/-- A tag is that of the first of the alternatives of the highest rank that match. -/
theorem exists_of_tagUnder_eq_some (h : build entries = .ok table) {tag : Tag}
    (htag : table.tagUnder kind above = some tag) :
    ∃ (i : Nat) (a : Alternative), (alternatives entries)[i]? = some a ∧
      a.Matches kind (above[·]?) ∧
      (∀ (j : Nat) (b : Alternative), (alternatives entries)[j]? = some b →
        b.Matches kind (above[·]?) → b.rank < a.rank ∨ b.rank = a.rank ∧ i ≤ j) ∧
      a.tag = tag := by
  obtain ⟨rules, hrules, hsorted⟩ := build_eq_ok h
  obtain ⟨r, hfind, rfl⟩ := Option.map_eq_some_iff.mp htag
  rw [hsorted] at hfind
  obtain ⟨i, hi, happlies, hothers⟩ := exists_of_find?_mergeSort
    (fun x y z hxy hyz => by simp only [decide_eq_true_eq] at *; omega)
    (fun x y => by simp only [Bool.or_eq_true, decide_eq_true_eq]; omega) hfind
  -- The places of the rules are those of their alternatives.
  refine ⟨i, r.alternative, ?_, StyleRule.applies_iff.mp happlies, ?_, rfl⟩
  · rw [← hrules, List.getElem?_map, hi]
    rfl
  · intro j b hb hmatches
    rw [← hrules, List.getElem?_map] at hb
    obtain ⟨s, hs, rfl⟩ := Option.map_eq_some_iff.mp hb
    obtain ⟨hle, hplace⟩ := hothers j s hs (StyleRule.applies_iff.mpr hmatches)
    simp only [decide_eq_true_eq] at hle hplace
    rcases lt_or_eq_of_le (StyleRule.rank_le_iff.mpr hle) with hlt | heq
    · exact .inl hlt
    · exact .inr ⟨heq, hplace (StyleRule.rank_le_iff.mp heq.ge)⟩

end StyleTable

/-- The names above a node, numbered from the parent upward. -/
theorem Tree.Node.names_above_getElem? {t : Tree} (n : t.Node) (k : Nat) :
    (n.ancestors.tail.map (·.name))[k]? = (n.up? (k + 1)).map (·.name) := by
  rw [List.getElem?_map, List.getElem?_tail, Tree.Node.ancestors_getElem?]

/-- A node has no tag just if no alternative of the table matches it. Otherwise it has the tag of
the alternative that, among those that match, has the most items above the last one, then has a bare
last item rather than a quoted one, and then comes first. The names of the node and of its proper
ancestors, innermost first, are all that the tag depends on. -/
theorem tagOf_exact {entries : List (String × Tag)} {table : StyleTable}
    (h : StyleTable.build entries = .ok table) {t : Tree} (n : t.Node) :
    (table.tagOf n = none ↔ ∀ a ∈ StyleTable.alternatives entries, ¬ a.MatchesNode n) ∧
      ((∃ a ∈ StyleTable.alternatives entries, a.MatchesNode n) →
        ∃ (i : Nat) (a : Alternative), (StyleTable.alternatives entries)[i]? = some a ∧
          a.MatchesNode n ∧
          (∀ (j : Nat) (b : Alternative), (StyleTable.alternatives entries)[j]? = some b →
            b.MatchesNode n → b.rank < a.rank ∨ b.rank = a.rank ∧ i ≤ j) ∧
          table.tagOf n = some a.tag) ∧
      ∀ names : List String, (∀ k : Nat, names[k]? = (n.up? (k + 1)).map (·.name)) →
        table.tagUnder n.name names = table.tagOf n := by
  have hmatches : ∀ a : Alternative,
      a.Matches n.name ((n.ancestors.tail.map (·.name))[·]?) ↔ a.MatchesNode n := by
    intro a
    simp only [Tree.Node.names_above_getElem?]
    rfl
  have hnone : table.tagOf n = none ↔
      ∀ a ∈ StyleTable.alternatives entries, ¬ a.MatchesNode n := by
    rw [StyleTable.tagOf, StyleTable.tagUnder_eq_none_iff h]
    simp only [hmatches]
  refine ⟨hnone, ?_, ?_⟩
  · -- Something matches, so there is a tag, and a tag comes from the best match.
    rintro ⟨a, ha, hmatch⟩
    have hsome : table.tagOf n ≠ none := fun heq => hnone.mp heq a ha hmatch
    obtain ⟨tag, htag⟩ := Option.ne_none_iff_exists'.mp hsome
    have hfirst := StyleTable.exists_of_tagUnder_eq_some h htag
    simp only [hmatches] at hfirst
    obtain ⟨i, a, hi, ha, hothers, rfl⟩ := hfirst
    exact ⟨i, a, hi, ha, hothers, htag⟩
  · intro names hnames
    have heq : names = n.ancestors.tail.map (·.name) := by
      apply List.ext_getElem?
      intro k
      rw [hnames, Tree.Node.names_above_getElem?]
    rw [heq, StyleTable.tagOf]

/-- Tags for names by what stands above them. -/
def nameStyles : List (String × Tag) :=
  [("VariableName 'VariableName'", ⟨.variableName, {}⟩), ("*/VariableName", ⟨.string, {}⟩),
    ("FormatString/VariableName */*/*/VariableName", ⟨.comment, {}⟩)]

/-- The alternatives of `nameStyles`. -/
theorem alternatives_nameStyles :
    StyleTable.alternatives nameStyles =
      [⟨[.bare "VariableName"], ⟨.variableName, {}⟩⟩,
        ⟨[.quoted "VariableName"], ⟨.variableName, {}⟩⟩,
        ⟨[.any, .bare "VariableName"], ⟨.string, {}⟩⟩,
        ⟨[.bare "FormatString", .bare "VariableName"], ⟨.comment, {}⟩⟩,
        ⟨[.any, .any, .any, .bare "VariableName"], ⟨.comment, {}⟩⟩] := by
  decide +kernel

/-- Of two paths of one length that match the name in a format string, the first gives the tag. The
bare and the quoted name count less, and the longest path reaches above the root. -/
theorem tagOf_exact_formatString :
    ∃ table, StyleTable.build nameStyles = .ok table ∧
      table.tagOf (⟨2, by decide⟩ : formatString.Node) = some ⟨.string, {}⟩ ∧
      table.tagUnder "VariableName" ["FormatString", "Script"] = some ⟨.string, {}⟩ := by
  have hbuild : ∃ table, StyleTable.build nameStyles = .ok table := by
    have hok : (StyleTable.build nameStyles).isOk = true := by decide +kernel
    cases h : StyleTable.build nameStyles with
    | error e =>
      rw [h] at hok
      cases hok
    | ok table => exact ⟨table, rfl⟩
  obtain ⟨table, hbuild⟩ := hbuild
  let name : formatString.Node := ⟨2, by decide⟩
  obtain ⟨-, hfirst, hunder⟩ := tagOf_exact hbuild name
  have hpath : (⟨[.any, .bare "VariableName"], ⟨.string, {}⟩⟩ : Alternative).MatchesNode name := by
    refine ⟨.inl rfl, ?_⟩
    intro k item hk
    match k, hk with
    | 0, hk =>
      cases hk
      exact ⟨"FormatString", rfl, .inl rfl⟩
  have htag : table.tagOf name = some ⟨.string, {}⟩ := by
    rw [alternatives_nameStyles] at hfirst
    obtain ⟨i, a, hi, ha, hothers, htag⟩ := hfirst ⟨_, by simp, hpath⟩
    have hrank := hothers 2 _ rfl hpath
    match i, hi with
    | 0, hi | 1, hi | 3, hi =>
      cases hi
      exact absurd hrank (by decide)
    | 2, hi =>
      cases hi
      exact htag
    | 4, hi =>
      -- There are only two nodes above the name.
      cases hi
      obtain ⟨above, habove, -⟩ := ha.2 2 .any rfl
      cases habove
  refine ⟨table, hbuild, htag, ?_⟩
  have hnames : name.ancestors.tail.map (·.name) = ["FormatString", "Script"] := by decide +kernel
  rw [← htag]
  refine hunder ["FormatString", "Script"] ?_
  intro k
  rw [← Tree.Node.names_above_getElem?, hnames]

end TreeAssist
