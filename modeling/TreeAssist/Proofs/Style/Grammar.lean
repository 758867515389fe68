import Mathlib.Data.List.TakeWhile
import TreeAssist.Proofs.Text.Words
import TreeAssist.Style.Table
import TreeAssist.Text.Split

/-!
# The grammar of selectors

An item of a path is a quoted name, a bare name or `*` (`PathItem.WrittenAs`), and a path is one
item or more with slashes between them (`Path.WrittenAs`). The reader takes one item after the other
from the front of a text. What it takes is an item as it is written (`Path.exists_of_firstItem`),
and it takes an item whole if the text ends behind it or goes on with a slash
(`Path.firstItem_append`). So it reads the paths of the grammar and no others
(`Path.parse_eq_ok_iff`).

A table is read selector by selector, and a selector alternative by alternative. Both stop at the
first failure (`mapM_eq_error_iff`), and a failure names the selector that it arises in
(`StyleRule.selector_of_ofSelector`). The alternatives of a selector are its words
(`Text.IsWordOf`), so which selectors are well formed is said without the reader.

Main statement: `selector_grammar`.
-/

namespace TreeAssist

open Text

/-! ### Cutting a text at a character -/

namespace Text

/-- What stands in front of the first `c` does not hold `c`. -/
theorem not_mem_takeWhile_ne (c : Char) (cs : List Char) : c ∉ cs.takeWhile (· != c) := by
  intro hmem
  simpa using List.mem_takeWhile_imp hmem

/-- A text without `c` is what stands in front of the first `c`, if nothing follows it or `c`
does. -/
theorem takeWhile_ne_append {c : Char} {word rest : List Char} (hword : c ∉ word)
    (hrest : rest = [] ∨ rest.head? = some c) :
    (word ++ rest).takeWhile (· != c) = word ∧ (word ++ rest).dropWhile (· != c) = rest := by
  have hall : ∀ d ∈ word, (d != c) = true := by
    intro d hd
    rw [bne_iff_ne]
    rintro rfl
    exact hword hd
  have hnone : rest.takeWhile (· != c) = [] ∧ rest.dropWhile (· != c) = rest := by
    rcases hrest with rfl | hrest
    · exact ⟨rfl, rfl⟩
    · obtain ⟨rest, rfl⟩ := List.head?_eq_some_iff.mp hrest
      simp
  rw [List.takeWhile_append_of_pos hall, List.dropWhile_append_of_pos hall, hnone.1, hnone.2,
    List.append_nil]
  exact ⟨rfl, rfl⟩

end Text

/-! ### Paths -/

/-- How an item is written: a name between single quotes that holds no such quote, a name that holds
no slash and does not begin with a quote, or `*`. No name is empty. -/
inductive PathItem.WrittenAs : PathItem → List Char → Prop where
  /-- A name between quotes. -/
  | quoted {name : List Char} (hne : name ≠ []) (hquote : '\'' ∉ name) :
    WrittenAs (.quoted (String.ofList name)) ('\'' :: (name ++ ['\'']))
  /-- A name by itself. -/
  | bare {name : List Char} (hne : name ≠ []) (hslash : '/' ∉ name)
    (hquote : name.head? ≠ some '\'') (hstar : name ≠ ['*']) :
    WrittenAs (.bare (String.ofList name)) name
  /-- The sign for any kind. -/
  | any : WrittenAs .any ['*']

/-- How a path is written: its items, outermost first, with slashes between them. -/
inductive Path.WrittenAs : List PathItem → List Char → Prop where
  /-- The last item. -/
  | last {item : PathItem} {word : List Char} (h : item.WrittenAs word) : WrittenAs [item] word
  /-- An item in front of others. -/
  | cons {item : PathItem} {word : List Char} {items : List PathItem} {rest : List Char}
    (h : item.WrittenAs word) (hrest : WrittenAs items rest) :
    WrittenAs (item :: items) (word ++ '/' :: rest)

/-- An item is written as it is rendered. -/
theorem PathItem.WrittenAs.render_eq {item : PathItem} {word : List Char}
    (h : item.WrittenAs word) : item.render = word := by
  cases h with
  | quoted hne hquote => simp [render]
  | bare hne hslash hquote hstar => simp [render]
  | any => rfl

/-- What holds no slash and does not begin with a quote is an item. -/
theorem PathItem.writtenAs_ofBare {word : List Char} (hne : word ≠ []) (hslash : '/' ∉ word)
    (hquote : word.head? ≠ some '\'') : (ofBare word).WrittenAs word := by
  unfold ofBare
  split
  · rename_i hstar
    rw [hstar]
    exact .any
  · rename_i hstar
    exact .bare hne hslash hquote hstar

namespace Path

variable {cs rest word path : List Char} {item : PathItem} {items : List PathItem}

/-- A path is at least one item. -/
theorem WrittenAs.ne_nil (h : WrittenAs items path) : items ≠ [] := by
  cases h <;> simp

/-- A path is written as its items are rendered, with slashes between them. -/
theorem WrittenAs.joinWith_render (h : WrittenAs items path) :
    joinWith '/' (items.map PathItem.render) = path := by
  induction h with
  | last h => exact h.render_eq
  | @cons item word items rest h hrest ih =>
    obtain ⟨next, items, rfl⟩ := List.exists_cons_of_ne_nil hrest.ne_nil
    rw [List.map_cons] at ih
    rw [List.map_cons, List.map_cons, joinWith, ih, h.render_eq]

/-! ### One item -/

/-- What is taken as a quoted item is one, with its closing quote. -/
theorem exists_of_quotedItem (h : quotedItem cs = .ok (item, rest)) :
    ∃ word, '\'' :: cs = word ++ rest ∧ item.WrittenAs word := by
  have hwhole := List.takeWhile_append_dropWhile (p := (· != '\'')) (l := cs)
  have hstop := List.head?_dropWhile_not (· != '\'') cs
  unfold quotedItem at h
  split at h
  · cases h
  · cases h
  · rename_i c name quote rest' htake hdrop
    cases h
    rw [htake, hdrop] at hwhole
    rw [hdrop] at hstop
    obtain rfl : quote = '\'' := by simpa using hstop
    have hquote : '\'' ∉ c :: name := htake ▸ not_mem_takeWhile_ne '\'' cs
    exact ⟨_, by simp [← hwhole], .quoted (List.cons_ne_nil c name) hquote⟩

/-- What is taken as a bare item is one, if the text does not begin with a quote. -/
theorem exists_of_bareItem (hcs : cs.head? ≠ some '\'') (h : bareItem cs = .ok (item, rest)) :
    ∃ word, cs = word ++ rest ∧ item.WrittenAs word := by
  have hwhole := List.takeWhile_append_dropWhile (p := (· != '/')) (l := cs)
  unfold bareItem at h
  split at h
  · cases h
  · rename_i c name htake
    cases h
    rw [htake] at hwhole
    have hslash : '/' ∉ c :: name := htake ▸ not_mem_takeWhile_ne '/' cs
    refine ⟨_, hwhole.symm, PathItem.writtenAs_ofBare (List.cons_ne_nil c name) hslash ?_⟩
    rw [← hwhole] at hcs
    simpa using hcs

/-- What does not begin with a quote is read as a bare item. -/
theorem firstItem_of_head?_ne (h : cs.head? ≠ some '\'') : firstItem cs = bareItem cs := by
  unfold firstItem
  split
  · exact absurd rfl h
  · rfl

/-- What is taken from the front of a text is an item. -/
theorem exists_of_firstItem (h : firstItem cs = .ok (item, rest)) :
    ∃ word, cs = word ++ rest ∧ item.WrittenAs word := by
  by_cases hcs : cs.head? = some '\''
  · obtain ⟨cs, rfl⟩ := List.head?_eq_some_iff.mp hcs
    exact exists_of_quotedItem h
  · rw [firstItem_of_head?_ne hcs] at h
    exact exists_of_bareItem hcs h

/-- A quoted item ends at its closing quote, whatever follows. -/
theorem quotedItem_append {name : List Char} (hne : name ≠ []) (hquote : '\'' ∉ name)
    (rest : List Char) :
    quotedItem (name ++ '\'' :: rest) = .ok (.quoted (String.ofList name), rest) := by
  obtain ⟨c, name, rfl⟩ := List.exists_cons_of_ne_nil hne
  have hrest : ('\'' :: rest).head? = some '\'' := rfl
  obtain ⟨htake, hdrop⟩ := takeWhile_ne_append hquote (.inr hrest)
  unfold quotedItem
  rw [htake, hdrop]

/-- A bare item ends at the end of the text or at a slash. -/
theorem bareItem_append (hne : word ≠ []) (hslash : '/' ∉ word)
    (hrest : rest = [] ∨ rest.head? = some '/') :
    bareItem (word ++ rest) = .ok (.ofBare word, rest) := by
  obtain ⟨c, word, rfl⟩ := List.exists_cons_of_ne_nil hne
  obtain ⟨htake, hdrop⟩ := takeWhile_ne_append hslash hrest
  unfold bareItem
  rw [htake, hdrop]

/-- An item is taken whole if the text ends behind it or goes on with a slash. -/
theorem firstItem_append (h : item.WrittenAs word) (hrest : rest = [] ∨ rest.head? = some '/') :
    firstItem (word ++ rest) = .ok (item, rest) := by
  cases h with
  | @quoted name hne hquote =>
    rw [List.cons_append, List.append_assoc, List.singleton_append]
    exact quotedItem_append hne hquote rest
  | bare hne hslash hquote hstar =>
    have hhead : (word ++ rest).head? ≠ some '\'' := by
      obtain ⟨c, word, rfl⟩ := List.exists_cons_of_ne_nil hne
      simpa using hquote
    rw [firstItem_of_head?_ne hhead, bareItem_append hne hslash hrest, PathItem.ofBare,
      if_neg hstar]
  | any =>
    have hne : ['*'] ≠ [] := List.cons_ne_nil _ _
    exact bareItem_append hne (by decide) hrest

/-! ### Whole paths -/

/-- A text that is a single item is a path. -/
theorem parse_of_last (h : firstItem cs = .ok (item, [])) : parse cs = .ok [item] := by
  rw [parse]
  split
  all_goals simp_all

/-- Behind an item and a slash, the rest is read as a path. -/
theorem parse_of_cons (h : firstItem cs = .ok (item, '/' :: rest))
    (hrest : parse rest = .ok items) : parse cs = .ok (item :: items) := by
  rw [parse]
  split
  all_goals simp_all

/-- A text is read as the items that it is written for. -/
theorem parse_eq_ok_iff : parse path = .ok items ↔ WrittenAs items path := by
  constructor
  · intro h
    fun_induction parse path generalizing items with
    | case1 cs e hfirst => cases h
    | case2 cs item hfirst =>
      cases h
      obtain ⟨word, rfl, hword⟩ := exists_of_firstItem hfirst
      rw [List.append_nil]
      exact .last hword
    | case3 cs item rest hfirst e hparse ih => cases h
    | case4 cs item rest hfirst items' hparse ih =>
      cases h
      obtain ⟨word, rfl, hword⟩ := exists_of_firstItem hfirst
      exact .cons hword (ih hparse)
    | case5 cs item c rest hfirst hslash => cases h
  · intro h
    induction h with
    | @last item word h =>
      refine parse_of_last ?_
      have hfirst := firstItem_append h (.inl rfl)
      rwa [List.append_nil] at hfirst
    | cons h hrest ih => exact parse_of_cons (firstItem_append h (.inr rfl)) ih

end Path

/-! ### Selectors and tables -/

/-- The selector is one that a table can be made from: it has alternatives, and each of them is a
path whose last item is not `*`. -/
structure Selector.WellFormed (selector : String) : Prop where
  /-- There is an alternative. -/
  nonempty : ∃ word, IsWordOf word selector.toList
  /-- Each alternative is a path to a kind. -/
  paths : ∀ word, IsWordOf word selector.toList →
    ∃ items, Path.WrittenAs items word ∧ items.getLast? ≠ some .any

/-- The selector that an error is about. -/
def SelectorError.selector : SelectorError → String
  | noAlternatives selector | emptyItem selector | openQuote selector | wildcardLast selector =>
    selector

section MapM

variable {ε α β : Type} {f : α → Except ε β} {l : List α}

/-- Going through a list succeeds if it does at each member. -/
theorem exists_mapM_eq_ok_iff : (∃ l', l.mapM f = .ok l') ↔ ∀ x ∈ l, ∃ y, f x = .ok y := by
  induction l with
  | nil => simp [pure, Except.pure]
  | cons x l ih =>
    rw [List.mapM_cons, List.forall_mem_cons, ← ih]
    constructor
    · rintro ⟨l', hl'⟩
      obtain ⟨y, hy, hl'⟩ := bind_eq_ok_iff.mp hl'
      obtain ⟨ys, hys, -⟩ := bind_eq_ok_iff.mp hl'
      exact ⟨⟨y, hy⟩, ⟨ys, hys⟩⟩
    · rintro ⟨⟨y, hy⟩, ⟨ys, hys⟩⟩
      exact ⟨y :: ys, by rw [hy, hys]; rfl⟩

/-- Going through a list fails at the first member at which it does not succeed. -/
theorem mapM_eq_error_iff {e : ε} :
    l.mapM f = .error e ↔
      ∃ before x behind, l = before ++ x :: behind ∧ (∀ y ∈ before, ∃ z, f y = .ok z) ∧
        f x = .error e := by
  induction l with
  | nil => simp [pure, Except.pure]
  | cons y l ih =>
    rw [List.mapM_cons, bind_eq_error_iff]
    constructor
    · rintro (hy | ⟨z, hz, h⟩)
      · exact ⟨[], y, l, rfl, by simp, hy⟩
      · rcases bind_eq_error_iff.mp h with h | ⟨zs, -, h⟩
        · obtain ⟨before, x, behind, rfl, hbefore, hx⟩ := ih.mp h
          exact ⟨y :: before, x, behind, rfl, List.forall_mem_cons.mpr ⟨⟨z, hz⟩, hbefore⟩, hx⟩
        · cases h
    · rintro ⟨before, x, behind, hl, hbefore, hx⟩
      cases before with
      | nil =>
        cases hl
        exact .inl hx
      | cons y' before =>
        cases hl
        obtain ⟨⟨z, hz⟩, hbefore⟩ := List.forall_mem_cons.mp hbefore
        refine .inr ⟨z, hz, bind_eq_error_iff.mpr (.inl ?_)⟩
        exact ih.mpr ⟨before, x, behind, rfl, hbefore, hx⟩

end MapM

namespace StyleRule

variable {selector : String} {tag : Tag} {word : List Char} {e : SelectorError}

/-- An alternative gives a rule if it is a path to a kind. -/
theorem exists_ofAlternative_iff :
    (∃ r, ofAlternative selector tag word = .ok r) ↔
      ∃ items, Path.WrittenAs items word ∧ items.getLast? ≠ some .any := by
  simp only [← Path.parse_eq_ok_iff]
  unfold ofAlternative
  cases hparse : Path.parse word with
  | error fault => simp
  | ok path =>
    have hne := (Path.parse_eq_ok_iff.mp hparse).ne_nil
    -- The last item is the first one of the path turned around.
    rw [← List.reverse_ne_nil_iff] at hne
    obtain ⟨item, context, hreverse⟩ := List.exists_cons_of_ne_nil hne
    have hlast : path.getLast? = some item := by
      rw [← List.head?_reverse, hreverse, List.head?_cons]
    simp only [hreverse]
    cases item <;> simp [hlast]

/-- What is wrong with an alternative is an error of its selector. -/
theorem selector_of_ofAlternative (h : ofAlternative selector tag word = .error e) :
    e.selector = selector := by
  unfold ofAlternative at h
  split at h
  · rename_i fault hparse
    cases h
    cases fault <;> rfl
  · split at h <;> cases h <;> rfl

/-- A selector gives rules if it is well formed. -/
theorem exists_ofSelector_iff :
    (∃ rules, ofSelector selector tag = .ok rules) ↔ Selector.WellFormed selector := by
  unfold ofSelector
  split
  · rename_i hnil
    simp only [reduceCtorEq, exists_false, false_iff]
    intro h
    obtain ⟨word, hword⟩ := h.nonempty
    rw [← mem_words_iff, hnil] at hword
    cases hword
  · rename_i hne
    simp only [exists_mapM_eq_ok_iff, exists_ofAlternative_iff, mem_words_iff]
    obtain ⟨word, hword⟩ := List.exists_mem_of_ne_nil _ hne
    exact ⟨fun h => ⟨⟨word, mem_words_iff.mp hword⟩, h⟩, fun h => h.paths⟩

/-- What is wrong with a selector is an error of that selector. -/
theorem selector_of_ofSelector (h : ofSelector selector tag = .error e) :
    e.selector = selector := by
  unfold ofSelector at h
  split at h
  · cases h
    rfl
  · obtain ⟨-, word, -, -, -, hword⟩ := mapM_eq_error_iff.mp h
    exact selector_of_ofAlternative hword

end StyleRule

namespace StyleTable

variable {entries : List (String × Tag)}

/-- A table is made if all its selectors are well formed. -/
theorem exists_build_iff :
    (∃ table, build entries = .ok table) ↔ ∀ e ∈ entries, Selector.WellFormed e.1 := by
  have hrules : (∃ table, build entries = .ok table) ↔
      ∃ rules, (entries.mapM fun e => StyleRule.ofSelector e.1 e.2) = .ok rules := by
    unfold build
    constructor
    · rintro ⟨table, h⟩
      obtain ⟨rules, hrules, -⟩ := bind_eq_ok_iff.mp h
      exact ⟨rules, hrules⟩
    · rintro ⟨rules, hrules⟩
      exact ⟨_, bind_eq_ok_iff.mpr ⟨rules, hrules, rfl⟩⟩
  rw [hrules]
  simp only [exists_mapM_eq_ok_iff, StyleRule.exists_ofSelector_iff]

/-- A table is not made because of the first selector that is not well formed. -/
theorem build_eq_error_iff {err : SelectorError} :
    build entries = .error err ↔
      ∃ before e behind, entries = before ++ e :: behind ∧
        (∀ e' ∈ before, Selector.WellFormed e'.1) ∧
        StyleRule.ofSelector e.1 e.2 = .error err := by
  have hrules : build entries = .error err ↔
      (entries.mapM fun e => StyleRule.ofSelector e.1 e.2) = .error err := by
    unfold build
    rw [bind_eq_error_iff]
    simp
  rw [hrules]
  simp only [mapM_eq_error_iff, StyleRule.exists_ofSelector_iff]

end StyleTable

/-- A text is read as a path exactly if it is written as one, and then its items are those that it
is written for; rendered with slashes between them, they give the text back. A table is made exactly
if each of its selectors has an alternative, and all its alternatives are paths that do not end in
`*`. Otherwise there is an error, and it is about the first selector of which this does not hold. -/
theorem selector_grammar (entries : List (String × Tag)) :
    (∀ (path : List Char) (items : List PathItem),
        Path.parse path = .ok items ↔ Path.WrittenAs items path) ∧
      (∀ (path : List Char) (items : List PathItem), Path.parse path = .ok items →
        joinWith '/' (items.map PathItem.render) = path) ∧
      ((∃ table, StyleTable.build entries = .ok table) ↔
        ∀ e ∈ entries, Selector.WellFormed e.1) ∧
      ∀ selector, (∃ err, StyleTable.build entries = .error err ∧ err.selector = selector) ↔
        ∃ before tag behind, entries = before ++ (selector, tag) :: behind ∧
          (∀ e ∈ before, Selector.WellFormed e.1) ∧ ¬ Selector.WellFormed selector := by
  refine ⟨fun _ _ => Path.parse_eq_ok_iff, ?_, StyleTable.exists_build_iff, ?_⟩
  · intro path items h
    exact (Path.parse_eq_ok_iff.mp h).joinWith_render
  · intro selector
    simp only [StyleTable.build_eq_error_iff]
    constructor
    · rintro ⟨err, ⟨before, ⟨selector', tag⟩, behind, rfl, hbefore, herr⟩, rfl⟩
      have hselector := StyleRule.selector_of_ofSelector herr
      simp only at hselector
      subst hselector
      refine ⟨before, tag, behind, rfl, hbefore, fun hwf => ?_⟩
      obtain ⟨rules, hrules⟩ : ∃ rules, StyleRule.ofSelector err.selector tag = .ok rules :=
        StyleRule.exists_ofSelector_iff.mpr hwf
      cases herr.symm.trans hrules
    · rintro ⟨before, tag, behind, rfl, hbefore, hselector⟩
      cases h : StyleRule.ofSelector selector tag with
      | ok rules => exact absurd (StyleRule.exists_ofSelector_iff.mp ⟨rules, h⟩) hselector
      | error err =>
        exact ⟨err, ⟨before, (selector, tag), behind, rfl, hbefore, h⟩,
          StyleRule.selector_of_ofSelector h⟩

/-- A slash in quotes and a quote inside a bare name do not end an item. Of three selectors, the one
that ends in `*` is reported, since it comes before the one with an empty name. -/
theorem selector_grammar_starLast :
    joinWith '/' ([.bare "A", .quoted "/", .any, .bare "b'c"].map PathItem.render) =
        "A/'/'/*/b'c".toList ∧
      ∃ err, StyleTable.build
          [("A/'/'", ⟨.keyword, {}⟩), ("B A/*", ⟨.string, {}⟩), ("''", ⟨.string, {}⟩)] =
            .error err ∧
        err.selector = "B A/*" := by
  obtain ⟨hparse, hrender, -, herr⟩ := selector_grammar
    [("A/'/'", ⟨.keyword, {}⟩), ("B A/*", ⟨.string, {}⟩), ("''", ⟨.string, {}⟩)]
  have hslash : Path.parse "A/'/'".toList = .ok [.bare "A", .quoted "/"] := by decide +kernel
  have hstar : Path.parse "A/*".toList = .ok [.bare "A", .any] := by decide +kernel
  refine ⟨hrender _ _ (by decide +kernel), (herr _).mpr ⟨[_], _, [_], rfl, ?_, ?_⟩⟩
  · have hwords : words "A/'/'".toList = ["A/'/'".toList] := by decide +kernel
    rw [List.forall_mem_singleton]
    refine ⟨⟨_, mem_words_iff.mp (hwords ▸ List.mem_cons_self)⟩, fun word hword => ?_⟩
    rw [← mem_words_iff, hwords, List.mem_singleton] at hword
    rw [hword]
    exact ⟨_, (hparse _ _).mp hslash, by decide⟩
  · intro hwf
    have hword : "A/*".toList ∈ words "B A/*".toList := by decide +kernel
    obtain ⟨items, hitems, hlast⟩ := hwf.paths _ (mem_words_iff.mp hword)
    cases hstar.symm.trans ((hparse _ _).mpr hitems)
    exact hlast rfl

end TreeAssist
