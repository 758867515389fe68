import TreeAssist.Text.Quoted

/-!
# Selectors

A selector names kinds of nodes, each perhaps with the kinds that must stand above it. It is a text
of alternatives with blanks between them, and an alternative is a path of items with slashes
between them, outermost kind first: `CallExpression/VariableName`. An item is a bare name, a
quoted name, which may hold a slash, or `*` for any kind.

The module introduces:

* `PathItem` and `PathItem.accepts`.
* `Path.parse` — the items of an alternative, or what is wrong with it.
* `SelectorError` — what is wrong with a selector, and `SelectorError.message`.
-/

namespace TreeAssist

/-- One item of a path. -/
inductive PathItem where
  /-- A name, as it is. -/
  | bare (name : String)
  /-- A name between single quotes. -/
  | quoted (name : String)
  /-- Any kind. -/
  | any
deriving DecidableEq

namespace PathItem

/-- The item stands for a node of the kind `kind`. -/
def accepts (s : PathItem) (kind : String) : Bool :=
  match s with
  | bare name => name == kind
  | quoted name => name == kind
  | any => true

/-- An item without quotes. -/
def ofBare (cs : List Char) : PathItem :=
  if cs = ['*'] then any else bare (String.ofList cs)

/-- The item as it is written in a path. -/
def render : PathItem → List Char
  | bare name => name.toList
  | quoted name => '\'' :: (name.toList ++ ['\''])
  | any => ['*']

end PathItem

/-- What is wrong with a path. -/
inductive PathFault where
  /-- An item is empty, or something other than a slash follows a quoted one. -/
  | emptyItem
  /-- A quote is not closed. -/
  | openQuote
deriving DecidableEq

namespace Path

/-- A quoted item behind its opening quote, and what follows it. -/
def quotedItem (cs : List Char) : Except PathFault (PathItem × List Char) :=
  match cs.takeWhile (· != '\''), cs.dropWhile (· != '\'') with
  | _, [] => .error .openQuote
  | [], _ :: _ => .error .emptyItem
  | c :: name, _ :: rest => .ok (.quoted (String.ofList (c :: name)), rest)

/-- A bare item, and what follows it. -/
def bareItem (cs : List Char) : Except PathFault (PathItem × List Char) :=
  match cs.takeWhile (· != '/') with
  | [] => .error .emptyItem
  | c :: name => .ok (.ofBare (c :: name), cs.dropWhile (· != '/'))

/-- The first item of a path, and what follows it. -/
def firstItem : List Char → Except PathFault (PathItem × List Char)
  | '\'' :: cs => quotedItem cs
  | cs => bareItem cs

/-- A quoted item leaves less than there was. -/
theorem length_lt_of_quotedItem {cs rest : List Char} {s : PathItem}
    (h : quotedItem cs = .ok (s, rest)) : rest.length < cs.length := by
  have hle := (List.dropWhile_sublist (l := cs) (· != '\'')).length_le
  unfold quotedItem at h
  split at h
  · cases h
  · cases h
  · rename_i heq
    cases h
    rw [heq, List.length_cons] at hle
    exact hle

/-- A bare item leaves less than there was. -/
theorem length_lt_of_bareItem {cs rest : List Char} {s : PathItem}
    (h : bareItem cs = .ok (s, rest)) : rest.length < cs.length := by
  have hsum := congrArg List.length (List.takeWhile_append_dropWhile (l := cs) (p := (· != '/')))
  rw [List.length_append] at hsum
  unfold bareItem at h
  split at h
  · cases h
  · rename_i heq
    cases h
    rw [heq, List.length_cons] at hsum
    omega

/-- An item leaves less than there was. -/
theorem length_lt_of_firstItem {cs rest : List Char} {s : PathItem}
    (h : firstItem cs = .ok (s, rest)) : rest.length < cs.length := by
  unfold firstItem at h
  split at h
  · exact Nat.lt_succ_of_lt (length_lt_of_quotedItem h)
  · exact length_lt_of_bareItem h

/-- The items of a path, outermost first. -/
def parse (cs : List Char) : Except PathFault (List PathItem) :=
  match _h : firstItem cs with
  | .error e => .error e
  | .ok (s, []) => .ok [s]
  | .ok (s, '/' :: rest) =>
    match parse rest with
    | .error e => .error e
    | .ok ss => .ok (s :: ss)
  | .ok (_, _ :: _) => .error .emptyItem
termination_by cs.length
decreasing_by
  have := length_lt_of_firstItem _h
  simp only [List.length_cons] at this
  omega

end Path

/-- What is wrong with a selector. -/
inductive SelectorError where
  /-- It has no alternatives. -/
  | noAlternatives (selector : String)
  /-- A path in it has an empty item. -/
  | emptyItem (selector : String)
  /-- A quote in it is not closed. -/
  | openQuote (selector : String)
  /-- A path in it ends with `*`, which can only stand for what is above a node. -/
  | wildcardLast (selector : String)
deriving DecidableEq

namespace SelectorError

/-- The error of the given selector with a faulty path. -/
def ofFault (selector : String) : PathFault → SelectorError
  | .emptyItem => .emptyItem selector
  | .openQuote => .openQuote selector

/-- The wording of an error. -/
def message : SelectorError → String
  | noAlternatives selector => "selector " ++ Text.quoted selector ++ " has no alternatives"
  | emptyItem selector => "selector " ++ Text.quoted selector ++ " has an empty path segment"
  | openQuote selector =>
    "selector " ++ Text.quoted selector ++ " has an unterminated quoted literal"
  | wildcardLast selector => "selector " ++ Text.quoted selector ++ " ends in a wildcard"

end SelectorError

end TreeAssist
