import TreeAssist.Text.Split

/-!
# Style tags

A tag says how a piece of text is to be styled, without saying in which colour: a category, which
may refine a broader one, and modifiers. A theme knows styles under dotted scope names, such as
`keyword.control`, most general part first.

The module introduces:

* `Category` — the categories, with `Category.parent?` and the chain of broader categories
  `Category.lineage`.
* `Modifier`, `Modifiers` — refinements that any category may carry.
* `Tag.dottedName` — the dotted name of a tag.
* `Tag.bestScope` — the most specific of a theme's scopes that covers a tag.
-/

namespace TreeAssist

/-- The categories of styled text. -/
inductive Category where
  | comment
  | lineComment
  | name
  | variableName
  | propertyName
  | className
  | literal
  | string
  | number
  | bool
  | null
  | keyword
  | controlKeyword
  | operatorKeyword
  | definitionKeyword
  | modifier
  | selfKeyword
  | operator
  | updateOperator
  | arithmeticOperator
  | bitwiseOperator
  | compareOperator
  | definitionOperator
  | derefOperator
  | punctuation
  | separator
  | bracket
  | paren
  | squareBracket
  | brace
  | metadata
deriving DecidableEq

namespace Category

/-- All categories. -/
def all : List Category :=
  [comment, lineComment, name, variableName, propertyName, className, literal, string, number, bool,
    null, keyword, controlKeyword, operatorKeyword, definitionKeyword, modifier, selfKeyword,
    operator, updateOperator, arithmeticOperator, bitwiseOperator, compareOperator,
    definitionOperator, derefOperator, punctuation, separator, bracket, paren, squareBracket, brace,
    metadata]

/-- The name of a category. -/
def label : Category → String
  | comment => "Comment"
  | lineComment => "LineComment"
  | name => "Name"
  | variableName => "VariableName"
  | propertyName => "PropertyName"
  | className => "ClassName"
  | literal => "Literal"
  | string => "String"
  | number => "Number"
  | bool => "Bool"
  | null => "Null"
  | keyword => "Keyword"
  | controlKeyword => "ControlKeyword"
  | operatorKeyword => "OperatorKeyword"
  | definitionKeyword => "DefinitionKeyword"
  | modifier => "Modifier"
  | selfKeyword => "SelfKeyword"
  | operator => "Operator"
  | updateOperator => "UpdateOperator"
  | arithmeticOperator => "ArithmeticOperator"
  | bitwiseOperator => "BitwiseOperator"
  | compareOperator => "CompareOperator"
  | definitionOperator => "DefinitionOperator"
  | derefOperator => "DerefOperator"
  | punctuation => "Punctuation"
  | separator => "Separator"
  | bracket => "Bracket"
  | paren => "Paren"
  | squareBracket => "SquareBracket"
  | brace => "Brace"
  | metadata => "Meta"

/-- The category with the given name. -/
def ofLabel? (s : String) : Option Category :=
  all.find? (·.label == s)

/-- The next broader category. -/
def parent? : Category → Option Category
  | lineComment => some comment
  | variableName | propertyName | className => some name
  | string | number | bool | null => some literal
  | controlKeyword | operatorKeyword | definitionKeyword | modifier | selfKeyword => some keyword
  | updateOperator | arithmeticOperator | bitwiseOperator | compareOperator | definitionOperator
  | derefOperator => some operator
  | separator | bracket => some punctuation
  | paren | squareBracket | brace => some bracket
  | comment | name | literal | keyword | operator | punctuation | metadata => none

/-- The scope under which a theme knows the category. -/
def scope : Category → String
  | comment => "comment"
  | lineComment => "comment.line"
  | name | variableName => "variable"
  | propertyName => "variable.other.member"
  | className => "type"
  | literal => "constant"
  | string => "string"
  | number => "constant.numeric"
  | bool => "constant.builtin.boolean"
  | null => "constant.builtin"
  | keyword => "keyword"
  | controlKeyword => "keyword.control"
  | operatorKeyword => "keyword.operator"
  | definitionKeyword => "keyword.storage"
  | modifier => "keyword.storage.modifier"
  | selfKeyword => "variable.builtin"
  | operator => "operator"
  | updateOperator => "operator.update"
  | arithmeticOperator => "operator.arithmetic"
  | bitwiseOperator => "operator.bitwise"
  | compareOperator => "operator.compare"
  | definitionOperator => "operator.definition"
  | derefOperator => "operator.deref"
  | punctuation => "punctuation"
  | separator => "punctuation.delimiter"
  | bracket => "punctuation.bracket"
  | paren => "punctuation.bracket.paren"
  | squareBracket => "punctuation.bracket.square"
  | brace => "punctuation.bracket.brace"
  | metadata => "attribute"

/-- Number of broader categories. -/
def depth : Category → Nat
  | comment | name | literal | keyword | operator | punctuation | metadata => 0
  | paren | squareBracket | brace => 2
  | _ => 1

/-- A broader category has fewer above it. -/
theorem depth_lt_of_parent? {c p : Category} (h : c.parent? = some p) : p.depth < c.depth := by
  cases c <;> simp only [parent?, Option.some.injEq, reduceCtorEq] at h <;> subst h <;> decide

/-- The category and all broader ones, narrowest first. -/
def lineage (c : Category) : List Category :=
  c :: match _h : c.parent? with
    | none => []
    | some p => p.lineage
termination_by c.depth
decreasing_by exact depth_lt_of_parent? _h

end Category

/-- A refinement of a category. -/
inductive Modifier where
  /-- The name stands for something callable. -/
  | callable
  /-- The name is defined here. -/
  | definition
  /-- Out of the ordinary. -/
  | special
  /-- Never changes. -/
  | constant
  /-- Part of the language's own environment. -/
  | standard
  /-- Known only nearby. -/
  | nearby
deriving DecidableEq

namespace Modifier

/-- All modifiers, in their order. -/
def all : List Modifier :=
  [callable, definition, special, constant, standard, nearby]

/-- The name of a modifier. -/
def label : Modifier → String
  | callable => "FUNCTION"
  | definition => "DEFINITION"
  | special => "SPECIAL"
  | constant => "CONSTANT"
  | standard => "STANDARD"
  | nearby => "LOCAL"

/-- The modifier as a number with one binary digit set. -/
def bit : Modifier → Nat
  | callable => 1
  | definition => 2
  | special => 4
  | constant => 8
  | standard => 16
  | nearby => 32

/-- The part that the modifier adds to the end of a scope name. A callable's scope is formed
differently. -/
def scopePart? : Modifier → Option String
  | callable => none
  | definition => some "definition"
  | special => some "special"
  | constant => some "constant"
  | standard => some "builtin"
  | nearby => some "local"

end Modifier

/-- A set of modifiers. -/
structure Modifiers where
  /-- Holds `Modifier.callable`. -/
  callable : Bool := false
  /-- Holds `Modifier.definition`. -/
  definition : Bool := false
  /-- Holds `Modifier.special`. -/
  special : Bool := false
  /-- Holds `Modifier.constant`. -/
  constant : Bool := false
  /-- Holds `Modifier.standard`. -/
  standard : Bool := false
  /-- Holds `Modifier.nearby`. -/
  nearby : Bool := false
deriving DecidableEq

namespace Modifiers

/-- The set holds `m`. -/
def has (s : Modifiers) : Modifier → Bool
  | .callable => s.callable
  | .definition => s.definition
  | .special => s.special
  | .constant => s.constant
  | .standard => s.standard
  | .nearby => s.nearby

/-- The set with `m`. -/
def add (s : Modifiers) : Modifier → Modifiers
  | .callable => { s with callable := true }
  | .definition => { s with definition := true }
  | .special => { s with special := true }
  | .constant => { s with constant := true }
  | .standard => { s with standard := true }
  | .nearby => { s with nearby := true }

/-- The members of the set, in their order. -/
def toList (s : Modifiers) : List Modifier :=
  Modifier.all.filter s.has

/-- The set as a number, one binary digit for each member. -/
def bits (s : Modifiers) : Nat :=
  s.toList.foldl (fun total m => total + m.bit) 0

/-- Adding a modifier adds that one only. -/
theorem has_add (s : Modifiers) (m n : Modifier) : (s.add m).has n = (s.has n || m == n) := by
  cases m <;> cases n <;> simp only [add, has] <;> cases s <;> simp

end Modifiers

/-- How a piece of text is to be styled. -/
structure Tag where
  /-- The category. -/
  category : Category
  /-- The refinements. -/
  modifiers : Modifiers := {}
deriving DecidableEq

namespace Tag

/-- The tag with one more modifier. -/
def add (t : Tag) (m : Modifier) : Tag :=
  { t with modifiers := t.modifiers.add m }

/-- The tag's category is `c` or a narrower one. -/
def refines (t : Tag) (c : Category) : Bool :=
  t.category.lineage.contains c

/-- The first part of the scope name. A callable name or property has the scope of functions;
any other callable adds a part to its category's scope. -/
def baseScope (t : Tag) : String :=
  if t.modifiers.callable then
    match t.category with
    | .name | .variableName => "function"
    | .propertyName => "function.method"
    | c => c.scope ++ ".function"
  else t.category.scope

/-- The dotted scope name, most general part first. -/
def dottedName (t : Tag) : String :=
  (t.modifiers.toList.filterMap Modifier.scopePart?).foldl (fun s part => s ++ "." ++ part)
    t.baseScope

/-- Keeps the longer of two scopes that cover `parts`, and the earlier of two equally long ones.
`best` is the index and length of the best scope so far. -/
def betterScope (parts : List (List Char)) (best : Option (Nat × Nat)) (scope : String × Nat) :
    Option (Nat × Nat) :=
  let scopeParts := Text.splitOn '.' scope.1.toList
  if scopeParts.isPrefixOf parts && best.all (·.2 < scopeParts.length) then
    some (scope.2, scopeParts.length)
  else best

/-- Index of the longest of the scopes whose parts the tag's scope name begins with. -/
def bestScope (t : Tag) (scopes : List String) : Option Nat :=
  (scopes.zipIdx.foldl (betterScope (Text.splitOn '.' t.dottedName.toList)) none).map (·.1)

end Tag

end TreeAssist
