import TreeAssist.Pattern.Parser

/-!
# Language metadata

What an editor knows about a language without looking at a tree: which brackets it closes by
itself, how comments are written, and which lines are indented again as soon as they are typed.

* `Metadata.make` — the metadata with the given parts; a notation that is no pattern is left out.
* `Metadata.reindents` — whether a line is to be indented again.
-/

namespace TreeAssist

/-- A pattern with the text it was read from. -/
structure WrittenPattern where
  /-- The notation. -/
  source : String
  /-- The pattern. -/
  pattern : Pattern
deriving DecidableEq

/-- The pattern written as `source`, if it is one. -/
def WrittenPattern.ofString? (source : String) : Option WrittenPattern :=
  (Pattern.parse? source).map fun pattern => { source, pattern }

/-- Facts about one language. -/
structure Metadata where
  /-- The name of the language. -/
  name : String
  /-- What is closed automatically when it is opened. -/
  closeBrackets : List String
  /-- What begins a comment that reaches to the end of the line. -/
  commentTokens : List String
  /-- What begins and ends any other comment. -/
  blockComment : Option (String × String)
  /-- Which lines are indented again as soon as they are typed. -/
  reindent : Option WrittenPattern
deriving DecidableEq

namespace Metadata

/-- The metadata with the given parts. -/
def make (name : String) (closeBrackets commentTokens : List String)
    (blockComment : Option (String × String)) (reindent : Option String) : Metadata :=
  { name, closeBrackets, commentTokens, blockComment,
    reindent := reindent.bind WrittenPattern.ofString? }

/-- The token that usually begins a comment. -/
def mainComment? (m : Metadata) : Option String :=
  m.commentTokens.head?

/-- The line, typed as far as `line`, is to be indented again. -/
def reindents (m : Metadata) (line : String) : Bool :=
  m.reindent.any (·.pattern.search line)

end Metadata

end TreeAssist
