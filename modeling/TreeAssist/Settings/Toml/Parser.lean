import TreeAssist.Settings.Toml.Scalar

/-!
# Reading TOML

`Toml.parse?` reads a document in version 1.1 of the format: a line holds a comment, a key with its
value, or the header of a table. Line breaks are line feeds, which a carriage return may precede,
and the document may begin with a byte order mark.
-/

namespace TreeAssist.Toml

/-- A character of a key without quotes. -/
def isKeyChar (c : Char) : Bool :=
  c.isAlphanum || c == '_' || c == '-'

/-- One part of a key, and the rest. -/
def keyPart? (cs : List Char) : Option (String × List Char) :=
  match cs with
  | '"' :: _ | '\'' :: _ => lineString? cs
  | cs =>
    let name := cs.takeWhile isKeyChar
    if name.isEmpty then none else some (String.ofList name, cs.dropWhile isKeyChar)

/-- How deep values may be nested, and how many parts a key may have. -/
def depthLimit : Nat := 80

/-- A key of at most `limit` parts, which are separated by dots, and the rest without blanks in
front. -/
def dottedKey? : (limit : Nat) → List Char → Option (List String × List Char)
  | 0, _ => none
  | limit + 1, cs => do
    let (part, rest) ← keyPart? cs
    match rest.dropWhile isSpace with
    | '.' :: rest => do
      let (parts, rest) ← dottedKey? limit (rest.dropWhile isSpace)
      some (part :: parts, rest)
    | rest => some ([part], rest)

/-- A key, which may be dotted, and the rest without blanks in front. -/
def key? (cs : List Char) : Option (List String × List Char) :=
  dottedKey? depthLimit cs

/-- What follows a comment on its line, if one stands in front. -/
def comment? : List Char → Option (List Char)
  | '#' :: cs => some (cs.dropWhile (!isControl ·))
  | _ => none

/-- Leaves out blanks, line breaks and comments. Each of them takes one of `fuel`. -/
def skipTrivia : Nat → List Char → List Char
  | 0, cs => cs
  | fuel + 1, cs =>
    let cs := cs.dropWhile isSpace
    match comment? cs with
    | some rest => skipTrivia fuel rest
    | none =>
      match newline? cs with
      | some rest => skipTrivia fuel rest
      | none => cs

mutual

/-- A value, and the rest. Lists and tables may be nested `depth` times more. Each step takes one of
`fuel`. -/
def value? : (fuel depth : Nat) → List Char → Option (Item × List Char)
  | 0, _, _ => none
  | fuel + 1, depth, cs =>
    match cs with
    | '"' :: _ | '\'' :: _ => (string? cs).map fun r => (.string r.1, r.2)
    | '[' :: cs =>
      match depth with
      | 0 => none
      | depth + 1 => (items? fuel depth (skipTrivia cs.length cs)).map fun r => (.array r.1, r.2)
    | '\x7b' :: cs =>
      match depth with
      | 0 => none
      | depth + 1 =>
        (entries? fuel depth [] (skipTrivia cs.length cs)).map fun r => (.inlineTable r.1, r.2)
    | cs =>
      let (text, rest) := bareText cs
      (bareItem? text).map (·, rest)

/-- The members of a list up to its closing bracket, and the rest. -/
def items? : (fuel depth : Nat) → List Char → Option (List Item × List Char)
  | 0, _, _ => none
  | _ + 1, _, ']' :: cs => some ([], cs)
  | fuel + 1, depth, cs => do
    let (item, rest) ← value? fuel depth cs
    match skipTrivia rest.length rest with
    | ',' :: rest => do
      let (items, rest) ← items? fuel depth (skipTrivia rest.length rest)
      some (item :: items, rest)
    | ']' :: rest => some ([item], rest)
    | _ => none

/-- The entries of a table that is written as a value up to its closing brace, behind those already
read, and the rest. -/
def entries? : (fuel depth : Nat) → Entries → List Char → Option (Entries × List Char)
  | 0, _, _, _ => none
  | _ + 1, _, es, '\x7d' :: cs => some (es, cs)
  | fuel + 1, depth, es, cs => do
    let (path, rest) ← key? cs
    match skipTrivia rest.length rest with
    | '=' :: rest => do
      let (item, rest) ← value? fuel depth (skipTrivia rest.length rest)
      let es ← Entries.assignPath path item es
      match skipTrivia rest.length rest with
      | ',' :: rest => entries? fuel depth es (skipTrivia rest.length rest)
      | '\x7d' :: rest => some (es, rest)
      | _ => none
    | _ => none

end

/-- What follows the end of a line that holds nothing more but blanks and a comment. -/
def endOfLine? (cs : List Char) : Option (List Char) :=
  let cs := cs.dropWhile isSpace
  let cs := (comment? cs).getD cs
  match cs with
  | [] => some []
  | cs => newline? cs

/-- A header up to its closing brackets, and the rest. -/
def header? (cs : List Char) : Option (Statement × List Char) :=
  match cs with
  | '[' :: '[' :: cs => do
    let (path, rest) ← key? (cs.dropWhile isSpace)
    match rest with
    | ']' :: ']' :: rest => some (.arrayHeader path, rest)
    | _ => none
  | '[' :: cs => do
    let (path, rest) ← key? (cs.dropWhile isSpace)
    match rest with
    | ']' :: rest => some (.header path, rest)
    | _ => none
  | _ => none

/-- A key with its value, and the rest. -/
def assignment? (cs : List Char) : Option (Statement × List Char) := do
  let (path, rest) ← key? cs
  match rest with
  | '=' :: rest => do
    let (item, rest) ← value? (2 * rest.length + 1) depthLimit (rest.dropWhile isSpace)
    some (.assign path item, rest)
  | _ => none

/-- The statements of a document. Each line takes one of `fuel`. -/
def statements? : Nat → List Char → Option (List Statement)
  | 0, cs => if cs.isEmpty then some [] else none
  | fuel + 1, cs =>
    let cs := cs.dropWhile isSpace
    match cs with
    | [] => some []
    | '#' :: _ | '\n' :: _ | '\r' :: _ => do statements? fuel (← endOfLine? cs)
    | '[' :: _ => do
      let (s, rest) ← header? cs
      let ss ← statements? fuel (← endOfLine? rest)
      some (s :: ss)
    | cs => do
      let (s, rest) ← assignment? cs
      let ss ← statements? fuel (← endOfLine? rest)
      some (s :: ss)

/-- The entries of the topmost table of a document. -/
def parse? (text : String) : Option Entries := do
  let cs := match text.toList with
    | '\ufeff' :: cs => cs
    | cs => cs
  Entries.ofStatements (← statements? (cs.length + 1) cs)

end TreeAssist.Toml
