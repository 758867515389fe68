import TreeAssist.Pattern.Options
import TreeAssist.Unicode.Property

/-!
# Escapes in patterns

What a backslash and the characters behind it stand for.

* `\d`, `\s` and `\w` are digits, blanks and word characters, and the capitals their complements.
* `\p{…}` and `\pL` are the characters with a property, and `\P` its complement.
* `\x`, `\u` and `\U` give a character by its number.
* `\A`, `\z`, `\b`, `\B`, `\<` and `\>` are conditions on a place.
* A letter out of `a f t n r v` is a control character, and a punctuation mark is that mark.

A reader takes its part from the front of a text and returns it with the rest.
-/

namespace TreeAssist

open Text (CharSet)

/-- What an escape stands for. -/
inductive PatternEscape where
  /-- A character. -/
  | char (c : Char)
  /-- Any character of a set. -/
  | set (s : CharSet)
  /-- A condition on a place. -/
  | place (p : Place)
deriving DecidableEq

namespace PatternEscape

/-- The value of a hexadecimal digit. -/
def hexDigit? (c : Char) : Option Nat :=
  if c.isDigit then some (c.toNat - '0'.toNat)
  else if 'a' ≤ c && c ≤ 'f' then some (c.toNat - 'a'.toNat + 10)
  else if 'A' ≤ c && c ≤ 'F' then some (c.toNat - 'A'.toNat + 10)
  else none

/-- The character with a number. -/
def ofNumber? (n : Nat) : Option Char :=
  if n.isValidChar then some (Char.ofNat n) else none

/-- A number of exactly `count` hexadecimal digits more, and the rest. -/
def fixedNumber (o : PatternOptions) : (count : Nat) → (n : Nat) → List Char →
    Option (Nat × List Char)
  | 0, n, cs => some (n, cs)
  | _ + 1, _, [] => none
  | count + 1, n, c :: cs => do
    let d ← hexDigit? c
    fixedNumber o count (16 * n + d) (o.skip cs)

/-- What stands in front of a closing brace, and the rest. Each character takes one of `fuel`. -/
def braced (o : PatternOptions) : (fuel : Nat) → List Char → Option (List Char × List Char)
  | 0, _ => none
  | fuel + 1, cs =>
    match o.skip cs with
    | [] => none
    | '\x7d' :: rest => some ([], rest)
    | c :: rest => (braced o fuel rest).map fun r => (c :: r.1, r.2)

/-- A number in hexadecimal digits. -/
def number? (cs : List Char) : Option Nat :=
  if cs.isEmpty then none
  else cs.foldl (fun n c => do some (16 * (← n) + (← hexDigit? c))) (some 0)

/-- A character by its number, in `count` digits or in braces, and the rest. Without Unicode two
digits stand for a byte, which has to be a character. -/
def numbered (o : PatternOptions) (count : Nat) (cs : List Char) :
    Option (PatternEscape × List Char) :=
  match o.skip cs with
  | '\x7b' :: cs => do
    let (digits, rest) ← braced o (cs.length + 1) cs
    let c ← ofNumber? (← number? digits)
    some (.char c, rest)
  | cs => do
    let (n, rest) ← fixedNumber o count 0 cs
    let c ← ofNumber? n
    if !o.unicode && count == 2 && 0x80 ≤ n then none else some (.char c, rest)

/-- The characters with a property, and the rest. -/
def property (o : PatternOptions) (negated : Bool) (cs : List Char) :
    Option (PatternEscape × List Char) := do
  let (name, rest) ←
    match o.skip cs with
    | [] | '\\' :: _ => none
    | '\x7b' :: cs => braced o (cs.length + 1) cs
    | c :: cs => some ([c], cs)
  if !o.unicode then none
  else do
    let s ← o.finish negated (← Unicode.propertySet? name)
    some (.set s, rest)

/-- A class of characters, or its complement, which exists for Unicode only. -/
def charClass (o : PatternOptions) (negated : Bool) (unicode ascii : CharSet) :
    Option PatternEscape :=
  if o.unicode then some (.set (if negated then unicode.compl else unicode))
  else if negated then none
  else some (.set ascii)

/-- The digits, or everything else. -/
def digits (o : PatternOptions) (negated : Bool) : Option PatternEscape :=
  charClass o negated Unicode.GeneralCategory.decimalNumber.set (.range 0x30 0x39)

/-- The blanks, or everything else. -/
def blanks (o : PatternOptions) (negated : Bool) : Option PatternEscape :=
  charClass o negated .blank ⟨[(0x9, 0xD), (0x20, 0x20)]⟩

/-- The characters of words, or everything else. -/
def wordChars (o : PatternOptions) (negated : Bool) : Option PatternEscape :=
  charClass o negated Unicode.wordSet ⟨[(0x30, 0x39), (0x41, 0x5A), (0x5F, 0x5F), (0x61, 0x7A)]⟩

/-- The boundary with a name. -/
def boundary? (name : List Char) : Option Boundary :=
  if name = "start".toList then some .start
  else if name = "end".toList then some .stop
  else if name = "start-half".toList then some .startHalf
  else if name = "end-half".toList then some .stopHalf
  else none

/-- A boundary behind its letter, and the rest. A name in braces may tell which one; braces that do
not begin with a letter or dash are something else. -/
def boundary (o : PatternOptions) (cs : List Char) : Option (Boundary × List Char) :=
  match cs with
  | '\x7b' :: inner =>
    match o.skip inner with
    | [] => none
    | c :: _ =>
      if c.isAlpha || c == '-' then do
        let (name, rest) ← braced o (inner.length + 1) inner
        some (← boundary? name, rest)
      else some (.edge, cs)
  | cs => some (.edge, cs)

/-- The control character with a letter. -/
def control? : Char → Option Char
  | 'a' => some '\x07'
  | 'f' => some '\x0c'
  | 't' => some '\t'
  | 'n' => some '\n'
  | 'r' => some '\r'
  | 'v' => some '\x0b'
  | _ => none

/-- An escape behind its backslash, and the rest. -/
def read (o : PatternOptions) : List Char → Option (PatternEscape × List Char)
  | [] => none
  | c :: cs =>
    let atBoundary (b : Boundary) : PatternEscape := .place (.boundary b !o.unicode)
    match c with
    | 'x' => numbered o 2 cs
    | 'u' => numbered o 4 cs
    | 'U' => numbered o 8 cs
    | 'p' => property o false cs
    | 'P' => property o true cs
    | 'd' => (digits o false).map (·, cs)
    | 'D' => (digits o true).map (·, cs)
    | 's' => (blanks o false).map (·, cs)
    | 'S' => (blanks o true).map (·, cs)
    | 'w' => (wordChars o false).map (·, cs)
    | 'W' => (wordChars o true).map (·, cs)
    | 'A' => some (.place .textStart, cs)
    | 'z' => some (.place .textEnd, cs)
    | 'b' => (boundary o cs).map fun r => (atBoundary r.1, r.2)
    | 'B' => some (atBoundary .within, cs)
    | '<' => some (atBoundary .start, cs)
    | '>' => some (atBoundary .stop, cs)
    | c =>
      match control? c with
      | some d => some (.char d, cs)
      | none => if c.toNat < 0x80 && !c.isAlphanum then some (.char c, cs) else none

end PatternEscape

end TreeAssist
