import TreeAssist.Pattern.Bracket
import TreeAssist.Pattern.Room

/-!
# The notation of patterns

A character stands for itself, except for these.

* `.` is any character that does not end a line, `^` and `$` are the ends of the text.
* `[…]` is a set of characters, and a backslash begins an escape.
* `(…)` is a group and `|` stands between alternatives. A group may have a name, as in `(?<name>…)`,
  or change options, as in `(?i:…)`; `(?i)` changes them up to the end of the group around it.
* `*`, `+`, `?`, `{n}`, `{n,}` and `{n,m}` repeat what is in front of them. A `?` behind one of them
  asks for short matches, which makes no difference to whether there is a match.

A text is first cut into tokens (`PatternToken.scan`), whose parts are read under the options in
force there, and these are put together with a stack of open groups (`Pattern.assemble`).
-/

namespace TreeAssist

/-- A part of a pattern. -/
structure PatternPart where
  /-- The pattern. -/
  pattern : Pattern
  /-- How deep its notation is nested. -/
  depth : Nat
  /-- The room that it takes. -/
  room : Room
  /-- It only changes options, so that it cannot be repeated. -/
  onlyOptions : Bool := false

namespace PatternPart

/-- One character of a set. -/
def ofSet (s : Text.CharSet) (depth : Nat) : PatternPart :=
  ⟨.char s, depth, .ofSet s, false⟩

/-- A condition on a place. -/
def ofPlace (p : Place) : PatternPart :=
  ⟨.place p, 0, .point, false⟩

/-- Nothing. -/
def nothing : PatternPart :=
  ⟨.empty, 0, .point, false⟩

/-- A change of options. -/
def options : PatternPart :=
  ⟨.empty, 0, .nothing, true⟩

/-- What an escape stands for. -/
def ofEscape (o : PatternOptions) : PatternEscape → PatternPart
  | .char c => ofSet (o.literal c) 0
  | .set s => ofSet s 0
  | .place p => ofPlace p

/-- Parts one after the other, of which the last is given first. -/
def sequence : List PatternPart → PatternPart
  | [] => nothing
  | [p] => p
  | p :: ps =>
    let join (q p : PatternPart) : PatternPart :=
      ⟨.seq p.pattern q.pattern, max p.depth q.depth, p.room.seq q.room, false⟩
    let whole := ps.foldl join p
    { whole with depth := whole.depth + 1 }

/-- Several alternatives, of which the last is given first. -/
def choice : List PatternPart → PatternPart
  | [] => nothing
  | [p] => p
  | p :: ps =>
    ⟨ps.foldl (fun q p => .alt p.pattern q) p.pattern,
      (ps.map depth).foldl max p.depth + 1, .alt ((p :: ps).map room), false⟩

/-- A group around a part, whose place in the text is remembered if `captures` is given. -/
def group (p : PatternPart) (captures : Bool) : PatternPart :=
  ⟨p.pattern, p.depth + 1, if captures then p.room.group else p.room, false⟩

/-- A part that is repeated. -/
def times (p : PatternPart) (min : Nat) (max : Option Nat) : PatternPart :=
  ⟨p.pattern.times min max, p.depth + 1, p.room.times min max, false⟩

end PatternPart

/-- A token of the notation. -/
inductive PatternToken where
  /-- A part on its own. -/
  | part (p : PatternPart)
  /-- A repetition of what is in front. -/
  | quantifier (min : Nat) (max : Option Nat)
  /-- A group opens. -/
  | opens (captures : Bool)
  /-- A group closes. -/
  | closes
  /-- Another alternative follows. -/
  | bar

namespace PatternToken

/-- The decimal digits in front, and the rest. Each of them takes one of `fuel`. -/
def digits (o : PatternOptions) : (fuel : Nat) → List Char → List Char × List Char
  | fuel + 1, c :: cs =>
    if c.isDigit then
      let r := digits o fuel (o.skip cs)
      (c :: r.1, r.2)
    else ([], c :: cs)
  | _, cs => ([], cs)

/-- A repetition is below this number, and so has 32 bits. -/
def countLimit : Nat := 4294967296

/-- A number of repetitions, if there is one, and the rest. Blanks around it do not count. -/
def count (o : PatternOptions) (cs : List Char) : Option Nat × List Char :=
  let cs := cs.dropWhile Text.isBlank
  let (ds, rest) := digits o cs.length cs
  let n := ds.foldl (fun n c => 10 * n + (c.toNat - '0'.toNat)) 0
  (if ds.isEmpty || countLimit ≤ n then none else some n, rest.dropWhile Text.isBlank)

/-- Leaves out the mark behind a quantifier that asks for short matches. -/
def skipLazy : List Char → List Char
  | '?' :: cs => cs
  | cs => cs

/-- A counted repetition behind its opening brace, and the rest. -/
def counted (o : PatternOptions) (cs : List Char) : Option (PatternToken × List Char) := do
  let (min?, rest) := count o (o.skip cs)
  let min ← min?
  match rest with
  | '\x7d' :: rest => some (.quantifier min (some min), skipLazy (o.skip rest))
  | ',' :: rest =>
    match o.skip rest with
    | '\x7d' :: rest => some (.quantifier min none, skipLazy (o.skip rest))
    | rest => do
      let (max?, rest) := count o rest
      let max ← max?
      match rest with
      | '\x7d' :: rest =>
        if min ≤ max then some (.quantifier min (some max), skipLazy (o.skip rest)) else none
      | _ => none
  | _ => none

/-- A character of the name of a group. -/
def isNameChar (isFirst : Bool) (c : Char) : Bool :=
  c == '_' || Unicode.alphabetic.holds c ||
    (!isFirst && (c == '.' || c == '[' || c == ']' ||
      (Unicode.GeneralCategory.sets Unicode.GeneralCategory.numbers).holds c))

/-- The name of a group up to its closing bracket, and the rest. -/
def groupName (cs : List Char) : Option (List Char × List Char) :=
  let name := cs.takeWhile (· != '>')
  match name, cs.drop name.length with
  | c :: more, _ :: rest =>
    if isNameChar true c && more.all (isNameChar false) then some (name, rest) else none
  | _, _ => none

/-- The options in force in the groups around a place, and the names of groups so far. -/
structure Scope where
  /-- The options in force. -/
  options : PatternOptions := {}
  /-- The options in force around each open group, the innermost first. -/
  outer : List PatternOptions := []
  /-- The names of groups. -/
  names : List (List Char) := []

/-- A group opens, under the given options. -/
def Scope.enter (s : Scope) (o : PatternOptions) : Scope :=
  { s with options := o, outer := s.options :: s.outer }

/-- A named group opens. No name may occur twice. -/
def named (s : Scope) (cs : List Char) : Option (PatternToken × Scope × List Char) := do
  let (name, rest) ← groupName cs
  if s.names.contains name then none
  else some (.opens true, { s.enter s.options with names := name :: s.names }, rest)

/-- What an opening parenthesis begins, and the rest. -/
def opening (s : Scope) (cs : List Char) : Option (PatternToken × Scope × List Char) :=
  match s.options.skip cs with
  | '?' :: '=' :: _ | '?' :: '!' :: _ | '?' :: '<' :: '=' :: _ | '?' :: '<' :: '!' :: _ => none
  | '?' :: 'P' :: '<' :: rest => named s rest
  | '?' :: '<' :: rest => named s rest
  | '?' :: rest => do
    let r ← s.options.read rest
    if r.opensGroup then some (.opens false, s.enter r.options, r.rest)
    else if r.isEmpty then none
    else some (.part .options, { s with options := r.options }, r.rest)
  | rest => some (.opens true, s.enter s.options, rest)

/-- The first token of a text that does not begin with what does not count, and the rest. -/
def first (s : Scope) (c : Char) (cs : List Char) : Option (PatternToken × Scope × List Char) :=
  let o := s.options
  match c with
  | '.' => o.dot?.map fun set => (.part (.ofSet set 0), s, cs)
  | '^' => some (.part (.ofPlace o.caret), s, cs)
  | '$' => some (.part (.ofPlace o.dollar), s, cs)
  | '|' => some (.bar, s, cs)
  | '(' => opening s cs
  | ')' =>
    match s.outer with
    | [] => none
    | o :: outer => some (.closes, { s with options := o, outer }, cs)
  | '*' => some (.quantifier 0 none, s, skipLazy cs)
  | '+' => some (.quantifier 1 none, s, skipLazy cs)
  | '?' => some (.quantifier 0 (some 1), s, skipLazy cs)
  | '\x7b' => (counted o cs).map fun r => (r.1, s, r.2)
  | '[' => (Bracket.read o cs).map fun r => (.part (.ofSet r.1.set r.1.depth), s, r.2)
  | '\\' => (PatternEscape.read o cs).map fun r => (.part (.ofEscape o r.1), s, r.2)
  | c => some (.part (.ofSet (o.literal c) 0), s, cs)

/-- The tokens of a text; each takes at least one of `fuel`. -/
def scan (fuel : Nat) (s : Scope) (cs : List Char) : Option (List PatternToken) :=
  match fuel, s.options.skip cs with
  | _, [] => some []
  | 0, _ :: _ => none
  | fuel + 1, c :: cs => do
    let (token, s, rest) ← first s c cs
    let tokens ← scan fuel s rest
    some (token :: tokens)

end PatternToken

/-- A group that is being read. -/
structure PatternGroup where
  /-- Its place in the text is remembered. -/
  captures : Bool
  /-- The alternatives so far, the latest first. -/
  alternatives : List PatternPart := []
  /-- The parts of the current alternative so far, the latest first. -/
  parts : List PatternPart := []

namespace PatternGroup

/-- The group with one more part. -/
def push (g : PatternGroup) (p : PatternPart) : PatternGroup :=
  { g with parts := p :: g.parts }

/-- The group with another alternative begun. -/
def next (g : PatternGroup) : PatternGroup :=
  { g with alternatives := .sequence g.parts :: g.alternatives, parts := [] }

/-- The whole group. -/
def close (g : PatternGroup) : PatternPart :=
  .choice (.sequence g.parts :: g.alternatives)

end PatternGroup

namespace Pattern

/-- Puts tokens together; `group` is the innermost open group and `outer` are those around it. -/
def assemble (group : PatternGroup) (outer : List PatternGroup) :
    List PatternToken → Option PatternPart
  | [] => if outer.isEmpty then some group.close else none
  | .part p :: rest => assemble (group.push p) outer rest
  | .bar :: rest => assemble group.next outer rest
  | .opens captures :: rest => assemble { captures } (group :: outer) rest
  | .closes :: rest =>
    match outer with
    | [] => none
    | g :: gs => assemble (g.push (group.close.group group.captures)) gs rest
  | .quantifier min max :: rest =>
    match group.parts with
    | [] => none
    | p :: ps =>
      if p.onlyOptions then none
      else assemble { group with parts := p.times min max :: ps } outer rest

/-- How deep the notation of a pattern may be nested. -/
def depthLimit : Nat := 250

/-- The pattern written as `s`, if it is one. -/
def parse? (s : String) : Option Pattern := do
  let tokens ← PatternToken.scan s.length {} s.toList
  let whole ← assemble { captures := false } [] tokens
  if whole.depth ≤ depthLimit && whole.room.fits then some whole.pattern else none

end Pattern

end TreeAssist
