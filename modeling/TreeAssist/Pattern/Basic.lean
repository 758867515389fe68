import TreeAssist.Unicode.Binary

/-!
# Patterns

Regular patterns over characters and the search for them in a text.

* `Place` — a condition on a place between characters, such as the start of the text.
* `Pattern` — a regular pattern.
* `Pattern.times` — a pattern several times.
* `Pattern.reach` — where matches end that begin at given places.
* `Pattern.search` — whether a match begins anywhere in a text.
-/

namespace TreeAssist

open Text (CharSet)

/-- How a place lies with regard to words. -/
inductive Boundary where
  /-- A word begins or ends here. -/
  | edge
  /-- No word begins or ends here. -/
  | within
  /-- A word begins here. -/
  | start
  /-- A word ends here. -/
  | stop
  /-- There is no word in front. -/
  | startHalf
  /-- There is no word behind. -/
  | stopHalf
deriving DecidableEq

/-- What a boundary asks of the characters in front and behind, of which is known whether they
belong to a word. -/
def Boundary.holds (b : Boundary) (before after : Bool) : Bool :=
  match b with
  | edge => before != after
  | within => before == after
  | start => !before && after
  | stop => before && !after
  | startHalf => !before
  | stopHalf => !after

/-- A condition on a place between characters. -/
inductive Place where
  /-- The start of the text. -/
  | textStart
  /-- The end of the text. -/
  | textEnd
  /-- The start of a line. With `crlf` a carriage return ends a line too, and both together end one
  line. -/
  | lineStart (crlf : Bool)
  /-- The end of a line. -/
  | lineEnd (crlf : Bool)
  /-- A boundary of words, in which only ASCII characters may occur if `ascii` is given. -/
  | boundary (b : Boundary) (ascii : Bool)
deriving DecidableEq

/-- `c` may occur in words. -/
def Text.isWordChar (ascii : Bool) (c : Char) : Bool :=
  if ascii then c.isAlphanum || c == '_' else Unicode.wordSet.holds c

/-- The place with `i` characters in front satisfies the condition. -/
def Place.holds (p : Place) (text : Array Char) (i : Nat) : Bool :=
  let before := if i = 0 then none else text[i - 1]?
  let after := text[i]?
  match p with
  | textStart => i == 0
  | textEnd => i == text.size
  | lineStart false => before.all (· == '\n')
  | lineStart true =>
    before.all fun c => c == '\n' || (c == '\r' && after != some '\n')
  | lineEnd false => after.all (· == '\n')
  | lineEnd true =>
    after.all fun c => c == '\r' || (c == '\n' && before != some '\r')
  | boundary b ascii =>
    b.holds (before.any (Text.isWordChar ascii)) (after.any (Text.isWordChar ascii))

/-- A regular pattern. -/
inductive Pattern where
  /-- Nothing. -/
  | empty
  /-- One character of a set. -/
  | char (s : CharSet)
  /-- Nothing, at a place that satisfies a condition. -/
  | place (p : Place)
  /-- One pattern after the other. -/
  | seq (p q : Pattern)
  /-- Either pattern. -/
  | alt (p q : Pattern)
  /-- A pattern at least `min` times, and at most `max` times if that is given. -/
  | repeated (p : Pattern) (min : Nat) (max : Option Nat)
deriving DecidableEq

namespace Pattern

/-- A pattern at least `min` times, and at most `max` times if that is given. If the pattern is
itself repeated without an upper bound, or is optional, one repetition does for both. -/
def times (p : Pattern) (min : Nat) (max : Option Nat) : Pattern :=
  match p, max with
  | p, some 0 => repeated p 0 (some 0)
  | repeated q 0 none, _ => repeated q 0 none
  | repeated q 1 none, _ => repeated q min none
  | repeated q 0 (some 1), max => repeated q 0 max
  | p, max => repeated p min max

/-- What `step` reaches in exactly `n` steps. -/
def iterate (step : List Nat → List Nat) : Nat → List Nat → List Nat
  | 0, places => places
  | n + 1, places => iterate step n (step places)

/-- Adds to `seen` what `step` reaches from `frontier` in at most `rounds` steps. Only places that
are new are followed further. -/
def closure (step : List Nat → List Nat) : Nat → List Nat → List Nat → List Nat
  | 0, _, seen => seen
  | _ + 1, [], seen => seen
  | rounds + 1, frontier, seen =>
    let new := ((step frontier).filter (!seen.contains ·)).eraseDups
    closure step rounds new (seen ++ new)

/-- Where matches end that begin at one of `places`. A place is the number of characters in front of
it.

Among more repetitions than the text has places one must be empty, and leaving it out or doubling it
makes no difference, so that a larger number of them need not be followed. -/
def reach (text : Array Char) : Pattern → List Nat → List Nat
  | empty, places => places
  | char s, places => (places.filter fun i => text[i]?.any s.holds).map (· + 1)
  | place p, places => places.filter (p.holds text ·)
  | seq p q, places => reach text q (reach text p places)
  | alt p q, places => (reach text p places ++ reach text q places).eraseDups
  | repeated p min max, places =>
    let enough := text.size + 2
    let required := iterate (reach text p) (Nat.min min enough) places
    let rounds := match max with
      | none => enough
      | some m => Nat.min (m - min) enough
    closure (reach text p) rounds required required

/-- A match begins somewhere in the text. -/
def search (p : Pattern) (text : String) : Bool :=
  let chars := text.toList.toArray
  !(p.reach chars (List.range (chars.size + 1))).isEmpty

end Pattern

end TreeAssist
