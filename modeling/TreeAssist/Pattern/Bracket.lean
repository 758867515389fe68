import TreeAssist.Pattern.Escape

/-!
# Sets in brackets

The notation of sets of characters in patterns.

* `[…]` holds characters, ranges, escapes, named classes such as `[:alpha:]` and sets in brackets of
  their own, and `[^…]` is the complement.
* `&&`, `--` and `~~` stand between two such lists for what is in both, in the first only, or in
  exactly one of them. Several of them are taken from left to right.
* A bracket or dashes right behind the opening bracket stand for themselves.

`Bracket.read` reads such a set behind its opening bracket.
-/

namespace TreeAssist

open Text (CharSet)

/-- A set that was read, and how deep its notation is nested. -/
structure Bracket where
  /-- The characters. -/
  set : CharSet
  /-- The depth of nesting. -/
  depth : Nat

namespace Bracket

/-- An operation on two sets. -/
inductive Operation where
  /-- What is in both. -/
  | inter
  /-- What is in the first only. -/
  | diff
  /-- What is in exactly one. -/
  | symmDiff
deriving DecidableEq

/-- The operation on two sets. -/
def Operation.apply (op : Operation) (s t : CharSet) : CharSet :=
  match op with
  | inter => s.inter t
  | diff => s.diff t
  | symmDiff => s.symmDiff t

/-- A set that is being read. -/
structure Progress where
  /-- The operation in front of the current list, with its first operand. -/
  left : Option (Operation × Bracket) := none
  /-- The members of the current list. -/
  members : CharSet := .empty
  /-- How many members are written in the current list. -/
  count : Nat := 0
  /-- The greatest depth of a member of the current list. -/
  depth : Nat := 0

namespace Progress

/-- One more member of the current list. -/
def add (p : Progress) (s : CharSet) (depth : Nat) : Progress :=
  { p with members := p.members.union s, count := p.count + 1, depth := max p.depth depth }

/-- All that was read. Operands hold what differs only in case if that makes no difference. -/
def result (p : Progress) (o : PatternOptions) : Bracket :=
  let depth := if p.count ≤ 1 then p.depth else p.depth + 1
  match p.left with
  | none => ⟨p.members, depth⟩
  | some (op, left) => ⟨op.apply (o.fold left.set) (o.fold p.members), max left.depth depth + 1⟩

/-- Begins the list behind an operation. -/
def operate (p : Progress) (o : PatternOptions) (op : Operation) : Progress :=
  { left := some (op, p.result o) }

end Progress

/-- The class with a name. -/
def named? (name : List Char) : Option CharSet :=
  match String.ofList name with
  | "alnum" => some ⟨[(0x30, 0x39), (0x41, 0x5A), (0x61, 0x7A)]⟩
  | "alpha" => some ⟨[(0x41, 0x5A), (0x61, 0x7A)]⟩
  | "ascii" => some .ascii
  | "blank" => some ⟨[(0x9, 0x9), (0x20, 0x20)]⟩
  | "cntrl" => some ⟨[(0x0, 0x1F), (0x7F, 0x7F)]⟩
  | "digit" => some ⟨[(0x30, 0x39)]⟩
  | "graph" => some ⟨[(0x21, 0x7E)]⟩
  | "lower" => some ⟨[(0x61, 0x7A)]⟩
  | "print" => some ⟨[(0x20, 0x7E)]⟩
  | "punct" => some ⟨[(0x21, 0x2F), (0x3A, 0x40), (0x5B, 0x60), (0x7B, 0x7E)]⟩
  | "space" => some ⟨[(0x9, 0xD), (0x20, 0x20)]⟩
  | "upper" => some ⟨[(0x41, 0x5A)]⟩
  | "word" => some ⟨[(0x30, 0x39), (0x41, 0x5A), (0x5F, 0x5F), (0x61, 0x7A)]⟩
  | "xdigit" => some ⟨[(0x30, 0x39), (0x41, 0x46), (0x61, 0x66)]⟩
  | _ => none

/-- A named class behind its opening bracket: whether its complement is meant, the class, and the
rest. -/
def namedClass? (cs : List Char) : Option (Bool × CharSet × List Char) :=
  match cs with
  | ':' :: cs =>
    let (negated, cs) := match cs with
      | '^' :: cs => (true, cs)
      | cs => (false, cs)
    let name := cs.takeWhile (· != ':')
    match cs.drop name.length with
    | ':' :: ']' :: rest => (named? name).map (negated, ·, rest)
    | _ => none
  | _ => none

/-- A character or escape, and the rest. -/
def single (o : PatternOptions) : List Char → Option (PatternEscape × List Char)
  | [] => none
  | '\\' :: cs => PatternEscape.read o cs
  | c :: cs => some (.char c, cs)

/-- The code point of a character in a set, which without Unicode is an ASCII character. -/
def point? (o : PatternOptions) (c : Char) : Option Nat :=
  if o.unicode || c.toNat < 0x80 then some c.toNat else none

/-- A character, range or escape, and the rest. A dash makes a range unless the set or an operation
follows it. -/
def member (o : PatternOptions) (cs : List Char) : Option (CharSet × List Char) := do
  let (first, rest) ← single o cs
  let rest := o.skip rest
  match rest with
  | '-' :: after =>
    if o.peek after == some ']' || o.peek after == some '-' then alone first rest
    else do
      let (last, rest) ← single o (o.skip after)
      match first, last with
      | .char lo, .char hi => do
        let (lo, hi) := (← point? o lo, ← point? o hi)
        if lo ≤ hi then some (.range lo hi, rest) else none
      | _, _ => none
  | rest => alone first rest
where
  /-- What a character or escape on its own stands for. -/
  alone (e : PatternEscape) (rest : List Char) : Option (CharSet × List Char) :=
    match e with
    | .char c => (point? o c).map fun n => (.range n n, rest)
    | .set s => some (s, rest)
    | .place _ => none

/-- Takes dashes in front as members. Each of them takes one of `fuel`. -/
def dashes (o : PatternOptions) : (fuel : Nat) → Progress → List Char → Progress × List Char
  | fuel + 1, p, '-' :: cs => dashes o fuel (p.add (.single '-') 0) (o.skip cs)
  | _, p, cs => (p, cs)

/-- The front of a set behind its opening bracket: whether its complement is meant, the members that
could not stand elsewhere, and the rest. -/
def front (o : PatternOptions) (cs : List Char) : Bool × Progress × List Char :=
  let (negated, cs) := match o.skip cs with
    | '^' :: cs => (true, o.skip cs)
    | cs => (false, cs)
  let (p, cs) := dashes o cs.length {} cs
  match p.count, cs with
  | 0, ']' :: cs => (negated, p.add (.single ']') 0, cs)
  | _, cs => (negated, p, cs)

mutual

/-- A set behind its opening bracket, and the rest. Each step takes one of `fuel`. -/
def readWith (o : PatternOptions) : (fuel : Nat) → List Char → Option (Bracket × List Char)
  | 0, _ => none
  | fuel + 1, cs => do
    let (negated, p, cs) := front o cs
    let (b, rest) ← readMembers o fuel p cs
    let s ← o.finish negated b.set
    some (⟨s, b.depth + 1⟩, rest)

/-- The members of a set up to its closing bracket, behind those already read, and the rest. -/
def readMembers (o : PatternOptions) : (fuel : Nat) → Progress → List Char →
    Option (Bracket × List Char)
  | 0, _, _ => none
  | fuel + 1, p, cs =>
    match o.skip cs with
    | ']' :: rest => some (p.result o, rest)
    | '&' :: '&' :: rest => readMembers o fuel (p.operate o .inter) rest
    | '-' :: '-' :: rest => readMembers o fuel (p.operate o .diff) rest
    | '~' :: '~' :: rest => readMembers o fuel (p.operate o .symmDiff) rest
    | '[' :: rest =>
      match namedClass? rest with
      | some (negated, s, rest) => do
        let s ← o.finish negated s
        readMembers o fuel (p.add s 0) rest
      | none => do
        let (b, rest) ← readWith o fuel rest
        readMembers o fuel (p.add b.set b.depth) rest
    | cs => do
      let (s, rest) ← member o cs
      readMembers o fuel (p.add s 0) rest

end

/-- A set behind its opening bracket, and the rest. -/
def read (o : PatternOptions) (cs : List Char) : Option (Bracket × List Char) :=
  readWith o (2 * cs.length + 2) cs

end Bracket

end TreeAssist
