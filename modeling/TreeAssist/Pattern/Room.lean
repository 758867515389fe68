import TreeAssist.Text.CharSet

/-!
# The room that patterns take

A pattern is matched by an automaton over the bytes of a text in UTF-8, one for reading forward and
one for reading backward. Repetitions are written out in it, so that a short pattern may need a
large one. A pattern is refused if either automaton would take more than ten mebibytes.

* `Room` — the room that a part of a pattern takes.
* `Room.ofSet` — the room for one character of a set.
* `Room.seq`, `Room.alt`, `Room.group`, `Room.times` — the room for patterns made of others.
* `Room.fits` — whether there is enough room for a whole pattern.
-/

namespace TreeAssist

open Text (CharSet)

/-- The room that a part of a pattern takes. -/
structure Room where
  /-- Bytes in the automaton for reading forward. -/
  forward : Nat
  /-- Bytes in the automaton for reading backward. -/
  backward : Nat
  /-- The part may match nothing at all. -/
  nullable : Bool
  /-- The part matches nothing but the empty text. -/
  flat : Bool
  /-- The set, if the part is just one character of a set. -/
  set? : Option CharSet := none
  /-- The bytes, if the part is just a text. -/
  text? : Option (List Nat) := none
deriving DecidableEq

namespace Room

/-- Bytes for a state. -/
def state : Nat := 32

/-- Bytes for a labelled edge. -/
def edge : Nat := 8

/-- Bytes for a branch without a label. -/
def branch : Nat := 4

/-- The bytes for several parts together. -/
def total (sizes : List Nat) : Nat :=
  sizes.foldl (· + ·) 0

/-! ### Sets of characters as sequences of bytes -/

/-- A range of bytes. -/
abbrev ByteRange := Nat × Nat

/-- The bytes of a code point in UTF-8. -/
def bytes (n : Nat) : List Nat :=
  if n < 0x80 then [n]
  else if n < 0x800 then [0xC0 + n / 64, 0x80 + n % 64]
  else if n < 0x10000 then [0xE0 + n / 4096, 0x80 + n / 64 % 64, 0x80 + n % 64]
  else [0xF0 + n / 262144, 0x80 + n / 4096 % 64, 0x80 + n / 64 % 64, 0x80 + n % 64]

/-- Where to cut a range of code points so that in each part the bytes vary independently of each
other: around the surrogates, where the number of bytes changes, and where a byte that varies is
followed by one that does not take all values. -/
def cut? (lo hi : Nat) : Option Nat :=
  let between (n : Nat) : Option Nat := if lo < n ∧ n ≤ hi then some n else none
  let aligned (block : Nat) : Option Nat :=
    if lo / block = hi / block then none
    else if lo % block ≠ 0 then some ((lo / block + 1) * block)
    else if hi % block ≠ block - 1 then some (hi / block * block)
    else none
  between 0xD800 <|> between 0xE000 <|> between 0x80 <|> between 0x800 <|> between 0x10000 <|>
    if hi < 0x80 then none else aligned 64 <|> aligned 4096 <|> aligned 262144

/-- The sequences of bytes of the code points from `lo` to `hi`. Each cut takes one of `fuel`. -/
def sequences : (fuel : Nat) → (lo hi : Nat) → List (List ByteRange)
  | 0, _, _ => []
  | fuel + 1, lo, hi =>
    match cut? lo hi with
    | some n => sequences fuel lo (n - 1) ++ sequences fuel n hi
    | none => if 0xD800 ≤ lo ∧ lo < 0xE000 then [] else [(bytes lo).zip (bytes hi)]

/-- The sequences of bytes of the characters of a set, in ascending order. -/
def sequencesOf (s : CharSet) : List (List ByteRange) :=
  s.ranges.flatMap fun r => sequences 16 r.1 r.2

/-- Sorts sequences by their first members: each with what may follow it. -/
def branches : List (List ByteRange) → List (ByteRange × List (List ByteRange))
  | [] => []
  | [] :: rest => branches rest
  | (b :: tail) :: rest =>
    match branches rest with
    | [] => [(b, [tail])]
    | (c, tails) :: more =>
      if b = c then (b, tail :: tails) :: more else (b, [tail]) :: (c, tails) :: more

/-- What may follow at all places in sequences of at most `length` members, the end apart. -/
def continuations : (length : Nat) → List (List (List ByteRange)) → List (List (List ByteRange))
  | 0, _ => []
  | length + 1, nodes =>
    nodes ++ continuations length
      ((nodes.flatMap fun node => (branches node).map (·.2)).filter (· != [[]]))

/-- The room for one character of a set. Reading forward, places with the same continuation share a
state; reading backward, sequences with the same beginning share its states. -/
def ofSet (s : CharSet) : Room :=
  match s.only? with
  | some n =>
    let size := state * (bytes n).length
    ⟨size, size, false, false, some s, some (bytes n)⟩
  | none =>
    if s.isAscii then
      let size := 2 * state + edge * s.ranges.length
      ⟨size, size, false, false, some s, none⟩
    else
      let ss := sequencesOf s
      let nodes := continuations 4 [ss]
      let degree (node : List (List ByteRange)) : Nat := (branches node).length
      ⟨state + total (nodes.eraseDups.map fun node => state + edge * degree node),
        2 * state + branch * ss.length + state * total (nodes.map degree),
        false, false, some s, none⟩

/-! ### Texts as alternatives -/

/-- Adds what may follow a byte to a list of bytes with what may follow them. -/
def follow (b : Nat) (tail : List Nat) : List (Nat × List (List Nat)) → List (Nat × List (List Nat))
  | [] => [(b, [tail])]
  | (c, tails) :: more =>
    if b = c then (c, tails ++ [tail]) :: more else (c, tails) :: follow b tail more

/-- Sorts texts by their first bytes, anew behind each text that ends here. -/
def chunks : List (List Nat) → List (List (Nat × List (List Nat)))
  | texts => texts.foldl (fun cs text =>
      match text, cs with
      | [], cs => [] :: cs
      | b :: tail, c :: cs => follow b tail c :: cs
      | b :: tail, [] => [follow b tail []]) [[]]

/-- The bytes for a tree of texts: each inner node has a state that branches and one for each of its
nonempty chunks. The texts have at most `length` bytes. -/
def treeSize : (length : Nat) → List (List Nat) → Nat
  | 0, _ => 0
  | length + 1, texts =>
    let cs := chunks texts
    let full := cs.filter (!·.isEmpty)
    if full.isEmpty then 0
    else
      let labels (c : List (Nat × List (List Nat))) : Nat :=
        if c.length = 1 then state else state + edge * c.length
      state + branch * (full.length + cs.length - 1) + total (full.map labels) +
        total (full.flatten.map fun child => treeSize length child.2)

/-! ### Parts put together -/

/-- The room for a part that matches nothing but the empty text. -/
def point : Room := { forward := state, backward := state, nullable := true, flat := true }

/-- The room for a part that stands for nothing. -/
def nothing : Room :=
  { forward := 0, backward := 0, nullable := true, flat := true, text? := some [] }

/-- The room for parts one after the other. -/
def seq (r s : Room) : Room where
  forward := r.forward + s.forward
  backward := r.backward + s.backward
  nullable := r.nullable && s.nullable
  flat := r.flat && s.flat
  text? := do some ((← r.text?) ++ (← s.text?))

/-- The room for several alternatives. Single characters make one set, and texts a tree. -/
def alt (rs : List Room) : Room :=
  match rs.mapM set?, rs.mapM text? with
  | some ss, _ => ofSet (.unions ss)
  | _, some texts =>
    let length := (texts.map List.length).foldl max 0 + 1
    { forward := state + treeSize length texts
      backward := state + treeSize length (texts.map List.reverse)
      nullable := rs.any nullable, flat := rs.all flat }
  | _, _ =>
    let around := 2 * state + branch * rs.length
    { forward := around + total (rs.map forward), backward := around + total (rs.map backward)
      nullable := rs.any nullable, flat := rs.all flat }

/-- The room for a group, whose ends are marked for reading forward only. -/
def group (r : Room) : Room :=
  { r with forward := r.forward + 2 * state, set? := none, text? := none }

/-- So many copies, and so many bytes around them. -/
def copies (r : Room) (count around : Nat) : Room :=
  { r with
    forward := r.forward * count + around, backward := r.backward * count + around
    set? := none, text? := none }

/-- The room for a part that is repeated. A part without width needs no second copy. -/
def times (r : Room) (min : Nat) (max : Option Nat) : Room :=
  let (min, max) := if r.flat then (Nat.min min 1, some ((max.map (Nat.min · 1)).getD 1))
    else (min, max)
  match max with
  | none =>
    if min = 0 then
      let around := if r.nullable then 3 * state + 4 * branch else state + 2 * branch
      { r.copies 1 around with nullable := true }
    else r.copies min (state + 2 * branch)
  | some max =>
    if max = 0 then point
    else if min = 1 ∧ max = 1 then r
    else if min = max then r.copies min 0
    else
      let option := state + 2 * branch
      let around := state + (max - min) * option + if min = 0 ∧ 1 < max then state else 0
      { r.copies max around with nullable := r.nullable || min == 0 }

/-- The bytes that an automaton may take: ten mebibytes. -/
def limit : Nat := 10485760

/-- There is enough room for a whole pattern, with the states that begin and end a search. -/
def fits (r : Room) : Bool :=
  r.forward + 6 * state + 2 * edge ≤ limit && r.backward + 4 * state + 2 * edge ≤ limit

end Room

end TreeAssist
