import TreeAssist.Settings.Toml.Item

/-!
# TOML values without parts

Texts in their four notations, and numbers, truth values, dates and times, which are all written
without quotes. A reader takes the value from the front of a text and returns it with the rest.
-/

namespace TreeAssist.Toml

/-- A control character, which may not stand for itself anywhere. Tabs may. -/
def isControl (c : Char) : Bool :=
  (c.toNat < 0x20 && c != '\t') || c.toNat == 0x7F

/-- The value of a digit in the given base. -/
def digit? (base : Nat) (c : Char) : Option Nat :=
  let value :=
    if c.isDigit then some (c.toNat - '0'.toNat)
    else if 'a' ≤ c && c ≤ 'f' then some (c.toNat - 'a'.toNat + 10)
    else if 'A' ≤ c && c ≤ 'F' then some (c.toNat - 'A'.toNat + 10)
    else none
  value.filter (· < base)

/-- The number written with the given digits. -/
def digits? (base : Nat) (cs : List Char) : Option Nat :=
  if cs.isEmpty then none
  else cs.foldl (fun acc c => do some ((← acc) * base + (← digit? base c))) (some 0)

/-! ### Texts -/

/-- The character with a number of `n` hexadecimal digits, and the rest. -/
def hexEscape (n : Nat) (cs : List Char) : Option (Char × List Char) :=
  if (cs.take n).length = n then do
    let value ← digits? 16 (cs.take n)
    if value.isValidChar then some (Char.ofNat value, cs.drop n) else none
  else none

/-- The character that an escape stands for, behind its backslash, and the rest. -/
def escape : List Char → Option (Char × List Char)
  | [] => none
  | c :: cs =>
    match c with
    | 'b' => some ('\x08', cs)
    | 't' => some ('\t', cs)
    | 'n' => some ('\n', cs)
    | 'f' => some ('\x0c', cs)
    | 'r' => some ('\r', cs)
    | 'e' => some ('\x1b', cs)
    | '"' => some ('"', cs)
    | '\\' => some ('\\', cs)
    | 'x' => hexEscape 2 cs
    | 'u' => hexEscape 4 cs
    | 'U' => hexEscape 8 cs
    | _ => none

/-- The rest of a text on one line up to the quote, with escapes if the quote is a double one.
Each character takes at least one of `fuel`. -/
def lineText (quote : Char) : Nat → List Char → Option (List Char × List Char)
  | 0, _ => none
  | _ + 1, [] => none
  | fuel + 1, c :: cs =>
    if c = quote then some ([], cs)
    else if c = '\\' ∧ quote = '"' then do
      let (e, rest) ← escape cs
      let (text, rest) ← lineText quote fuel rest
      some (e :: text, rest)
    else if isControl c then none
    else do
      let (text, rest) ← lineText quote fuel cs
      some (c :: text, rest)

/-- What follows a line break, if one stands in front. -/
def newline? : List Char → Option (List Char)
  | '\n' :: cs => some cs
  | '\r' :: '\n' :: cs => some cs
  | _ => none

/-- A space or tab. -/
def isSpace (c : Char) : Bool :=
  c == ' ' || c == '\t'

/-- Leaves out spaces, tabs and line breaks in front. -/
def dropBlankLines : List Char → List Char
  | ' ' :: cs | '\t' :: cs | '\n' :: cs => dropBlankLines cs
  | '\r' :: '\n' :: cs => dropBlankLines cs
  | cs => cs

/-- What follows a backslash at the end of a line: all blanks and line breaks behind it are left
out. There must be a line break among them before anything else. -/
def foldedBreak? (cs : List Char) : Option (List Char) :=
  (newline? (cs.dropWhile isSpace)).map dropBlankLines

/-- The rest of a text on several lines up to three quotes, of which two more may stand in front as
part of the text. -/
def blockText (quote : Char) : Nat → List Char → Option (List Char × List Char)
  | 0, _ => none
  | _ + 1, [] => none
  | fuel + 1, c :: cs =>
    if c = quote then
      let run := ((c :: cs).takeWhile (· == quote)).length
      if 3 ≤ run then
        let used := min run 5
        some (List.replicate (used - 3) quote, (c :: cs).drop used)
      else do
        let (text, rest) ← blockText quote fuel cs
        some (c :: text, rest)
    else if c = '\\' ∧ quote = '"' then
      match foldedBreak? cs with
      | some rest => blockText quote fuel rest
      | none => do
        let (e, rest) ← escape cs
        let (text, rest) ← blockText quote fuel rest
        some (e :: text, rest)
    else
      match newline? (c :: cs) with
      | some rest => do
        let (text, rest') ← blockText quote fuel rest
        some ((c :: cs).take (cs.length + 1 - rest.length) ++ text, rest')
      | none =>
        if isControl c then none
        else do
          let (text, rest) ← blockText quote fuel cs
          some (c :: text, rest)

/-- A text in quotes on one line, and the rest. -/
def lineString? : List Char → Option (String × List Char)
  | [] => none
  | c :: cs =>
    if c = '"' ∨ c = '\'' then
      (lineText c (cs.length + 1) cs).map fun r => (String.ofList r.1, r.2)
    else none

/-- A text in any of the four notations, and the rest. A line break right behind three quotes does
not count. -/
def string? (cs : List Char) : Option (String × List Char) :=
  match cs with
  | '"' :: '"' :: '"' :: cs => block '"' cs
  | '\'' :: '\'' :: '\'' :: cs => block '\'' cs
  | cs => lineString? cs
where
  /-- A text behind its three opening quotes. -/
  block (quote : Char) (cs : List Char) : Option (String × List Char) :=
    let cs := (newline? cs).getD cs
    (blockText quote (cs.length + 1) cs).map fun r => (String.ofList r.1, r.2)

/-! ### Numbers -/

/-- Each underscore stands between two characters of the given class. -/
def separates (isDigit : Char → Bool) : List Char → Bool
  | c :: '_' :: d :: cs => isDigit c && isDigit d && separates isDigit (d :: cs)
  | ['_'] | [_, '_'] => false
  | '_' :: _ => false
  | _ :: cs => separates isDigit cs
  | [] => true

/-- A digit of any base. -/
def isAnyDigit (c : Char) : Bool :=
  (digit? 16 c).isSome

/-- Decimal digits with underscores between them. -/
def isDigits (cs : List Char) : Bool :=
  !cs.isEmpty && cs.all (fun c => c.isDigit || c == '_') && separates Char.isDigit cs

/-- More than one digit with a zero in front. -/
def hasLeadingZero : List Char → Bool
  | '0' :: _ :: _ => true
  | _ => false

/-- The number written with the given digits and underscores, if there are no others. -/
def natural? (base : Nat) (cs : List Char) : Option Nat :=
  digits? base (cs.filter (· != '_'))

/-- The text without a sign in front, and whether that is a minus. -/
def unsigned : List Char → Bool × List Char
  | '-' :: cs => (true, cs)
  | '+' :: cs => (false, cs)
  | cs => (false, cs)

/-- A whole number in the given base, behind the letter of that base. There may be no digit at all,
and then it has no value. -/
def basedItem? (base : Nat) (cs : List Char) : Option Item :=
  if cs.all (fun c => (digit? base c).isSome || c == '_') && separates isAnyDigit cs then
    some (.integer ((natural? base cs).map Int.ofNat))
  else none

/-- The exponent of a number, behind its letter. -/
def isExponent (cs : List Char) : Bool :=
  isDigits (unsigned cs).2

/-- A number without a sign that has a fraction, an exponent or both. -/
def isFloat (cs : List Char) : Bool :=
  let isMark (c : Char) : Bool := c == 'e' || c == 'E'
  let whole := cs.takeWhile fun c => c != '.' && !isMark c
  isDigits whole && !hasLeadingZero whole &&
    match cs.drop whole.length with
    | '.' :: after =>
      let fraction := after.takeWhile (!isMark ·)
      isDigits fraction &&
        match after.drop fraction.length with
        | [] => true
        | _ :: exponent => isExponent exponent
    | _ :: exponent => isExponent exponent
    | [] => false

/-! ### Dates and times -/

/-- Exactly `n` decimal digits as a number. -/
def fixed? (n : Nat) (cs : List Char) : Option Nat :=
  if cs.length = n then digits? 10 cs else none

/-- Number of days in a month. -/
def daysIn (year month : Nat) : Nat :=
  if month = 2 then
    if year % 4 = 0 ∧ (year % 100 ≠ 0 ∨ year % 400 = 0) then 29 else 28
  else if month ∈ [4, 6, 9, 11] then 30
  else 31

/-- A date such as `1979-05-27`. -/
def isDate (cs : List Char) : Bool :=
  match fixed? 4 (cs.take 4), cs.drop 4 with
  | some year, '-' :: m₁ :: m₂ :: '-' :: day =>
    match fixed? 2 [m₁, m₂], fixed? 2 day with
    | some month, some day => 1 ≤ month && month ≤ 12 && 1 ≤ day && day ≤ daysIn year month
    | _, _ => false
  | _, _ => false

/-- Hours and minutes such as `07:32`. -/
def isHourMinute : List Char → Bool
  | h₁ :: h₂ :: ':' :: minute =>
    (fixed? 2 [h₁, h₂]).any (· ≤ 23) && (fixed? 2 minute).any (· ≤ 59)
  | _ => false

/-- A time of day such as `07:32` or `07:32:00.5`. -/
def isTime (cs : List Char) : Bool :=
  isHourMinute (cs.take 5) &&
    match cs.drop 5 with
    | [] => true
    | ':' :: s₁ :: s₂ :: rest =>
      (fixed? 2 [s₁, s₂]).any (· ≤ 60) &&
        match rest with
        | [] => true
        | '.' :: fraction => (digits? 10 fraction).isSome
        | _ => false
    | _ => false

/-- A time of day that may be followed by its distance from universal time. -/
def isZonedTime (cs : List Char) : Bool :=
  let isZone (c : Char) : Bool := c == 'Z' || c == 'z' || c == '+' || c == '-'
  let time := cs.takeWhile (!isZone ·)
  isTime time &&
    match cs.drop time.length with
    | [] => true
    | c :: offset => if c == 'Z' || c == 'z' then offset.isEmpty else isHourMinute offset

/-- A date, a time, or both. -/
def isDatetime (cs : List Char) : Bool :=
  isTime cs || isDate cs ||
    isDate (cs.take 10) &&
      match cs.drop 10 with
      | sep :: time => (sep == 'T' || sep == 't' || sep == ' ') && isZonedTime time
      | [] => false

/-! ### Values without quotes -/

/-- A character that ends a value without quotes. -/
def isDelimiter (c : Char) : Bool :=
  c == '=' || c == ',' || c == '[' || c == ']' || c == '\x7b' || c == '\x7d' || c == '#' ||
    c == '\r' || c == '\n'

/-- The characters of a value without quotes, and the rest. Blanks at the end do not belong to the
value, but those between its words do. -/
def bareText (cs : List Char) : List Char × List Char :=
  let text := cs.takeWhile (!isDelimiter ·)
  ((text.reverse.dropWhile isSpace).reverse, cs.dropWhile (!isDelimiter ·))

/-- No word behind a blank begins with a quote. -/
def wordsUnquoted : List Char → Bool
  | c :: d :: cs => !(isSpace c && (d == '"' || d == '\'')) && wordsUnquoted (d :: cs)
  | _ => true

/-- What a text stands for that begins with a digit, or with a sign and a digit.

What follows the first digits decides: a dash or colon makes it a date or time; else a point or the
mark of an exponent makes it a number with a fraction; else an underscore makes it a whole number,
whatever follows, spaces and quoted words apart. Such a number has a value only if all of it are
digits and underscores. -/
def numberItem? (text : List Char) : Option Item :=
  let (negative, cs) := unsigned text
  let whole : Option Item :=
    if hasLeadingZero cs || !separates isAnyDigit cs then none
    else some (.integer ((natural? 10 cs).map fun n => if negative then -(n : Int) else n))
  match cs.dropWhile Char.isDigit with
  | [] => whole
  | c :: rest =>
    if c == '-' || c == ':' then
      if isDatetime text then some (.datetime (String.ofList text)) else none
    else if (c :: rest).any fun d => d == '.' || d == 'e' || d == 'E' then
      if isFloat cs then some (.float (String.ofList text)) else none
    else if c == '_' && !rest.contains ' ' && wordsUnquoted rest then whole
    else none

/-- What a text without quotes stands for. -/
def bareItem? (text : List Char) : Option Item :=
  match text with
  | ['t', 'r', 'u', 'e'] => some (.boolean true)
  | ['f', 'a', 'l', 's', 'e'] => some (.boolean false)
  | '0' :: 'x' :: cs => basedItem? 16 cs
  | '0' :: 'o' :: cs => basedItem? 8 cs
  | '0' :: 'b' :: cs => basedItem? 2 cs
  | text =>
    match (unsigned text).2 with
    | ['i', 'n', 'f'] | ['n', 'a', 'n'] => some (.float (String.ofList text))
    | c :: _ => if c.isDigit then numberItem? text else none
    | [] => none

end TreeAssist.Toml
