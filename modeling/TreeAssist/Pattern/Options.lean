import TreeAssist.Pattern.Basic
import TreeAssist.Unicode.CaseFold

/-!
# Options of patterns

What a part of a pattern means depends on the options in force where it stands. They are switched on
and off by letters in a group.

* `PatternOptions` — the options in force.
* `PatternOptions.read` — reads letters that change options.
* `PatternOptions.skip` — leaves out blanks and remarks where they do not count.
* `PatternOptions.finish` — a set of characters as the options want it.
-/

namespace TreeAssist

open Text (CharSet)

/-- An option. -/
inductive PatternOption where
  /-- Case makes no difference. -/
  | ignoreCase
  /-- The marks for the ends of the text stand for the ends of lines. -/
  | multiLine
  /-- The dot stands for line breaks too. -/
  | dotAll
  /-- Short and long repetitions change places, which makes no difference to whether there is a
  match. -/
  | swapGreed
  /-- Characters are those of Unicode; otherwise classes hold only ASCII characters. -/
  | unicode
  /-- Lines may end with a carriage return and a line feed. -/
  | crlf
  /-- Blanks and remarks do not count. -/
  | extended
deriving DecidableEq

/-- The option with a letter. -/
def PatternOption.ofLetter? : Char → Option PatternOption
  | 'i' => some ignoreCase
  | 'm' => some multiLine
  | 's' => some dotAll
  | 'U' => some swapGreed
  | 'u' => some unicode
  | 'R' => some crlf
  | 'x' => some extended
  | _ => none

/-- The options in force. -/
structure PatternOptions where
  /-- Case makes no difference. -/
  ignoreCase : Bool := false
  /-- The marks for the ends of the text stand for the ends of lines. -/
  multiLine : Bool := false
  /-- The dot stands for line breaks too. -/
  dotAll : Bool := false
  /-- Characters are those of Unicode. -/
  unicode : Bool := true
  /-- Lines may end with a carriage return and a line feed. -/
  crlf : Bool := false
  /-- Blanks and remarks do not count. -/
  extended : Bool := false
deriving DecidableEq

/-- A change of options at the front of a text, behind its question mark. -/
structure OptionsRead where
  /-- The options in force from there on. -/
  options : PatternOptions
  /-- No option is named. -/
  isEmpty : Bool
  /-- The change is for a group that follows. -/
  opensGroup : Bool
  /-- The rest of the text. -/
  rest : List Char

namespace PatternOptions

/-- Switches one option. -/
def switch (o : PatternOptions) (option : PatternOption) (on : Bool) : PatternOptions :=
  match option with
  | .ignoreCase => { o with ignoreCase := on }
  | .multiLine => { o with multiLine := on }
  | .dotAll => { o with dotAll := on }
  | .swapGreed => o
  | .unicode => { o with unicode := on }
  | .crlf => { o with crlf := on }
  | .extended => { o with extended := on }

/-- Reads letters up to a colon or closing parenthesis. Behind a dash, of which there may be one and
which must not stand last, they switch options off. No letter may occur twice. -/
def readLetters (o : PatternOptions) (seen : List PatternOption) (off dangling : Bool) :
    List Char → Option OptionsRead
  | [] => none
  | ':' :: rest => if dangling then none else some ⟨o, seen.isEmpty, true, rest⟩
  | ')' :: rest => if dangling then none else some ⟨o, seen.isEmpty, false, rest⟩
  | '-' :: rest => if off then none else readLetters o seen true true rest
  | c :: rest => do
    let option ← PatternOption.ofLetter? c
    if seen.contains option then none
    else readLetters (o.switch option !off) (option :: seen) off false rest

/-- Reads a change of options. -/
def read (o : PatternOptions) (cs : List Char) : Option OptionsRead :=
  o.readLetters [] false false cs

/-- Leaves out blanks and remarks in front. A remark goes from its mark to the end of the line. -/
def dropRemarks (inRemark : Bool) : List Char → List Char
  | [] => []
  | c :: cs =>
    if inRemark then dropRemarks (c != '\n') cs
    else if Text.isBlank c then dropRemarks false cs
    else if c == '#' then dropRemarks true cs
    else c :: cs

/-- Leaves out blanks and remarks in front if they do not count. -/
def skip (o : PatternOptions) (cs : List Char) : List Char :=
  if o.extended then dropRemarks false cs else cs

/-- The first character that is neither a blank nor the first mark of a remark. -/
def firstSign (inRemark : Bool) : List Char → Option Char
  | [] => none
  | c :: cs =>
    if Text.isBlank c then firstSign inRemark cs
    else if !inRemark && c == '#' then firstSign true cs
    else some c

/-- The character that comes next, for the decision what a dash in front of it means. Where remarks
do not count, this is the first one behind blanks and the mark of a remark, if there is one. -/
def peek (o : PatternOptions) (cs : List Char) : Option Char :=
  if o.extended then firstSign false cs <|> cs.head? else cs.head?

/-- The set with what differs from its members only in case, if that makes no difference. -/
def fold (o : PatternOptions) (s : CharSet) : CharSet :=
  if o.ignoreCase then (if o.unicode then s.foldCase else s.foldAscii) else s

/-- The set, or its complement, as the options want it. Only a set of Unicode characters has a
complement. -/
def finish (o : PatternOptions) (negated : Bool) (s : CharSet) : Option CharSet :=
  if negated then
    if o.unicode then some (o.fold s).compl else none
  else some (o.fold s)

/-- What a character in a pattern stands for. Without Unicode, the case of ASCII letters only can
make no difference. -/
def literal (o : PatternOptions) (c : Char) : CharSet :=
  o.fold (.single c)

/-- What the dot stands for. -/
def dot? (o : PatternOptions) : Option CharSet :=
  if !o.unicode then none
  else if o.dotAll then some .full
  else if o.crlf then some (CharSet.ofPoints [0xA, 0xD]).compl
  else some (CharSet.single '\n').compl

/-- What a caret stands for. -/
def caret (o : PatternOptions) : Place :=
  if o.multiLine then .lineStart o.crlf else .textStart

/-- What a dollar sign stands for. -/
def dollar (o : PatternOptions) : Place :=
  if o.multiLine then .lineEnd o.crlf else .textEnd

end PatternOptions

end TreeAssist
