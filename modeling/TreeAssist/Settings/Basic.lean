import TreeAssist.Text.Column
import TreeAssist.Text.Quoted

/-!
# Settings

How a language is indented: what one level consists of, how far apart tab stops are, and whether
bracketed lists are aligned with their first item.

* `Level` — the blanks of one level, spaces only or tabs only and never none.
* `Settings` — all settings, with their defaults.
* `SettingsError` — why settings are refused, and `SettingsError.message?`.
-/

namespace TreeAssist

/-- The blanks of one level of indentation. -/
structure Level where
  /-- The level is made of tabs; otherwise of spaces. -/
  tabs : Bool
  /-- How many there are. -/
  count : Nat
  /-- There is at least one. -/
  count_pos : 0 < count
deriving DecidableEq

namespace Level

/-- The character that the level repeats. -/
def fill (l : Level) : Char :=
  if l.tabs then '\t' else ' '

/-- The characters of the level. -/
def chars (l : Level) : List Char :=
  List.replicate l.count l.fill

/-- The level as a text. -/
def text (l : Level) : String :=
  String.ofList l.chars

/-- `count` spaces, but at least one. -/
def spaces (count : Nat) : Level :=
  ⟨false, max count 1, by omega⟩

/-- One tab. -/
def tab : Level :=
  ⟨true, 1, by omega⟩

/-- The level with the given characters. -/
def ofChars? (cs : List Char) : Option Level :=
  if h : 0 < cs.length then
    if cs.all (· == ' ') then some ⟨false, cs.length, h⟩
    else if cs.all (· == '\t') then some ⟨true, cs.length, h⟩
    else none
  else none

/-- Width of the level. -/
def width (l : Level) (tab : Nat) : Nat :=
  Text.columnAfter tab l.chars

end Level

/-- The settings of a language. -/
structure Settings where
  /-- The blanks of one level. -/
  level : Level := .spaces 4
  /-- Distance of tab stops. -/
  tabWidth : Nat := 4
  /-- Lines in a bracketed list go under its first item. -/
  align : Bool := false
deriving DecidableEq

/-- Width of one level. -/
def Settings.levelWidth (s : Settings) : Nat :=
  s.level.width s.tabWidth

/-- Why settings are refused. -/
inductive SettingsError where
  /-- The text does not hold settings. -/
  | unreadable
  /-- The text holds settings, but with a level that is not spaces only or tabs only. -/
  | levelInText (text : String)
  /-- The level is not spaces only or tabs only. -/
  | level (text : String)
  /-- Tab stops are not apart. -/
  | tabWidth
deriving DecidableEq

namespace SettingsError

/-- The wording for a level that is not spaces only or tabs only. -/
def levelMessage (text : String) : String :=
  "invalid indent unit " ++ Text.quoted text ++ " (expected only spaces or only tabs)"

/-- The wording of an error. -/
def message? : SettingsError → Option String
  | unreadable => none
  | levelInText text => some (levelMessage text)
  | level text => some (levelMessage text)
  | tabWidth => some "tab size must be at least 1"

end SettingsError

/-- The level with the given text. -/
def Level.ofString (s : String) : Except SettingsError Level :=
  match ofChars? s.toList with
  | some u => .ok u
  | none => .error (.level s)

end TreeAssist
