import TreeAssist.Settings.Basic
import TreeAssist.Settings.Toml.Parser

/-!
# Settings in TOML

The settings have the keys `indent-unit`, `tab-size` and `align-delimited`, all optional; others are
refused. Keys are looked at in ascending order, and the first one that does not hold what it should
decides on the error. That tab stops are apart is looked at last.
-/

namespace TreeAssist.Settings

open Toml

/-- A distance of tab stops is below this number, and so has 64 bits. -/
def tabWidthLimit : Int := 18446744073709551616

/-- Takes one key into the settings. -/
def take (s : Settings) (entry : String × Item) : Except SettingsError Settings :=
  match entry with
  | ("align-delimited", .boolean b) => .ok { s with align := b }
  | ("indent-unit", .string text) =>
    match Level.ofChars? text.toList with
    | some level => .ok { s with level }
    | none => .error (.levelInText text)
  | ("tab-size", .integer (some n)) =>
    if 0 ≤ n ∧ n < tabWidthLimit then .ok { s with tabWidth := n.toNat } else .error .unreadable
  | _ => .error .unreadable

/-- Takes keys into the settings, up to the first error. -/
def takeAll (s : Settings) : Entries → Except SettingsError Settings
  | [] => .ok s
  | e :: rest => do (← s.take e).takeAll rest

/-- The settings that a text holds. -/
def read (text : String) : Except SettingsError Settings :=
  match Toml.parse? text with
  | none => .error .unreadable
  | some entries => do
    let settings ← ({} : Settings).takeAll (entries.mergeSort fun e f => e.1 ≤ f.1)
    if settings.tabWidth = 0 then .error .tabWidth else .ok settings

end TreeAssist.Settings
