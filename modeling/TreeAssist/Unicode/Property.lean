import TreeAssist.Unicode.Age
import TreeAssist.Unicode.Script
import TreeAssist.Unicode.Segment

/-!
# Properties by name

A property is named either alone, such as `Greek` or `Lu`, or with one of its values behind an
equals sign or colon, such as `Script=Greek`. How a name is spelled makes no difference: capitals,
blanks, dashes, underscores and an `is` in front do not count.

* `plainName` — a name without such differences.
* `propertySet?` — the characters that have the property.
-/

namespace TreeAssist.Unicode

open Text (CharSet)

/-- A name in small letters, without an `is` in front, without spaces, dashes and underscores, and
without characters that are not ASCII. With `isc` the first two letters belong to the name. -/
def plainName (cs : List Char) : String :=
  let plain (cs : List Char) : List Char :=
    (cs.filter fun c => c.toNat < 0x80 && c != ' ' && c != '-' && c != '_').map Char.toLower
  match cs with
  | i :: s :: rest =>
    if i.toLower = 'i' ∧ s.toLower = 's' then
      let name := plain rest
      String.ofList (if name = ['c'] then ['i', 's', 'c'] else name)
    else String.ofList (plain cs)
  | cs => String.ofList (plain cs)

/-- What is in front of the first occurrence of `mark`, and what is behind it. -/
def cutAt? (mark : List Char) : List Char → Option (List Char × List Char)
  | [] => none
  | c :: cs =>
    if mark.isPrefixOf (c :: cs) then some ([], (c :: cs).drop mark.length)
    else (cutAt? mark cs).map fun r => (c :: r.1, r.2)

/-- The characters with a property, by its plain name. -/
def namedSet? (name : String) : Option CharSet :=
  binarySet? name <|> categorySet? name <|> scriptSet? name

/-- The characters for which a property has a value, by the plain names of the two. -/
def valueSet? (property value : String) : Option CharSet :=
  match property with
  | "gc" | "generalcategory" => categorySet? value
  | "sc" | "script" => scriptSet? value
  | "scx" | "scriptextensions" => scriptExtensionSet? value
  | "age" => ageSet? value
  | "gcb" | "graphemeclusterbreak" => graphemeBreakSet? value
  | "wb" | "wordbreak" => wordBreakSet? value
  | "sb" | "sentencebreak" => sentenceBreakSet? value
  | _ => none

/-- The characters with the property that is written as `cs`. The mark `!=` between property and
value says the same as `=`. -/
def propertySet? (cs : List Char) : Option CharSet :=
  match cutAt? ['!', '='] cs <|> cutAt? [':'] cs <|> cutAt? ['='] cs with
  | some (property, value) => valueSet? (plainName property) (plainName value)
  | none => namedSet? (plainName cs)

end TreeAssist.Unicode
