/-!
# Structured values on the wire

A `Value` is what a data format such as JSON carries, with whole numbers told apart from all other
numbers. The readers below take a value apart and refuse whatever does not have the expected form.

* `Value.natBelow`, `Value.bool?`, `Value.str?`, `Value.list?` — single values.
* `Value.record`, `Value.closedRecord` — the fields of a record, written as an object with named
  fields or as an array of them in order.
-/

namespace TreeAssist.Wire

/-- A structured value. -/
inductive Value where
  /-- No value. -/
  | null
  /-- A truth value. -/
  | bool (b : Bool)
  /-- A whole number, written as one. -/
  | int (n : Int)
  /-- Any other number. -/
  | real
  /-- A text. -/
  | str (s : String)
  /-- A list of values. -/
  | arr (items : List Value)
  /-- Values under names. -/
  | obj (fields : List (String × Value))
deriving Inhabited

/-- A field of a record. -/
structure Field where
  /-- The name of the field. -/
  name : String
  /-- What stands for the field if an object lacks it. -/
  default : Option Value := none

namespace Value

/-- A natural number as a value. -/
def nat (n : Nat) : Value :=
  .int n

/-- A natural number below `limit`. -/
def natBelow (limit : Nat) : Value → Option Nat
  | int (.ofNat n) => if n < limit then some n else none
  | _ => none

/-- A truth value. -/
def bool? : Value → Option Bool
  | bool b => some b
  | _ => none

/-- A text. -/
def str? : Value → Option String
  | str s => some s
  | _ => none

/-- A list whose members `f` reads. -/
def list? {α : Type} (f : Value → Option α) : Value → Option (List α)
  | arr items => items.mapM f
  | _ => none

/-- Nothing, or what `f` reads. -/
def option? {α : Type} (f : Value → Option α) : Value → Option (Option α)
  | null => some none
  | v => (f v).map some

/-- The values of the given fields. An array holds exactly these in order; an object may hold
others beside them. -/
def record (fields : List Field) : Value → Option (List Value)
  | obj entries => fields.mapM fun f => (entries.lookup f.name).or f.default
  | arr items => if items.length = fields.length then some items else none
  | _ => none

/-- The values of the given fields, where an object may not hold others. -/
def closedRecord (fields : List Field) : Value → Option (List Value)
  | obj entries =>
    if entries.all fun e => fields.any (·.name == e.1) then record fields (obj entries) else none
  | v => record fields v

end Value

end TreeAssist.Wire
