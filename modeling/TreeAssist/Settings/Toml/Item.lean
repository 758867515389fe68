/-!
# TOML documents

What a TOML document says: keys with values, under tables that headers and dotted keys open. The
module builds the tree of tables from a list of statements and refuses what the format does not
allow, such as a key that is given twice.

* `Item` — a value or table.
* `Statement` — a line of a document.
* `Entries.ofStatements` — the entries of the topmost table.
-/

namespace TreeAssist.Toml

/-- How a table came to be. -/
inductive Origin where
  /-- Named on the way by the header of a table below it. -/
  | implicit
  /-- Opened by its own header. -/
  | header
  /-- Named on the way by a dotted key. -/
  | dotted
deriving DecidableEq

/-- A value or table. -/
inductive Item where
  /-- A text. -/
  | string (s : String)
  /-- A whole number. It has no value if it is written with other characters than its digits. -/
  | integer (value? : Option Int)
  /-- A truth value. -/
  | boolean (b : Bool)
  /-- Another number, as it is written. -/
  | float (text : String)
  /-- A date or time, as it is written. -/
  | datetime (text : String)
  /-- A list of values. -/
  | array (items : List Item)
  /-- A table that is written as a value and complete. -/
  | inlineTable (entries : List (String × Item))
  /-- A table that may still grow. -/
  | table (origin : Origin) (entries : List (String × Item))
  /-- A list of tables that may still grow. -/
  | tables (items : List (List (String × Item)))

/-- The entries of a table. -/
abbrev Entries := List (String × Item)

/-- A line of a document. -/
inductive Statement where
  /-- A key, which may be dotted, and its value. -/
  | assign (path : List String) (value : Item)
  /-- The header of a table. -/
  | header (path : List String)
  /-- The header of another table in a list of tables. -/
  | arrayHeader (path : List String)

namespace Entries

/-- Replaces the item under `key`, which may be missing, by what `f` makes of it. -/
def update (key : String) (f : Option Item → Option Item) : Entries → Option Entries
  | [] => (f none).map fun i => [(key, i)]
  | (k, i) :: rest =>
    if k = key then (f (some i)).map fun i' => (k, i') :: rest
    else (update key f rest).map ((k, i) :: ·)

/-- Applies `f` to the last member of a list. -/
def updateLast {α : Type} (f : α → Option α) : List α → Option (List α)
  | [] => none
  | [x] => (f x).map ([·])
  | x :: rest => (updateLast f rest).map (x :: ·)

/-- Gives `key` a value, which it must not have yet, in the table at the end of `path`. A dotted key
opens tables on its way. It may lead through tables that were named on the way, but not through one
with its own header unless that is the last in a list of tables, and it may end only in a table that
dotted keys opened: `isOpen` says whether `key` may be given in the table reached. -/
def assign (key : String) (value : Item) (isOpen : Bool) : List String → Entries → Option Entries
  | [], es =>
    if isOpen then update key (fun old => if old.isNone then some value else none) es else none
  | k :: path, es =>
    update k (fun
      | none => (assign key value true path []).map (.table .dotted)
      | some (.table .header _) => none
      | some (.table origin inner) =>
        (assign key value (origin = .dotted) path inner).map (.table origin)
      | some (.tables ts) => (updateLast (assign key value false path) ts).map .tables
      | some _ => none) es

/-- Gives a value to a key, whose last part names the entry. -/
def assignPath (path : List String) (value : Item) (es : Entries) : Option Entries := do
  assign (← path.getLast?) value true path.dropLast es

/-- Applies `f` to the table at the end of `path`, opening tables on the way. In a list of tables
the way leads through the last one. -/
def within (f : Entries → Option Entries) : List String → Entries → Option Entries
  | [], es => f es
  | key :: path, es =>
    update key (fun
      | none => (within f path []).map (.table .implicit)
      | some (.table origin inner) => (within f path inner).map (.table origin)
      | some (.tables ts) => (updateLast (within f path) ts).map .tables
      | some _ => none) es

/-- Opens the table named by a header. -/
def openTable (key : String) : Entries → Option Entries :=
  update key fun
    | none => some (.table .header [])
    | some (.table .implicit inner) => some (.table .header inner)
    | some _ => none

/-- Opens one more table in the list named by a header. -/
def openNext (key : String) : Entries → Option Entries :=
  update key fun
    | none => some (.tables [[]])
    | some (.tables ts) => some (.tables (ts ++ [[]]))
    | some _ => none

/-- Obeys statements in order; assignments belong to the table at the end of `current`. -/
def obey (current : List String) (es : Entries) : List Statement → Option Entries
  | [] => some es
  | .assign path value :: rest => do
    let es ← within (assignPath path value) current es
    obey current es rest
  | .header path :: rest => do
    let key ← path.getLast?
    let es ← within (openTable key) path.dropLast es
    obey path es rest
  | .arrayHeader path :: rest => do
    let key ← path.getLast?
    let es ← within (openNext key) path.dropLast es
    obey path es rest

/-- The entries of the topmost table. -/
def ofStatements (statements : List Statement) : Option Entries :=
  obey [] [] statements

end Entries

end TreeAssist.Toml
