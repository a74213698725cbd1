/-! Values of TOML and the rules for defining tables. A table may grow only in the way in which it
was begun: `assign` enters tables that dotted keys or headers below them have implied, `openTable`
gives an implied table its header, and nothing enters a table written in braces. -/

namespace ErrorPages.Toml

/-- How a table was begun. -/
inductive Form where
  | header
  /-- Implied by the header of a table inside it. -/
  | implied
  /-- Implied by a dotted key. -/
  | dotted
  | braces
deriving DecidableEq

/-- A value. Floats and date-times are only told apart from the others. -/
inductive Value where
  | text (value : String)
  | integer (value : Int)
  | float
  | flag (value : Bool)
  | dateTime
  | array (items : List Value)
  | table (form : Form) (entries : List (String × Value))
  /-- Tables that share a header in double brackets. -/
  | rows (rows : List (List (String × Value)))
deriving Inhabited

abbrev Entries := List (String × Value)

namespace Entries

def replace (entries : Entries) (key : String) (value : Value) : Entries :=
  entries.map fun entry => if entry.1 = key then (key, value) else entry

/-- Applies a change to the last row. -/
def changeLast (change : Entries → Option Entries) : List Entries → Option (List Entries)
  | [] => none
  | [row] => (change row).map ([·])
  | row :: rest => (changeLast change rest).map (row :: ·)

/-- Gives a key that has no value its value. -/
def define (key : String) (value : Value) (entries : Entries) : Option Entries :=
  match entries.lookup key with
  | none => some (entries ++ [(key, value)])
  | some _ => none

/-- Defines a key in the table at the end of a path. Tables on the way are begun in the form `made`;
the last one must be of that form too, unless the path was empty, and `ready` says whether the table
reached so far is a last one. -/
def assignFrom (made : Form) (ready : Bool) (key : String) (value : Value) :
    List String → Entries → Option Entries
  | [], entries => if ready then define key value entries else none
  | step :: path, entries =>
    match entries.lookup step with
    | none =>
      (assignFrom made true key value path []).map fun inner =>
        entries ++ [(step, .table made inner)]
    | some (.table form inner) =>
      if form = .header ∨ form = .braces then none
      else
        (assignFrom made (form = made) key value path inner).map fun inner =>
          entries.replace step (.table form inner)
    | some (.rows rows) =>
      (changeLast (assignFrom made false key value path) rows).map fun rows =>
        entries.replace step (.rows rows)
    | some _ => none

def assign (made : Form) (path : List String) (key : String) (value : Value) :
    Entries → Option Entries :=
  assignFrom made true key value path

/-- Changes the table at the path of a header, beginning the tables on the way. -/
def change (f : Entries → Option Entries) : List String → Entries → Option Entries
  | [], entries => f entries
  | step :: path, entries =>
    match entries.lookup step with
    | none => (change f path []).map fun inner => entries ++ [(step, .table .implied inner)]
    | some (.table .braces _) => none
    | some (.table form inner) =>
      (change f path inner).map fun inner => entries.replace step (.table form inner)
    | some (.rows rows) =>
      (changeLast (change f path) rows).map fun rows => entries.replace step (.rows rows)
    | some _ => none

/-- Begins a table by its header. -/
def openTable (key : String) (entries : Entries) : Option Entries :=
  match entries.lookup key with
  | none => some (entries ++ [(key, .table .header [])])
  | some (.table .implied inner) => some (entries.replace key (.table .header inner))
  | some _ => none

/-- Begins one more row. -/
def openRow (key : String) (entries : Entries) : Option Entries :=
  match entries.lookup key with
  | none => some (entries ++ [(key, .rows [[]])])
  | some (.rows rows) => some (entries.replace key (.rows (rows ++ [[]])))
  | some _ => none

end Entries

end ErrorPages.Toml
