/-!
The tables of a TOML document, and which definitions may follow which: a key is given a value once,
a table has one header, and what is written in one line is complete.
-/

namespace TypeSchema.Toml

/-- How a table is defined. -/
inductive TableForm where
  /-- By a header of its own. -/
  | headed
  /-- By the header of a table in it; its own header may follow. -/
  | implied
  /-- By keys with points in them; more of these may follow. -/
  | dotted
  /-- In one line. -/
  | inline
deriving DecidableEq

/-- A value. Numbers and dates are kept without what they denote. -/
inductive Value where
  | string (text : String)
  | boolean (value : Bool)
  | number
  | date
  | array (items : List Value)
  | table (form : TableForm) (entries : List (String × Value))
  /-- Tables with one header each, all of one name. -/
  | tables (items : List (List (String × Value)))
deriving Inhabited

/-- The keys and values of a table, in source order. -/
abbrev Entries := List (String × Value)

namespace Entries

def replace (entries : Entries) (key : String) (value : Value) : Entries :=
  entries.map fun entry => if entry.1 = key then (key, value) else entry

/-- Changes the table at the end of a path. Tables on the path that are missing are implied, and of
tables with one name it leads through the last. -/
def within (change : Entries → Option Entries) : List String → Entries → Option Entries
  | [], entries => change entries
  | key :: path, entries =>
    match entries.lookup key with
    | none => (within change path []).map fun inner => entries ++ [(key, .table .implied inner)]
    | some (.table form inner) =>
      if form = .inline then none
      else (within change path inner).map fun inner => entries.replace key (.table form inner)
    | some (.tables items) =>
      match items.getLast? with
      | none => none
      | some last =>
        (within change path last).map fun inner =>
          entries.replace key (.tables (items.dropLast ++ [inner]))
    | some _ => none

/-- Adds what a header defines: a table that has no header yet. -/
def addTable (key : String) (entries : Entries) : Option Entries :=
  match entries.lookup key with
  | none => some (entries ++ [(key, .table .headed [])])
  | some (.table .implied inner) => some (entries.replace key (.table .headed inner))
  | some _ => none

/-- Adds what a header in double brackets defines: one more table of a name. -/
def addTableItem (key : String) (entries : Entries) : Option Entries :=
  match entries.lookup key with
  | none => some (entries ++ [(key, .tables [[]])])
  | some (.tables items) => some (entries.replace key (.tables (items ++ [[]])))
  | some _ => none

/-- Gives a key, which may have points in it, a value. -/
def addValue (value : Value) : List String → Entries → Option Entries
  | [], _ => none
  | [key], entries =>
    match entries.lookup key with
    | none => some (entries ++ [(key, value)])
    | some _ => none
  | key :: path, entries =>
    match entries.lookup key with
    | none => (addValue value path []).map fun inner => entries ++ [(key, .table .dotted inner)]
    | some (.table form inner) =>
      if form = .dotted ∨ (form = .implied ∧ 1 < path.length) then
        (addValue value path inner).map fun inner => entries.replace key (.table form inner)
      else none
    | some _ => none

end Entries

end TypeSchema.Toml
