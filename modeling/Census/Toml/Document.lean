set_option autoImplicit false

namespace Census.Toml

/-- How a table came to be: between braces, under a header of its own, or on the way of a header or
a key to a table or value within it. -/
inductive Origin where
  | inline
  | headed
  | implied
  | dotted
  deriving DecidableEq

/--
A value of a settings file. Of a number with a fraction, a date and an array nothing is kept, as no
setting has one; of the tables of one name the last is kept, to which headers and keys add.
-/
inductive Value where
  | integer (n : Int64)
  | float
  | boolean (b : Bool)
  | text (s : String)
  | moment
  | array
  | table (origin : Origin) (entries : List (String × Value))
  | tables (last : List (String × Value))

abbrev Table := List (String × Value)

namespace Table

def set (key : String) (value : Value) : Table → Table
  | [] => [(key, value)]
  | (k, old) :: rest => if k = key then (key, value) :: rest else (k, old) :: set key value rest

/--
Changes the table at a path, of which the tables that are missing are made. A dotted key goes into
no table that has a header, and nothing goes into a table between braces.
-/
def change? (dotted : Bool) (f : Origin → Table → Option Table) :
    List String → Origin → Table → Option Table
  | [], origin, table => f origin table
  | key :: path, _, table =>
    match table.lookup key with
    | none => do
      let origin : Origin := if dotted then .dotted else .implied
      return table.set key (.table origin (← change? dotted f path origin []))
    | some (.table origin entries) =>
      if origin = .inline || (dotted && origin = .headed) then none
      else do return table.set key (.table origin (← change? dotted f path origin entries))
    | some (.tables last) => do
      return table.set key (.tables (← change? dotted f path .headed last))
    | some _ => none

/-- Gives a value to a key that has none. The way to it ends in a table that dotted keys made. -/
def assign? (path : List String) (key : String) (value : Value) (table : Table) : Option Table :=
  change? true (fun origin entries =>
    if (path ≠ [] && origin ≠ .dotted) || (entries.lookup key).isSome then none
    else some (entries.set key value)) path .headed table

def openTable? (path : List String) (key : String) (table : Table) : Option Table :=
  change? false (fun _ entries =>
    match entries.lookup key with
    | none => some (entries.set key (.table .headed []))
    | some (.table .implied within) => some (entries.set key (.table .headed within))
    | some _ => none) path .headed table

def openTables? (path : List String) (key : String) (table : Table) : Option Table :=
  change? false (fun _ entries =>
    match entries.lookup key with
    | none => some (entries.set key (.tables []))
    | some (.tables _) => some (entries.set key (.tables []))
    | some _ => none) path .headed table

end Table

structure Document where
  root : Table
  tables : List (String × Table)

namespace Document

def ofTable (table : Table) : Document where
  root := table.filter fun (_, value) => match value with
    | .table _ _ => false
    | _ => true
  tables := table.filterMap fun (key, value) => match value with
    | .table _ entries => some (key, entries)
    | _ => none

def table? (doc : Document) (name : String) : Option Table :=
  -- An array under the name could be read by position, which is not done here.
  if (doc.root.lookup name).isSome then none
  else some ((doc.tables.lookup name).getD [])

end Document

end Census.Toml
