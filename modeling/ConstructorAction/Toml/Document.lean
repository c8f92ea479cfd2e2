import ConstructorAction.Toml.Value

namespace ConstructorAction.Toml

/-!
A configuration file while it is put together. A table is opened by a header, or by being on the way
of a header or of a dotted key; what opened it decides what may still be added to it.
-/

inductive Opened where
  /-- By a header of its own, or as the top of the file. -/
  | byHeader
  /-- On the way of a header. -/
  | onTheWay
  /-- By a dotted key. -/
  | byDottedKey
  deriving DecidableEq, Repr, Inhabited

inductive Item where
  | value (value : Value)
  | table (opened : Opened) (entries : List (String × Item))
  /-- A list of tables, each with a header in double brackets. -/
  | tables (elements : List (List (String × Item)))
  deriving Repr, Inhabited

abbrev Entries := List (String × Item)

namespace Entries

def replace (key : String) (item : Item) (entries : Entries) : Entries :=
  entries.map fun entry => if entry.1 = key then (key, item) else entry

/-- Changes the table at a path, opening those that are missing. Of a list of tables the last one is
meant. A dotted key may not lead into a table that has a header. -/
def changeAt (dotted : Bool) (change : Opened → Entries → Option Entries) :
    List String → Opened → Entries → Option Entries
  | [], opened, entries => change opened entries
  | key :: path, _, entries =>
      match entries.lookup key with
      | none =>
          let opened := if dotted then .byDottedKey else .onTheWay
          (changeAt dotted change path opened []).map fun inner =>
            entries ++ [(key, .table opened inner)]
      | some (.value _) => none
      | some (.tables elements) =>
          match elements.getLast? with
          | none => none
          | some last =>
              (changeAt dotted change path .byHeader last).map fun inner =>
                replace key (.tables (elements.dropLast ++ [inner])) entries
      | some (.table opened inner) =>
          if dotted && opened == .byHeader then none
          else
            (changeAt dotted change path opened inner).map fun inner =>
              replace key (.table opened inner) entries

/-- Adds a value under a key, with the path of a dotted key in front of it. -/
def addValue (path : List String) (key : String) (value : Value) (opened : Opened)
    (entries : Entries) : Option Entries :=
  changeAt true (fun opened inner =>
    if (opened == .byDottedKey) == path.isEmpty then none
    else if (inner.lookup key).isSome then none
    else some (inner ++ [(key, .value value)])) path opened entries

/-- Opens a table by a header. -/
def openTable (path : List String) (key : String) (entries : Entries) : Option Entries :=
  changeAt false (fun _ inner =>
    match inner.lookup key with
    | none => some (inner ++ [(key, .table .byHeader [])])
    | some (.table .onTheWay content) => some (replace key (.table .byHeader content) inner)
    | some _ => none) path .byHeader entries

/-- Adds a table to a list of tables. -/
def addTable (path : List String) (key : String) (entries : Entries) : Option Entries :=
  changeAt false (fun _ inner =>
    match inner.lookup key with
    | none => some (inner ++ [(key, .tables [[]])])
    | some (.tables elements) => some (replace key (.tables (elements ++ [[]])) inner)
    | some _ => none) path .byHeader entries

end Entries

/-- Puts an entry in by the order of keys. -/
def insertEntry (key : String) (value : Value) : Table → Table
  | [] => [(key, value)]
  | (other, old) :: later =>
      if key < other then (key, value) :: (other, old) :: later
      else (other, old) :: insertEntry key value later

def sortEntries (entries : Table) : Table :=
  entries.foldl (fun sorted entry => insertEntry entry.1 entry.2 sorted) []

/-- The value of a table with its entries in the order they were written. One that starts with
`momentKey` stands for the moment that its text gives. -/
def Value.ofEntries? (readMoment : String → Option Datetime) (entries : Table) : Option Value :=
  match entries with
  | (key, value) :: _ =>
      if key = momentKey then
        match value with
        | .string text => (readMoment text).map .datetime
        | _ => none
      else some (.table (sortEntries entries))
  | [] => some (.table [])

mutual

def Item.toValue? (readMoment : String → Option Datetime) : Item → Option Value
  | .value value => some value
  | .table _ entries => do Value.ofEntries? readMoment (← toEntries? readMoment entries)
  | .tables elements => (toTables? readMoment elements).map .array

def toEntries? (readMoment : String → Option Datetime) : List (String × Item) → Option Table
  | [] => some []
  | (key, item) :: later => do
      some ((key, ← item.toValue? readMoment) :: (← toEntries? readMoment later))

def toTables? (readMoment : String → Option Datetime) :
    List (List (String × Item)) → Option (List Value)
  | [] => some []
  | entries :: later => do
      let table ← Value.ofEntries? readMoment (← toEntries? readMoment entries)
      some (table :: (← toTables? readMoment later))

end

end ConstructorAction.Toml
