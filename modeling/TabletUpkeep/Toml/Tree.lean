import TabletUpkeep.Record

/-! The tree of a TOML document and the rules by which it grows. A table remembers how it came
about: by a header of its own, on the way to another header's table, by a dotted key, or inline.
That decides who may add to it later. -/
namespace TabletUpkeep.Toml

inductive Origin
  | header
  | passage
  | dotted
  | inlined
  deriving DecidableEq, Repr

/-- Numbers with a fraction and points in time are kept as such, without their value. -/
inductive Item
  | text (value : String)
  | integer (value : Int64)
  | float
  | boolean (value : Bool)
  | dateTime
  | array (items : List Item)
  | table (origin : Origin) (entries : List (String × Item))
  | tables (elements : List Item)

abbrev Entries := List (String × Item)

namespace Entries

/-- The entries with a new value under a key, which keeps its place if it has one. -/
def put (key : String) (value : Item) : Entries → Entries
  | [] => [(key, value)]
  | (k, v) :: rest => if k == key then (k, value) :: rest else (k, v) :: put key value rest

end Entries

namespace Item

/-- A change of a table, which may be refused. -/
abbrev Change := Origin → Entries → Option Entries

/-- Whether a key leads into a table. Dotted keys do not enter tables with a header of their own,
and nothing enters an inline one. -/
def admits (origin : Origin) (byDottedKey : Bool) : Bool :=
  match origin with
  | .header => !byDottedKey
  | .passage | .dotted => true
  | .inlined => false

/-- Applies a change to the table at the end of a path. Tables missing on the way are made; of an
array of tables the last one is entered. -/
def changeAt (byDottedKey : Bool) (change : Change) : List String → Change
  | [], origin, entries => change origin entries
  | key :: path, _, entries =>
    match entries.lookup key with
    | none =>
      let origin := if byDottedKey then .dotted else .passage
      (changeAt byDottedKey change path origin []).map fun inner =>
        entries.put key (.table origin inner)
    | some (.table origin inner) =>
      if admits origin byDottedKey then
        (changeAt byDottedKey change path origin inner).map fun inner =>
          entries.put key (.table origin inner)
      else none
    | some (.tables elements) =>
      match elements.getLast? with
      | some (.table origin inner) =>
        (changeAt byDottedKey change path origin inner).map fun inner =>
          entries.put key (.tables (elements.dropLast ++ [.table origin inner]))
      | _ => none
    | some _ => none

/-- Adds a value under a key that is free. Behind a dotted key the table must be one made by dotted
keys; without one it must not be. -/
def addValue (dotted : Bool) (key : String) (value : Item) : Change := fun origin entries =>
  if (origin == .dotted) != dotted || (entries.lookup key).isSome then none
  else some (entries ++ [(key, value)])

/-- Adds a value under a key of one or more segments. -/
def addAt (path : List String) (value : Item) : Change := fun origin entries =>
  match path.getLast? with
  | none => none
  | some key =>
    changeAt true (addValue (path.length != 1) key value) path.dropLast origin entries

/-- Opens the table of a header: a new one, or one made in passing, with what it holds. -/
def openTable (key : String) : Change := fun _ entries =>
  match entries.lookup key with
  | none => some (entries ++ [(key, .table .header [])])
  | some (.table .passage inner) => some (Entries.put key (.table .header inner) entries)
  | some _ => none

/-- Adds a table to the array of tables under a key. -/
def openElement (key : String) : Change := fun _ entries =>
  match entries.lookup key with
  | none => some (entries ++ [(key, .tables [.table .header []])])
  | some (.tables elements) =>
    some (Entries.put key (.tables (elements ++ [.table .header []])) entries)
  | some _ => none

/-- A section may be a table, an array of its fields, or a point in time, which stands for a record
of fields unknown here. -/
def fields? (names : List String) : Item → Option (List (Option Item))
  | table _ entries => some (names.map (List.lookup · entries))
  | array items => some (Described.byPosition names items)
  | tables elements => some (Described.byPosition names elements)
  | dateTime => some (names.map fun _ => none)
  | _ => none

def integer? : Item → Option Int
  | integer value => some value.toInt
  | _ => none

def boolean? : Item → Option Bool
  | boolean value => some value
  | _ => none

def text? : Item → Option String
  | text value => some value
  | _ => none

def items? : Item → Option (List Item)
  | array items => some items
  | tables elements => some elements
  | _ => none

instance : Described Item := ⟨fields?, integer?, boolean?, text?, items?⟩

end Item

end TabletUpkeep.Toml
