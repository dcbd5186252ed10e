import ObjectModel.Value
import Std.Data.ExtTreeMap

/-! # Property tables

A property table maps names to values. Each entry belongs to one visibility tier, a name occurs at
most once in the whole table, and entries are listed in the order in which their names first came
in. An index from names to positions answers look-ups; `PropertyTable.remove` repairs the positions
behind the entry that goes.
-/

namespace ObjectModel

/-- A named value and the visibility tier that it belongs to. -/
structure Entry where
  name : String
  tier : String
  value : Value

/-- The tier whose entries are handed on to new classes and new instances. -/
def publicTier : String :=
  "public"

/-- Entries in order, with the position of each name. -/
structure PropertyTable where
  entries : Array Entry
  index : Std.ExtTreeMap String Nat

/-- A change that a holder of a table can make to it. -/
inductive TableChange where
  | set (tier name : String) (value : Value)
  | setAll (tier : String) (members : List (String × Value))
  | remove (name : String)

namespace PropertyTable

/-- The table without entries. -/
def empty : PropertyTable :=
  ⟨#[], {}⟩

instance : Inhabited PropertyTable :=
  ⟨empty⟩

/-- The entry of a name. -/
def entryOf? (table : PropertyTable) (name : String) : Option Entry :=
  table.index[name]?.bind (table.entries[·]?)

/-- The value of a name, whatever its tier. -/
def find? (table : PropertyTable) (name : String) : Option Value :=
  (table.entryOf? name).map Entry.value

/-- The tier of a name. -/
def tierOf? (table : PropertyTable) (name : String) : Option String :=
  (table.entryOf? name).map Entry.tier

/-- The value of a name, or the failure that names it. -/
def get (table : PropertyTable) (name : String) : Except Error Value :=
  match table.find? name with
  | some value => .ok value
  | none => .error (.notFound name)

/-- Whether a name is present. -/
def contains (table : PropertyTable) (name : String) : Bool :=
  table.index.contains name

/-- The number of entries in all tiers. -/
def size (table : PropertyTable) : Nat :=
  table.entries.size

/-- Whether no entry is present. -/
def isEmpty (table : PropertyTable) : Bool :=
  table.entries.isEmpty

/-- The names in order. -/
def names (table : PropertyTable) : List String :=
  table.entries.toList.map Entry.name

/-- The names and values of one tier in order. -/
def entriesIn (table : PropertyTable) (tier : String) : List (String × Value) :=
  (table.entries.toList.filter (·.tier = tier)).map fun entry => (entry.name, entry.value)

/-- The tiers in use, each once, in the order of their first entries. -/
def tiers (table : PropertyTable) : List String :=
  (table.entries.toList.map Entry.tier).eraseDups

/-- Give a name a tier and a value. A name that is present keeps its position. -/
def set (table : PropertyTable) (tier name : String) (value : Value) : PropertyTable :=
  match table.index[name]? with
  | some position =>
    { table with
      entries := table.entries.modify position fun entry => { entry with tier, value } }
  | none =>
    { entries := table.entries.push { name, tier, value }
      index := table.index.insert name table.entries.size }

/-- Set several members of one tier, from left to right. -/
def setAll (table : PropertyTable) (tier : String) (members : List (String × Value)) :
    PropertyTable :=
  members.foldl (fun table (name, value) => table.set tier name value) table

/-- Move the position of every given name one place to the front. -/
def shiftBack (index : Std.ExtTreeMap String Nat) (entries : List Entry) : Std.ExtTreeMap String Nat :=
  entries.foldl (fun index entry =>
    match index[entry.name]? with
    | some position => index.insert entry.name (position - 1)
    | none => index) index

/-- Take a name out: the value it had, and the table without it. -/
def remove (table : PropertyTable) (name : String) : Option Value × PropertyTable :=
  match table.index[name]? with
  | none => (none, table)
  | some position =>
    let remaining := table.entries.eraseIdxIfInBounds position
    (table.entries[position]?.map Entry.value,
      { entries := remaining
        index := shiftBack (table.index.erase name) (remaining.toList.drop position) })

/-- A new table of the public entries, in the same order. -/
def inheritable (table : PropertyTable) : PropertyTable :=
  empty.setAll publicTier (table.entriesIn publicTier)

/-- The table that is built by setting entries from left to right. -/
def ofEntries (entries : List Entry) : PropertyTable :=
  entries.foldl (fun table entry => table.set entry.tier entry.name entry.value) empty

/-- The table after a change. -/
def apply (table : PropertyTable) : TableChange → PropertyTable
  | .set tier name value => table.set tier name value
  | .setAll tier members => table.setAll tier members
  | .remove name => (table.remove name).2

end PropertyTable

end ObjectModel
