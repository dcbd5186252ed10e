import ObjectModel.Effect
import ObjectModel.PropertyTable

/-! # The store and its journal

The store holds what values and classes share: the property tables behind their handles and the
objects made so far. Tables and objects are only ever added, and a table changes only through
`Store.write` at its own handle. Two histories go with them: the journal tells readers what happened
to the classes, and the list of writes tells what was done to each table, by whichever holder. A record
of the journal says what happened as data; its level and its wording are derived from it.
-/

namespace ObjectModel

/-! ## Records of the journal -/

/-- How detailed a record is. -/
inductive LogLevel where
  /-- The classes of a realm changed. -/
  | debug
  /-- A table was copied or a member was found by inheritance. -/
  | trace
deriving DecidableEq, Repr, Inhabited

/-- The name of each level. -/
def LogLevel.text : LogLevel → String
  | .debug => "DEBUG"
  | .trace => "TRACE"

/-- Whether records of one level are kept by a reader who asked for another. -/
def LogLevel.isKeptBy (level : LogLevel) : (reader : LogLevel) → Bool
  | .debug => level = .debug
  | .trace => true

/-- One event of the journal. -/
inductive LogRecord where
  /-- The public entries of a table were copied: how many, and how many entries it had. -/
  | snapshot (kept total : Nat)
  | registered (name : String) (id : ClassId) (kind : ClassKind)
  | rootBound (name : String)
  | bootstrapComplete (classCount : Nat)
  | created (name : String) (id : ClassId)
  /-- A member was found on this class of the chain of supers. -/
  | resolved (name : String) (id : ClassId)
deriving DecidableEq, Repr, Inhabited

namespace LogRecord

/-- Copies and inherited members are traced, all else concerns the classes. -/
def level : LogRecord → LogLevel
  | .snapshot .. | .resolved .. => .trace
  | .registered .. | .rootBound .. | .bootstrapComplete .. | .created .. => .debug

/-- The wording of each record. -/
def message : LogRecord → String
  | .snapshot kept total =>
    "inheritable snapshot: " ++ kept.repr ++ " of " ++ total.repr ++ " entries"
  | .registered name id kind =>
    "registered class '" ++ name ++ "' as " ++ id.text ++ " (" ++ kind.text ++ ")"
  | .rootBound name => "bootstrap: '" ++ name ++ "' bound as its own class"
  | .bootstrapComplete classCount =>
    "bootstrap complete: " ++ classCount.repr ++ " classes"
  | .created name id => "created class '" ++ name ++ "' as " ++ id.text
  | .resolved name id => "resolved '" ++ name ++ "' on " ++ id.text

end LogRecord

/-- The level and the wording of the records that a reader keeps. -/
def journalLines (reader : LogLevel) (records : List LogRecord) : List (String × String) :=
  (records.filter (·.level.isKeptBy reader)).map fun record => (record.level.text, record.message)

/-! ## The store -/

/-- How the writer of a table came by its handle. -/
inductive WriteRoute where
  /-- The writer named the class whose members the table holds. -/
  | members
  /-- The writer held the handle itself. -/
  | handle
deriving DecidableEq, Repr, Inhabited

/-- A change that was made to the table behind a handle. -/
structure TableWrite where
  table : TableRef
  route : WriteRoute
  change : TableChange

/-- All shared state of the object model. -/
structure Store where
  tables : Array PropertyTable
  /-- Every instance and method made so far. The identity of an object is its position. -/
  objects : Array Value
  /-- What happened, oldest first. -/
  journal : Array LogRecord
  /-- The changes made to tables since they were added, oldest first. -/
  writes : Array TableWrite

namespace Store

/-- The store in which nothing has happened. -/
def empty : Store :=
  ⟨#[], #[], #[], #[]⟩

instance : Inhabited Store :=
  ⟨empty⟩

/-- The table behind a handle. -/
def table (store : Store) (ref : TableRef) : PropertyTable :=
  (store.tables[ref.index]?).getD .empty

/-- Put a table into the store under a handle of its own. -/
def addTable (table : PropertyTable) : Effect Store TableRef := do
  let store ← get
  set { store with tables := store.tables.push table }
  return ⟨store.tables.size⟩

/-- Change the table behind a handle. -/
def write (ref : TableRef) (route : WriteRoute) (change : TableChange) : Effect Store Unit :=
  modify fun store =>
    { store with
      tables := store.tables.modify ref.index (·.apply change)
      writes := store.writes.push ⟨ref, route, change⟩ }

/-- Take a name out of the table behind a handle. -/
def removeMember (ref : TableRef) (name : String) : Effect Store (Option Value) := do
  let removed := (((← get).table ref).remove name).1
  write ref .handle (.remove name)
  return removed

/-- Write a record into the journal. -/
def record (event : LogRecord) : Effect Store Unit :=
  modify fun store => { store with journal := store.journal.push event }

/-- Copy the public entries of the table behind a handle, and record how many they are. -/
def snapshot (ref : TableRef) : Effect Store PropertyTable := do
  let source := (← get).table ref
  let copy := source.inheritable
  record (.snapshot copy.size source.size)
  return copy

/-- Make an object, which is told its identity. -/
def addObject (object : (identity : Nat) → Value) : Effect Store Value := do
  let store ← get
  let made := object store.objects.size
  set { store with objects := store.objects.push made }
  return made

/-- Make a plain instance that owns the given table. -/
def addPlain (ofClass : ClassId) (table : PropertyTable) (payload : Option Primitive) :
    Effect Store Value := do
  let ref ← addTable table
  addObject fun identity => .plain ⟨identity, ofClass, ref, payload⟩

/-- Make a method object over a table that already exists. -/
def addMethod (convention : Convention) (ofClass : ClassId) (table : TableRef)
    (callable : Callable) : Effect Store Value :=
  addObject fun identity => convention.wrap ⟨identity, ofClass, table, callable⟩

/-! ## What each operation leaves -/

@[simp]
theorem perform_addTable (table : PropertyTable) (store : Store) :
    (addTable table).perform store =
      (.ok ⟨store.tables.size⟩, { store with tables := store.tables.push table }) :=
  rfl

@[simp]
theorem perform_write (ref : TableRef) (route : WriteRoute) (change : TableChange)
    (store : Store) :
    (write ref route change).perform store =
      (.ok (), { store with
        tables := store.tables.modify ref.index (·.apply change)
        writes := store.writes.push ⟨ref, route, change⟩ }) :=
  rfl

@[simp]
theorem perform_record (event : LogRecord) (store : Store) :
    (record event).perform store =
      (.ok (), { store with journal := store.journal.push event }) :=
  rfl

@[simp]
theorem perform_snapshot (ref : TableRef) (store : Store) :
    (snapshot ref).perform store =
      (.ok (store.table ref).inheritable, { store with
        journal := store.journal.push
          (.snapshot (store.table ref).inheritable.size (store.table ref).size) }) :=
  rfl

@[simp]
theorem perform_addObject (object : Nat → Value) (store : Store) :
    (addObject object).perform store =
      (.ok (object store.objects.size),
        { store with objects := store.objects.push (object store.objects.size) }) :=
  rfl

/-- A table that was just added is behind the handle that it was given. -/
theorem table_addTable (table : PropertyTable) (store : Store) :
    ((addTable table).perform store).2.table ⟨store.tables.size⟩ = table := by
  simp [Store.table]

/-- A write leaves the table behind every other handle as it was. -/
theorem table_write_of_ne {ref other : TableRef} (differ : other ≠ ref) (route : WriteRoute)
    (change : TableChange) (store : Store) :
    ((write ref route change).perform store).2.table other = store.table other := by
  have apart : ref.index ≠ other.index := fun same => differ (congrArg TableRef.mk same.symm)
  simp [Store.table, Array.getElem?_modify, apart]

end Store

end ObjectModel
