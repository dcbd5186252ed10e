import ObjectModel.Registry

/-! # Replies

What an operation answers. Replies do not depend on how values and tables are represented in them,
so a reply over values and handles has the same form as the reply that a reader is shown.
-/

namespace ObjectModel

/-- All that can be asked of a value by itself. -/
structure Inspection (ν : Type) where
  value : ν
  kind : String
  description : String
  callable : Option String
  asClass : Option ClassId
  asText : Option String
  asInteger : Option Int64
  isPlain : Bool
  isMethod : Bool
  isUnboundMethod : Bool

/-- All that can be seen of a property table. -/
structure TableContents (ν τ : Type) where
  table : τ
  size : Nat
  isEmpty : Bool
  tiers : List String
  /-- The name, the tier and the value of each entry, in order. -/
  entries : List (String × String × ν)

/-- All that can be seen of a class but its tables. -/
structure ClassSummary where
  name : String
  kind : ClassKind
  isMetaclass : Bool
  isBound : Bool
  super : Option ClassId
  classOf : Except Error ClassId

/-- All that can be seen of a registry. -/
structure RegistrySummary where
  size : Nat
  isEmpty : Bool
  nextId : ClassId
  classes : List (ClassId × ClassSummary)

/-- The answer of an operation that succeeds. -/
inductive Reply (ν τ : Type) where
  /-- There is nothing to say, or nothing was found. -/
  | nothing
  | value (value : ν)
  | flag (holds : Bool)
  | text (content : String)
  | identifier (id : ClassId)
  | identifiers (ids : List ClassId)
  /-- The texts of two identifiers, whether they are equal, and their order. -/
  | comparison (left right : String) (equal : Bool) (order : Ordering)
  | inspection (inspection : Inspection ν)
  | entries (members : List (String × ν))
  | contents (contents : TableContents ν τ)
  | summary (summary : ClassSummary)
  | registry (summary : RegistrySummary)
  /-- A link that the caller relied on is not there. -/
  | broken (message : String)

/-- What a script noted while it ran. -/
inductive Note (ν : Type) where
  | call (receiver : Option ν) (arguments : List ν)
  | value (value : ν)

/-- What a script showed while it ran. The value that a command inside a call answers is handed on
without being shown; every other reply is written out at once. -/
inductive Display (ν τ : Type) where
  | note (note : Note ν)
  | reply (reply : Reply ν τ)

/-- The value of a reply, for replies that are a value. -/
def Reply.value? {ν τ : Type} : Reply ν τ → Option ν
  | .value answer => some answer
  | _ => none

/-- The reply that a search gives: the value, or nothing. -/
def Reply.ofOption {ν τ : Type} : Option ν → Reply ν τ
  | some found => .value found
  | none => .nothing

/-- Everything about a value that needs no registry. -/
def Value.inspect (value : Value) : Inspection Value where
  value := value
  kind := value.kindName
  description := value.describe
  callable := value.describeCallable?
  asClass := value.classId?
  asText := value.text?
  asInteger := value.integer?
  isPlain := value matches .plain _
  isMethod := value matches .method _
  isUnboundMethod := value matches .unboundMethod _

/-- Everything about the table behind a handle. -/
def Store.contents (store : Store) (ref : TableRef) : TableContents Value TableRef :=
  let table := store.table ref
  { table := ref
    size := table.size
    isEmpty := table.isEmpty
    tiers := table.tiers
    entries := table.entries.toList.map fun entry => (entry.name, entry.tier, entry.value) }

/-- Everything about a class but its tables. -/
def ClassRecord.summary (record : ClassRecord) : ClassSummary where
  name := record.name
  kind := record.kind
  isMetaclass := record.kind = .metaclass
  isBound := record.link.isSome
  super := record.super
  classOf := record.classOf

/-- Everything about a registry. -/
def Registry.summary (registry : Registry) : RegistrySummary where
  size := registry.size
  isEmpty := registry.isEmpty
  nextId := registry.nextId
  classes := registry.toList.map fun (id, record) => (id, record.summary)

end ObjectModel
