import ObjectModel.Store

/-! # Classes and their registry

A class record holds a name, a kind, a class link, a super link and two table handles. A registry is
an arena of records: a class is named by its position, records are only added, and the one later
change to a record is that a pending class link is bound, once. The name index lists the classes of
each name in the order of their registration.
-/

namespace ObjectModel

/-- A class: what it is called, what it is linked to, and its two property tables. -/
structure ClassRecord where
  name : String
  kind : ClassKind
  /-- The class of this class, unless the link is still pending. -/
  link : Option ClassId
  /-- The immediate super, unless the class is a root. -/
  super : Option ClassId
  /-- The class-level members. -/
  members : TableRef
  /-- The table whose public entries seed each new instance. -/
  template : TableRef
deriving DecidableEq, Repr, Inhabited

namespace ClassRecord

/-- A record whose class link is still to be bound, without a super and with two new tables. -/
def pending (name : String) (kind : ClassKind) : Effect Store ClassRecord := do
  let members ← Store.addTable .empty
  let template ← Store.addTable .empty
  return { name, kind, link := none, super := none, members, template }

/-- A record that is linked from the start and owns the two given tables. -/
def linked (name : String) (kind : ClassKind) (link : ClassId) (super : Option ClassId)
    (members template : PropertyTable) : Effect Store ClassRecord := do
  let members ← Store.addTable members
  let template ← Store.addTable template
  return { name, kind, link := some link, super, members, template }

/-- The class of a class, or the failure that its link is not bound yet. -/
def classOf (record : ClassRecord) : Except Error ClassId :=
  match record.link with
  | some link => .ok link
  | none => .error (.bootstrap ("class '" ++ record.name ++ "' used before its bootstrap completed"))

/-- Bind a pending class link. A link that is bound stays as it is. -/
def bind (record : ClassRecord) (link : ClassId) : Except Error ClassRecord :=
  match record.link with
  | none => .ok { record with link := some link }
  | some _ => .error (.bootstrap ("class link of '" ++ record.name ++ "' is already bound"))

end ClassRecord

/-- An arena of classes with an index of their names. -/
structure Registry where
  classes : Array ClassRecord
  idsByName : Std.ExtTreeMap String (List ClassId)

namespace Registry

/-- The registry without classes. -/
def empty : Registry :=
  ⟨#[], {}⟩

instance : Inhabited Registry :=
  ⟨empty⟩

/-- The number of classes. -/
def size (registry : Registry) : Nat :=
  registry.classes.size

/-- Whether no class is registered. -/
def isEmpty (registry : Registry) : Bool :=
  registry.classes.isEmpty

/-- The identifier that the next class will be given. -/
def nextId (registry : Registry) : ClassId :=
  ⟨registry.size⟩

/-- The record of a class. -/
def recordOf (registry : Registry) (id : ClassId) : Except Error ClassRecord :=
  match registry.classes[id.index]? with
  | some record => .ok record
  | none => .error (.unknownClass id)

/-- The classes of a name, in the order of their registration. -/
def idsNamed (registry : Registry) (name : String) : List ClassId :=
  (registry.idsByName[name]?).getD []

/-- The class of a name that was registered last. -/
def findByName? (registry : Registry) (name : String) : Option ClassId :=
  (registry.idsNamed name).getLast?

/-- The name of a class. -/
def nameOf (registry : Registry) (id : ClassId) : Except Error String :=
  return (← registry.recordOf id).name

/-- The class of a class. -/
def classOf (registry : Registry) (id : ClassId) : Except Error ClassId := do
  (← registry.recordOf id).classOf

/-- The class of a class, for a caller who relies on it: where it cannot be read, a message tells
which class it was and why. -/
def requireClassOf (registry : Registry) (id : ClassId) : Except String ClassId :=
  match registry.classOf id with
  | .ok link => .ok link
  | .error cause => .error ("class_of(" ++ id.text ++ ") failed: " ++ cause.message)

/-- The immediate super of a class. -/
def superOf (registry : Registry) (id : ClassId) : Except Error (Option ClassId) :=
  return (← registry.recordOf id).super

/-- The class-level table of a class. -/
def membersOf (registry : Registry) (id : ClassId) : Except Error TableRef :=
  return (← registry.recordOf id).members

/-- The instance template of a class. -/
def templateOf (registry : Registry) (id : ClassId) : Except Error TableRef :=
  return (← registry.recordOf id).template

/-- All classes with their identifiers, in the order of their registration. -/
def toList (registry : Registry) : List (ClassId × ClassRecord) :=
  registry.classes.toList.zipIdx.map fun (record, position) => (⟨position⟩, record)

/-- The registry with one more class at its end. -/
def push (registry : Registry) (record : ClassRecord) : Registry where
  classes := registry.classes.push record
  idsByName := registry.idsByName.insert record.name
    (registry.idsNamed record.name ++ [registry.nextId])

/-- Add a class and record that it was added: its identifier, and the registry that holds it. -/
def register (registry : Registry) (record : ClassRecord) : Effect Store (ClassId × Registry) := do
  Store.record (.registered record.name registry.nextId record.kind)
  return (registry.nextId, registry.push record)

/-- Bind the pending class link of a class. -/
def bind (registry : Registry) (target link : ClassId) : Except Error Registry := do
  let record ← (← registry.recordOf target).bind link
  return { registry with classes := registry.classes.modify target.index fun _ => record }

/-- The class of a value: its link for a class, the class it carries for any other value. -/
def classOfValue (registry : Registry) : Value → Except Error ClassId
  | .ofClass id => registry.classOf id
  | .plain object => .ok object.classId
  | .method wrapped | .unboundMethod wrapped => .ok wrapped.classId

/-- The table of a value: the class-level table for a class, its own for any other value. -/
def tableOfValue (registry : Registry) : Value → Except Error TableRef
  | .ofClass id => registry.membersOf id
  | .plain object => .ok object.table
  | .method wrapped | .unboundMethod wrapped => .ok wrapped.table

end Registry

end ObjectModel
