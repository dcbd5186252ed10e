import ObjectModel.World

/-! # Reading terms

A term is read against the slots of the world and the frame of the running call. Reading changes
nothing, except that a literal makes a new instance in the realm of the frame.
-/

namespace ObjectModel

/-- What operations answer inside a world. -/
abbrev WorldReply : Type :=
  Reply Value TableRef

/-- Where a command runs: the context it acts on, and what the running call was handed. -/
structure Frame where
  context : Nat
  receiver : Option Value
  arguments : List Value

/-- The frame of a command that runs outside every call. -/
def Frame.outer (context : Nat) : Frame :=
  ⟨context, none, []⟩

/-- Read a slot. -/
def World.readSlot (name : String) : Effect World Value := do
  match (← get).slots[name]? with
  | some value => return value
  | none => throw (.argument ("nothing in slot " ++ name))

/-- Read a reference to a class, registered or not. -/
def ClassTerm.read : ClassTerm → Effect World ClassId
  | .known id => return id
  | .slot name => do
    match ← World.readSlot name with
    | .ofClass id => return id
    | other => throw (.typeMismatch "class" other.kindName)

/-- Read a reference to a value. -/
def ValueTerm.read (frame : Frame) : ValueTerm → Effect World Value
  | .slot name => World.readSlot name
  | .ofClass term => return .ofClass (← term.read)
  | .text content => do World.onStore ((← World.realmAt frame.context).newText content)
  | .integer content => do World.onStore ((← World.realmAt frame.context).newInteger content)
  | .receiver =>
    match frame.receiver with
    | some value => return value
    | none => throw (.argument "missing receiver")
  | .argument position =>
    match frame.arguments[position]? with
    | some value => return value
    | none => throw (.argument ("missing argument " ++ position.repr))

/-- Read a reference to a property table. -/
def TableTerm.read (frame : Frame) : TableTerm → Effect World TableRef
  | .named name => do
    match (← get).heldTables[name]? with
    | some ref => return ref
    | none => throw (.argument ("no table " ++ name))
  | .ofClass term => do
    let id ← term.read
    Effect.ofOutcome ((← World.registryAt frame.context).membersOf id)
  | .template term => do
    let id ← term.read
    Effect.ofOutcome ((← World.registryAt frame.context).templateOf id)
  | .ofValue term => do
    let value ← term.read frame
    Effect.ofOutcome ((← World.registryAt frame.context).tableOfValue value)

/-- Read several references to values, from left to right. -/
def readValues (frame : Frame) (terms : List ValueTerm) : Effect World (List Value) :=
  terms.mapM (·.read frame)

/-- Read the members of one tier, from left to right. -/
def readMembers (frame : Frame) (members : List (String × ValueTerm)) :
    Effect World (List (String × Value)) :=
  members.mapM fun (name, term) => return (name, ← term.read frame)

/-- Read a table that is written out: its entries are set from left to right. -/
def readEntries (frame : Frame) (entries : List EntryTerm) : Effect World PropertyTable :=
  return .ofEntries (← entries.mapM fun entry =>
    return { name := entry.name, tier := entry.tier, value := ← entry.value.read frame })

/-- Read the failure that a script raises. -/
def FailureTerm.read : FailureTerm → Effect World Error
  | .plain error => return error
  | .unknownClass id => return .unknownClass (← id.read)
  | .cyclicHierarchy id => return .cyclicHierarchy (← id.read)
  | .hierarchyTooDeep id limit => return .hierarchyTooDeep (← id.read) limit

end ObjectModel
