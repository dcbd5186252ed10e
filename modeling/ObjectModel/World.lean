import ObjectModel.Realm
import ObjectModel.Script.Reply

/-! # Worlds

A world holds several contexts over one store, so that values and tables travel between realms. It
also holds what scripts refer to by name: slots with values, and tables that are held under a name.
What scripts show while they run is kept in order until the step that runs them ends.
-/

namespace ObjectModel

/-- What a script acts on: a whole realm, or a registry without one. -/
inductive Context where
  | bare (registry : Registry)
  | realm (realm : Realm)

/-- The registry of a context. -/
def Context.registry : Context → Registry
  | .bare classes => classes
  | .realm whole => whole.registry

/-- The context with another registry. -/
def Context.withRegistry : Context → Registry → Context
  | .bare _, classes => .bare classes
  | .realm whole, classes => .realm { whole with registry := classes }

/-- The contexts, what they share, and what scripts have named and shown. -/
structure World where
  store : Store
  contexts : Array Context
  slots : Std.ExtTreeMap String Value
  heldTables : Std.ExtTreeMap String TableRef
  /-- What was shown since the step began, in order. -/
  displays : Array (Display Value TableRef)

namespace World

/-- The world without contexts. -/
def empty : World :=
  ⟨.empty, #[], {}, {}, #[]⟩

instance : Inhabited World :=
  ⟨empty⟩

/-- Perform an effect on the store of the world. -/
def onStore {α : Type} (effect : Effect Store α) : Effect World α :=
  effect.within World.store fun store world => { world with store }

/-- The table behind a handle. -/
def tableBehind (ref : TableRef) : Effect World PropertyTable :=
  return (← get).store.table ref

/-- Everything about the table behind a handle. -/
def contentsBehind (ref : TableRef) : Effect World (TableContents Value TableRef) :=
  return (← get).store.contents ref

/-- The context at a position. -/
def contextAt (context : Nat) : Effect World Context := do
  match (← get).contexts[context]? with
  | some found => return found
  | none => throw (.argument ("no context " ++ context.repr))

/-- The registry of the context at a position. -/
def registryAt (context : Nat) : Effect World Registry :=
  return (← contextAt context).registry

/-- The realm at a position. -/
def realmAt (context : Nat) : Effect World Realm := do
  match ← contextAt context with
  | .realm realm => return realm
  | .bare _ => throw (.bootstrap ("context " ++ context.repr ++ " is no realm"))

/-- Put another context at a position. -/
def replaceContext (context : Nat) (replacement : Context) : Effect World Unit :=
  modify fun world =>
    { world with contexts := world.contexts.modify context fun _ => replacement }

/-- Put a context behind those that are there. -/
def addContext (added : Context) : Effect World Unit :=
  modify fun world => { world with contexts := world.contexts.push added }

/-- Store a value in a slot. -/
def fillSlot (name : String) (value : Value) : Effect World Unit :=
  modify fun world => { world with slots := world.slots.insert name value }

/-- Hold a table under a name. -/
def holdTable (name : String) (ref : TableRef) : Effect World Unit :=
  modify fun world => { world with heldTables := world.heldTables.insert name ref }

/-- Show a note or a reply. -/
def display (shown : Display Value TableRef) : Effect World Unit :=
  modify fun world => { world with displays := world.displays.push shown }

/-- Create a class in the realm at a position. -/
def createClass (context : Nat) (name : String) : Effect World ClassId := do
  let (id, realm) ← onStore ((← realmAt context).createClass name)
  replaceContext context (.realm realm)
  return id

/-- Run the class constructor in the realm at a position. -/
def construct (context : Nat) (arguments : List Value) : Effect World Value := do
  let name ← Effect.ofOutcome (Realm.constructorName arguments)
  return .ofClass (← createClass context name)

/-- Register a class in a bare registry. The classes of a realm are created by name only. -/
def register (context : Nat) (record : ClassRecord) : Effect World Value := do
  match ← contextAt context with
  | .bare registry =>
    let (id, registry) ← onStore (registry.register record)
    replaceContext context (.bare registry)
    return .ofClass id
  | .realm _ => throw (.argument ("context " ++ context.repr ++ " is no bare registry"))

/-- Bind the pending class link of a class. -/
def bind (context : Nat) (target link : ClassId) : Effect World Unit := do
  let found ← contextAt context
  let registry ← Effect.ofOutcome (found.registry.bind target link)
  replaceContext context (found.withRegistry registry)

end World

end ObjectModel
