import ObjectModel.Hierarchy

/-! # Realms

A realm is a registry together with the classes that it starts with and its settings. The root of a
realm is its own class, so a realm is built in phases: the root is registered with its class link
pending, the link is bound to the root, the other builtin classes follow, and last the class
constructor is installed among the public members of the root.

A class created in a realm has the root as its class and as its super. Its members are a copy of the
public members that the root has at that moment, and its instance template is empty. An instance is
seeded in the same way, from the public entries of the template of its class. Code becomes a value of a
realm by being wrapped: every method of a realm shares its table with the class that wraps it, so what
is set on one of them is read from all.
-/

namespace ObjectModel

/-! ## Settings -/

/-- What a realm is built with. The realm never changes its settings. -/
structure Settings where
  /-- The name of the root class. -/
  rootName : String
  /-- Whether a class may be created without a name. -/
  allowsEmptyNames : Bool
  /-- How many classes a walk along supers may visit. -/
  depthLimit : Nat
deriving DecidableEq, Repr, Inhabited

namespace Settings

/-- Settings under which every class name is accepted. -/
def standard : Settings where
  rootName := "Class"
  allowsEmptyNames := true
  depthLimit := 1024

/-- Settings under which a class must have a name. -/
def strict : Settings :=
  { standard with allowsEmptyNames := false }

/-- Give the root class another name. -/
def withRootName (settings : Settings) (name : String) : Settings :=
  { settings with rootName := name }

/-- Limit walks to `depth` classes, and to one if that is none. -/
def withDepthLimit (settings : Settings) (depth : Nat) : Settings :=
  { settings with depthLimit := max depth 1 }

/-- The limit that walks are given. It is never below one, which lets every class without a super see
itself. -/
def walkLimit (settings : Settings) : Nat :=
  max settings.depthLimit 1

end Settings

/-! ## Registry, builtin classes and settings together -/

/-- The classes that a realm starts with. -/
structure Builtins where
  root : ClassId
  method : ClassId
  unboundMethod : ClassId
  text : ClassId
  integer : ClassId
deriving DecidableEq, Repr, Inhabited

/-- The class that wraps code of each calling convention. -/
def Builtins.wrapper (builtins : Builtins) : Convention → ClassId
  | .method => builtins.method
  | .unboundMethod => builtins.unboundMethod

/-- A registry with its builtin classes and its settings. -/
structure Realm where
  registry : Registry
  builtins : Builtins
  settings : Settings
  /-- Whether the bootstrap has finished. No class can be created before. -/
  bootstrapped : Bool

namespace Realm

/-- Wrap code as an object that shares the members of its wrapper class. -/
def newMethod (realm : Realm) (convention : Convention) (callable : Callable) :
    Effect Store Value := do
  let wrapper := realm.builtins.wrapper convention
  let table ← Effect.ofOutcome (realm.registry.membersOf wrapper)
  Store.addMethod convention wrapper table callable

/-- Set a class-level member. -/
def setProperty (realm : Realm) (target : ClassId) (tier name : String) (value : Value) :
    Effect Store Unit := do
  let table ← Effect.ofOutcome (realm.registry.membersOf target)
  Store.write table .members (.set tier name value)

/-- Read a class-level member. -/
def getProperty (realm : Realm) (target : ClassId) (name : String) : Effect Store Value := do
  let table ← Effect.ofOutcome (realm.registry.membersOf target)
  Effect.ofOutcome (((← get).table table).get name)

/-- Wrap code and set it as a public member of a class. -/
def defineMethod (realm : Realm) (convention : Convention) (target : ClassId) (name : String)
    (callable : Callable) : Effect Store Unit := do
  let method ← realm.newMethod convention callable
  realm.setProperty target publicTier name method

/-- A class followed by its supers, within the limit of the realm. -/
def ancestors (realm : Realm) (start : ClassId) : Except Error (List ClassId) :=
  realm.registry.ancestors start realm.settings.walkLimit

/-- Whether one class is another or inherits from it, within the limit of the realm. -/
def isSubclassOf (realm : Realm) (sub sup : ClassId) : Except Error Bool :=
  realm.registry.isSubclassOf sub sup realm.settings.walkLimit

/-- Find a member of a value, within the limit of the realm. -/
def lookup (realm : Realm) (value : Value) (name : String) : Effect Store Value :=
  realm.registry.lookup value name realm.settings.walkLimit

/-! ## The bootstrap -/

/-- Register a class of the bootstrap: linked to the root, without a super and without members. -/
def registerBuiltin (registry : Registry) (root : ClassId) (name : String) :
    Effect Store (ClassId × Registry) := do
  registry.register (← ClassRecord.linked name .builtin root none .empty .empty)

/-- Build a realm. -/
def boot (settings : Settings) : Effect Store Realm := do
  let (root, registry) ←
    Registry.empty.register (← ClassRecord.pending settings.rootName .metaclass)
  let registry ← Effect.ofOutcome (registry.bind root root)
  Store.record (.rootBound settings.rootName)
  let (method, registry) ← registerBuiltin registry root "Method"
  let (unboundMethod, registry) ← registerBuiltin registry root "UnboundMethod"
  let (text, registry) ← registerBuiltin registry root "String"
  let (integer, registry) ← registerBuiltin registry root "Integer"
  let builtins : Builtins := { root, method, unboundMethod, text, integer }
  let realm : Realm := { registry, builtins, settings, bootstrapped := false }
  realm.defineMethod .method root "create" .create
  Store.record (.bootstrapComplete realm.registry.size)
  return { realm with bootstrapped := true }

/-! ## Creating classes and instances -/

/-- Create a class by name: its identifier, and the realm that holds it. -/
def createClass (realm : Realm) (name : String) : Effect Store (ClassId × Realm) := do
  if realm.bootstrapped = false then
    throw (.bootstrap ("create('" ++ name ++ "') called before bootstrap completed"))
  else if name = "" ∧ realm.settings.allowsEmptyNames = false then
    throw (.argument "class name must not be empty")
  else do
    let root := realm.builtins.root
    let _ ← Effect.ofOutcome (realm.registry.classOf root)
    let members ← Store.snapshot (← Effect.ofOutcome (realm.registry.membersOf root))
    let record ← ClassRecord.linked name .user root (some root) members .empty
    let (id, registry) ← realm.registry.register record
    Store.record (.created name id)
    return (id, { realm with registry })

/-- What the class constructor makes of its arguments: the name of the class to create. -/
def constructorName : List Value → Except Error String
  | [] => .error (.argument "create expects a class name")
  | first :: _ =>
    match first.text? with
    | some name => .ok name
    | none => .error (.typeMismatch "String" first.kindName)

/-- Make an instance of a class, seeded from the public entries of its template. -/
def instantiate (realm : Realm) (ofClass : ClassId) : Effect Store Value := do
  let table ← Store.snapshot (← Effect.ofOutcome (realm.registry.templateOf ofClass))
  Store.addPlain ofClass table none

/-- Make an instance that carries a payload. Without a template the instance has no entries. -/
def newPrimitive (realm : Realm) (ofClass : ClassId) (payload : Primitive) :
    Effect Store Value := do
  let table ← match realm.registry.templateOf ofClass with
    | .ok template => Store.snapshot template
    | .error _ => pure .empty
  Store.addPlain ofClass table (some payload)

/-- Make a text instance. -/
def newText (realm : Realm) (content : String) : Effect Store Value :=
  realm.newPrimitive realm.builtins.text (.text content)

/-- Make an integer instance. -/
def newInteger (realm : Realm) (content : Int64) : Effect Store Value :=
  realm.newPrimitive realm.builtins.integer (.integer content)

/-! ## Dispatch

To invoke a member is to look it up and to run the code found. Dispatch is the first half: it looks
the member up and answers what is to be run and with what, or refuses a member that is no code.
-/

/-- Find a member and prepare to call it on the target. A member that is no code is refused. -/
def dispatch (realm : Realm) (target : Value) (name : String) (arguments : List Value) :
    Effect Store Invocation := do
  let member ← realm.lookup target name
  match Invocation.ofValue? member target arguments with
  | some invocation => return invocation
  | none => throw (.typeMismatch "method" member.kindName)

end Realm

end ObjectModel
