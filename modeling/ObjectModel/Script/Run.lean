import ObjectModel.Script.Terms

/-! # Running scripts

An operation first reads its terms in the order in which it lists them and then acts; the first term
that cannot be read decides its failure. Code is run by the `run` argument of `Operation.perform`,
so what stands there does not depend on how deep calls may nest.

A script runs its commands in order. Its result is the value of the last command that answered one;
a failing command ends the script with its failure, unless the command is optional. What a command
did before it failed stays. A reply that is no value is shown when it is made, and a value only if
it becomes the reply of the step as a whole.

Scripts that call scripts nest, and how deep is the fuel of `Invocation.run`: with no level left, a
further script is refused. The class constructor runs no script and needs no level.
-/

namespace ObjectModel

/-! ## Operations on values

Making and comparing single values, and the one arithmetic operation that scripts have: a sum of
integer payloads, which is refused when 64 bits do not hold it.
-/

/-- The sum of two integers, unless 64 bits do not hold it. -/
def addIntegers (left right : Int64) : Except Error Int64 :=
  let sum := left.toInt + right.toInt
  if Int64.minValue.toInt ≤ sum ∧ sum ≤ Int64.maxValue.toInt then .ok (Int64.ofInt sum)
  else .error (.argument "overflow")

/-- The integer payload of an operand. -/
def integerOperand (value : Value) : Except Error Int64 :=
  match value.integer? with
  | some content => .ok content
  | none => .error (.typeMismatch "Integer" value.kindName)

/-- Perform an operation on single values. -/
def ValueOperation.perform (frame : Frame) : ValueOperation → Effect World WorldReply
  | .answer value => return .value (← value.read frame)
  | .makePlain ofClass entries payload => do
    let id ← ofClass.read
    let table ← readEntries frame entries
    return .value (← World.onStore (Store.addPlain id table payload))
  | .inspect value => return .inspection (← value.read frame).inspect
  | .classOf value => do
    let value ← value.read frame
    return .identifier (← Effect.ofOutcome
      ((← World.registryAt frame.context).classOfValue value))
  | .same left right => do
    let left ← left.read frame
    let right ← right.read frame
    return .flag (left.same right)
  | .compareClasses left right => do
    let left ← left.read
    let right ← right.read
    return .comparison left.text right.text (left = right) (left.order right)
  | .add left right => do
    let left ← left.read frame
    let right ← right.read frame
    let left ← Effect.ofOutcome (integerOperand left)
    let right ← Effect.ofOutcome (integerOperand right)
    let sum ← Effect.ofOutcome (addIntegers left right)
    return .value (← World.onStore ((← World.realmAt frame.context).newInteger sum))

/-! ## Operations on tables

Holding a table under a name shares it, while a copy and a snapshot are new tables that later writes
to the source do not reach.
-/

/-- Hold a table under a name, and answer its contents. -/
def holdAndShow (heldAs : String) (ref : TableRef) : Effect World WorldReply := do
  World.holdTable heldAs ref
  return .contents (← World.contentsBehind ref)

/-- Perform an operation on property tables. -/
def TableOperation.perform (frame : Frame) : TableOperation → Effect World WorldReply
  | .make entries heldAs => do
    let ref ← World.onStore (Store.addTable (← readEntries frame entries))
    World.holdTable heldAs ref
    return .nothing
  | .hold table heldAs => do
    holdAndShow heldAs (← table.read frame)
  | .copy table heldAs => do
    let source ← table.read frame
    holdAndShow heldAs (← World.onStore (Store.addTable (← World.tableBehind source)))
  | .snapshot table heldAs => do
    let source ← table.read frame
    let copy ← World.onStore (Store.snapshot source)
    holdAndShow heldAs (← World.onStore (Store.addTable copy))
  | .same left right => do
    let left ← left.read frame
    let right ← right.read frame
    return .flag (left = right)
  | .set table value tier name => do
    let table ← table.read frame
    let value ← value.read frame
    World.onStore (Store.write table .handle (.set tier name value))
    return .nothing
  | .setAll table tier members => do
    let table ← table.read frame
    let members ← readMembers frame members
    World.onStore (Store.write table .handle (.setAll tier members))
    return .nothing
  | .get table name => do
    let table ← table.read frame
    return .value (← Effect.ofOutcome ((← World.tableBehind table).get name))
  | .find table name => do
    let table ← table.read frame
    return .ofOption ((← World.tableBehind table).find? name)
  | .contains table name => do
    let table ← table.read frame
    return .flag ((← World.tableBehind table).contains name)
  | .tierOf table name => do
    let table ← table.read frame
    match (← World.tableBehind table).tierOf? name with
    | some tier => return .text tier
    | none => return .nothing
  | .remove table name => do
    let table ← table.read frame
    return .ofOption (← World.onStore (Store.removeMember table name))
  | .entriesIn table tier => do
    let table ← table.read frame
    return .entries ((← World.tableBehind table).entriesIn tier)
  | .contents table => do
    let table ← table.read frame
    return .contents (← World.contentsBehind table)

/-! ## Operations on registries -/

/-- Perform an operation on the registry of the context. -/
def RegistryOperation.perform (frame : Frame) : RegistryOperation → Effect World WorldReply
  | .registerPending name kind => do
    let record ← World.onStore (ClassRecord.pending name kind)
    return .value (← World.register frame.context record)
  | .registerLinked name kind link super members template => do
    let link ← link.read
    let super ← super.mapM ClassTerm.read
    let members ← readEntries frame members
    let template ← readEntries frame template
    let record ← World.onStore (ClassRecord.linked name kind link super members template)
    return .value (← World.register frame.context record)
  | .bind target link => do
    let target ← target.read
    let link ← link.read
    World.bind frame.context target link
    return .nothing
  | .describe target => do
    let id ← target.read
    let record ← Effect.ofOutcome ((← World.registryAt frame.context).recordOf id)
    return .summary record.summary
  | .nameOf target => do
    let id ← target.read
    return .text (← Effect.ofOutcome ((← World.registryAt frame.context).nameOf id))
  | .classOf target => do
    let id ← target.read
    return .identifier (← Effect.ofOutcome ((← World.registryAt frame.context).classOf id))
  | .superOf target => do
    let id ← target.read
    match ← Effect.ofOutcome ((← World.registryAt frame.context).superOf id) with
    | some super => return .identifier super
    | none => return .nothing
  | .requireClassOf target => do
    let id ← target.read
    match (← World.registryAt frame.context).requireClassOf id with
    | .ok link => return .identifier link
    | .error message => return .broken message
  | .findByName name =>
    return .ofOption (((← World.registryAt frame.context).findByName? name).map .ofClass)
  | .idsNamed name =>
    return .identifiers ((← World.registryAt frame.context).idsNamed name)
  | .list => return .registry (← World.registryAt frame.context).summary

/-! ## Walks and operations on realms

A bare registry allows walks and look-ups if the limit is given.
-/

/-- Perform a walk along supers, within the limit that is given or else within that of the realm. -/
def ChainOperation.perform (frame : Frame) : ChainOperation → Effect World WorldReply
  | .ancestors start limit => do
    let start ← start.read
    match limit with
    | some limit =>
      return .identifiers (← Effect.ofOutcome
        ((← World.registryAt frame.context).ancestors start limit))
    | none =>
      return .identifiers (← Effect.ofOutcome ((← World.realmAt frame.context).ancestors start))
  | .isSubclass sub sup limit => do
    let sub ← sub.read
    let sup ← sup.read
    match limit with
    | some limit =>
      return .flag (← Effect.ofOutcome
        ((← World.registryAt frame.context).isSubclassOf sub sup limit))
    | none =>
      return .flag (← Effect.ofOutcome
        ((← World.realmAt frame.context).isSubclassOf sub sup))
  | .lookup value name limit => do
    let value ← value.read frame
    match limit with
    | some limit =>
      return .value (← World.onStore
        ((← World.registryAt frame.context).lookup value name limit))
    | none =>
      return .value (← World.onStore ((← World.realmAt frame.context).lookup value name))

/-- Perform an operation on the classes of the realm. -/
def RealmOperation.perform (frame : Frame) : RealmOperation → Effect World WorldReply
  | .createClass name => return .value (.ofClass (← World.createClass frame.context name))
  | .instantiate ofClass => do
    let id ← ofClass.read
    return .value (← World.onStore ((← World.realmAt frame.context).instantiate id))
  | .setProperty target value tier name => do
    let target ← target.read
    let value ← value.read frame
    World.onStore ((← World.realmAt frame.context).setProperty target tier name value)
    return .nothing
  | .getProperty target name => do
    let target ← target.read
    return .value (← World.onStore ((← World.realmAt frame.context).getProperty target name))

/-! ## Making and calling methods

A method is called through the object, or the code is taken out of the object and called itself. The
object passes a call on to its code, so both come to the same.
-/

/-- The name of the kind of value that a convention makes. -/
def Convention.kindName : Convention → String
  | .method => "method"
  | .unboundMethod => "unbound method"

/-- The code of a value, if the value follows the given convention. -/
def Convention.codeOf (convention : Convention) (value : Value) : Except Error Callable :=
  match convention, value with
  | .method, .method wrapped | .unboundMethod, .unboundMethod wrapped => .ok wrapped.callable
  | _, _ => .error (.typeMismatch convention.kindName value.kindName)

/-- Read where the code of a new method comes from. -/
def CodeTerm.read (frame : Frame) (convention : Convention) :
    CodeTerm Operation → Effect World Callable
  | .script body => return .script body
  | .sharedWith value => do
    Effect.ofOutcome (convention.codeOf (← value.read frame))

/-- Call a method, through the object or straight to the code that was taken out of it. -/
def CallRoute.called (route : CallRoute) (method : Method) (arguments : List Value) : Invocation :=
  match route with
  | .wrapper => method.called arguments
  | .callable => method.callable.called arguments

/-- Call an unbound method, through the object or straight to its code. -/
def CallRoute.calledOn (route : CallRoute) (method : Method) (receiver : Value)
    (arguments : List Value) : Invocation :=
  match route with
  | .wrapper => method.calledOn receiver arguments
  | .callable => method.callable.calledOn receiver arguments

/-- Call a value that is at hand. Only an unbound method asks for a receiver. -/
def CallRoute.call (route : CallRoute) (frame : Frame) (callee : Value)
    (receiver : Option ValueTerm) (arguments : List Value) : Effect World Invocation :=
  match callee with
  | .method wrapped => return route.called wrapped arguments
  | .unboundMethod wrapped =>
    match receiver with
    | some term => return route.calledOn wrapped (← term.read frame) arguments
    | none => throw (.argument "missing receiver")
  | other => throw (.typeMismatch "method" other.kindName)

theorem CallRoute.called_eq (route : CallRoute) (method : Method) (arguments : List Value) :
    route.called method arguments = method.called arguments := by
  cases route <;> rfl

theorem CallRoute.calledOn_eq (route : CallRoute) (method : Method) (receiver : Value)
    (arguments : List Value) :
    route.calledOn method receiver arguments = method.calledOn receiver arguments := by
  cases route <;> rfl

/-- A call that goes straight to the code is the call that goes through the object. -/
theorem CallRoute.call_eq (route : CallRoute) (frame : Frame) (callee : Value)
    (receiver : Option ValueTerm) (arguments : List Value) :
    route.call frame callee receiver arguments =
      CallRoute.wrapper.call frame callee receiver arguments := by
  simp only [CallRoute.call, CallRoute.called_eq, CallRoute.calledOn_eq]

/-! ## All operations -/

/-- Perform an operation. `run` runs the code that the operation calls. -/
def Operation.perform (run : Invocation → Effect World Value) (frame : Frame) :
    Operation → Effect World WorldReply
  | .value operation => operation.perform frame
  | .table operation => operation.perform frame
  | .registry operation => operation.perform frame
  | .chain operation => operation.perform frame
  | .realm operation => operation.perform frame
  | .newMethod convention body => do
    return .value (← World.onStore
      ((← World.realmAt frame.context).newMethod convention (.script body)))
  | .defineMethod convention target name body => do
    let target ← target.read
    World.onStore
      ((← World.realmAt frame.context).defineMethod convention target name (.script body))
    return .nothing
  | .makeMethod convention ofClass sharing code => do
    let id ← ofClass.read
    let ref ← sharing.read frame
    let callable ← code.read frame convention
    return .value (← World.onStore (Store.addMethod convention id ref callable))
  | .call route callee arguments receiver => do
    let callee ← callee.read frame
    let arguments ← readValues frame arguments
    return .value (← run (← route.call frame callee receiver arguments))
  | .invoke target arguments name => do
    let target ← target.read frame
    let arguments ← readValues frame arguments
    let realm ← World.realmAt frame.context
    return .value (← run (← World.onStore (realm.dispatch target name arguments)))
  | .fail failure => do throw (← failure.read)
  | .noteCall => do
    World.display (.note (.call frame.receiver frame.arguments))
    return .nothing
  | .noteValue noted => do
    World.display (.note (.value (← noted.read frame)))
    return .nothing

/-! ## Scripts -/

/-- Perform the operation of a command, and store the value that it answers. -/
def Command.run (perform : Operation → Effect World WorldReply) (command : Command Operation) :
    Effect World WorldReply := do
  let reply ← perform command.operation
  match command.slot, reply.value? with
  | some name, some value =>
    World.fillSlot name value
    return reply
  | _, _ => return reply

/-- Run commands in order, where `result` is the outcome if none of them answers a value. -/
def Script.run (perform : Operation → Effect World WorldReply) :
    Script → (result : Except Error Value) → Effect World Value
  | [], result => Effect.ofOutcome result
  | command :: rest, result => do
    match ← (command.run perform).attempt with
    | .ok (.value value) => Script.run perform rest (.ok value)
    | .ok reply =>
      World.display (.reply reply)
      Script.run perform rest result
    | .error cause =>
      if command.optional then Script.run perform rest result else throw cause

/-- Run code in a context, with `depth` levels left for scripts. -/
def Invocation.run : (depth : Nat) → (context : Nat) → Invocation → Effect World Value
  | _, context, ⟨.create, _, arguments⟩ => World.construct context arguments
  | 0, _, ⟨.script _, _, _⟩ => throw (.native "call depth exceeded")
  | depth + 1, context, ⟨.script body, receiver, arguments⟩ =>
    Script.run (Operation.perform (Invocation.run depth context) ⟨context, receiver, arguments⟩)
      body (.error (.native "no value"))

/-- Run a command outside every call, with `depth` levels for the scripts that it calls. -/
def Command.runOutside (depth context : Nat) (command : Command Operation) :
    Effect World WorldReply :=
  command.run (Operation.perform (Invocation.run depth context) (.outer context))

end ObjectModel
