import ObjectModel.Script.Syntax
import ObjectModel.Text

/-! # Values

A value is a class, a plain instance, a method or an unbound method. Classes live in a registry and
are named by their identifiers; the other kinds are objects with an identity of their own, a class
and a handle to a property table. `Value.same` is identity: contents never make two values equal.

A call is described before it is made: an `Invocation` says which code is to run and what it is handed.
-/

namespace ObjectModel

/-- A handle to a property table in the store. Equal handles share one table. -/
structure TableRef where
  /-- The position of the table in the store. -/
  index : Nat
deriving DecidableEq, Repr, Inhabited

/-- The code behind a method. -/
inductive Callable where
  /-- The class constructor that every realm installs on its root. -/
  | create
  | script (body : Script)

/-- An ordinary object. -/
structure PlainInstance where
  identity : Nat
  classId : ClassId
  /-- The table that belongs to this instance alone. -/
  table : TableRef
  payload : Option Primitive
deriving DecidableEq, Repr, Inhabited

/-- Code wrapped as an object, bound or unbound. -/
structure Method where
  identity : Nat
  classId : ClassId
  /-- The metadata table, shared with the class that wraps the code. -/
  table : TableRef
  callable : Callable

/-- A value of the object model. -/
inductive Value where
  | ofClass (id : ClassId)
  | plain (object : PlainInstance)
  /-- Code that is called with arguments alone. -/
  | method (method : Method)
  /-- Code that is called with a receiver and arguments. -/
  | unboundMethod (method : Method)

namespace Value

/-- The name of the kind of a value. -/
def kindName : Value → String
  | ofClass _ => "class"
  | plain _ => "instance"
  | method _ => "method"
  | unboundMethod _ => "unbound method"

/-- Whether two values are the same class or the same object. -/
def same : Value → Value → Bool
  | ofClass left, ofClass right => left = right
  | plain left, plain right => left.identity = right.identity
  | method left, method right => left.identity = right.identity
  | unboundMethod left, unboundMethod right => left.identity = right.identity
  | _, _ => false

/-- The identifier of a class value. -/
def classId? : Value → Option ClassId
  | ofClass id => some id
  | _ => none

/-- The payload of a plain instance that carries one. -/
def payload? : Value → Option Primitive
  | plain object => object.payload
  | _ => none

/-- The payload of a text instance. -/
def text? (value : Value) : Option String :=
  match value.payload? with
  | some (.text content) => some content
  | _ => none

/-- The payload of an integer instance. -/
def integer? (value : Value) : Option Int64 :=
  match value.payload? with
  | some (.integer content) => some content
  | _ => none

/-- The code of a method or of an unbound method. -/
def callable? : Value → Option Callable
  | method wrapped | unboundMethod wrapped => some wrapped.callable
  | _ => none

end Value

/-- A method object that follows the given calling convention. -/
def Convention.wrap : Convention → Method → Value
  | .method, wrapped => .method wrapped
  | .unboundMethod, wrapped => .unboundMethod wrapped

/-! ## Calls -/

/-- Code that is about to run, with what it is handed. -/
structure Invocation where
  callable : Callable
  /-- The target of the call, for code that is called with a receiver. -/
  receiver : Option Value
  arguments : List Value

/-- Call code with arguments alone. -/
def Callable.called (callable : Callable) (arguments : List Value) : Invocation :=
  ⟨callable, none, arguments⟩

/-- Call code with a receiver before the arguments. -/
def Callable.calledOn (callable : Callable) (receiver : Value) (arguments : List Value) : Invocation :=
  ⟨callable, some receiver, arguments⟩

/-- A method passes a call on to the code that it wraps. -/
def Method.called (method : Method) (arguments : List Value) : Invocation :=
  method.callable.called arguments

/-- An unbound method passes a call on to the code that it wraps. -/
def Method.calledOn (method : Method) (receiver : Value) (arguments : List Value) : Invocation :=
  method.callable.calledOn receiver arguments

@[simp]
theorem Method.called_eq (method : Method) (arguments : List Value) :
    method.called arguments = ⟨method.callable, none, arguments⟩ :=
  rfl

@[simp]
theorem Method.calledOn_eq (method : Method) (receiver : Value) (arguments : List Value) :
    method.calledOn receiver arguments = ⟨method.callable, some receiver, arguments⟩ :=
  rfl

/-- The invocation that a method makes: only an unbound method hands the receiver on. -/
def Invocation.ofValue? (callee receiver : Value) (arguments : List Value) : Option Invocation :=
  match callee with
  | .method wrapped => some (wrapped.called arguments)
  | .unboundMethod wrapped => some (wrapped.calledOn receiver arguments)
  | _ => none

/-! ## Descriptions -/

namespace Value

/-- A description names the kind, and for a class or an instance what tells it apart. -/
def describe : Value → String
  | ofClass id => "class(" ++ id.text ++ ")"
  | plain object =>
    match object.payload with
    | some (.text content) => "str(" ++ Text.quote content ++ ")"
    | some (.integer content) => "int(" ++ toString content.toInt ++ ")"
    | none => "instance(of " ++ object.classId.text ++ ")"
  | method _ => "method"
  | unboundMethod _ => "unbound method"

/-- Code is described by its calling convention alone. -/
def describeCallable? : Value → Option String
  | method _ => some "Function(<native>)"
  | unboundMethod _ => some "UnboundFunction(<native>)"
  | _ => none

end Value

end ObjectModel
