import ObjectModel.Basic

/-! # Scripts

A script is a finite list of commands, and a command is one operation of the object model with its
operands written as terms. Terms name values through slots, through the running call or as new
literals, so a script can use a value only after some command has stored or received it.

Scripts are plain data. The body of a method is a script, which is why the syntax stands before the
values: `Operation` contains the scripts of the methods it makes.
-/

namespace ObjectModel

/-- A reference to a class: its identifier, or the slot that holds the class. -/
inductive ClassTerm where
  | known (id : ClassId)
  | slot (name : String)
deriving DecidableEq, Repr, Inhabited

/-- A reference to a value. A literal makes a new instance each time it is read. -/
inductive ValueTerm where
  | slot (name : String)
  | ofClass (term : ClassTerm)
  | text (content : String)
  | integer (content : Int64)
  /-- The receiver of the running call. -/
  | receiver
  /-- An argument of the running call, counted from zero. -/
  | argument (position : Nat)
deriving DecidableEq, Repr, Inhabited

/-- A reference to a property table. -/
inductive TableTerm where
  /-- The table held under a name. -/
  | named (name : String)
  /-- The class-level table of a class. -/
  | ofClass (term : ClassTerm)
  /-- The table from which the instances of a class are seeded. -/
  | template (term : ClassTerm)
  /-- The table that a value reports as its own. -/
  | ofValue (term : ValueTerm)
deriving DecidableEq, Repr, Inhabited

/-- One entry of a table that is written out. -/
structure EntryTerm where
  tier : String
  name : String
  value : ValueTerm
deriving DecidableEq, Repr, Inhabited

/-- Operations on single values. -/
inductive ValueOperation where
  | answer (value : ValueTerm)
  | makePlain (ofClass : ClassTerm) (entries : List EntryTerm) (payload : Option Primitive)
  | inspect (value : ValueTerm)
  | classOf (value : ValueTerm)
  | same (left right : ValueTerm)
  | compareClasses (left right : ClassTerm)
  | add (left right : ValueTerm)
deriving DecidableEq, Repr, Inhabited

/-- Operations on property tables. -/
inductive TableOperation where
  | make (entries : List EntryTerm) (heldAs : String)
  | hold (table : TableTerm) (heldAs : String)
  | copy (table : TableTerm) (heldAs : String)
  | snapshot (table : TableTerm) (heldAs : String)
  | same (left right : TableTerm)
  | set (table : TableTerm) (value : ValueTerm) (tier name : String)
  | setAll (table : TableTerm) (tier : String) (members : List (String × ValueTerm))
  | get (table : TableTerm) (name : String)
  | find (table : TableTerm) (name : String)
  | contains (table : TableTerm) (name : String)
  | tierOf (table : TableTerm) (name : String)
  | remove (table : TableTerm) (name : String)
  | entriesIn (table : TableTerm) (tier : String)
  | contents (table : TableTerm)
deriving DecidableEq, Repr, Inhabited

/-- Operations on the registry of a context. -/
inductive RegistryOperation where
  | registerPending (name : String) (kind : ClassKind)
  | registerLinked (name : String) (kind : ClassKind) (link : ClassTerm) (super : Option ClassTerm)
      (members template : List EntryTerm)
  | bind (target link : ClassTerm)
  | describe (target : ClassTerm)
  | nameOf (target : ClassTerm)
  | classOf (target : ClassTerm)
  | superOf (target : ClassTerm)
  | requireClassOf (target : ClassTerm)
  | findByName (name : String)
  | idsNamed (name : String)
  | list
deriving DecidableEq, Repr, Inhabited

/-- Walks along supers. Without a limit of its own a walk takes the limit of the realm. -/
inductive ChainOperation where
  | ancestors (start : ClassTerm) (limit : Option Nat)
  | isSubclass (sub sup : ClassTerm) (limit : Option Nat)
  | lookup (value : ValueTerm) (name : String) (limit : Option Nat)
deriving DecidableEq, Repr, Inhabited

/-- Operations on the classes of a realm. -/
inductive RealmOperation where
  | createClass (name : String)
  | instantiate (ofClass : ClassTerm)
  | setProperty (target : ClassTerm) (value : ValueTerm) (tier name : String)
  | getProperty (target : ClassTerm) (name : String)
deriving DecidableEq, Repr, Inhabited

/-- A failure that a script raises by itself. -/
inductive FailureTerm where
  /-- A failure that names no class. -/
  | plain (error : Error)
  | unknownClass (id : ClassTerm)
  | cyclicHierarchy (id : ClassTerm)
  | hierarchyTooDeep (id : ClassTerm) (limit : Nat)
deriving DecidableEq, Repr, Inhabited

/-- Which wrapper a callable is given: with it comes the class and the calling convention. -/
inductive Convention where
  /-- The callable receives the arguments alone. -/
  | method
  /-- The callable receives the target of the call before the arguments. -/
  | unboundMethod
deriving DecidableEq, Repr, Inhabited

/-- Through what a call reaches the code: the method that wraps it, or the callable itself. -/
inductive CallRoute where
  | wrapper
  | callable
deriving DecidableEq, Repr, Inhabited

/-- An operation, where its result is stored, and whether its failure is passed over. -/
structure Command (Operation : Type) where
  operation : Operation
  /-- The slot that receives the result, if the result is a value. -/
  slot : Option String
  /-- Whether a script goes on after this command has failed. -/
  optional : Bool

/-- Where the code of a new method comes from. -/
inductive CodeTerm (Operation : Type) where
  /-- A script of its own. -/
  | script (body : List (Command Operation))
  /-- The code of another method, shared. -/
  | sharedWith (value : ValueTerm)

/-- An operation of the object model with its operands. -/
inductive Operation where
  | value (operation : ValueOperation)
  | table (operation : TableOperation)
  | registry (operation : RegistryOperation)
  | chain (operation : ChainOperation)
  | realm (operation : RealmOperation)
  /-- Wrap a script as the methods of the realm are wrapped. -/
  | newMethod (convention : Convention) (body : List (Command Operation))
  /-- Wrap a script and set it as a public member of a class. -/
  | defineMethod (convention : Convention) (target : ClassTerm) (name : String)
      (body : List (Command Operation))
  /-- Wrap code with a class and a table that are given. -/
  | makeMethod (convention : Convention) (ofClass : ClassTerm) (table : TableTerm)
      (code : CodeTerm Operation)
  /-- Call a method that is at hand. -/
  | call (route : CallRoute) (callee : ValueTerm) (arguments : List ValueTerm)
      (receiver : Option ValueTerm)
  /-- Look a member up and call it. -/
  | invoke (target : ValueTerm) (arguments : List ValueTerm) (name : String)
  | fail (failure : FailureTerm)
  /-- Note the receiver and the arguments of the running call. -/
  | noteCall
  | noteValue (value : ValueTerm)

/-- The commands of a method body or of a session, in order. -/
abbrev Script : Type :=
  List (Command Operation)

end ObjectModel
