/-! # Identifiers, kinds, payloads and failures

The vocabulary that all parts of the object model share. A class is named by its position in the
registry that holds it: equal positions in two registries name unrelated classes, and an identifier may
lie beyond the end of every registry. Every operation that can fail names one of the causes below.
The wording of a cause is `Error.message`, and no other definition writes it.
-/

namespace ObjectModel

/-! ## Classes by name and by kind -/

/-- A position in a class registry. -/
structure ClassId where
  /-- The position, counted from zero. -/
  index : Nat
deriving DecidableEq, Repr, Inhabited

namespace ClassId

/-- An identifier is written as its position after a number sign. -/
def text (id : ClassId) : String :=
  "#" ++ id.index.repr

/-- Identifiers are ordered as their positions are. -/
def order (left right : ClassId) : Ordering :=
  compare left.index right.index

end ClassId

/-- What part a class plays in the realm that holds it. -/
inductive ClassKind where
  /-- The root class, whose instances are the classes. -/
  | metaclass
  /-- A class that every realm starts with. -/
  | builtin
  /-- A class created by name afterwards. -/
  | user
deriving DecidableEq, Repr, Inhabited

/-- The name of each kind in journal messages. -/
def ClassKind.text : ClassKind → String
  | .metaclass => "Metaclass"
  | .builtin => "Builtin"
  | .user => "User"

/-! ## Payloads -/

/-- The payload of a text or an integer instance. -/
inductive Primitive where
  /-- A text of any characters. -/
  | text (content : String)
  /-- A signed integer of 64 bits. -/
  | integer (content : Int64)
deriving DecidableEq, Repr, Inhabited

/-! ## Causes of failure -/

/-- Why an operation on classes, values or property tables failed. -/
inductive Error where
  /-- No member of this name was found. -/
  | notFound (name : String)
  /-- A class link was read before it was bound, or bound a second time. -/
  | bootstrap (detail : String)
  /-- No class of the registry has this identifier. -/
  | unknownClass (id : ClassId)
  /-- An argument was missing or refused. -/
  | argument (detail : String)
  /-- A value of one kind stood where another kind was expected. -/
  | typeMismatch (expected got : String)
  /-- A chain of supers came back to this class. -/
  | cyclicHierarchy (id : ClassId)
  /-- The chain of supers that starts at this class has more levels than the limit. -/
  | hierarchyTooDeep (id : ClassId) (limit : Nat)
  /-- A callable failed for a reason of its own. -/
  | native (detail : String)
deriving DecidableEq, Repr, Inhabited

/-- The wording of each cause. -/
def Error.message : Error → String
  | .notFound name => "No such member: " ++ name
  | .bootstrap detail => "Invalid bootstrap state: " ++ detail
  | .unknownClass id => "Unknown class " ++ id.text
  | .argument detail => "Argument error: " ++ detail
  | .typeMismatch expected got => "Type mismatch: expected " ++ expected ++ ", got " ++ got
  | .cyclicHierarchy id => "Cyclic class hierarchy at " ++ id.text
  | .hierarchyTooDeep id limit =>
    "Class hierarchy of " ++ id.text ++ " exceeds " ++ limit.repr ++ " levels"
  | .native detail => detail

end ObjectModel
