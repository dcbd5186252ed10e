import ObjectModel.Registry

/-! # Chains of supers and member look-up

A walk starts at a class and follows super links, never class links: the root is its own class, so
class links alone would never end. It stops at the first class without a super. At each class it
asks in this order whether the class was met before, whether the limit is used up, and whether the
class is registered, and fails at the first of these.

A member is sought in the table of the value itself, whatever its tier. A class has only that table:
it is the copy taken when the class was created, and a search in the root behind it would show what
the root was given later. For every other value the search goes on through the class-level tables of
its class and of the supers, nearest first.
-/

namespace ObjectModel

/-! ## Walks along supers -/

/-- How a walk ended, and how many classes it looked at. -/
structure Walk where
  outcome : Except Error (List ClassId)
  passes : Nat

namespace Walk

/-- A walk that fails at the class it looks at. -/
def stop (cause : Error) : Walk :=
  ⟨.error cause, 1⟩

/-- The walk that looks at one class before it goes on. -/
def after (id : ClassId) (rest : Walk) : Walk :=
  ⟨rest.outcome.map (id :: ·), rest.passes + 1⟩

end Walk

namespace Registry

/-- Walk on from a class with `remaining` levels left. `seen` holds the classes met before. -/
def walkFrom (registry : Registry) (start : ClassId) (limit : Nat) :
    (remaining : Nat) → (seen : List ClassId) → (current : ClassId) → Walk
  | 0, seen, current =>
    if current ∈ seen then .stop (.cyclicHierarchy current)
    else .stop (.hierarchyTooDeep start limit)
  | remaining + 1, seen, current =>
    if current ∈ seen then .stop (.cyclicHierarchy current)
    else
      match registry.superOf current with
      | .error cause => .stop cause
      | .ok none => ⟨.ok [current], 1⟩
      | .ok (some next) =>
        .after current (registry.walkFrom start limit remaining (current :: seen) next)

/-- The walk from a class along at most `limit` levels. -/
def walk (registry : Registry) (start : ClassId) (limit : Nat) : Walk :=
  registry.walkFrom start limit limit [] start

/-- A class followed by its supers, nearest first. -/
def ancestors (registry : Registry) (start : ClassId) (limit : Nat) : Except Error (List ClassId) :=
  (registry.walk start limit).outcome

/-- Whether one class is another or inherits from it. -/
def isSubclassOf (registry : Registry) (sub sup : ClassId) (limit : Nat) : Except Error Bool :=
  return (← registry.ancestors sub limit).contains sup

end Registry

/-! ## Looking members up -/

/-- Where a member was found. -/
inductive Resolution where
  /-- In the table of the value itself. -/
  | own (value : Value)
  /-- In the class-level table of a class on the chain of supers. -/
  | inherited (owner : ClassId) (value : Value)

/-- The member that was found. -/
def Resolution.value : Resolution → Value
  | own value | inherited _ value => value

namespace Registry

/-- The first class of a chain whose class-level table holds a name, with the member it holds. -/
def firstDefiner (registry : Registry) (store : Store) (name : String) :
    List ClassId → Except Error Resolution
  | [] => .error (.notFound name)
  | id :: rest => do
    match (store.table (← registry.membersOf id)).find? name with
    | some value => return .inherited id value
    | none => registry.firstDefiner store name rest

/-- Find a member of a value, with walks of at most `limit` levels. -/
def resolve (registry : Registry) (store : Store) (value : Value) (name : String) (limit : Nat) :
    Except Error Resolution := do
  match (store.table (← registry.tableOfValue value)).find? name with
  | some member => return .own member
  | none =>
    match value with
    | .ofClass _ => throw (.notFound name)
    | _ =>
      let chain ← registry.ancestors (← registry.classOfValue value) limit
      registry.firstDefiner store name chain

/-- Find a member of a value, and record the class that it was inherited from. -/
def lookup (registry : Registry) (value : Value) (name : String) (limit : Nat) :
    Effect Store Value := do
  match ← Effect.ofOutcome (registry.resolve (← get) value name limit) with
  | .own member => return member
  | .inherited owner member =>
    Store.record (.resolved name owner)
    return member

end Registry

end ObjectModel
