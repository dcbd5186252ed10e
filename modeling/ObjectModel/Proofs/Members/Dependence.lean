import ObjectModel.Proofs.Members.Search

/-! # What walks and searches depend on

A walk depends on the supers that it meets and on nothing else. A search depends on what it sees of the
table of the value under the one name that it looks for, and beyond that on a walk and on what it sees
of the class-level tables along the chain. So two searches, in any two registries over any two stores,
go alike where these few things are the same.
-/

namespace ObjectModel

/-- What a search sees of the table behind a handle: under each name a value or nothing. -/
def Store.shown (store : Store) (ref : TableRef) (name : String) : Option Value :=
  (store.table ref).find? name

namespace Registry

/-! ## Walks -/

section Walks

variable {left right : Registry} (supers : ∀ id, left.superOf id = right.superOf id)
include supers

theorem walkFrom_congr (start : ClassId) (limit remaining : Nat) (seen : List ClassId)
    (current : ClassId) :
    left.walkFrom start limit remaining seen current =
      right.walkFrom start limit remaining seen current := by
  induction remaining generalizing seen current with
  | zero => rfl
  | succ remaining ih => simp only [walkFrom, supers current, ih]

theorem ancestors_congr (start : ClassId) (limit : Nat) :
    left.ancestors start limit = right.ancestors start limit :=
  congrArg Walk.outcome (walkFrom_congr supers start limit limit [] start)

theorem isSubclassOf_congr (sub sup : ClassId) (limit : Nat) :
    left.isSubclassOf sub sup limit = right.isSubclassOf sub sup limit := by
  rw [isSubclassOf_eq, isSubclassOf_eq, ancestors_congr supers]

end Walks

/-! ## Searches -/

/-- What a search for a name sees in the table of a value. -/
def shownOn (registry : Registry) (store : Store) (name : String) (value : Value) :
    Except Error (Option Value) :=
  (registry.tableOfValue value).map (store.shown · name)

theorem shownOn_ofClass (registry : Registry) (store : Store) (name : String) (id : ClassId) :
    registry.shownOn store name (.ofClass id) =
      ((registry.membersOf id).map store.shown).map (· name) := by
  rw [shownOn, tableOfValue]
  cases registry.membersOf id <;> rfl

/-- The part of a search that lies behind the table of the value. For a class there is none. -/
def searchChain (registry : Registry) (store : Store) (name : String) (limit : Nat) :
    Value → Except Error Resolution
  | .ofClass _ => .error (.notFound name)
  | .plain object => registry.ancestors object.classId limit >>= registry.firstDefiner store name
  | .method wrapped | .unboundMethod wrapped =>
    registry.ancestors wrapped.classId limit >>= registry.firstDefiner store name

theorem firstDefiner_cons (registry : Registry) (store : Store) (name : String) (id : ClassId)
    (rest : List ClassId) :
    registry.firstDefiner store name (id :: rest) =
      registry.shownOn store name (.ofClass id) >>= fun shown =>
        shown.elim (registry.firstDefiner store name rest) fun member => .ok (.inherited id member) := by
  simp only [firstDefiner, shownOn, tableOfValue, Store.shown]
  cases registry.membersOf id with
  | error cause => rfl
  | ok ref =>
    simp only [ok_bind, map_ok]
    cases (store.table ref).find? name <;> rfl

theorem resolve_eq (registry : Registry) (store : Store) (value : Value) (name : String)
    (limit : Nat) :
    registry.resolve store value name limit =
      registry.shownOn store name value >>= fun shown =>
        shown.elim (registry.searchChain store name limit value) fun member => .ok (.own member) := by
  simp only [resolve, shownOn, Store.shown]
  cases registry.tableOfValue value with
  | error cause => rfl
  | ok ref =>
    simp only [ok_bind, map_ok]
    cases (store.table ref).find? name with
    | some member => rfl
    | none => cases value <;> rfl

variable {left right : Registry} {store twin : Store} {name : String} {limit twinLimit : Nat}
  {value : Value} {chain : List ClassId}

theorem firstDefiner_congr (classes : ∀ id ∈ chain,
      left.shownOn store name (.ofClass id) = right.shownOn twin name (.ofClass id)) :
    left.firstDefiner store name chain = right.firstDefiner twin name chain := by
  induction chain with
  | nil => rfl
  | cons id rest ih =>
    obtain ⟨here, further⟩ := List.forall_mem_cons.mp classes
    rw [firstDefiner_cons, firstDefiner_cons, here, ih further]

theorem resolve_congr_of (own : left.shownOn store name value = right.shownOn twin name value)
    (behind : left.searchChain store name limit value = right.searchChain twin name twinLimit value) :
    left.resolve store value name limit = right.resolve twin value name twinLimit := by
  rw [resolve_eq, resolve_eq, own, behind]

/-- A search is decided by the chains of supers and by what is seen of the tables. -/
theorem resolve_congr
    (classes : ∀ id, (left.membersOf id).map store.shown = (right.membersOf id).map twin.shown)
    (objects : store.shown = twin.shown)
    (chains : ∀ start, left.ancestors start limit = right.ancestors start twinLimit)
    (value : Value) (name : String) :
    left.resolve store value name limit = right.resolve twin value name twinLimit := by
  have ofClass (id : ClassId) :
      left.shownOn store name (.ofClass id) = right.shownOn twin name (.ofClass id) := by
    rw [shownOn_ofClass, shownOn_ofClass, classes]
  have definers : left.firstDefiner store name = right.firstDefiner twin name :=
    funext fun chain => firstDefiner_congr fun id _ => ofClass id
  refine resolve_congr_of ?_ ?_
  · cases value with
    | ofClass id => exact ofClass id
    | plain | method | unboundMethod => simp only [shownOn, tableOfValue, objects]
  · cases value <;> simp only [searchChain, chains, definers]

/-! ## Look-ups -/

/-- What a look-up answers, and the records that it adds to the journal. -/
def lookedUp (registry : Registry) (store : Store) (value : Value) (name : String) (limit : Nat) :
    Except Error Value × List LogRecord :=
  let (outcome, after) := (registry.lookup value name limit).perform store
  (outcome, after.journal.toList.drop store.journal.size)

theorem lookedUp_of_error {registry : Registry} {cause : Error}
    (failed : registry.resolve store value name limit = .error cause) :
    registry.lookedUp store value name limit = (.error cause, []) := by
  simp [lookedUp, perform_lookup_of_error failed]

theorem lookedUp_of_ok {registry : Registry} {resolution : Resolution}
    (found : registry.resolve store value name limit = .ok resolution) :
    registry.lookedUp store value name limit = (.ok resolution.value, resolution.records name) := by
  simp [lookedUp, perform_lookup_of_ok found]

theorem Search.lookedUp_eq {registry : Registry} (coherent : store.Coherent)
    {outcome : Except Error Value} {records : List LogRecord}
    (search : registry.Search store name limit value outcome records) :
    registry.lookedUp store value name limit = (outcome, records) := by
  rw [lookedUp, search.perform_lookup coherent]
  simp

/-- Searches that go alike give look-ups that answer the same and leave the same records. -/
theorem lookedUp_congr
    (same : left.resolve store value name limit = right.resolve twin value name twinLimit) :
    left.lookedUp store value name limit = right.lookedUp twin value name twinLimit := by
  cases found : right.resolve twin value name twinLimit with
  | error cause => rw [lookedUp_of_error found, lookedUp_of_error (same.trans found)]
  | ok resolution => rw [lookedUp_of_ok found, lookedUp_of_ok (same.trans found)]

theorem perform_lookup_congr
    (same : left.resolve store value name limit = right.resolve store value name limit) :
    (left.lookup value name limit).perform store = (right.lookup value name limit).perform store := by
  cases found : right.resolve store value name limit with
  | error cause =>
    rw [perform_lookup_of_error found, perform_lookup_of_error (same.trans found)]
  | ok resolution => rw [perform_lookup_of_ok found, perform_lookup_of_ok (same.trans found)]

end Registry

end ObjectModel
