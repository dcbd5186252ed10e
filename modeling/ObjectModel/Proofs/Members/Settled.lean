import ObjectModel.Proofs.Members.Dependence
import ObjectModel.Proofs.Tables.Ownership

/-! # Settled answers stay

A new class can only matter to who met its identifier before it was given. Walks and searches that never
came to it go on as they went, whether they succeed, find nothing, go round or run over the limit, and
the others had failed because the class was unknown. So the one answer that can change when classes are
registered is that one of these classes is unknown.
-/

namespace ObjectModel

/-- The table that a value carries with it. A class carries none. -/
def Value.table? : Value → Option TableRef
  | .ofClass _ => none
  | .plain object => some object.table
  | .method wrapped | .unboundMethod wrapped => some wrapped.table

/-! ## Outcomes that are settled -/

/-- An outcome is what it was before, or it was then that one of these classes is unknown. -/
inductive Settles (gained : ClassId → Prop) {α : Type} : (before after : Except Error α) → Prop
  | same (outcome : Except Error α) : Settles gained outcome outcome
  | came {id : ClassId} (gain : gained id) (after : Except Error α) :
      Settles gained (.error (.unknownClass id)) after

namespace Settles

variable {gained : ClassId → Prop} {α β : Type} {before after : Except Error α}

theorem cases_eq (settles : Settles gained before after) :
    after = before ∨ ∃ id, gained id ∧ before = .error (.unknownClass id) := by
  cases settles with
  | same => exact .inl rfl
  | came gain => exact .inr ⟨_, gain, rfl⟩

/-- What goes on in a settled way from a settled outcome is settled. -/
protected theorem bind {next next' : α → Except Error β} (first : Settles gained before after)
    (rest : ∀ answer, before = .ok answer → Settles gained (next answer) (next' answer)) :
    Settles gained (before >>= next) (after >>= next') := by
  cases first with
  | same =>
    cases before with
    | error cause => exact .same _
    | ok answer => exact rest answer rfl
  | came gain => exact .came gain _

protected theorem map (first : Settles gained before after) (change : α → β) :
    Settles gained (before.map change) (after.map change) := by
  cases first with
  | same => exact .same _
  | came gain => exact .came gain _

end Settles

namespace Registry

/-! ## Registries that grow -/

/-- Every class of the registry is in the later one, with the same super and the same members. -/
structure GrowsTo (registry later : Registry) : Prop where
  records : ∀ {id : ClassId} {record : ClassRecord}, registry.recordOf id = .ok record →
    ∃ after, later.recordOf id = .ok after ∧ after.super = record.super ∧
      after.members = record.members

/-- The class has come in since. -/
def Gains (registry later : Registry) (id : ClassId) : Prop :=
  ¬ registry.IsRegistered id ∧ later.IsRegistered id

theorem GrowsTo.refl (registry : Registry) : registry.GrowsTo registry :=
  ⟨fun found => ⟨_, found, rfl, rfl⟩⟩

theorem GrowsTo.trans {registry middle later : Registry} (first : registry.GrowsTo middle)
    (second : middle.GrowsTo later) : registry.GrowsTo later := by
  refine ⟨fun found => ?_⟩
  obtain ⟨between, found, super, members⟩ := first.records found
  obtain ⟨after, found, super', members'⟩ := second.records found
  exact ⟨after, found, super'.trans super, members'.trans members⟩

theorem growsTo_push (registry : Registry) (record : ClassRecord) :
    registry.GrowsTo (registry.push record) := by
  refine ⟨fun {id found} present => ?_⟩
  rw [recordOf_eq_ok_iff] at present
  exact ⟨found, recordOf_eq_ok_iff.mpr (getElem?_push_of_eq_some present record), rfl, rfl⟩

theorem gains_push_iff {registry : Registry} {record : ClassRecord} {id : ClassId} :
    registry.Gains (registry.push record) id ↔ id = registry.nextId := by
  obtain ⟨index⟩ := id
  simp only [Gains, IsRegistered, push, size, nextId, Array.size_push, ClassId.mk.injEq]
  omega

end Registry

/-- The registry of a context that grows grows with it. -/
theorem Context.GrowsTo.registry {found later : Context} (grows : found.GrowsTo later) :
    found.registry.GrowsTo later.registry := by
  refine ⟨fun present => ?_⟩
  rw [Registry.recordOf_eq_ok_iff] at present
  obtain ⟨after, there, grew⟩ := grows.classes present
  exact ⟨after, Registry.recordOf_eq_ok_iff.mpr there, by rw [grew.eq_with_link], grew.members_eq⟩

namespace Registry

/-! ## What is asked of a registry that grows -/

section Growing

variable {registry later : Registry} (grows : registry.GrowsTo later)
include grows

/-- Whatever is made of the super and the members of a class is settled. -/
theorem GrowsTo.settles_recordOf {α : Type} {next : ClassRecord → Except Error α}
    (same : ∀ {record after : ClassRecord}, after.super = record.super →
      after.members = record.members → next after = next record) (id : ClassId) :
    Settles (registry.Gains later) (registry.recordOf id >>= next) (later.recordOf id >>= next) := by
  by_cases registered : registry.IsRegistered id
  · have found := recordOf_eq_ok_iff.mpr (Array.getElem?_eq_getElem registered)
    obtain ⟨after, found', super, members⟩ := grows.records found
    rw [found, found', ok_bind, ok_bind, same super members]
    exact .same _
  · rw [recordOf_of_not_registered registered]
    by_cases gained : later.IsRegistered id
    · exact .came ⟨registered, gained⟩ _
    · rw [recordOf_of_not_registered gained]
      exact .same _

theorem GrowsTo.settles_superOf (id : ClassId) :
    Settles (registry.Gains later) (registry.superOf id) (later.superOf id) :=
  grows.settles_recordOf (fun super _ => by rw [super]) id

theorem GrowsTo.settles_membersOf (id : ClassId) :
    Settles (registry.Gains later) (registry.membersOf id) (later.membersOf id) :=
  grows.settles_recordOf (fun _ members => by rw [members]) id

/-- At every place a walk goes on as it went, or it stopped there because the class was unknown. -/
theorem GrowsTo.settles_walkFrom (start : ClassId) (limit remaining : Nat) (seen : List ClassId)
    (current : ClassId) :
    Settles (registry.Gains later) (registry.walkFrom start limit remaining seen current).outcome
      (later.walkFrom start limit remaining seen current).outcome := by
  induction remaining generalizing seen current with
  | zero =>
    rw [walkFrom, walkFrom]
    exact .same _
  | succ remaining ih =>
    rw [walkFrom, walkFrom]
    by_cases again : current ∈ seen
    · rw [if_pos again, if_pos again]
      exact .same _
    · rw [if_neg again, if_neg again]
      rcases (grows.settles_superOf current).cases_eq with same | ⟨id, gain, unknown⟩
      · rw [same]
        cases registry.superOf current with
        | error cause => exact .same _
        | ok super =>
          cases super with
          | none => exact .same _
          | some next => exact (ih (current :: seen) next).map (current :: ·)
      · rw [unknown]
        exact .came gain _

theorem GrowsTo.settles_ancestors (start : ClassId) (limit : Nat) :
    Settles (registry.Gains later) (registry.ancestors start limit) (later.ancestors start limit) :=
  grows.settles_walkFrom start limit limit [] start

theorem GrowsTo.settles_isSubclassOf (sub sup : ClassId) (limit : Nat) :
    Settles (registry.Gains later) (registry.isSubclassOf sub sup limit)
      (later.isSubclassOf sub sup limit) :=
  (grows.settles_ancestors sub limit).bind fun _ _ => .same _

/-! ## Look-ups -/

variable {store after : Store}
  (classes : ∀ {id : ClassId} {ref : TableRef}, registry.membersOf id = .ok ref →
    after.shown ref = store.shown ref)
include classes

theorem GrowsTo.settles_shownOn_ofClass (name : String) (id : ClassId) :
    Settles (registry.Gains later) (registry.shownOn store name (.ofClass id))
      (later.shownOn after name (.ofClass id)) := by
  rw [shownOn, shownOn, tableOfValue, tableOfValue]
  rcases (grows.settles_membersOf id).cases_eq with same | ⟨missing, gain, unknown⟩
  · rw [same]
    cases members : registry.membersOf id with
    | error cause => exact .same _
    | ok ref =>
      rw [map_ok, map_ok, classes members]
      exact .same _
  · rw [unknown]
    exact .came gain _

theorem GrowsTo.settles_firstDefiner (name : String) (chain : List ClassId) :
    Settles (registry.Gains later) (registry.firstDefiner store name chain)
      (later.firstDefiner after name chain) := by
  induction chain with
  | nil => exact .same _
  | cons id rest ih =>
    rw [firstDefiner_cons, firstDefiner_cons]
    refine (grows.settles_shownOn_ofClass classes name id).bind fun shown _ => ?_
    cases shown with
    | none => exact ih
    | some member => exact .same _

theorem GrowsTo.settles_resolve {value : Value}
    (own : ∀ ref, value.table? = some ref → after.shown ref = store.shown ref) (name : String)
    (limit : Nat) :
    Settles (registry.Gains later) (registry.resolve store value name limit)
      (later.resolve after value name limit) := by
  have onChain (start : ClassId) : Settles (registry.Gains later)
      (registry.ancestors start limit >>= registry.firstDefiner store name)
      (later.ancestors start limit >>= later.firstDefiner after name) :=
    (grows.settles_ancestors start limit).bind fun chain _ =>
      grows.settles_firstDefiner classes name chain
  have ofTable {ref : TableRef} (carries : value.table? = some ref)
      (has : registry.tableOfValue value = .ok ref) (has' : later.tableOfValue value = .ok ref) :
      Settles (registry.Gains later) (registry.shownOn store name value)
        (later.shownOn after name value) := by
    rw [shownOn, shownOn, has, has', map_ok, map_ok, own ref carries]
    exact .same _
  rw [resolve_eq, resolve_eq]
  refine Settles.bind ?_ fun shown _ => ?_
  · cases value with
    | ofClass id => exact grows.settles_shownOn_ofClass classes name id
    | plain object => exact ofTable rfl rfl rfl
    | method wrapped => exact ofTable rfl rfl rfl
    | unboundMethod wrapped => exact ofTable rfl rfl rfl
  · cases shown with
    | some member => exact .same _
    | none =>
      cases value with
      | ofClass id => exact .same _
      | plain object => exact onChain object.classId
      | method wrapped => exact onChain wrapped.classId
      | unboundMethod wrapped => exact onChain wrapped.classId

end Growing

/-- What was asked of a registry over a store is settled: asked again of a later registry over a later
store it has the same answer, or the answer was that one of these classes is unknown. With a look-up the
records that it leaves are the same too. -/
structure AnswersSettled (registry : Registry) (store : Store) (later : Registry) (after : Store)
    (gained : ClassId → Prop) (asked : Value → Prop) : Prop where
  ancestors : ∀ start limit,
    Settles gained (registry.ancestors start limit) (later.ancestors start limit)
  isSubclassOf : ∀ sub sup limit,
    Settles gained (registry.isSubclassOf sub sup limit) (later.isSubclassOf sub sup limit)
  lookup : ∀ value, asked value → ∀ name limit,
    later.lookedUp after value name limit = registry.lookedUp store value name limit ∨
      ∃ id, gained id ∧ registry.lookedUp store value name limit = (.error (.unknownClass id), [])

theorem GrowsTo.answersSettled {registry later : Registry} {store after : Store}
    {asked : Value → Prop} (grows : registry.GrowsTo later)
    (classes : ∀ {id : ClassId} {ref : TableRef}, registry.membersOf id = .ok ref →
      after.shown ref = store.shown ref)
    (own : ∀ value, asked value → ∀ ref, value.table? = some ref →
      after.shown ref = store.shown ref) :
    registry.AnswersSettled store later after (registry.Gains later) asked where
  ancestors := grows.settles_ancestors
  isSubclassOf := grows.settles_isSubclassOf
  lookup value known name limit := by
    rcases (grows.settles_resolve classes (own value known) name limit).cases_eq with
      same | ⟨id, gain, unknown⟩
    · exact .inl (lookedUp_congr same)
    · exact .inr ⟨id, gain, lookedUp_of_error unknown⟩

/-- Register some classes in a row: the registry that holds them all. -/
def registerAll (registry : Registry) : List ClassRecord → Effect Store Registry
  | [] => return registry
  | record :: rest => do
    let (_, next) ← registry.register record
    next.registerAll rest

/-- Registering classes in a row adds them to the registry, and touches no table. -/
theorem exists_registerAll (registry : Registry) (records : List ClassRecord) (store : Store) :
    ∃ later after, (registry.registerAll records).perform store = (.ok later, after) ∧
      registry.GrowsTo later ∧ later.size = registry.size + records.length ∧
      after.tables = store.tables := by
  induction records generalizing registry store with
  | nil => exact ⟨registry, store, rfl, .refl registry, rfl, rfl⟩
  | cons record rest ih =>
    obtain ⟨later, after, performs, grows, size, tables⟩ := ih (registry.push record)
      ((registry.register record).perform store).2
    refine ⟨later, after, ?_, (registry.growsTo_push record).trans grows, ?_, tables⟩
    · rw [registerAll, Effect.perform_bind, perform_register]
      exact performs
    · rw [size, List.length_cons]
      simp only [push, Registry.size, Array.size_push]
      omega

end Registry

/-! ## Registrations in worlds -/

/-- The operation registers a class or fails. -/
def Action.Registers : Action → Prop
  | createClass .. | registerPending .. | registerLinked .. => True
  | _ => False

namespace World

/-- The table that the value carries, if it carries one, is in the store. -/
def CarriesTable (world : World) (value : Value) : Prop :=
  ∀ ref, value.table? = some ref → ref.index < world.store.tables.size

theorem changesAt_of_registers {registrations : List Action}
    (registers : ∀ action ∈ registrations, action.Registers) (world : World) (ref : TableRef) :
    world.changesAt ref registrations = [] := by
  induction registrations generalizing world with
  | nil => rfl
  | cons action rest ih =>
    obtain ⟨first, others⟩ := List.forall_mem_cons.mp registers
    have none' : action.changesAt world ref = [] := by
      cases action with
      | createClass | registerPending | registerLinked => rfl
      | _ => exact first.elim
    rw [changesAt, none', ih others, List.append_nil]

/-- Registrations leave every table as it is. -/
theorem shown_of_registers {registrations : List Action}
    (registers : ∀ action ∈ registrations, action.Registers) {world : World} {ref : TableRef}
    (bound : ref.index < world.store.tables.size) :
    (world.run registrations).store.shown ref = world.store.shown ref := by
  funext name
  rw [Store.shown, Store.shown, table_run world bound, changesAt_of_registers registers,
    List.foldl_nil]

theorem Reachable.answersSettled {world : World} (reachable : world.Reachable)
    {registrations : List Action} (registers : ∀ action ∈ registrations, action.Registers)
    {context : Nat} {found : Context} (present : world.contexts[context]? = some found) :
    ∃ later, (world.run registrations).contexts[context]? = some later ∧
      found.registry.AnswersSettled world.store later.registry (world.run registrations).store
        (found.registry.Gains later.registry) world.CarriesTable := by
  obtain ⟨later, there, grown⟩ := (world.grows_run registrations).contexts present
  refine ⟨later, there, grown.registry.answersSettled (fun members => ?_) ?_⟩
  · have has := (tableOf?_members_eq_some_iff present).mpr members
    exact shown_of_registers registers (reachable.tablesOwned.inStore has)
  · intro value carries ref has
    exact shown_of_registers registers (carries ref has)

end World

/-- Registering a class in any registry, with any record, settles all answers but that its identifier is
unknown: walks, subclass questions and look-ups of whatever value, under whatever name and limit, have
the outcome that they had, and leave the records that they left. It is the same for any number of
registrations in a row, and in every world, whether the classes are registered or created in a realm. -/
theorem registrations_settle_answers :
    (∀ (registry : Registry) (record : ClassRecord) (store : Store),
      ∃ after, (registry.register record).perform store =
          (.ok (registry.nextId, registry.push record), after) ∧
        registry.AnswersSettled store (registry.push record) after (· = registry.nextId)
          fun _ => True) ∧
    (∀ (registry : Registry) (records : List ClassRecord) (store : Store),
      ∃ later after, (registry.registerAll records).perform store = (.ok later, after) ∧
        later.size = registry.size + records.length ∧
        registry.AnswersSettled store later after (registry.Gains later) fun _ => True) ∧
    ∀ earlier registrations : List Action, (∀ action ∈ registrations, action.Registers) →
      let world := World.empty.run earlier
      let last := world.run registrations
      ∀ (context : Nat) (found : Context), world.contexts[context]? = some found →
        ∃ later, last.contexts[context]? = some later ∧
          found.registry.AnswersSettled world.store later.registry last.store
            (found.registry.Gains later.registry) world.CarriesTable := by
  have sameTables {store after : Store} (tables : after.tables = store.tables) (ref : TableRef) :
      after.shown ref = store.shown ref := by
    funext name
    rw [Store.shown, Store.shown, Store.table, Store.table, tables]
  refine ⟨fun registry record store => ?_, fun registry records store => ?_, ?_⟩
  · refine ⟨_, registry.perform_register record store, ?_⟩
    have gains : registry.Gains (registry.push record) = (· = registry.nextId) :=
      funext fun id => propext Registry.gains_push_iff
    rw [← gains]
    exact (registry.growsTo_push record).answersSettled (fun _ => sameTables rfl _)
      fun _ _ ref _ => sameTables rfl ref
  · obtain ⟨later, after, performs, grows, size, tables⟩ := registry.exists_registerAll records store
    exact ⟨later, after, performs, size, grows.answersSettled (fun _ => sameTables tables _)
      fun _ _ ref _ => sameTables tables ref⟩
  · intro earlier registrations registers world last context found present
    exact World.Reachable.answersSettled ⟨earlier, rfl⟩ registers present

/-- The new class was the super of a class that is there already, and closes a round. -/
example :
    let registry : Registry := ⟨#[⟨"A", .user, none, some ⟨1⟩, ⟨0⟩, ⟨1⟩⟩], {}⟩
    registry.ancestors ⟨0⟩ 5 = .error (.unknownClass ⟨1⟩) ∧
      (registry.push ⟨"B", .user, none, some ⟨0⟩, ⟨2⟩, ⟨3⟩⟩).ancestors ⟨0⟩ 5 =
        .error (.cyclicHierarchy ⟨0⟩) :=
  ⟨rfl, rfl⟩

end ObjectModel
