import ObjectModel.Proofs.Chains.Places
import ObjectModel.Proofs.Realms.Isolation
import ObjectModel.Proofs.Realms.Shape
import Mathlib.Data.List.Basic

/-! # The index of names

A registry keeps its classes in an arena and the identifiers of each name in an index. Registering a
class writes to both, and binding a link writes to the arena alone. Whatever the history, a class that
is registered is given the next identifier, so that no identifier is given twice, and the index lists
under each name the classes of the arena that have it, in the order of their identifiers.
-/

namespace ObjectModel

namespace Registry

/-- The names of the classes, in the order of the identifiers. -/
def names (registry : Registry) : List String :=
  registry.classes.toList.map ClassRecord.name

/-- The identifiers of the classes, in their order. -/
def ids (registry : Registry) : List ClassId :=
  (List.range registry.size).map ClassId.mk

/-- The index lists under each name the positions where the arena has it. -/
def Indexed (registry : Registry) : Prop :=
  ∀ name, registry.idsNamed name = (registry.names.idxsOf name).map ClassId.mk

/-- What the index, the arena and the enumeration of a registry tell of each other. -/
structure Consistent (registry : Registry) : Prop where
  increasing : ∀ name, (registry.idsNamed name).Pairwise fun id later => id.index < later.index
  mem_iff : ∀ name id, id ∈ registry.idsNamed name ↔
    ∃ record, registry.recordOf id = .ok record ∧ record.name = name
  /-- The class that is found by a name is the last one of that name. -/
  latest : ∀ name id, registry.findByName? name = some id ↔
    id ∈ registry.idsNamed name ∧ ∀ other ∈ registry.idsNamed name, other.index ≤ id.index
  absent : ∀ name, registry.findByName? name = none ↔ registry.idsNamed name = []
  /-- Each class is listed once, under one name. -/
  once : ∀ id, registry.IsRegistered id → ∃ name, (registry.idsNamed name).count id = 1 ∧
    ∀ other, other ≠ name → id ∉ registry.idsNamed other
  enumerated : registry.toList.map Prod.fst = registry.ids
  records : ∀ id record, (id, record) ∈ registry.toList ↔ registry.recordOf id = .ok record

variable {registry : Registry} {name : String} {id : ClassId} {record : ClassRecord}

/-! ## The index follows the arena -/

theorem indexed_empty : empty.Indexed := by
  intro name
  simp [idsNamed, empty, names]

theorem idsNamed_push (registry : Registry) (record : ClassRecord) (name : String) :
    (registry.push record).idsNamed name =
      registry.idsNamed name ++ if record.name = name then [registry.nextId] else [] := by
  by_cases same : record.name = name
  · subst same
    simp [idsNamed, push]
  · simp [idsNamed, push, Std.ExtTreeMap.getElem?_insert, same]

theorem names_push (registry : Registry) (record : ClassRecord) :
    (registry.push record).names = registry.names ++ [record.name] := by
  simp [names, push]

theorem length_names (registry : Registry) : registry.names.length = registry.size := by
  simp [names, size]

theorem Indexed.push (indexed : registry.Indexed) (record : ClassRecord) :
    (registry.push record).Indexed := by
  intro name
  rw [idsNamed_push, names_push, List.idxsOf_append, List.map_append, indexed name, length_names]
  by_cases same : record.name = name <;> simp [same, nextId]

theorem Indexed.foldl_push (indexed : registry.Indexed) (records : List ClassRecord) :
    (records.foldl Registry.push registry).Indexed := by
  induction records generalizing registry with
  | nil => exact indexed
  | cons record rest ih => exact ih (indexed.push record)

/-- Binding a link leaves the names as they are. -/
theorem names_of_bind {bound : Registry} {target link : ClassId}
    (binds : registry.bind target link = .ok bound) : bound.names = registry.names := by
  obtain ⟨record, found, _, rfl⟩ := bind_eq_ok_iff.mp binds
  rw [recordOf_eq_ok_iff] at found
  refine List.ext_getElem? fun position => ?_
  simp only [names, List.getElem?_map, Array.getElem?_toList, Array.getElem?_modify]
  split
  next here =>
    subst here
    simp [found]
  next => rfl

theorem Indexed.bind {bound : Registry} {target link : ClassId} (indexed : registry.Indexed)
    (binds : registry.bind target link = .ok bound) : bound.Indexed := by
  intro name
  rw [names_of_bind binds, ← indexed name]
  obtain ⟨record, _, _, rfl⟩ := bind_eq_ok_iff.mp binds
  rfl

/-! ## What follows for the look-ups by name -/

theorem getElem?_names_eq_some_iff :
    registry.names[id.index]? = some name ↔
      ∃ record, registry.recordOf id = .ok record ∧ record.name = name := by
  simp only [names, List.getElem?_map, Array.getElem?_toList, Option.map_eq_some_iff,
    recordOf_eq_ok_iff]

theorem Indexed.mem_idsNamed_iff (indexed : registry.Indexed) :
    id ∈ registry.idsNamed name ↔ ∃ record, registry.recordOf id = .ok record ∧ record.name = name := by
  have listed : id ∈ (registry.names.idxsOf name).map ClassId.mk ↔
      id.index ∈ registry.names.idxsOf name := by
    constructor
    · intro member
      obtain ⟨position, inside, rfl⟩ := List.mem_map.mp member
      exact inside
    · intro inside
      exact List.mem_map.mpr ⟨id.index, inside, rfl⟩
  rw [indexed name, listed, List.mem_idxsOf_iff_exists_getElem_pos, ← getElem?_names_eq_some_iff,
    List.getElem?_eq_some_iff]
  simp only [beq_iff_eq]

theorem Indexed.pairwise_idsNamed (indexed : registry.Indexed) (name : String) :
    (registry.idsNamed name).Pairwise fun id later => id.index < later.index := by
  rw [indexed name, List.pairwise_map]
  exact List.pairwise_idxsOf

/-- The last of some identifiers in increasing order is the greatest of them. -/
theorem getLast?_eq_some_iff_of_pairwise {ids : List ClassId}
    (increasing : ids.Pairwise fun id later => id.index < later.index) :
    ids.getLast? = some id ↔ id ∈ ids ∧ ∀ other ∈ ids, other.index ≤ id.index := by
  have greatest {last : ClassId} (isLast : ids.getLast? = some last) :
      last ∈ ids ∧ ∀ other ∈ ids, other.index ≤ last.index := by
    obtain ⟨front, rfl⟩ := List.getLast?_eq_some_iff.mp isLast
    refine ⟨by simp, fun other member => ?_⟩
    rcases List.mem_append.mp member with before | same
    · exact Nat.le_of_lt ((List.pairwise_append.mp increasing).2.2 other before last (by simp))
    · exact Nat.le_of_eq (congrArg ClassId.index (List.mem_singleton.mp same))
  constructor
  · exact greatest
  · rintro ⟨member, above⟩
    have isLast := List.getLast?_eq_some_getLast (List.ne_nil_of_mem member)
    obtain ⟨inside, aboveAll⟩ := greatest isLast
    rw [isLast]
    exact congrArg (some ∘ ClassId.mk) (Nat.le_antisymm (above _ inside) (aboveAll id member))

theorem map_fst_toList (registry : Registry) : registry.toList.map Prod.fst = registry.ids := by
  calc registry.toList.map Prod.fst
      = (registry.classes.toList.zipIdx.map Prod.snd).map ClassId.mk := by
        simp only [toList, List.map_map, Function.comp_def]
    _ = registry.ids := by
        rw [ids, List.zipIdx_map_snd, List.range_eq_range', size, Array.length_toList]

theorem mem_toList_iff : (id, record) ∈ registry.toList ↔ registry.recordOf id = .ok record := by
  obtain ⟨position⟩ := id
  simp [toList, List.mem_zipIdx_iff_getElem?, recordOf_eq_ok_iff]

theorem Indexed.consistent (indexed : registry.Indexed) : registry.Consistent where
  increasing := indexed.pairwise_idsNamed
  mem_iff name id := indexed.mem_idsNamed_iff
  latest name id := getLast?_eq_some_iff_of_pairwise (indexed.pairwise_idsNamed name)
  absent name := by rw [findByName?, List.getLast?_eq_none_iff]
  once id registered := by
    have found : registry.recordOf id = .ok registry.classes[id.index] :=
      recordOf_eq_ok_iff.mpr (Array.getElem?_eq_getElem registered)
    have distinct : (registry.idsNamed registry.classes[id.index].name).Nodup :=
      (indexed.pairwise_idsNamed _).imp fun before same => by
        rw [same] at before
        exact Nat.lt_irrefl _ before
    refine ⟨_, List.count_eq_one_of_mem distinct (indexed.mem_idsNamed_iff.mpr ⟨_, found, rfl⟩), ?_⟩
    intro other differ member
    obtain ⟨record, found', named⟩ := indexed.mem_idsNamed_iff.mp member
    cases found.symm.trans found'
    exact differ named.symm
  enumerated := registry.map_fst_toList
  records _ _ := mem_toList_iff

/-! ## The identifiers -/

theorem ids_push (registry : Registry) (record : ClassRecord) :
    (registry.push record).ids = registry.ids ++ [registry.nextId] := by
  simp [ids, push, size, nextId, List.range_succ]

theorem ids_of_bind {bound : Registry} {target link : ClassId}
    (binds : registry.bind target link = .ok bound) : bound.ids = registry.ids := by
  obtain ⟨record, _, _, rfl⟩ := bind_eq_ok_iff.mp binds
  simp [ids, size]

theorem nodup_ids (registry : Registry) : registry.ids.Nodup :=
  List.nodup_range.map fun _ _ same => congrArg ClassId.index same

end Registry

namespace World

/-! ## In every context -/

/-- The registry of every context is indexed. -/
def NamesIndexed (world : World) : Prop :=
  ∀ {context : Nat} {found : Context}, world.contexts[context]? = some found →
    found.registry.Indexed

theorem Move.namesIndexed {world later : World} (move : Move world later)
    (indexed : world.NamesIndexed) : later.NamesIndexed := by
  intro other found present
  cases move with
  | store | keep => exact indexed present
  | register there | createClass there =>
    rcases getElem?_modify_cases present with ⟨_, rfl⟩ | old
    · exact (indexed there).push _
    · exact indexed old
  | bind there bound =>
    rcases getElem?_modify_cases present with ⟨_, rfl⟩ | old
    · rw [Context.registry_withRegistry]
      exact (indexed there).bind bound
    · exact indexed old
  | openBare =>
    rcases getElem?_push_cases present with ⟨_, rfl⟩ | old
    · exact Registry.indexed_empty
    · exact indexed old
  | openRealm settings =>
    rcases getElem?_push_cases present with ⟨_, rfl⟩ | old
    · exact Registry.indexed_empty.foldl_push (Realm.startRecords settings _)
    · exact indexed old

theorem Reachable.namesIndexed {world : World} (reachable : world.Reachable) :
    world.NamesIndexed := by
  obtain ⟨actions, rfl⟩ := reachable
  refine run_preserves_of_move Move.namesIndexed (fun _ _ _ _ indexed => indexed) ?_ actions
  intro context found present
  simp [empty] at present

/-! ## The identifiers that are given -/

/-- The identifiers of the classes of the context at a position. -/
def idsAt (world : World) (context : Nat) : List ClassId :=
  (world.contexts[context]?).elim [] (·.registry.ids)

/-- Make a record and register it. -/
def registerMade (context : Nat) (make : Effect Store ClassRecord) : Effect World Value := do
  let record ← onStore make
  register context record

end World

/-- The classes that a realm starts with, in the order of their registration. -/
def Builtins.ids (builtins : Builtins) : List ClassId :=
  [builtins.root, builtins.method, builtins.unboundMethod, builtins.text, builtins.integer]

/-- The class that an effect answers. -/
def Effect.classAnswered? (effect : Effect World Value) (world : World) : Option ClassId :=
  (effect.perform world).1.toOption.bind Value.classId?

/-- The identifiers that an operation gives to the classes which it adds to the context at a position,
as they are answered to who makes the operation. -/
def Action.idsGiven (world : World) (context : Nat) : Action → List ClassId
  | openContext plan =>
    if world.contexts.size = context then
      ((World.openContext plan).perform world).1.toOption.join.elim [] (·.builtins.ids)
    else []
  | createClass acted name =>
    if acted = context then ((World.createClass acted name).perform world).1.toOption.toList else []
  | registerPending acted name kind =>
    if acted = context then
      ((World.registerMade acted (ClassRecord.pending name kind)).classAnswered? world).toList
    else []
  | registerLinked acted name kind link super members template =>
    if acted = context then
      ((World.registerMade acted (ClassRecord.linked name kind link super (.ofEntries members)
        (.ofEntries template))).classAnswered? world).toList
    else []
  | _ => []

namespace World

/-- The identifiers that a run gives to the classes of the context at a position, in their order. -/
def idsGiven (world : World) (context : Nat) : List Action → List ClassId
  | [] => []
  | action :: rest => action.idsGiven world context ++ (world.act action).idsGiven context rest

variable {world later : World} {context : Nat}

theorem idsAt_of_present {found : Context} (present : world.contexts[context]? = some found) :
    world.idsAt context = found.registry.ids := by
  rw [idsAt, present, Option.elim_some]

theorem idsAt_of_same (same : later.contexts[context]? = world.contexts[context]?) :
    later.idsAt context = world.idsAt context := by
  rw [idsAt, same, idsAt]

/-- Where a class is added, its identifier comes behind those that are there. -/
theorem idsAt_of_push {found replacement : Context} {record : ClassRecord}
    (present : world.contexts[context]? = some found)
    (put : later.contexts = world.contexts.modify context fun _ => replacement)
    (pushed : replacement.registry = found.registry.push record) :
    later.idsAt context = world.idsAt context ++ [found.registry.nextId] := by
  have there : later.contexts[context]? = some replacement := by
    rw [put, getElem?_modify_self present]
  rw [idsAt_of_present there, idsAt_of_present present, pushed, Registry.ids_push]

theorem idsAt_registerMade (world : World) {context : Nat} {make : Effect Store ClassRecord}
    {record : ClassRecord} {store : Store} (makes : make.perform world.store = (.ok record, store)) :
    (((registerMade context make).perform world).2).idsAt context =
      world.idsAt context ++ ((registerMade context make).classAnswered? world).toList := by
  have performs : (registerMade context make).perform world =
      (register context record).perform { world with store } := by
    simp only [registerMade, Effect.perform_bind, perform_onStore, makes]
  rw [Effect.classAnswered?, performs]
  rcases register_cases context record { world with store } with
    ⟨cause, failed⟩ | ⟨registry, present, registered⟩
  · rw [failed]
    exact (List.append_nil _).symm
  · rw [registered]
    exact idsAt_of_push present rfl rfl

theorem idsAt_createClass (world : World) (context : Nat) (name : String) :
    (((createClass context name).perform world).2).idsAt context =
      world.idsAt context ++ ((createClass context name).perform world).1.toOption.toList := by
  rcases createClass_cases context name world with ⟨cause, failed⟩ | ⟨realm, root, present, _, _, created⟩
  · rw [failed]
    exact (List.append_nil _).symm
  · rw [created]
    exact idsAt_of_push present rfl rfl

theorem idsAt_bind (world : World) (context : Nat) (target link : ClassId) :
    (world.act (.bind context target link)).idsAt context = world.idsAt context := by
  rw [act, Action.effect]
  rcases bind_cases context target link world with
    ⟨cause, failed⟩ | ⟨found, registry, present, bound, done⟩
  · rw [failed]
  · rw [done, idsAt_of_present (getElem?_modify_self present _), idsAt_of_present present,
      Context.registry_withRegistry, Registry.ids_of_bind bound]

/-- A context that is opened has the identifiers that it starts with, and there were none before. -/
theorem idsAt_of_open {added : Context} (opened : later.contexts = world.contexts.push added)
    (context : Nat) :
    later.idsAt context = world.idsAt context ++
      if world.contexts.size = context then added.registry.ids else [] := by
  by_cases last : world.contexts.size = context
  · subst last
    have absent : world.idsAt world.contexts.size = [] := by simp [idsAt]
    rw [if_pos rfl, absent, idsAt, opened, Array.getElem?_push_size]
    rfl
  · rw [if_neg last, List.append_nil]
    refine idsAt_of_same ?_
    rw [opened, Array.getElem?_push, if_neg (Ne.symm last)]

theorem idsAt_openContext (world : World) (context : Nat) (plan : ContextPlan) :
    (world.act (.openContext plan)).idsAt context =
      world.idsAt context ++ (Action.openContext plan).idsGiven world context := by
  cases plan with
  | bare =>
    have opened : (world.act (.openContext .bare)).contexts = world.contexts.push (.bare .empty) := rfl
    exact idsAt_of_open opened context
  | realm settings =>
    rw [act_openRealm]
    refine (idsAt_of_open rfl context).trans ?_
    simp only [Action.idsGiven, openContext, Effect.perform_bind, perform_onStore,
      Realm.perform_boot, perform_addContext]
    rfl

/-- An operation adds to the identifiers of a context those that it gives, behind all others. -/
theorem idsAt_act (world : World) (context : Nat) (action : Action) :
    (world.act action).idsAt context = world.idsAt context ++ action.idsGiven world context := by
  have elsewhere {acted : Nat} (acts : action.ActsIn acted) (apart : acted ≠ context) :
      (world.act action).idsAt context = world.idsAt context ++ [] :=
    (idsAt_of_same (sameElsewhere_act acts world context (Ne.symm apart))).trans
      (List.append_nil _).symm
  have quiet (leaves : action.LeavesContexts) :
      (world.act action).idsAt context = world.idsAt context ++ [] :=
    (idsAt_of_same (congrArg (·[context]?) (contexts_act leaves world))).trans
      (List.append_nil _).symm
  cases action with
  | openContext plan => exact idsAt_openContext world context plan
  | createClass acted name =>
    by_cases here : acted = context
    · subst here
      rw [act, Action.effect, Effect.perform_ignore, idsAt_createClass, Action.idsGiven, if_pos rfl]
    · rw [elsewhere rfl here, Action.idsGiven, if_neg here]
  | registerPending acted name kind =>
    by_cases here : acted = context
    · subst here
      rw [act, Action.effect, Effect.bind_ignore, Effect.perform_ignore, Action.idsGiven, if_pos rfl]
      exact idsAt_registerMade world (ClassRecord.perform_pending name kind world.store)
    · rw [elsewhere rfl here, Action.idsGiven, if_neg here]
  | registerLinked acted name kind link super members template =>
    by_cases here : acted = context
    · subst here
      rw [act, Action.effect, Effect.bind_ignore, Effect.perform_ignore, Action.idsGiven, if_pos rfl]
      exact idsAt_registerMade world
        (ClassRecord.perform_linked name kind link super _ _ world.store)
    · rw [elsewhere rfl here, Action.idsGiven, if_neg here]
  | bind acted target link =>
    by_cases here : acted = context
    · subst here
      rw [idsAt_bind]
      exact (List.append_nil _).symm
    · exact elsewhere rfl here
  | _ => exact quiet trivial

theorem idsAt_run (world : World) (context : Nat) (actions : List Action) :
    (world.run actions).idsAt context = world.idsAt context ++ world.idsGiven context actions := by
  induction actions generalizing world with
  | nil => exact (List.append_nil _).symm
  | cons action rest ih =>
    rw [run_cons, ih (world.act action), idsAt_act, idsGiven, List.append_assoc]

/-! ## The index and the arena agree -/

/-- After every run, in a bare registry and in a realm alike, the identifiers that the run gave to the
classes of the context are those of its classes, in their order, so that none was given twice, and what
the index, the arena and the enumeration tell of the classes agrees. The next class, if one is added, is
given the identifier that was announced, and this is the number of the classes before. Names may be
repeated and empty, links may be bound and tables may be written at any time. -/
theorem classes_indexed (actions : List Action) {context : Nat} {found : Context}
    (present : (empty.run actions).contexts[context]? = some found) :
    let world := empty.run actions
    let registry := found.registry
    registry.Consistent ∧ empty.idsGiven context actions = registry.ids ∧ registry.ids.Nodup ∧
    registry.nextId.index = registry.size ∧
    (∀ record, found = .bare registry →
      ∃ later, (register context record).perform world = (.ok (.ofClass registry.nextId), later) ∧
        later.contexts[context]? = some (.bare (registry.push record))) ∧
    ∀ name id later, (createClass context name).perform world = (.ok id, later) →
      id = registry.nextId ∧ ∃ record, record.name = name ∧
        later.contexts[context]? = some (found.withRegistry (registry.push record)) := by
  intro world registry
  have reachable : world.Reachable := ⟨actions, rfl⟩
  have given : empty.idsGiven context actions = registry.ids := by
    have none' : empty.idsAt context = [] := rfl
    rw [← idsAt_of_present present, idsAt_run, none', List.nil_append]
  refine ⟨(reachable.namesIndexed present).consistent, given, registry.nodup_ids, rfl,
    fun record bare => ?_, fun name id later created => ?_⟩
  · rw [bare] at present
    exact ⟨_, perform_register world present record, getElem?_modify_self present _⟩
  · obtain ⟨realm, root, there, _, rfl, rfl⟩ := exists_of_createClass_eq_ok created
    cases present.symm.trans there
    exact ⟨rfl, _, rfl, getElem?_modify_self there _⟩

/-! ## A name that is used twice -/

namespace Repeated

/-- Two classes of one name, with a class without a name between them. -/
def actions : List Action :=
  [.openContext .bare, .registerPending 0 "Dup" .user, .bind 0 ⟨0⟩ ⟨0⟩,
    .registerPending 0 "" .builtin, .write ⟨0⟩ (.set publicTier "x" (.ofClass ⟨0⟩)),
    .registerLinked 0 "Dup" .user ⟨0⟩ (some ⟨2⟩) [] []]

def first : Registry :=
  Registry.empty.push ⟨"Dup", .user, none, none, ⟨0⟩, ⟨1⟩⟩

def bound : Registry :=
  { first with classes := #[⟨"Dup", .user, some ⟨0⟩, none, ⟨0⟩, ⟨1⟩⟩] }

def registry : Registry :=
  (bound.push ⟨"", .builtin, none, none, ⟨2⟩, ⟨3⟩⟩).push
    ⟨"Dup", .user, some ⟨0⟩, some ⟨2⟩, ⟨4⟩, ⟨5⟩⟩

end Repeated

open Repeated in
/-- The class that is found by the name is the one that was registered last, and it is listed behind
the one that was registered first. -/
theorem classes_indexed_repeated :
    (empty.run actions).contexts[0]? = some (.bare registry) ∧
      empty.idsGiven 0 actions = [⟨0⟩, ⟨1⟩, ⟨2⟩] ∧ registry.findByName? "Dup" = some ⟨2⟩ ∧
      ⟨0⟩ ∈ registry.idsNamed "Dup" ∧ ⟨1⟩ ∉ registry.idsNamed "Dup" := by
  have present : (empty.run actions).contexts[0]? = some (.bare registry) := rfl
  obtain ⟨consistent, given, _⟩ := classes_indexed actions present
  refine ⟨present, given, (consistent.latest "Dup" ⟨2⟩).mpr ⟨?_, ?_⟩, ?_, ?_⟩
  · exact (consistent.mem_iff "Dup" ⟨2⟩).mpr ⟨_, rfl, rfl⟩
  · intro other member
    obtain ⟨record, there, _⟩ := (consistent.mem_iff "Dup" other).mp member
    have bound : other.index < 3 :=
      (Array.getElem?_eq_some_iff.mp (Registry.recordOf_eq_ok_iff.mp there)).1
    change other.index ≤ 2
    omega
  · exact (consistent.mem_iff "Dup" ⟨0⟩).mpr ⟨_, rfl, rfl⟩
  · intro member
    obtain ⟨record, there, named⟩ := (consistent.mem_iff "Dup" ⟨1⟩).mp member
    cases there
    revert named
    decide

end World

end ObjectModel
