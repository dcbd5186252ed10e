import ObjectModel.Proofs.Runs.Growth

/-! # Who owns a table

Every class owns two tables, its members and its template, and every plain instance owns one. Each
of them is handed a new table when it is made, so no two of them ever share a table, whatever
contexts they are in. Only methods are made over a table that is there already. A change to a table
is therefore seen by at most one class or plain instance.
-/

namespace ObjectModel

/-- What a table can belong to. A class is named by the position of its context and its identifier,
a plain instance by its identity. -/
inductive Owner where
  | members (context : Nat) (id : ClassId)
  | template (context : Nat) (id : ClassId)
  | plain (identity : Nat)

/-- The identity of a value that is no class. -/
def Value.identity? : Value → Option Nat
  | .ofClass _ => none
  | .plain object => some object.identity
  | .method wrapped | .unboundMethod wrapped => some wrapped.identity

namespace World

/-- The record of a class in the context at a position. -/
def recordAt? (world : World) (context : Nat) (id : ClassId) : Option ClassRecord := do
  let found ← world.contexts[context]?
  (found.registry.recordOf id).toOption

/-- The handle of the table that an owner has, if there is such an owner. -/
def tableOf? (world : World) : Owner → Option TableRef
  | .members context id => (world.recordAt? context id).map ClassRecord.members
  | .template context id => (world.recordAt? context id).map ClassRecord.template
  | .plain identity =>
    match world.store.objects[identity]? with
    | some (.plain object) => some object.table
    | _ => none

/-- Every owner has a table of the store, and no two owners have the same one. -/
structure TablesOwned (world : World) : Prop where
  inStore : ∀ {owner : Owner} {ref : TableRef}, world.tableOf? owner = some ref →
    ref.index < world.store.tables.size
  unique : ∀ {first second : Owner} {ref : TableRef}, world.tableOf? first = some ref →
    world.tableOf? second = some ref → first = second

theorem recordAt?_eq_some_iff {world : World} {context : Nat} {id : ClassId} {record : ClassRecord} :
    world.recordAt? context id = some record ↔
      ∃ found, world.contexts[context]? = some found ∧ found.registry.recordOf id = .ok record := by
  cases present : world.contexts[context]? with
  | none => simp [recordAt?, present]
  | some found => cases there : found.registry.recordOf id <;>
    simp [recordAt?, present, there, Except.toOption]

theorem tableOf?_plain_iff {world : World} {identity : Nat} {ref : TableRef} :
    world.tableOf? (.plain identity) = some ref ↔
      ∃ object, world.store.objects[identity]? = some (.plain object) ∧ object.table = ref := by
  rw [tableOf?]
  rcases world.store.objects[identity]? with _ | ⟨_ | _ | _ | _⟩ <;> simp

theorem tableOf?_members_eq_some_iff {world : World} {context : Nat} {found : Context} {id : ClassId}
    {ref : TableRef} (present : world.contexts[context]? = some found) :
    world.tableOf? (.members context id) = some ref ↔ found.registry.membersOf id = .ok ref := by
  cases record : found.registry.recordOf id <;>
    simp [tableOf?, recordAt?, present, Registry.membersOf, record, Except.toOption]

theorem tableOf?_members_iff {world : World} {context : Nat} {realm : Realm} {id : ClassId}
    {ref : TableRef} (present : world.contexts[context]? = some (.realm realm)) :
    world.tableOf? (.members context id) = some ref ↔ realm.registry.membersOf id = .ok ref :=
  tableOf?_members_eq_some_iff present

theorem tableOf?_template_iff {world : World} {context : Nat} {realm : Realm} {id : ClassId}
    {ref : TableRef} (present : world.contexts[context]? = some (.realm realm)) :
    world.tableOf? (.template context id) = some ref ↔ realm.registry.templateOf id = .ok ref := by
  cases record : realm.registry.recordOf id <;>
    simp [tableOf?, recordAt?, present, Context.registry, Registry.templateOf, record, Except.toOption]

/-- A class record is never taken out of its context. -/
theorem GrowsTo.recordAt? {world later : World} (grows : world.GrowsTo later) {context : Nat}
    {id : ClassId} {record : ClassRecord} (present : world.recordAt? context id = some record) :
    ∃ after, later.recordAt? context id = some after ∧ record.GrowsTo after := by
  obtain ⟨found, inWorld, inFound⟩ := recordAt?_eq_some_iff.mp present
  obtain ⟨found', inLater, grown⟩ := grows.contexts inWorld
  obtain ⟨after, inFound', grew⟩ := grown.classes (Registry.recordOf_eq_ok_iff.mp inFound)
  exact ⟨after, recordAt?_eq_some_iff.mpr
    ⟨found', inLater, Registry.recordOf_eq_ok_iff.mpr inFound'⟩, grew⟩

/-- Every owner keeps its table. -/
theorem GrowsTo.tableOf? {world later : World} (grows : world.GrowsTo later) {owner : Owner}
    {ref : TableRef} (owned : world.tableOf? owner = some ref) :
    later.tableOf? owner = some ref := by
  cases owner with
  | members context id =>
    obtain ⟨record, present, rfl⟩ := Option.map_eq_some_iff.mp owned
    obtain ⟨after, present', grew⟩ := grows.recordAt? present
    exact Option.map_eq_some_iff.mpr ⟨after, present', grew.members_eq⟩
  | template context id =>
    obtain ⟨record, present, rfl⟩ := Option.map_eq_some_iff.mp owned
    obtain ⟨after, present', grew⟩ := grows.recordAt? present
    exact Option.map_eq_some_iff.mpr ⟨after, present', grew.template_eq⟩
  | plain identity =>
    obtain ⟨object, present, same⟩ := tableOf?_plain_iff.mp owned
    exact tableOf?_plain_iff.mpr ⟨object, grows.store.getElem?_objects present, same⟩

/-! ## Handing out new tables -/

/-- The later world may have more owners. Each of them stands in the list at the place of the new
table that it was handed. -/
structure Hands (world : World) (fresh : List Owner) (later : World) : Prop where
  room : world.store.tables.size + fresh.length ≤ later.store.tables.size
  records : ∀ {context : Nat} {id : ClassId} {record : ClassRecord},
    later.recordAt? context id = some record →
      (∃ old, world.recordAt? context id = some old ∧ record.members = old.members ∧
        record.template = old.template) ∨
      ∃ place, fresh[place]? = some (.members context id) ∧
        fresh[place + 1]? = some (.template context id) ∧
        record.members = ⟨world.store.tables.size + place⟩ ∧
        record.template = ⟨world.store.tables.size + (place + 1)⟩
  objects : ∀ {identity : Nat} {object : PlainInstance},
    later.store.objects[identity]? = some (.plain object) →
      world.store.objects[identity]? = some (.plain object) ∨
      ∃ place, fresh[place]? = some (.plain identity) ∧
        object.table = ⟨world.store.tables.size + place⟩

namespace Hands

variable {world later : World} {fresh : List Owner}

/-- The table of an owner is the one it had, or a new one that it was handed. -/
theorem tableOf?_cases (hands : world.Hands fresh later) {owner : Owner} {ref : TableRef}
    (owned : later.tableOf? owner = some ref) :
    world.tableOf? owner = some ref ∨
      ∃ place, fresh[place]? = some owner ∧ ref = ⟨world.store.tables.size + place⟩ := by
  cases owner with
  | members context id =>
    obtain ⟨record, present, rfl⟩ := Option.map_eq_some_iff.mp owned
    rcases hands.records present with ⟨old, was, same, _⟩ | ⟨place, handed, _, at', _⟩
    · exact .inl (Option.map_eq_some_iff.mpr ⟨old, was, same.symm⟩)
    · exact .inr ⟨place, handed, at'⟩
  | template context id =>
    obtain ⟨record, present, rfl⟩ := Option.map_eq_some_iff.mp owned
    rcases hands.records present with ⟨old, was, _, same⟩ | ⟨place, _, handed, _, at'⟩
    · exact .inl (Option.map_eq_some_iff.mpr ⟨old, was, same.symm⟩)
    · exact .inr ⟨place + 1, handed, at'⟩
  | plain identity =>
    obtain ⟨object, present, rfl⟩ := tableOf?_plain_iff.mp owned
    rcases hands.objects present with was | ⟨place, handed, at'⟩
    · exact .inl (tableOf?_plain_iff.mpr ⟨object, was, rfl⟩)
    · exact .inr ⟨place, handed, at'⟩

theorem tablesOwned (hands : world.Hands fresh later) (owned : world.TablesOwned) :
    later.TablesOwned where
  inStore := by
    intro owner ref has
    rcases hands.tableOf?_cases has with old | ⟨place, handed, rfl⟩
    · have room := hands.room
      have bound := owned.inStore old
      omega
    · have room := hands.room
      have bound := (List.getElem?_eq_some_iff.mp handed).1
      simp only
      omega
  unique := by
    intro first second ref hasFirst hasSecond
    -- an old handle is never a new one, because new tables come behind the old ones
    rcases hands.tableOf?_cases hasFirst with oldFirst | ⟨place, handed, rfl⟩ <;>
      rcases hands.tableOf?_cases hasSecond with oldSecond | ⟨place', handed', same⟩
    · exact owned.unique oldFirst oldSecond
    · have bound := owned.inStore oldFirst
      rw [same] at bound
      simp only at bound
      omega
    · have bound := owned.inStore oldSecond
      simp only at bound
      omega
    · obtain rfl : place = place' := by
        simpa using congrArg TableRef.index same
      exact Option.some.inj (handed.symm.trans handed')

/-- Nobody is handed a table where neither the records nor the plain instances change. -/
theorem of_same (room : world.store.tables.size ≤ later.store.tables.size)
    (contexts : later.contexts = world.contexts)
    (objects : ∀ {identity : Nat} {object : PlainInstance},
      later.store.objects[identity]? = some (.plain object) →
        world.store.objects[identity]? = some (.plain object)) : world.Hands [] later where
  room := room
  records := by
    intro context id record present
    rw [recordAt?, contexts] at present
    exact .inl ⟨record, present, rfl, rfl⟩
  objects present := .inl (objects present)

/-- A class that is added to a context is handed two tables. -/
theorem of_register {context : Nat} {found : Context} {record : ClassRecord}
    (room : world.store.tables.size + 2 ≤ later.store.tables.size)
    (there : world.contexts[context]? = some found)
    (contexts : later.contexts = world.contexts.modify context fun _ =>
      found.withRegistry (found.registry.push record))
    (members : record.members = ⟨world.store.tables.size⟩)
    (template : record.template = ⟨world.store.tables.size + 1⟩)
    (objects : later.store.objects = world.store.objects) :
    world.Hands [.members context found.registry.nextId, .template context found.registry.nextId]
      later where
  room := room
  objects present := .inl (objects ▸ present)
  records := by
    intro other id after present
    obtain ⟨found', inLater, inFound⟩ := recordAt?_eq_some_iff.mp present
    rw [contexts] at inLater
    rcases getElem?_modify_cases inLater with ⟨rfl, rfl⟩ | old
    · rw [Context.registry_withRegistry, Registry.recordOf_eq_ok_iff] at inFound
      rcases getElem?_push_cases inFound with ⟨last, rfl⟩ | old
      · have same : id = found.registry.nextId := congrArg ClassId.mk last
        exact .inr ⟨0, by simp [same], by simp [same], members, template⟩
      · exact .inl ⟨after, recordAt?_eq_some_iff.mpr
          ⟨found, there, Registry.recordOf_eq_ok_iff.mpr old⟩, rfl, rfl⟩
    · exact .inl ⟨after, recordAt?_eq_some_iff.mpr ⟨found', old, inFound⟩, rfl, rfl⟩

end Hands

theorem Hands.of_addPlain {world : World} (ofClass : ClassId) (table : PropertyTable)
    (payload : Option Primitive) :
    world.Hands [.plain world.store.objects.size]
      { world with store := { world.store with
          tables := world.store.tables.push table
          objects := world.store.objects.push (.plain
            ⟨world.store.objects.size, ofClass, ⟨world.store.tables.size⟩, payload⟩) } } where
  room := by simp
  records present := .inl ⟨_, present, rfl, rfl⟩
  objects := by
    intro identity object present
    rcases getElem?_push_cases present with ⟨rfl, new⟩ | old
    · cases new
      exact .inr ⟨0, rfl, rfl⟩
    · exact .inl old

/-- A new realm is handed the two tables of each class that it starts with. -/
theorem Hands.of_openRealm (world : World) (settings : Settings) :
    ∃ fresh, world.Hands fresh
      { world with
        store := Realm.storeAfterBoot settings world.store
        contexts := world.contexts.push
          (.realm (Realm.started settings world.store.tables.size)) } := by
  let context := world.contexts.size
  refine ⟨[.members context ⟨0⟩, .template context ⟨0⟩, .members context ⟨1⟩, .template context ⟨1⟩,
    .members context ⟨2⟩, .template context ⟨2⟩, .members context ⟨3⟩, .template context ⟨3⟩,
    .members context ⟨4⟩, .template context ⟨4⟩], ?_, ?_, ?_⟩
  · simp [Realm.storeAfterBoot]
  · intro other id record present
    obtain ⟨found, inLater, inFound⟩ := recordAt?_eq_some_iff.mp present
    rcases getElem?_push_cases inLater with ⟨rfl, rfl⟩ | old
    · right
      rw [Registry.recordOf_eq_ok_iff, Context.registry, Realm.started, ← Array.getElem?_toList,
        Registry.classes_foldl_push] at inFound
      obtain ⟨index⟩ := id
      have bound : index < 5 := (List.getElem?_eq_some_iff.mp inFound).1
      obtain rfl | rfl | rfl | rfl | rfl :
          index = 0 ∨ index = 1 ∨ index = 2 ∨ index = 3 ∨ index = 4 := by omega
      all_goals
        cases inFound
        exact ⟨_, rfl, rfl, rfl, rfl⟩
    · exact .inl ⟨record, recordAt?_eq_some_iff.mpr ⟨found, old, inFound⟩, rfl, rfl⟩
  · intro identity object present
    rcases getElem?_push_cases present with ⟨_, new⟩ | old
    · cases new
    · exact .inl old

/-- Whatever a move makes is handed new tables. -/
theorem Move.hands {world later : World} (move : Move world later) :
    ∃ fresh, world.Hands fresh later := by
  have room := Store.size_le_of_prefix move.tables
  cases move with
  | store move =>
    cases move with
    | record | addTable => exact ⟨[], .of_same room rfl id⟩
    | addPlain ofClass table payload => exact ⟨_, Hands.of_addPlain ofClass table payload⟩
    | addMethod convention ofClass table callable =>
      refine ⟨[], .of_same room rfl fun present => ?_⟩
      rcases getElem?_push_cases present with ⟨_, new⟩ | old
      · cases convention <;> cases new
      · exact old
  | keep => exact ⟨[], .of_same room rfl id⟩
  | register present =>
    exact ⟨_, Hands.of_register (by simp [Store.withTables]) present rfl rfl rfl rfl⟩
  | createClass present =>
    exact ⟨_, Hands.of_register (by simp [Realm.storeAfterCreating, Store.withTables]) present rfl rfl
      rfl rfl⟩
  | @bind context found target link registry there bound =>
    refine ⟨[], Nat.le_refl _, ?_, .inl⟩
    intro other id record present
    obtain ⟨found', inLater, inFound⟩ := recordAt?_eq_some_iff.mp present
    rcases getElem?_modify_cases inLater with ⟨rfl, rfl⟩ | old
    · obtain ⟨old, was, _, rfl⟩ := Registry.bind_eq_ok_iff.mp bound
      rw [Context.registry_withRegistry, Registry.recordOf_eq_ok_iff] at inFound
      rcases getElem?_modify_cases inFound with ⟨here, rfl⟩ | same
      · obtain rfl : target = id := congrArg ClassId.mk here
        exact .inl ⟨old, recordAt?_eq_some_iff.mpr ⟨found, there, was⟩, rfl, rfl⟩
      · exact .inl ⟨record, recordAt?_eq_some_iff.mpr
          ⟨found, there, Registry.recordOf_eq_ok_iff.mpr same⟩, rfl, rfl⟩
    · exact .inl ⟨record, recordAt?_eq_some_iff.mpr ⟨found', old, inFound⟩, rfl, rfl⟩
  | openBare =>
    refine ⟨[], Nat.le_refl _, ?_, .inl⟩
    intro context id record present
    obtain ⟨found, inLater, inFound⟩ := recordAt?_eq_some_iff.mp present
    rcases getElem?_push_cases inLater with ⟨_, rfl⟩ | old
    · simp [Context.registry, Registry.recordOf, Registry.empty] at inFound
    · exact .inl ⟨record, recordAt?_eq_some_iff.mpr ⟨found, old, inFound⟩, rfl, rfl⟩
  | openRealm settings => exact Hands.of_openRealm world settings

theorem tableOf?_empty (owner : Owner) : empty.tableOf? owner = none := by
  cases owner <;> rfl

theorem Reachable.tablesOwned {world : World} (reachable : world.Reachable) : world.TablesOwned := by
  obtain ⟨actions, rfl⟩ := reachable
  refine run_preserves_of_move (fun move owned => ?_)
    (fun world ref route change owned => ?_) ?_ actions
  · obtain ⟨fresh, hands⟩ := move.hands
    exact hands.tablesOwned owned
  · have hands : world.Hands [] (world.written ref route change) :=
      .of_same (by simp [written]) rfl id
    exact hands.tablesOwned owned
  · exact ⟨fun has => by simp [tableOf?_empty] at has, fun has => by simp [tableOf?_empty] at has⟩

/-- Along a run the table of an owner is what the changes through its handle make of it. -/
theorem Reachable.entries_run {world : World} (reachable : world.Reachable) {owner : Owner}
    {ref : TableRef} (has : world.tableOf? owner = some ref) (actions : List Action) :
    ((world.run actions).store.table ref).entries.toList =
      (world.changesAt ref actions).foldl EntryList.apply (world.store.table ref).entries.toList := by
  rw [world.table_run (reachable.tablesOwned.inStore has) actions,
    PropertyTable.toList_changes (reachable.coherent.table ref)]

/-! ## Objects -/

/-- Every object was told its position in the store as its identity. -/
def ObjectsIdentified (world : World) : Prop :=
  ∀ (identity : Nat) (value : Value), world.store.objects[identity]? = some value →
    value.identity? = some identity

theorem Move.objectsIdentified {world later : World} (move : Move world later)
    (identified : world.ObjectsIdentified) : later.ObjectsIdentified := by
  intro identity value present
  cases move with
  | store move =>
    cases move with
    | record | addTable => exact identified identity value present
    | addPlain =>
      rcases getElem?_push_cases present with ⟨rfl, rfl⟩ | old
      · rfl
      · exact identified identity value old
    | addMethod convention =>
      rcases getElem?_push_cases present with ⟨rfl, rfl⟩ | old
      · cases convention <;> rfl
      · exact identified identity value old
  | openRealm =>
    rcases getElem?_push_cases present with ⟨rfl, rfl⟩ | old
    · rfl
    · exact identified identity value old
  | keep | register | createClass | bind | openBare => exact identified identity value present

theorem Reachable.objectsIdentified {world : World} (reachable : world.Reachable) :
    world.ObjectsIdentified := by
  obtain ⟨actions, rfl⟩ := reachable
  refine run_preserves_of_move Move.objectsIdentified
    (fun _ _ _ _ identified => identified) ?_ actions
  intro identity value present
  simp [empty, Store.empty] at present

/-! ## What one operation can change -/

/-- The operation changes the table that an owner has before it. -/
def Alters (world : World) (action : Action) (owner : Owner) : Prop :=
  ∃ ref, world.tableOf? owner = some ref ∧
    (world.act action).store.table ref ≠ world.store.table ref

/-- An operation changes one table at most. -/
theorem exists_written (world : World) (action : Action) :
    ∃ written : TableRef, ∀ other : TableRef, other.index < world.store.tables.size →
      other ≠ written → (world.act action).store.table other = world.store.table other := by
  cases named : action.change? world with
  | none =>
    refine ⟨⟨0⟩, fun other bound _ => ?_⟩
    rw [table_act world action bound, Action.changesAt, named]
    rfl
  | some one =>
    obtain ⟨target, change⟩ := one
    refine ⟨target, fun other bound differ => ?_⟩
    rw [table_act world action bound, Action.changesAt, named, TableRef.concerned,
      if_neg (Ne.symm differ)]
    rfl

/-- An operation alters the table of one owner at most. -/
theorem TablesOwned.alters_unique {world : World} (owned : world.TablesOwned) {action : Action}
    {first second : Owner} (altersFirst : world.Alters action first)
    (altersSecond : world.Alters action second) : first = second := by
  obtain ⟨written, only⟩ := world.exists_written action
  have isWritten {owner : Owner} {ref : TableRef} (has : world.tableOf? owner = some ref)
      (altered : (world.act action).store.table ref ≠ world.store.table ref) : ref = written := by
    by_contra differ
    exact altered (only ref (owned.inStore has) differ)
  obtain ⟨ref, hasFirst, alteredFirst⟩ := altersFirst
  obtain ⟨ref', hasSecond, alteredSecond⟩ := altersSecond
  obtain rfl := isWritten hasFirst alteredFirst
  obtain rfl := isWritten hasSecond alteredSecond
  exact owned.unique hasFirst hasSecond

/-- Only a method can share a table with a class. -/
theorem TablesOwned.isMethod_of_shared {world : World} (owned : world.TablesOwned)
    (identified : world.ObjectsIdentified) {identity : Nat} {value : Value}
    (present : world.store.objects[identity]? = some value) {registry : Registry} {ref : TableRef}
    (has : registry.tableOfValue value = .ok ref) {context : Nat} {id : ClassId}
    (shared : world.tableOf? (.members context id) = some ref ∨
      world.tableOf? (.template context id) = some ref) :
    ∃ convention wrapped, value = Convention.wrap convention wrapped := by
  cases value with
  | ofClass other => cases identified identity _ present
  | plain object =>
    cases has
    have own : world.tableOf? (.plain identity) = some object.table :=
      tableOf?_plain_iff.mpr ⟨object, present, rfl⟩
    rcases shared with members | template
    · cases owned.unique own members
    · cases owned.unique own template
  | method wrapped => exact ⟨.method, wrapped, rfl⟩
  | unboundMethod wrapped => exact ⟨.unboundMethod, wrapped, rfl⟩

/-- After every run, over any number of realms and bare registries, the tables of classes, templates
and plain instances are apart: each is in the store, and no two owners have the same. An object that
has the table of a class is a method. From there on every owner keeps its table, whatever operation
comes next; the operation alters the table of one owner at most, and a change through a handle leaves
every table behind another handle as it is. -/
theorem tables_apart (actions : List Action) :
    let world := World.empty.run actions
    world.TablesOwned ∧
    (∀ (identity : Nat) (value : Value), world.store.objects[identity]? = some value →
      value.identity? = some identity ∧
      ∀ (registry : Registry) (ref : TableRef) (context : Nat) (id : ClassId),
        registry.tableOfValue value = .ok ref →
        (world.tableOf? (.members context id) = some ref ∨
          world.tableOf? (.template context id) = some ref) →
        ∃ convention wrapped, value = Convention.wrap convention wrapped) ∧
    (∀ action : Action,
      (∀ (owner : Owner) (ref : TableRef), world.tableOf? owner = some ref →
        (world.act action).tableOf? owner = some ref) ∧
      (∀ first second : Owner, world.Alters action first → world.Alters action second →
        first = second) ∧
      ∃ written : TableRef, ∀ other : TableRef, other.index < world.store.tables.size →
        other ≠ written → (world.act action).store.table other = world.store.table other) ∧
    ∀ (ref : TableRef) (change : TableChange) (other : TableRef), other ≠ ref →
      (world.act (.write ref change)).store.table other = world.store.table other := by
  intro world
  have reachable : world.Reachable := ⟨actions, rfl⟩
  have owned := reachable.tablesOwned
  have identified := reachable.objectsIdentified
  refine ⟨owned, ?_, fun action => ⟨?_, ?_, world.exists_written action⟩, ?_⟩
  · intro identity value present
    refine ⟨identified identity value present, fun registry ref context id has shared => ?_⟩
    exact owned.isMethod_of_shared identified present has shared
  · intro owner ref has
    exact (world.grows_act action).tableOf? has
  · intro first second altersFirst altersSecond
    exact owned.alters_unique altersFirst altersSecond
  · intro ref change other differ
    exact Store.table_write_of_ne differ .handle change world.store

end World

end ObjectModel
