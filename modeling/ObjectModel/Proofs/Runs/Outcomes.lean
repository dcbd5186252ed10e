import ObjectModel.Session

/-! # What operations on classes leave

The operations that add classes have several effects one after the other. Here each of them is
given with its outcome and the state that it leaves, so that nothing else has to take it apart.
-/

namespace ObjectModel

open Effect

section Outcomes

variable {α β : Type}

@[simp]
theorem ok_bind (answer : α) (next : α → Except Error β) :
    ((Except.ok answer : Except Error α) >>= next) = next answer :=
  rfl

@[simp]
theorem error_bind (cause : Error) (next : α → Except Error β) :
    ((Except.error cause : Except Error α) >>= next) = .error cause :=
  rfl

@[simp]
theorem pure_eq_ok (answer : α) : (pure answer : Except Error α) = .ok answer :=
  rfl

@[simp]
theorem throw_eq_error (cause : Error) : (throw cause : Except Error α) = .error cause :=
  rfl

@[simp]
theorem map_ok (answer : α) (change : α → β) :
    (Except.ok answer : Except Error α).map change = .ok (change answer) :=
  rfl

end Outcomes

/-! ## Registering -/

/-- The record of a class that is made over this store: its tables are the next two. -/
def Store.recordFor (store : Store) (name : String) (kind : ClassKind) (link super : Option ClassId) :
    ClassRecord :=
  ⟨name, kind, link, super, ⟨store.tables.size⟩, ⟨store.tables.size + 1⟩⟩

/-- The store with the two tables of a class, and with some more records. -/
def Store.withTables (store : Store) (members template : PropertyTable) (events : List LogRecord) :
    Store :=
  { store with
    tables := (store.tables.push members).push template
    journal := store.journal ++ events.toArray }

namespace ClassRecord

@[simp]
theorem perform_pending (name : String) (kind : ClassKind) (store : Store) :
    (pending name kind).perform store =
      (.ok (store.recordFor name kind none none), store.withTables .empty .empty []) := by
  simp [pending, perform_bind, Store.recordFor, Store.withTables]

@[simp]
theorem perform_linked (name : String) (kind : ClassKind) (link : ClassId) (super : Option ClassId)
    (members template : PropertyTable) (store : Store) :
    (linked name kind link super members template).perform store =
      (.ok (store.recordFor name kind (some link) super), store.withTables members template []) := by
  simp [linked, perform_bind, Store.recordFor, Store.withTables]

end ClassRecord

@[simp]
theorem Registry.perform_register (registry : Registry) (record : ClassRecord) (store : Store) :
    (registry.register record).perform store =
      (.ok (registry.nextId, registry.push record),
        { store with
          journal := store.journal.push (.registered record.name registry.nextId record.kind) }) := by
  simp [register]

theorem Registry.classes_foldl_push (records : List ClassRecord) (registry : Registry) :
    (records.foldl push registry).classes.toList = registry.classes.toList ++ records := by
  induction records generalizing registry with
  | nil => simp
  | cons record rest ih => simp [ih, push]

theorem Registry.recordOf_eq_ok_iff {registry : Registry} {id : ClassId} {record : ClassRecord} :
    registry.recordOf id = .ok record ↔ registry.classes[id.index]? = some record := by
  rw [recordOf]
  cases registry.classes[id.index]? <;> simp

/-- Binding succeeds for a pending link only, and replaces the one record. -/
theorem Registry.bind_eq_ok_iff {registry bound : Registry} {target link : ClassId} :
    registry.bind target link = .ok bound ↔
      ∃ record, registry.recordOf target = .ok record ∧ record.link = none ∧
        bound = { registry with
          classes := registry.classes.modify target.index fun _ => { record with link := some link } } := by
  rw [bind]
  cases found : registry.recordOf target with
  | error cause => simp
  | ok record =>
    cases linked : record.link with
    | none => simp [ClassRecord.bind, linked, eq_comm]
    | some old => simp [ClassRecord.bind, linked]

/-! ## Contexts -/

namespace World

variable {context : Nat} {world : World}

@[simp]
theorem perform_onStore {α : Type} (effect : Effect Store α) (world : World) :
    (onStore effect).perform world =
      ((effect.perform world.store).1, { world with store := (effect.perform world.store).2 }) :=
  rfl

theorem perform_contextAt {found : Context} (present : world.contexts[context]? = some found) :
    (contextAt context).perform world = (.ok found, world) := by
  simp [contextAt, perform_bind, present]

theorem perform_contextAt_of_none (absent : world.contexts[context]? = none) :
    ∃ cause, (contextAt context).perform world = (.error cause, world) := by
  simp [contextAt, perform_bind, absent]

theorem perform_realmAt {realm : Realm} (present : world.contexts[context]? = some (.realm realm)) :
    (realmAt context).perform world = (.ok realm, world) := by
  simp [realmAt, perform_bind, perform_contextAt present]

/-- Asking for a realm fails where there is none. -/
theorem perform_realmAt_of_ne (absent : ∀ realm, world.contexts[context]? ≠ some (.realm realm)) :
    ∃ cause, (realmAt context).perform world = (.error cause, world) := by
  cases found : world.contexts[context]? with
  | none =>
    obtain ⟨cause, missing⟩ := perform_contextAt_of_none found
    exact ⟨cause, by simp [realmAt, perform_bind, missing]⟩
  | some present =>
    cases present with
    | realm realm => exact absurd found (absent realm)
    | bare registry => simp [realmAt, perform_bind, perform_contextAt found]

theorem perform_replaceContext (context : Nat) (replacement : Context) (world : World) :
    (replaceContext context replacement).perform world =
      (.ok (), { world with contexts := world.contexts.modify context fun _ => replacement }) :=
  rfl

theorem perform_addContext (added : Context) (world : World) :
    (addContext added).perform world =
      (.ok (), { world with contexts := world.contexts.push added }) :=
  rfl

theorem perform_register (world : World) {registry : Registry}
    (present : world.contexts[context]? = some (.bare registry)) (record : ClassRecord) :
    (register context record).perform world =
      (.ok (.ofClass registry.nextId),
        { world with
          store := { world.store with
            journal := world.store.journal.push
              (.registered record.name registry.nextId record.kind) }
          contexts := world.contexts.modify context fun _ => .bare (registry.push record) }) := by
  simp [register, perform_bind, perform_contextAt present, perform_replaceContext]

/-- Registering fails and leaves the world as it is, or adds the class to the bare registry. -/
theorem register_cases (context : Nat) (record : ClassRecord) (world : World) :
    (∃ cause, (register context record).perform world = (.error cause, world)) ∨
    ∃ registry, world.contexts[context]? = some (.bare registry) ∧
      (register context record).perform world =
        (.ok (.ofClass registry.nextId),
          { world with
            store := { world.store with
              journal := world.store.journal.push
                (.registered record.name registry.nextId record.kind) }
            contexts := world.contexts.modify context fun _ => .bare (registry.push record) }) := by
  cases found : world.contexts[context]? with
  | none =>
    obtain ⟨cause, missing⟩ := perform_contextAt_of_none found
    exact .inl ⟨cause, by simp [register, perform_bind, missing]⟩
  | some present =>
    cases present with
    | bare registry => exact .inr ⟨registry, rfl, perform_register world found record⟩
    | realm realm =>
      exact .inl ⟨_, by simp only [register, perform_bind, perform_contextAt found]; rfl⟩

/-- Binding fails and leaves the world as it is, or puts the registry with the bound link in its
place. -/
theorem bind_cases (context : Nat) (target link : ClassId) (world : World) :
    (∃ cause, (bind context target link).perform world = (.error cause, world)) ∨
    ∃ found registry, world.contexts[context]? = some found ∧
      found.registry.bind target link = .ok registry ∧
      (bind context target link).perform world =
        (.ok (), { world with
          contexts := world.contexts.modify context fun _ => found.withRegistry registry }) := by
  cases present : world.contexts[context]? with
  | none =>
    obtain ⟨cause, missing⟩ := perform_contextAt_of_none present
    exact .inl ⟨cause, by simp [bind, perform_bind, missing]⟩
  | some found =>
    cases bound : found.registry.bind target link with
    | error cause =>
      exact .inl ⟨cause, by simp [bind, perform_bind, perform_contextAt present, bound]⟩
    | ok registry =>
      refine .inr ⟨found, registry, rfl, bound, ?_⟩
      simp [bind, perform_bind, perform_contextAt present, bound, perform_replaceContext]

end World

/-! ## Creating a class -/

namespace Realm

/-- The record of a class that the realm creates over this store. -/
def recordFor (realm : Realm) (store : Store) (name : String) : ClassRecord :=
  store.recordFor name .user (some realm.builtins.root) (some realm.builtins.root)

/-- The store after the realm has created a class: the members are the public entries of the table
of the root, and the template is empty. -/
def storeAfterCreating (realm : Realm) (store : Store) (rootMembers : TableRef) (name : String) :
    Store :=
  let source := store.table rootMembers
  store.withTables source.inheritable .empty
    [.snapshot source.inheritable.size source.size,
      .registered name realm.registry.nextId .user, .created name realm.registry.nextId]

/-- A realm that is ready and has its root linked creates a class, unless it refuses the name. -/
theorem perform_createClass {realm : Realm} {root : ClassRecord} {link : ClassId}
    (ready : realm.bootstrapped = true) (found : realm.registry.recordOf realm.builtins.root = .ok root)
    (linked : root.link = some link) (name : String) (store : Store) :
    (realm.createClass name).perform store =
      if name = "" ∧ realm.settings.allowsEmptyNames = false then
        (.error (.argument "class name must not be empty"), store)
      else
        (.ok (realm.registry.nextId,
          { realm with registry := realm.registry.push (realm.recordFor store name) }),
          realm.storeAfterCreating store root.members name) := by
  by_cases refused : name = "" ∧ realm.settings.allowsEmptyNames = false
  · simp [createClass, ready, refused]
  · rw [if_neg refused]
    simp [createClass, ready, refused, perform_bind, Registry.classOf, found, ClassRecord.classOf,
      linked, Registry.membersOf, storeAfterCreating, Store.withTables, recordFor, Store.recordFor]
    exact Array.toList_inj.mp (by simp)

/-- Creating a class fails and leaves the store as it is, or adds a class with an acceptable name at
the end. -/
theorem createClass_cases (realm : Realm) (name : String) (store : Store) :
    (∃ cause, (realm.createClass name).perform store = (.error cause, store)) ∨
    ∃ root, realm.registry.recordOf realm.builtins.root = .ok root ∧
      (name = "" → realm.settings.allowsEmptyNames = true) ∧
      (realm.createClass name).perform store =
        (.ok (realm.registry.nextId,
          { realm with registry := realm.registry.push (realm.recordFor store name) }),
          realm.storeAfterCreating store root.members name) := by
  by_cases early : realm.bootstrapped = false
  · exact .inl ⟨.bootstrap ("create('" ++ name ++ "') called before bootstrap completed"),
      by simp [createClass, early]⟩
  have ready : realm.bootstrapped = true := by simpa using early
  by_cases refused : name = "" ∧ realm.settings.allowsEmptyNames = false
  · exact .inl ⟨.argument "class name must not be empty", by simp [createClass, ready, refused]⟩
  cases found : realm.registry.recordOf realm.builtins.root with
  | error cause =>
    exact .inl ⟨cause, by simp [createClass, ready, refused, perform_bind, Registry.classOf, found]⟩
  | ok root =>
    cases linked : root.link with
    | none =>
      refine .inl ⟨.bootstrap ("class '" ++ root.name ++ "' used before its bootstrap completed"), ?_⟩
      simp [createClass, ready, refused, perform_bind, Registry.classOf, found, ClassRecord.classOf,
        linked]
    | some link =>
      refine .inr ⟨root, rfl, by simpa using refused, ?_⟩
      rw [perform_createClass ready found linked, if_neg refused]

end Realm

/-- Creating a class in a context fails and leaves the world as it is, or puts a realm with one class
more in the place of the realm. -/
theorem World.createClass_cases (context : Nat) (name : String) (world : World) :
    (∃ cause, (createClass context name).perform world = (.error cause, world)) ∨
    ∃ realm root, world.contexts[context]? = some (.realm realm) ∧
      realm.registry.recordOf realm.builtins.root = .ok root ∧
      (name = "" → realm.settings.allowsEmptyNames = true) ∧
      (createClass context name).perform world =
        (.ok realm.registry.nextId,
          { world with
            store := realm.storeAfterCreating world.store root.members name
            contexts := world.contexts.modify context fun _ =>
              .realm { realm with
                registry := realm.registry.push (realm.recordFor world.store name) } }) := by
  by_cases present : ∃ realm, world.contexts[context]? = some (.realm realm)
  · obtain ⟨realm, present⟩ := present
    rcases realm.createClass_cases name world.store with
      ⟨cause, failed⟩ | ⟨root, found, accepted, created⟩
    · exact .inl ⟨cause, by simp [createClass, perform_bind, perform_realmAt present, failed]⟩
    · refine .inr ⟨realm, root, present, found, accepted, ?_⟩
      simp [createClass, perform_bind, perform_realmAt present, created, perform_replaceContext]
  · obtain ⟨cause, failed⟩ := perform_realmAt_of_ne (not_exists.mp present)
    exact .inl ⟨cause, by simp [createClass, perform_bind, failed]⟩

/-- A class that was created is the last one of a realm. -/
theorem World.exists_of_createClass_eq_ok {context : Nat} {name : String} {world later : World}
    {id : ClassId} (created : (createClass context name).perform world = (.ok id, later)) :
    ∃ realm root, world.contexts[context]? = some (.realm realm) ∧
      realm.registry.recordOf realm.builtins.root = .ok root ∧ id = realm.registry.nextId ∧
      later = { world with
        store := realm.storeAfterCreating world.store root.members name
        contexts := world.contexts.modify context fun _ =>
          .realm { realm with
            registry := realm.registry.push (realm.recordFor world.store name) } } := by
  rcases createClass_cases context name world with
    ⟨cause, failed⟩ | ⟨realm, root, present, found, _, performs⟩
  · rw [failed] at created
    cases created
  · rw [performs] at created
    cases created
    exact ⟨realm, root, present, found, rfl, rfl⟩

/-! ## The bootstrap -/

namespace Realm

/-- A class that every realm starts with: it is linked to the root, has no super, and its tables are
the two at its position among the tables of the bootstrap. -/
def startRecord (first position : Nat) (name : String) (kind : ClassKind) : ClassRecord :=
  ⟨name, kind, some ⟨0⟩, none, ⟨first + 2 * position⟩, ⟨first + 2 * position + 1⟩⟩

/-- The classes that a realm starts with, over the tables from a position on. -/
def startRecords (settings : Settings) (first : Nat) : List ClassRecord :=
  [startRecord first 0 settings.rootName .metaclass, startRecord first 1 "Method" .builtin,
    startRecord first 2 "UnboundMethod" .builtin, startRecord first 3 "String" .builtin,
    startRecord first 4 "Integer" .builtin]

/-- No class that a realm starts with is a user class. -/
theorem exists_startRecord_of_mem {settings : Settings} {first : Nat} {record : ClassRecord}
    (start : record ∈ startRecords settings first) :
    ∃ position name kind, record = startRecord first position name kind ∧ kind ≠ .user := by
  simp only [startRecords, List.mem_cons, List.not_mem_nil, or_false] at start
  rcases start with rfl | rfl | rfl | rfl | rfl <;> exact ⟨_, _, _, rfl, by decide⟩

/-- The realm that the bootstrap builds over the tables from a position on. -/
def started (settings : Settings) (first : Nat) : Realm where
  registry := (startRecords settings first).foldl Registry.push .empty
  builtins := ⟨⟨0⟩, ⟨1⟩, ⟨2⟩, ⟨3⟩, ⟨4⟩⟩
  settings := settings
  bootstrapped := true

/-- The class constructor that the bootstrap makes in this store. -/
def startConstructor (store : Store) : Value :=
  .method ⟨store.objects.size, ⟨1⟩, ⟨store.tables.size + 2⟩, .create⟩

/-- The store that the bootstrap leaves. -/
def storeAfterBoot (settings : Settings) (store : Store) : Store where
  tables := store.tables ++
    (PropertyTable.empty.set publicTier "create" (startConstructor store) ::
      List.replicate 9 PropertyTable.empty).toArray
  objects := store.objects.push (startConstructor store)
  journal := store.journal ++
    #[.registered settings.rootName ⟨0⟩ .metaclass, .rootBound settings.rootName,
      .registered "Method" ⟨1⟩ .builtin, .registered "UnboundMethod" ⟨2⟩ .builtin,
      .registered "String" ⟨3⟩ .builtin, .registered "Integer" ⟨4⟩ .builtin, .bootstrapComplete 5]
  writes := store.writes.push
    ⟨⟨store.tables.size⟩, .members, .set publicTier "create" (startConstructor store)⟩

@[simp]
theorem perform_registerBuiltin (registry : Registry) (root : ClassId) (name : String)
    (store : Store) :
    (registerBuiltin registry root name).perform store =
      (.ok (registry.nextId, registry.push (store.recordFor name .builtin (some root) none)),
        store.withTables .empty .empty [.registered name registry.nextId .builtin]) := by
  simp [registerBuiltin, perform_bind, Store.recordFor, Store.withTables]

private theorem modify_length_append {α : Type} (front rest : List α) (item : α) (change : α → α) :
    (front ++ item :: rest).modify front.length change = front ++ change item :: rest := by
  induction front with
  | nil => rfl
  | cons first front ih => simp [ih]

/-- The bootstrap succeeds over every store. -/
theorem perform_boot (settings : Settings) (store : Store) :
    (boot settings).perform store =
      (.ok (started settings store.tables.size), storeAfterBoot settings store) := by
  simp [boot, perform_bind, defineMethod, newMethod, setProperty, Store.addMethod, Registry.bind,
    Registry.recordOf, Registry.membersOf, ClassRecord.bind, Registry.nextId, Registry.size,
    Registry.push, Registry.empty, Registry.idsNamed, Store.recordFor, Store.withTables,
    Builtins.wrapper, Convention.wrap, started, startRecords, startRecord, storeAfterBoot,
    startConstructor, PropertyTable.apply]
  constructor
  · apply Array.toList_inj.mp
    simpa [startConstructor] using modify_length_append store.tables.toList (List.replicate 9 .empty) .empty
      (·.set publicTier "create" (startConstructor store))
  · exact Array.toList_inj.mp (by simp)

end Realm

end ObjectModel
