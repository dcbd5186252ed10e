import ObjectModel.Proofs.Realms.Shape
import ObjectModel.Proofs.Tables.Ownership

/-! # Classes copy when they are created

A class of a realm gets a copy of the public members that the root has at the moment of its creation.
From then on its table is its own: at every later point of every run it holds that copy with the
changes that were made to the class itself, one after the other, and what is read of the class is
read from there. Nothing that happens to the root or to any other table is seen through the class.
-/

namespace ObjectModel

open Relation

/-! ## Reading a class -/

section Reading

variable {store : Store} {id : ClassId} {ref : TableRef}

theorem Realm.perform_getProperty {realm : Realm} (members : realm.registry.membersOf id = .ok ref)
    (name : String) :
    (realm.getProperty id name).perform store = ((store.table ref).get name, store) := by
  simp [getProperty, Effect.perform_bind, members]

/-- A class is searched in its own table only, and the search leaves no record. -/
theorem Registry.perform_lookup_ofClass {registry : Registry}
    (members : registry.membersOf id = .ok ref) (name : String) (limit : Nat) :
    (registry.lookup (.ofClass id) name limit).perform store =
      ((store.table ref).get name, store) := by
  cases found : (store.table ref).find? name <;>
    simp [lookup, Effect.perform_bind, resolve, tableOfValue, members, PropertyTable.get, found]

theorem Realm.perform_dispatch_ofClass {realm : Realm}
    (members : realm.registry.membersOf id = .ok ref) (name : String) (arguments : List Value) :
    (realm.dispatch (.ofClass id) name arguments).perform store =
      ((store.table ref).get name >>= fun member =>
        (Invocation.ofValue? member (.ofClass id) arguments).elim
          (.error (.typeMismatch "method" member.kindName)) .ok, store) := by
  rw [dispatch, Effect.perform_bind, Realm.lookup, Registry.perform_lookup_ofClass members]
  cases (store.table ref).get name with
  | error cause => rfl
  | ok member => cases called : Invocation.ofValue? member (.ofClass id) arguments <;> simp [called]

/-- Reading a property of a class, searching the class with any limit and calling on the class all
have the outcome that a plain list gives, and leave the store as it is. -/
structure Realm.ReadsAs (realm : Realm) (store : Store) (id : ClassId) (entries : EntryList) :
    Prop where
  property : ∀ name, (realm.getProperty id name).perform store = (entries.get name, store)
  member : ∀ name limit,
    (realm.registry.lookup (.ofClass id) name limit).perform store = (entries.get name, store)
  called : ∀ name arguments,
    (realm.dispatch (.ofClass id) name arguments).perform store =
      (entries.get name >>= fun member =>
        (Invocation.ofValue? member (.ofClass id) arguments).elim
          (.error (.typeMismatch "method" member.kindName)) .ok, store)

theorem Realm.readsAs_of_coherent {realm : Realm} (members : realm.registry.membersOf id = .ok ref)
    (coherent : store.Coherent) : realm.ReadsAs store id (store.table ref).entries.toList := by
  have answers (name : String) := (coherent.table ref).answersAs.get name
  exact {
    property := fun name => by rw [Realm.perform_getProperty members, answers]
    member := fun name limit => by rw [Registry.perform_lookup_ofClass members, answers]
    called := fun name arguments => by rw [Realm.perform_dispatch_ofClass members, answers] }

end Reading

/-! ## The changes made to a class -/

/-- The change that an operation makes to the members of a class: a property or a method is set on
the class, or its table is changed by whoever holds the handle. -/
def Action.memberChange? (world : World) (context : Nat) (id : ClassId) (members : TableRef) :
    Action → Option TableChange
  | setProperty acted target tier name value =>
    if acted = context ∧ target = id then some (.set tier name value) else none
  | defineMethod acted convention target name callable =>
    if acted = context ∧ target = id then
      (world.methodMade? context convention callable).map (.set publicTier name)
    else none
  | write ref change => if ref = members then some change else none
  | _ => none

/-- The changes that a run makes to the members of a class, in their order. -/
def World.memberChanges (world : World) (context : Nat) (id : ClassId) (members : TableRef) :
    List Action → List TableChange
  | [] => []
  | action :: rest =>
    (action.memberChange? world context id members).toList ++
      (world.act action).memberChanges context id members rest

namespace World

variable {world : World} {context : Nat} {realm : Realm} {id : ClassId} {ref : TableRef}

/-- A change through the members of some class is one to this class or does not concern its table,
because no other class has that table. -/
theorem TablesOwned.concerned_throughMembers (owned : world.TablesOwned)
    (present : world.contexts[context]? = some (.realm realm))
    (has : world.tableOf? (.members context id) = some ref) (acted : Nat) (target : ClassId)
    (change : TableChange) :
    ref.concerned (world.throughMembers? acted target change) =
      if acted = context ∧ target = id then [change] else [] := by
  by_cases same : acted = context ∧ target = id
  · obtain ⟨rfl, rfl⟩ := same
    have members := (tableOf?_members_iff present).mp has
    simp [throughMembers?, realm?_eq_some_iff.mpr present, members, Except.toOption,
      TableRef.concerned]
  · rw [if_neg same, throughMembers?]
    cases there : world.realm? acted with
    | none => rfl
    | some other =>
      cases members : other.registry.membersOf target with
      | error cause => simp [members, Except.toOption, TableRef.concerned]
      | ok found =>
        have apart : found ≠ ref := by
          rintro rfl
          cases owned.unique has
            ((tableOf?_members_iff (realm?_eq_some_iff.mp there)).mpr members)
          exact same ⟨rfl, rfl⟩
        simp [members, Except.toOption, TableRef.concerned, apart]

/-- What changes the table of a class is what changes the class. -/
theorem TablesOwned.memberChange?_toList (owned : world.TablesOwned)
    (present : world.contexts[context]? = some (.realm realm))
    (has : world.tableOf? (.members context id) = some ref) (action : Action) :
    (action.memberChange? world context id ref).toList = action.changesAt world ref := by
  cases action with
  | setProperty acted target tier name value =>
    rw [Action.changesAt, Action.change?, owned.concerned_throughMembers present has,
      Action.memberChange?]
    split <;> rfl
  | defineMethod acted convention target name callable =>
    rw [Action.changesAt, Action.change?, Action.memberChange?]
    cases made : world.methodMade? acted convention callable with
    | none =>
      split
      case isTrue same => simp [← same.1, made, TableRef.concerned]
      case isFalse => rfl
    | some method =>
      rw [Option.bind_eq_bind, Option.bind_some, owned.concerned_throughMembers present has]
      split
      case isTrue same => simp [← same.1, made]
      case isFalse => rfl
  | write target change =>
    by_cases same : target = ref <;>
      simp [Action.memberChange?, Action.changesAt, Action.change?, TableRef.concerned, same]
  | _ => rfl

/-- Along a run the changes to the table of a class are the changes to the class. -/
theorem Reachable.memberChanges_eq (reachable : world.Reachable)
    (present : world.contexts[context]? = some (.realm realm))
    (has : world.tableOf? (.members context id) = some ref) (actions : List Action) :
    world.memberChanges context id ref actions = world.changesAt ref actions := by
  induction actions generalizing world realm with
  | nil => rfl
  | cons action rest ih =>
    have grows := world.grows_act action
    obtain ⟨registry, present', _⟩ := grows.exists_realm present
    rw [memberChanges, changesAt, reachable.tablesOwned.memberChange?_toList present has,
      ih (reachable.act action) present' (grows.tableOf? has)]

end World

/-! ## The creation of a class -/

/-- The realm, as it is in the first world, creates a class of this name: `record` is the record of
the class, and the store of the later world holds its two tables. -/
structure World.Creates (world : World) (realm : Realm) (root : ClassRecord) (name : String)
    (record : ClassRecord) (later : World) : Prop where
  rootFound : realm.registry.recordOf realm.builtins.root = .ok root
  made : record = realm.recordFor world.store name
  store : later.store = realm.storeAfterCreating world.store root.members name

namespace World

variable {world later : World} {context : Nat} {realm : Realm} {id : ClassId} {record : ClassRecord}

theorem contexts_of_quiet (moves : ReflTransGen Quiet world later) :
    later.contexts = world.contexts := by
  induction moves with
  | refl => rfl
  | tail _ last ih => exact last.2.trans ih

theorem kind_ne_user_of_started {settings : Settings} {first : Nat}
    (registered : (Realm.started settings first).registry.recordOf id = .ok record) :
    record.kind ≠ .user := by
  rw [Registry.recordOf_eq_ok_iff, Realm.started, ← Array.getElem?_toList,
    Registry.classes_foldl_push] at registered
  obtain ⟨position, name, kind, rfl, other⟩ :=
    Realm.exists_startRecord_of_mem (List.mem_of_getElem? registered)
  exact other

/-- A user class that is new in a realm was created there, whatever move it was. -/
theorem Move.creates (move : Move world later) (formed : world.RealmsWellFormed)
    (present : later.contexts[context]? = some (.realm realm))
    (registered : realm.registry.recordOf id = .ok record) (user : record.kind = .user)
    (new : world.recordAt? context id = none) :
    ∃ before root name, world.contexts[context]? = some (.realm before) ∧
      world.Creates before root name record later := by
  have notOld {found : Context} (old : world.contexts[context]? = some found) :
      found.registry.recordOf id ≠ .ok record := by
    intro was
    rw [recordAt?_eq_some_iff.mpr ⟨found, old, was⟩] at new
    cases new
  cases move with
  | store | keep => exact absurd registered (notOld present)
  | register there =>
    rcases getElem?_modify_cases present with ⟨_, other⟩ | old
    · cases other
    · exact absurd registered (notOld old)
  | @createClass acted before root name there found accepted =>
    rcases getElem?_modify_cases present with ⟨rfl, same⟩ | old
    · cases same
      rw [Registry.recordOf_eq_ok_iff] at registered
      rcases getElem?_push_cases registered with ⟨_, rfl⟩ | old
      · exact ⟨before, root, name, there, found, rfl, rfl⟩
      · exact absurd (Registry.recordOf_eq_ok_iff.mpr old) (notOld there)
    · exact absurd registered (notOld old)
  | @bind acted found target link registry there bound =>
    rcases getElem?_modify_cases present with ⟨rfl, same⟩ | old
    · cases found with
      | bare => cases same
      | realm whole => exact absurd bound ((formed there).bind_ne_ok target link registry)
    · exact absurd registered (notOld old)
  | openBare =>
    rcases getElem?_push_cases present with ⟨_, other⟩ | old
    · cases other
    · exact absurd registered (notOld old)
  | openRealm settings =>
    rcases getElem?_push_cases present with ⟨_, same⟩ | old
    · cases same
      exact absurd user (kind_ne_user_of_started registered)
    · exact absurd registered (notOld old)

/-- A user class that is new in a realm was created there, whatever operation it was. -/
theorem Reachable.creates (reachable : world.Reachable) (creation : Action)
    (present : (world.act creation).contexts[context]? = some (.realm realm))
    (registered : realm.registry.recordOf id = .ok record) (user : record.kind = .user)
    (new : world.recordAt? context id = none) :
    ∃ before root name, world.contexts[context]? = some (.realm before) ∧
      world.Creates before root name record (world.act creation) := by
  have turn := creation.act_turn world
  have changed : (world.act creation).contexts ≠ world.contexts := by
    intro same
    rw [same] at present
    rw [recordAt?_eq_some_iff.mpr ⟨_, present, registered⟩] at new
    cases new
  generalize creation.change? world = change?, world.act creation = later at turn present changed
  cases turn with
  | quiet moves => exact absurd (contexts_of_quiet moves) changed
  | change moves => exact absurd (contexts_of_quiet moves) changed
  | move one => exact one.creates reachable.realmsWellFormed present registered user new

end World

theorem Store.table_withTables (store : Store) (members template : PropertyTable)
    (events : List LogRecord) :
    (store.withTables members template events).table ⟨store.tables.size⟩ = members ∧
      (store.withTables members template events).table ⟨store.tables.size + 1⟩ = template := by
  have first : ((store.tables.push members).push template)[store.tables.size]? = some members :=
    getElem?_push_of_eq_some Array.getElem?_push_size template
  have second : ((store.tables.push members).push template)[(store.tables.push members).size]? =
      some template := Array.getElem?_push_size
  rw [Array.size_push] at second
  simp only [table, withTables, first, second]
  exact ⟨rfl, rfl⟩

namespace World.Creates

variable {world later : World} {realm : Realm} {root record : ClassRecord} {name : String}

/-- The members are the public entries of the root. -/
theorem members_eq (creates : world.Creates realm root name record later)
    (coherent : world.store.Coherent) :
    (later.store.table record.members).entries.toList =
      EntryList.publicPart (world.store.table root.members).entries.toList := by
  rw [creates.store, creates.made, Realm.storeAfterCreating, Realm.recordFor, Store.recordFor,
    (Store.table_withTables ..).1]
  exact PropertyTable.toList_inheritable (coherent.table root.members)

theorem template_eq (creates : world.Creates realm root name record later) :
    (later.store.table record.template).entries.toList = [] := by
  rw [creates.store, creates.made, Realm.storeAfterCreating, Realm.recordFor, Store.recordFor,
    (Store.table_withTables ..).2]
  rfl

end World.Creates

/-! ## The members of a class over whole runs -/

/-- Take any run, any operation that comes next and any user class that it adds to a realm. When the
class is created, its members are exactly the public entries that the root has, in their order and
with their values, and its template is empty. At every later point of every run its members are those
entries with the changes made to the class applied in their order, and whatever is read of the class
is read from them. -/
theorem members_of_created (earlier : List Action) (creation : Action) {context : Nat} {realm : Realm}
    {id : ClassId} {record : ClassRecord}
    (new : (World.empty.run earlier).recordAt? context id = none)
    (present : ((World.empty.run earlier).act creation).contexts[context]? = some (.realm realm))
    (registered : realm.registry.recordOf id = .ok record) (user : record.kind = .user) :
    let before := World.empty.run earlier
    let after := before.act creation
    ∃ root, before.recordAt? context realm.builtins.root = some root ∧
      let snapshot := EntryList.publicPart (before.store.table root.members).entries.toList
      (after.store.table record.members).entries.toList = snapshot ∧
      (after.store.table record.template).entries.toList = [] ∧
      ∀ later : List Action,
        let world := after.run later
        let entries :=
          (after.memberChanges context id record.members later).foldl EntryList.apply snapshot
        (world.store.table record.members).entries.toList = entries ∧
        ∃ whole, world.contexts[context]? = some (.realm whole) ∧
          whole.registry.recordOf id = .ok record ∧ whole.ReadsAs world.store id entries := by
  intro before after
  have reachable : before.Reachable := ⟨earlier, rfl⟩
  have reachableAfter : after.Reachable := reachable.act creation
  obtain ⟨realmBefore, root, name, there, creates⟩ :=
    reachable.creates creation present registered user new
  -- the realm has the builtin classes that it had before
  have builtins : realm.builtins = realmBefore.builtins := by
    obtain ⟨registry, present', _⟩ := (before.grows_act creation).exists_realm there
    cases Option.some.inj (present.symm.trans present')
    rfl
  have linked : record.link = some realmBefore.builtins.root := by rw [creates.made]; rfl
  have snapshot := creates.members_eq reachable.coherent
  refine ⟨root, ?_, snapshot, creates.template_eq, fun later => ?_⟩
  · rw [builtins]
    exact World.recordAt?_eq_some_iff.mpr ⟨_, there, creates.rootFound⟩
  intro world entries
  have members : realm.registry.membersOf id = .ok record.members := by
    simp [Registry.membersOf, registered]
  have has := (World.tableOf?_members_iff present).mpr members
  have contents : (world.store.table record.members).entries.toList = entries := by
    simp only [world, entries]
    rw [reachableAfter.entries_run has later, snapshot, reachableAfter.memberChanges_eq present has]
  obtain ⟨registry, inWorld, grown⟩ := (after.grows_run later).exists_realm present
  obtain ⟨kept, found, grew⟩ := grown.classes (Registry.recordOf_eq_ok_iff.mp registered)
  rw [grew.eq_of_link linked] at found
  have registered' : registry.recordOf id = .ok record := Registry.recordOf_eq_ok_iff.mpr found
  refine ⟨contents, _, inWorld, registered', ?_⟩
  rw [← contents]
  refine Realm.readsAs_of_coherent ?_ (reachableAfter.run later).coherent
  simp [Registry.membersOf, registered']

/-- A class of a new realm keeps the constructor that it got from the root while the root loses its
own and is given another member, and it sees what is set on itself, through its name or its handle. -/
theorem members_of_created_point :
    let before := World.empty.run [.openContext (.realm .standard)]
    let after := before.act (.createClass 0 "Point")
    let later : List Action :=
      [.setProperty 0 ⟨0⟩ publicTier "late" (.ofClass ⟨1⟩), .write ⟨0⟩ (.remove "create"),
        .setProperty 0 ⟨5⟩ "hidden" "own" (.ofClass ⟨2⟩),
        .write ⟨10⟩ (.set "hidden" "create" (.ofClass ⟨3⟩))]
    let entries : EntryList :=
      [⟨"create", "hidden", .ofClass ⟨3⟩⟩, ⟨"own", "hidden", .ofClass ⟨2⟩⟩]
    before.recordAt? 0 ⟨5⟩ = none ∧
    ∃ realm record, after.contexts[0]? = some (.realm realm) ∧
      realm.registry.recordOf ⟨5⟩ = .ok record ∧ record.kind = .user ∧
      ((after.run later).store.table record.members).entries.toList = entries ∧
      ∃ whole, (after.run later).contexts[0]? = some (.realm whole) ∧
        whole.ReadsAs (after.run later).store ⟨5⟩ entries := by
  intro before after later entries
  have new : before.recordAt? 0 ⟨5⟩ = none := rfl
  have rootThere : before.recordAt? 0 ⟨0⟩ = some (Realm.startRecord 0 0 "Class" .metaclass) := rfl
  have start : (before.store.table ⟨0⟩).entries.toList =
      [⟨"create", publicTier, Realm.startConstructor .empty⟩] := rfl
  obtain ⟨realm, record, present, registered, user, members, builtin⟩ :
      ∃ realm record, after.contexts[0]? = some (.realm realm) ∧
        realm.registry.recordOf ⟨5⟩ = .ok record ∧ record.kind = .user ∧
        record.members = ⟨10⟩ ∧ realm.builtins.root = ⟨0⟩ :=
    ⟨_, _, rfl, rfl, rfl, rfl, rfl⟩
  obtain ⟨root, found, _, _, always⟩ := members_of_created [.openContext (.realm .standard)]
    (.createClass 0 "Point") new present registered user
  rw [builtin, rootThere, Option.some.injEq] at found
  have rootMembers : root.members = ⟨0⟩ := by rw [← found]; rfl
  obtain ⟨contents, whole, inWorld, _, reads⟩ := always later
  have same : (after.memberChanges 0 ⟨5⟩ record.members later).foldl EntryList.apply
      (EntryList.publicPart (before.store.table root.members).entries.toList) = entries := by
    rw [rootMembers, start, members]
    simp [later, World.memberChanges, Action.memberChange?, EntryList.publicPart, EntryList.apply,
      EntryList.set, entries]
  rw [same] at contents reads
  refine ⟨new, realm, record, present, registered, user, ?_, whole, inWorld, reads⟩
  simp only [after, before]
  exact contents

end ObjectModel
