import ObjectModel.Proofs.Classes.CopyOnCreate
import ObjectModel.Proofs.Members.Search

/-! # All ways to create a class agree

A class is created by name, through the method that wraps the class constructor, through the code in
that method, or by invoking the method on a value that has it. The constructor belongs to no realm:
it creates the class in the realm that it is called in, wherever it was installed and whatever it was
read from. So all ways do the same, and only the look-up of an invocation may leave a record of its
own, before the class is created.
-/

namespace ObjectModel

open Effect

/-- The operands of a call are read from left to right: first the value that is called or called on,
then the arguments. Literals among them make new instances. -/
def Frame.Reads (frame : Frame) (before : World) (term : ValueTerm) (terms : List ValueTerm)
    (value : Value) (arguments : List Value) (world : World) : Prop :=
  ∃ middle, (term.read frame).perform before = (.ok value, middle) ∧
    (readValues frame terms).perform middle = (.ok arguments, world)

namespace World

/-- The world with another journal. -/
def withJournal (world : World) (journal : Array LogRecord) : World :=
  { world with store := { world.store with journal } }

/-- The world after the realm in a context has created a class, where `root` is the record of the
root of the realm. -/
def afterCreating (world : World) (context : Nat) (realm : Realm) (root : ClassRecord)
    (name : String) : World :=
  { world with
    store := realm.storeAfterCreating world.store root.members name
    contexts := world.contexts.modify context fun _ =>
      .realm { realm with registry := realm.registry.push (realm.recordFor world.store name) } }

/-- How the creation of a class in a realm ends: the realm refuses a class without a name, or it has
one more class, a child of its root with a copy of the public members of the root. -/
inductive CreationEnds (world : World) (context : Nat) (realm : Realm) (name : String) :
    Except Error ClassId → World → Prop
  | refused (nameless : name = "") (strict : realm.settings.allowsEmptyNames = false) :
      CreationEnds world context realm name (.error (.argument "class name must not be empty")) world
  | created {root record : ClassRecord} {later : World}
      (accepted : name = "" → realm.settings.allowsEmptyNames = true)
      (creates : world.Creates realm root name record later)
      (becomes : later = world.afterCreating context realm root name)
      (members : (later.store.table record.members).entries.toList =
        EntryList.publicPart (world.store.table root.members).entries.toList)
      (template : (later.store.table record.template).entries.toList = []) :
      CreationEnds world context realm name (.ok realm.registry.nextId) later

variable {world : World} {context : Nat} {realm : Realm}

/-- A well-formed realm refuses the name, or it has one more class of that name at its end. -/
theorem perform_createClass {root : ClassRecord} (formed : realm.WellFormed)
    (found : realm.registry.recordOf realm.builtins.root = .ok root)
    (present : world.contexts[context]? = some (.realm realm)) (name : String) :
    (createClass context name).perform world =
      if name = "" ∧ realm.settings.allowsEmptyNames = false then
        (.error (.argument "class name must not be empty"), world)
      else (.ok realm.registry.nextId, world.afterCreating context realm root name) := by
  have performed := Realm.perform_createClass formed.ready found (formed.link_eq found) name world.store
  rw [createClass, perform_bind, perform_realmAt present]
  by_cases refused : name = "" ∧ realm.settings.allowsEmptyNames = false
  · simp only [perform_bind, perform_onStore, performed, if_pos refused]
  · simp only [perform_bind, perform_onStore, performed, if_neg refused]
    rfl

/-- Creating a class ends in one of the two ways, and what it writes into the journal does not depend
on what stands there. -/
theorem Reachable.exists_creationEnds (reachable : world.Reachable)
    (present : world.contexts[context]? = some (.realm realm)) (name : String) :
    ∃ outcome later added, world.CreationEnds context realm name outcome later ∧
      later.store.journal = world.store.journal ++ added ∧
      ∀ journal, (createClass context name).perform (world.withJournal journal) =
        (outcome, later.withJournal (journal ++ added)) := by
  have formed := reachable.realmsWellFormed present
  obtain ⟨root, found, _⟩ := formed.exists_root
  have performed (journal : Array LogRecord) := perform_createClass formed found
    (show (world.withJournal journal).contexts[context]? = some (.realm realm) from present) name
  by_cases refused : name = "" ∧ realm.settings.allowsEmptyNames = false
  · refine ⟨_, world, #[], .refused refused.1 refused.2, by simp, fun journal => ?_⟩
    rw [performed, if_pos refused, Array.append_empty]
  · have creates : world.Creates realm root name (realm.recordFor world.store name)
        (world.afterCreating context realm root name) := ⟨found, rfl, rfl⟩
    refine ⟨_, _, _, .created (by simpa using refused) creates rfl
      (creates.members_eq reachable.coherent) creates.template_eq, rfl, fun journal => ?_⟩
    rw [performed, if_neg refused]
    rfl

end World

/-! ## The constructor -/

/-- The root of a realm that was just opened has the class constructor. -/
theorem World.perform_getProperty_openRealm (world : World) (settings : Settings) :
    let home := Realm.started settings world.store.tables.size
    let opened := world.act (.openContext (.realm settings))
    (home.getProperty home.builtins.root "create").perform opened.store =
      (.ok (Realm.startConstructor world.store), opened.store) := by
  intro home opened
  have store : opened.store = Realm.storeAfterBoot settings world.store :=
    congrArg World.store (world.act_openRealm settings)
  have members : home.registry.membersOf home.builtins.root = .ok ⟨world.store.tables.size⟩ := rfl
  have table : opened.store.table ⟨world.store.tables.size⟩ =
      PropertyTable.empty.set publicTier "create" (Realm.startConstructor world.store) := by
    simp [store, Store.table, Realm.storeAfterBoot]
  have coherent := PropertyTable.coherent_set PropertyTable.coherent_empty publicTier "create"
    (Realm.startConstructor world.store)
  rw [Realm.perform_getProperty members, table, coherent.answersAs.get]
  rfl

/-! ## The ways -/

section Ways

variable {frame : Frame} {before world : World} {term : ValueTerm} {terms : List ValueTerm}
  {arguments : List Value}

/-- The class constructor needs no depth and no receiver: it constructs from its arguments, in the
context in which it runs. -/
theorem Invocation.run_construct (depth context : Nat) (receiver : Option Value)
    (arguments : List Value) :
    Invocation.run depth context ⟨.create, receiver, arguments⟩ =
      World.construct context arguments := by
  cases depth <;> rfl

/-- The name is what the first argument carries, whatever follows. -/
theorem Invocation.run_create {first : Value} {name : String} (carries : first.text? = some name)
    (depth context : Nat) (receiver : Option Value) (further : List Value) :
    Invocation.run depth context ⟨.create, receiver, first :: further⟩ =
      Value.ofClass <$> World.createClass context name := by
  have named : Realm.constructorName (first :: further) = .ok name := by
    simp [Realm.constructorName, carries]
  rw [run_construct, World.construct, named]
  rfl

/-- Through the wrapper or straight to the callable, with a receiver or without, a call of a method
runs its code. -/
theorem Operation.perform_call {wrapped : Method}
    (reads : frame.Reads before term terms (.method wrapped) arguments world)
    (run : Invocation → Effect World Value) (route : CallRoute) (receiver : Option ValueTerm) :
    ((Operation.call route term terms receiver).perform run frame).perform before =
      (Reply.value <$> run ⟨wrapped.callable, none, arguments⟩).perform world := by
  obtain ⟨middle, readTerm, readTerms⟩ := reads
  have called : CallRoute.wrapper.call frame (.method wrapped) receiver arguments =
      pure ⟨wrapped.callable, none, arguments⟩ := rfl
  simp only [Operation.perform, perform_bind, readTerm, readTerms, route.call_eq, called, perform_pure,
    map_eq_pure_bind]

/-- Once its operands are read, an invocation looks the member up and runs the code that it comes to. -/
theorem Operation.perform_invoke {realm : Realm} {target : Value} {name : String}
    (reads : frame.Reads before term terms target arguments world)
    (present : world.contexts[frame.context]? = some (.realm realm))
    (run : Invocation → Effect World Value) :
    ((Operation.invoke term terms name).perform run frame).perform before =
      (do
        let code ← World.onStore (realm.dispatch target name arguments)
        Reply.value <$> run code : Effect World WorldReply).perform world := by
  obtain ⟨middle, readTerm, readTerms⟩ := reads
  simp only [Operation.perform, perform_bind, readTerm, readTerms, World.perform_realmAt present,
    map_eq_pure_bind]

/-- The code runs in the world that the look-up left. -/
theorem Operation.perform_invoke_of_ok {realm : Realm} {target : Value} {name : String}
    {code : Invocation} {store : Store}
    (reads : frame.Reads before term terms target arguments world)
    (present : world.contexts[frame.context]? = some (.realm realm))
    (dispatched : (realm.dispatch target name arguments).perform world.store = (.ok code, store))
    (run : Invocation → Effect World Value) :
    ((Operation.invoke term terms name).perform run frame).perform before =
      (Reply.value <$> run code).perform { world with store } := by
  rw [Operation.perform_invoke reads present, perform_bind, World.perform_onStore, dispatched]

/-- All ways to create a class of this name where a frame runs end in the same way. By name, by a
call of the constructor through the method or straight to its code, and by an invocation on whatever
value it is found, the reply and the world are the same. The first argument carries the name,
whatever class it has and whatever follows. An invocation leaves the records of its look-up before
those that the creation adds. -/
structure RoutesAgree (constructor : Value) (frame : Frame) (realm : Realm) (name : String)
    (world : World) (outcome : Except Error WorldReply) (after : World) (added : Array LogRecord) :
    Prop where
  named : ∀ depth,
    ((Operation.realm (.createClass name)).perform (Invocation.run depth frame.context) frame).perform
      world = (outcome, after)
  called : ∀ {before term terms first further},
    frame.Reads before term terms constructor (first :: further) world → first.text? = some name →
      ∀ depth route receiver,
        ((Operation.call route term terms receiver).perform (Invocation.run depth frame.context)
          frame).perform before = (outcome, after)
  invoked : ∀ {before term terms value first further records},
    frame.Reads before term terms value (first :: further) world → first.text? = some name →
      realm.registry.Search world.store "create" realm.settings.walkLimit value (.ok constructor)
        records →
      ∀ depth,
        ((Operation.invoke term terms "create").perform (Invocation.run depth frame.context)
          frame).perform before =
            (outcome, after.withJournal (world.store.journal ++ records.toArray ++ added))

/-- All ways end as a creation by name does, wherever it puts its records. -/
theorem routesAgree_of_created {wrapped : Method} {realm : Realm} {name : String}
    {outcome : Except Error ClassId} {after : World} {added : Array LogRecord}
    (code : wrapped.callable = .create) (coherent : world.store.Coherent)
    (present : world.contexts[frame.context]? = some (.realm realm))
    (journal : after.store.journal = world.store.journal ++ added)
    (created : ∀ journal, (World.createClass frame.context name).perform (world.withJournal journal) =
      (outcome, after.withJournal (journal ++ added))) :
    RoutesAgree (.method wrapped) frame realm name world
      (outcome.map fun id => .value (.ofClass id)) after added := by
  have direct : (World.createClass frame.context name).perform world = (outcome, after) := by
    have same := created world.store.journal
    rwa [← journal] at same
  refine { named := fun depth => ?_, called := ?_, invoked := ?_ }
  · simp only [Operation.perform, RealmOperation.perform, bind_pure_comp, perform_map, direct]
  · intro before term terms first further reads carries depth route receiver
    rw [Operation.perform_call reads, code, Invocation.run_create carries, perform_map, perform_map,
      direct]
    cases outcome <;> rfl
  · intro before term terms value first further records reads carries search depth
    have noted := created (world.store.journal ++ records.toArray)
    have dispatched : (realm.dispatch value "create" (first :: further)).perform world.store =
        (.ok ⟨.create, none, first :: further⟩,
          { world.store with journal := world.store.journal ++ records.toArray }) := by
      simp only [Realm.dispatch, Realm.lookup, perform_bind, search.perform_lookup coherent,
        Invocation.ofValue?, Method.called_eq, code, perform_pure]
    rw [Operation.perform_invoke_of_ok reads present dispatched, Invocation.run_create carries,
      perform_map, perform_map]
    simp only [World.withJournal] at noted
    rw [noted]
    cases outcome <;> rfl

end Ways

/-- Take the class constructor of any realm, as its root has it after the bootstrap, and any realm at
any later point. For every name there is one way in which a creation ends, and all ways to create a
class with it end so, in whatever frame they are taken. -/
theorem creation_routes_agree (earlier later : List Action) (settings : Settings) :
    let origin := World.empty.run earlier
    let opened := origin.act (.openContext (.realm settings))
    let world := opened.run later
    ∃ home constructor, opened.contexts[origin.contexts.size]? = some (.realm home) ∧
      (home.getProperty home.builtins.root "create").perform opened.store =
        (.ok constructor, opened.store) ∧
      ∀ (frame : Frame) (realm : Realm) (name : String),
        world.contexts[frame.context]? = some (.realm realm) →
        ∃ outcome after added, world.CreationEnds frame.context realm name outcome after ∧
          after.store.journal = world.store.journal ++ added ∧
          RoutesAgree constructor frame realm name world
            (outcome.map fun id => .value (.ofClass id)) after added := by
  intro origin opened world
  have reachable : world.Reachable :=
    ((show origin.Reachable from ⟨earlier, rfl⟩).act (.openContext (.realm settings))).run later
  refine ⟨_, Realm.startConstructor origin.store, World.getElem?_openRealm origin settings,
    World.perform_getProperty_openRealm origin settings, fun frame realm name present => ?_⟩
  obtain ⟨outcome, after, added, ends, journal, created⟩ :=
    reachable.exists_creationEnds present name
  exact ⟨outcome, after, added, ends, journal,
    routesAgree_of_created rfl reachable.coherent present journal created⟩

/-! ## A constructor that was lent -/

namespace Lending

/-- The constructor of the first realm. -/
def lent : Value :=
  Realm.startConstructor .empty

/-- The second realm refuses classes without a name and walks two levels at most. -/
def settings : Settings :=
  Settings.strict.withDepthLimit 2

/-- An instance of the class that the second realm creates with its own constructor. -/
def point : Value :=
  .plain ⟨2, ⟨5⟩, ⟨22⟩, none⟩

def line : Value :=
  .plain ⟨3, ⟨3⟩, ⟨23⟩, some (.text "Line")⟩

def slots : Std.ExtTreeMap String Value :=
  (Std.ExtTreeMap.empty.insert "lent" lent).insert "point" point |>.insert "line" line

/-- The second realm is opened, has the constructor of the first set on its root, and then gets a
class with an instance. -/
def actions : List Action :=
  [.openContext (.realm settings), .setProperty 1 ⟨0⟩ publicTier "create" lent,
    .createClass 1 "Point", .instantiate 1 ⟨5⟩, .newText 1 "Line", .keep slots {} #[]]

def world : World :=
  (World.empty.act (.openContext (.realm .standard))).run actions

/-- The second realm, with its class. -/
def realm : Realm :=
  let start := Realm.started settings 10
  { start with registry := start.registry.push ⟨"Point", .user, some ⟨0⟩, some ⟨0⟩, ⟨20⟩, ⟨21⟩⟩ }

theorem readSlot_perform {name : String} {value : Value} (stored : slots[name]? = some value) :
    (World.readSlot name).perform world = (.ok value, world) := by
  have kept : world.slots = slots := rfl
  simp [World.readSlot, perform_bind, kept, stored]

/-- The instance finds the constructor on its class, which copied it from the root. -/
theorem search_point :
    realm.registry.Search world.store "create" 2 point (.ok lent) [.resolved "create" ⟨5⟩] := by
  have walk : realm.registry.ancestors ⟨5⟩ 2 = .ok ([] ++ ⟨5⟩ :: [⟨0⟩]) := rfl
  have bare : (world.store.table ⟨22⟩).entries = #[] := rfl
  have lacks : world.store.Lacks ⟨22⟩ "create" := by
    intro entry member
    simp [bare] at member
  let own := Realm.startConstructor (Realm.storeAfterBoot .standard .empty)
  let root := (PropertyTable.empty.set publicTier "create" own).set publicTier "create" lent
  have copied : world.store.table ⟨20⟩ = root.inheritable := rfl
  have started := PropertyTable.coherent_set PropertyTable.coherent_empty publicTier "create" own
  have coherent : root.Coherent := PropertyTable.coherent_set started publicTier "create" lent
  have entries : (world.store.table ⟨20⟩).entries.toList = [⟨"create", publicTier, lent⟩] := by
    rw [copied, PropertyTable.toList_inheritable coherent, PropertyTable.toList_set started,
      PropertyTable.toList_set PropertyTable.coherent_empty]
    simp [PropertyTable.empty, EntryList.set, EntryList.publicPart]
  have holds : world.store.Holds ⟨20⟩ "create" lent :=
    ⟨⟨"create", publicTier, lent⟩, Array.mem_toList_iff.mp (by simp [entries]), rfl, rfl⟩
  exact .inherited ⟨rfl, ⟨⟨22⟩, rfl, lacks⟩, rfl⟩ walk (by simp) ⟨⟨20⟩, rfl, holds⟩

end Lending

open Lending in
/-- The second realm creates a child of its own root when the lent constructor is called there, and
when it is invoked on an instance that finds it on its class. -/
theorem creation_routes_agree_lent :
    let perform := Operation.perform (Invocation.run 0 1) (.outer 1)
    ∃ after added, after.store.journal = world.store.journal ++ added ∧
      (perform (.call .callable (.slot "lent") [.slot "line"] none)).perform world =
        (.ok (.value (.ofClass ⟨6⟩)), after) ∧
      (perform (.invoke (.slot "point") [.slot "line"] "create")).perform world =
        (.ok (.value (.ofClass ⟨6⟩)), after.withJournal
          (world.store.journal ++ #[.resolved "create" ⟨5⟩] ++ added)) := by
  intro perform
  obtain ⟨home, constructor, opened, installed, agree⟩ := creation_routes_agree [] actions .standard
  cases Option.some.inj ((World.getElem?_openRealm .empty .standard).symm.trans opened)
  have constructed := (World.perform_getProperty_openRealm .empty .standard).symm.trans installed
  obtain rfl : lent = constructor := Except.ok.inj (congrArg Prod.fst constructed)
  have present : world.contexts[1]? = some (.realm realm) := rfl
  obtain ⟨outcome, after, added, ends, journal, routes⟩ := agree (.outer 1) realm "Line" present
  have reads {name : String} {value : Value} (stored : slots[name]? = some value) :
      Frame.Reads (.outer 1) world (.slot name) [.slot "line"] value [line] world := by
    have argument : slots["line"]? = some line := by simp [slots]
    refine ⟨world, readSlot_perform stored, ?_⟩
    simp [readValues, ValueTerm.read, readSlot_perform argument]
  have storedLent : slots["lent"]? = some lent := by simp [slots, Std.ExtTreeMap.getElem_insert]
  have storedPoint : slots["point"]? = some point := by simp [slots, Std.ExtTreeMap.getElem_insert]
  have called := routes.called (reads storedLent) rfl 0 .callable none
  have invoked := routes.invoked (reads storedPoint) rfl search_point 0
  cases outcome with
  | error cause =>
    cases ends with
    | refused nameless => simp at nameless
  | ok id =>
    cases ends with
    | created => exact ⟨after, added, journal, called, invoked⟩

end ObjectModel
