import ObjectModel.Proofs.Classes.Routes
import ObjectModel.Proofs.Realms.Walks

/-! # What a realm hands out

A realm hands out the classes that it creates, the instances and methods that it makes, and the
constructor that it installs when it is opened. Each of these values carries a class of the realm, and
a method carries the class that wraps it together with the table of that class. Since nothing is ever
taken out of a realm, the realm knows what it handed out for good: with room for two classes a walk
can only come to its end, and a look-up can only find a member or say that there is none.
-/

namespace ObjectModel

open Effect

/-! ## Handing out -/

/-- The operations of a realm that answer a new object. -/
inductive Realm.Makes (realm : Realm) : Effect Store Value → Prop where
  | plain (ofClass : ClassId) : Makes realm (realm.instantiate ofClass)
  | text (content : String) : Makes realm (realm.newText content)
  | integer (content : Int64) : Makes realm (realm.newInteger content)
  | method (convention : Convention) (callable : Callable) :
      Makes realm (realm.newMethod convention callable)

namespace World

/-- An operation of the realm at a position hands out a value and leaves the later world. -/
inductive HandsOut (world : World) (context : Nat) : Value → World → Prop where
  | created {name : String} {id : ClassId} {later : World}
      (answers : (createClass context name).perform world = (.ok id, later)) :
      HandsOut world context (.ofClass id) later
  /-- The code of the installed constructor runs in the realm. -/
  | constructed {arguments : List Value} {value : Value} {later : World}
      (answers : (construct context arguments).perform world = (.ok value, later)) :
      HandsOut world context value later
  | made {realm : Realm} {effect : Effect Store Value} {value : Value} {store : Store}
      (present : world.contexts[context]? = some (.realm realm)) (makes : realm.Makes effect)
      (answers : effect.perform world.store = (.ok value, store)) :
      HandsOut world context value { world with store }
  /-- A method is set on a class, and then it is read from there. -/
  | defined {realm : Realm} {convention : Convention} {target : ClassId} {name : String}
      {callable : Callable} {value : Value} {store : Store}
      (present : world.contexts[context]? = some (.realm realm))
      (defines : (realm.defineMethod convention target name callable).perform world.store =
        (.ok (), store))
      (reads : ((realm.getProperty target name).perform store).1 = .ok value) :
      HandsOut world context value { world with store }
  /-- The realm is opened, and its constructor is read from the root. -/
  | installed {settings : Settings} {realm : Realm} {value : Value} {later : World}
      (last : context = world.contexts.size)
      (opens : world.act (.openContext (.realm settings)) = later)
      (present : later.contexts[context]? = some (.realm realm))
      (reads : ((realm.getProperty realm.builtins.root "create").perform later.store).1 =
        .ok value) :
      HandsOut world context value later

/-- At some moment of a run that leads here, the realm at a position handed out the value. -/
def HandedOut (world : World) (context : Nat) (value : Value) : Prop :=
  ∃ earlier after later, (empty.run earlier).HandsOut context value after ∧ after.run later = world

theorem HandedOut.run {world : World} {context : Nat} {value : Value}
    (handed : world.HandedOut context value) (actions : List Action) :
    (world.run actions).HandedOut context value := by
  obtain ⟨earlier, after, later, hands, rfl⟩ := handed
  exact ⟨earlier, after, later ++ actions, hands, run_append after later actions⟩

end World

/-! ## What a realm knows of its values -/

/-- What was just set is read again. -/
theorem Store.eq_of_get_write {store : Store} (coherent : store.Coherent) {ref : TableRef}
    {route : WriteRoute} {tier name : String} {member found : Value}
    (reads : (((write ref route (.set tier name member)).perform store).2.table ref).get name =
      .ok found) : found = member := by
  cases present : store.tables[ref.index]? with
  | none =>
    have bare : ((write ref route (.set tier name member)).perform store).2.table ref = .empty := by
      simp [Store.table, Array.getElem?_modify, present]
    rw [bare, PropertyTable.coherent_empty.answersAs.get] at reads
    cases reads
  | some table =>
    have after : ((write ref route (.set tier name member)).perform store).2.table ref =
        table.set tier name member := by
      simp [Store.table, Array.getElem?_modify, present, PropertyTable.apply]
    have coherentTable := coherent table (Array.mem_of_getElem? present)
    rw [after, (PropertyTable.coherent_set coherentTable tier name member).answersAs.get,
      PropertyTable.toList_set coherentTable, EntryList.get, EntryList.find?,
      EntryList.entryOf?_set, if_pos rfl] at reads
    cases reads
    rfl

namespace Realm

/-- The method is of the class that wraps its convention, and it has the table of that class. -/
structure Wraps (realm : Realm) (convention : Convention) (wrapped : Method) : Prop where
  ofClass : wrapped.classId = realm.builtins.wrapper convention
  shares : realm.registry.membersOf (realm.builtins.wrapper convention) = .ok wrapped.table

/-- The realm knows the class of the value, or the class that the value is. -/
def Knows (realm : Realm) : Value → Prop
  | .ofClass id => realm.registry.IsRegistered id
  | .plain object => realm.registry.IsRegistered object.classId
  | .method wrapped => realm.Wraps .method wrapped
  | .unboundMethod wrapped => realm.Wraps .unboundMethod wrapped

@[simp]
theorem knows_wrap {realm : Realm} {convention : Convention} {wrapped : Method} :
    realm.Knows (convention.wrap wrapped) ↔ realm.Wraps convention wrapped := by
  cases convention <;> rfl

/-- The classes that wrap code are there from the start. -/
theorem WellFormed.exists_wrapper {realm : Realm} (formed : realm.WellFormed) (convention : Convention) :
    ∃ record, realm.registry.recordOf (realm.builtins.wrapper convention) = .ok record ∧
      record.kind ≠ .user := by
  have notUser {record : ClassRecord} (kind : record.kind = .builtin) : record.kind ≠ .user := by
    rw [kind]
    decide
  rw [formed.builtins]
  cases convention with
  | method =>
    obtain ⟨record, found, _, kind, _⟩ := formed.shape.builtin 0 "Method" rfl
    exact ⟨record, found, notUser kind⟩
  | unboundMethod =>
    obtain ⟨record, found, _, kind, _⟩ := formed.shape.builtin 1 "UnboundMethod" rfl
    exact ⟨record, found, notUser kind⟩

section Making

variable {realm : Realm} {store after : Store} {value : Value}

theorem isRegistered_of_templateOf {id : ClassId} {ref : TableRef}
    (template : realm.registry.templateOf id = .ok ref) : realm.registry.IsRegistered id := by
  cases found : realm.registry.recordOf id with
  | error cause => simp [Registry.templateOf, found] at template
  | ok record => exact Registry.isRegistered_iff.mpr ⟨record, found⟩

theorem perform_instantiate {ofClass : ClassId} {template : TableRef}
    (found : realm.registry.templateOf ofClass = .ok template) (store : Store) :
    ((realm.instantiate ofClass).perform store).1 =
      .ok (.plain ⟨store.objects.size, ofClass, ⟨store.tables.size⟩, none⟩) := by
  simp [instantiate, found, Store.addPlain, perform_bind]

/-- An instance with a payload is always made. -/
theorem perform_newPrimitive (realm : Realm) (ofClass : ClassId) (payload : Primitive) (store : Store) :
    ((realm.newPrimitive ofClass payload).perform store).1 =
      .ok (.plain ⟨store.objects.size, ofClass, ⟨store.tables.size⟩, some payload⟩) := by
  cases template : realm.registry.templateOf ofClass <;>
    simp [newPrimitive, template, Store.addPlain, perform_bind]

theorem perform_newMethod {convention : Convention} {table : TableRef}
    (members : realm.registry.membersOf (realm.builtins.wrapper convention) = .ok table)
    (callable : Callable) (store : Store) :
    (realm.newMethod convention callable).perform store =
      (Store.addMethod convention (realm.builtins.wrapper convention) table callable).perform
        store := by
  simp [newMethod, members, perform_bind]

theorem newMethod_answer {convention : Convention} {callable : Callable}
    (answers : (realm.newMethod convention callable).perform store = (.ok value, after)) :
    ∃ wrapped, value = convention.wrap wrapped ∧ realm.Wraps convention wrapped ∧
      after = { store with objects := store.objects.push value } := by
  cases members : realm.registry.membersOf (realm.builtins.wrapper convention) with
  | error cause => simp [newMethod, members, perform_bind] at answers
  | ok table =>
    rw [perform_newMethod members] at answers
    cases answers
    exact ⟨_, rfl, ⟨rfl, members⟩, rfl⟩

/-- What the realm makes it knows. -/
theorem Makes.knows {effect : Effect Store Value} (makes : realm.Makes effect)
    (formed : realm.WellFormed) (answers : effect.perform store = (.ok value, after)) :
    realm.Knows value := by
  have answer := congrArg Prod.fst answers
  cases makes with
  | plain ofClass =>
    cases template : realm.registry.templateOf ofClass with
    | error cause => simp [instantiate, template, perform_bind] at answers
    | ok ref =>
      rw [perform_instantiate template] at answer
      cases answer
      exact isRegistered_of_templateOf template
  | text content =>
    obtain ⟨record, found, _⟩ := formed.shape.builtin 2 "String" rfl
    rw [newText, perform_newPrimitive, formed.builtins] at answer
    cases answer
    exact Registry.isRegistered_iff.mpr ⟨record, found⟩
  | integer content =>
    obtain ⟨record, found, _⟩ := formed.shape.builtin 3 "Integer" rfl
    rw [newInteger, perform_newPrimitive, formed.builtins] at answer
    cases answer
    exact Registry.isRegistered_iff.mpr ⟨record, found⟩
  | method convention callable =>
    obtain ⟨wrapped, rfl, wraps, _⟩ := newMethod_answer answers
    exact knows_wrap.mpr wraps

/-- What is read from a class where a method was just set is a method that the realm made. -/
theorem defineMethod_answer {convention : Convention} {target : ClassId} {name : String}
    {callable : Callable} (coherent : store.Coherent)
    (defines : (realm.defineMethod convention target name callable).perform store = (.ok (), after))
    (reads : ((realm.getProperty target name).perform after).1 = .ok value) :
    ∃ wrapped, value = convention.wrap wrapped ∧ realm.Wraps convention wrapped := by
  rw [defineMethod, perform_bind] at defines
  rcases made : (realm.newMethod convention callable).perform store with ⟨cause | method, middle⟩
  · simp [made] at defines
  · obtain ⟨wrapped, same, wraps, rfl⟩ := newMethod_answer made
    refine ⟨wrapped, ?_, wraps⟩
    cases members : realm.registry.membersOf target with
    | error cause => simp [made, setProperty, perform_bind, members] at defines
    | ok ref =>
      rw [made] at defines
      simp only [setProperty, perform_bind, members, perform_ofOutcome] at defines
      obtain rfl : _ = after := congrArg Prod.snd defines
      rw [perform_getProperty members] at reads
      have coherentMiddle : Store.Coherent { store with objects := store.objects.push method } :=
        coherent
      exact (Store.eq_of_get_write coherentMiddle reads).trans same

end Making

end Realm

namespace World

variable {world later : World} {context : Nat} {value : Value}

/-- A class that was created is registered in the realm that created it. -/
theorem exists_registered_of_createClass {name : String} {id : ClassId}
    (answers : (createClass context name).perform world = (.ok id, later)) :
    ∃ realm, later.contexts[context]? = some (.realm realm) ∧ realm.registry.IsRegistered id := by
  obtain ⟨realm, root, present, _, rfl, rfl⟩ := exists_of_createClass_eq_ok answers
  refine ⟨_, getElem?_modify_self present _, ?_⟩
  simp [Registry.IsRegistered, Registry.nextId, Registry.size, Registry.push]

/-- The constructor answers a class that it created. -/
theorem exists_createClass_of_construct {arguments : List Value}
    (answers : (construct context arguments).perform world = (.ok value, later)) :
    ∃ name id, value = .ofClass id ∧
      (createClass context name).perform world = (.ok id, later) := by
  cases named : Realm.constructorName arguments with
  | error cause => simp [construct, perform_bind, named] at answers
  | ok name =>
    rcases created : (createClass context name).perform world with ⟨cause | id, after⟩
    · simp [construct, perform_bind, named, created, Except.map] at answers
    · have constructed : (construct context arguments).perform world = (.ok (.ofClass id), after) := by
        simp [construct, perform_bind, named, created, Except.map]
      cases constructed.symm.trans answers
      exact ⟨name, id, rfl, created⟩

/-- The constructor that a realm starts with has the table of the class that wraps methods. -/
theorem wraps_startConstructor (settings : Settings) (store : Store) :
    ∃ wrapped, Realm.startConstructor store = Convention.method.wrap wrapped ∧
      (Realm.started settings store.tables.size).Wraps .method wrapped :=
  ⟨_, rfl, rfl, rfl⟩

/-- What a realm hands out it knows. -/
theorem HandsOut.knows (hands : world.HandsOut context value later) (reachable : world.Reachable) :
    ∃ realm, later.contexts[context]? = some (.realm realm) ∧ realm.Knows value := by
  cases hands with
  | created answers => exact exists_registered_of_createClass answers
  | constructed answers =>
    obtain ⟨name, id, rfl, created⟩ := exists_createClass_of_construct answers
    exact exists_registered_of_createClass created
  | @made realm _ _ _ present makes answers =>
    exact ⟨realm, present, makes.knows (reachable.realmsWellFormed present) answers⟩
  | @defined realm _ _ _ _ _ _ present defines reads =>
    obtain ⟨wrapped, rfl, wraps⟩ := Realm.defineMethod_answer reachable.coherent defines reads
    exact ⟨realm, present, Realm.knows_wrap.mpr wraps⟩
  | @installed settings realm _ _ last opens present reads =>
    subst last opens
    cases present.symm.trans (world.getElem?_openRealm settings)
    rw [perform_getProperty_openRealm] at reads
    obtain ⟨wrapped, same, wraps⟩ := wraps_startConstructor settings world.store
    cases reads
    rw [same]
    exact ⟨_, present, Realm.knows_wrap.mpr wraps⟩

/-- A realm goes on knowing what it knows. -/
theorem GrowsTo.knows (grows : world.GrowsTo later) {realm realm' : Realm}
    (present : world.contexts[context]? = some (.realm realm))
    (present' : later.contexts[context]? = some (.realm realm')) (knows : realm.Knows value) :
    realm'.Knows value := by
  obtain ⟨registry, there, grown⟩ := grows.exists_realm present
  cases present'.symm.trans there
  have wraps {convention : Convention} {wrapped : Method} (wraps : realm.Wraps convention wrapped) :
      Realm.Wraps { realm with registry } convention wrapped := by
    refine ⟨wraps.ofClass, (tableOf?_members_iff there).mp (grows.tableOf? ?_)⟩
    exact (tableOf?_members_iff present).mpr wraps.shares
  cases value with
  | ofClass id => exact Nat.lt_of_lt_of_le knows grown.size_le
  | plain object => exact Nat.lt_of_lt_of_le knows grown.size_le
  | method wrapped => exact wraps knows
  | unboundMethod wrapped => exact wraps knows

/-- A realm knows whatever it handed out. -/
theorem HandedOut.knows (handed : world.HandedOut context value) {realm : Realm}
    (present : world.contexts[context]? = some (.realm realm)) : realm.Knows value := by
  obtain ⟨earlier, after, rest, hands, rfl⟩ := handed
  obtain ⟨realm', there, knows⟩ := hands.knows ⟨earlier, rfl⟩
  exact (after.grows_run rest).knows there present knows

end World

/-! ## Walks and look-ups with room for two classes -/

namespace Realm

variable {realm : Realm} {value : Value}

/-- A walk from a class that the realm has comes to the end of its lineage. -/
theorem WellFormed.ancestors_of_deep (formed : realm.WellFormed)
    (deep : 2 ≤ realm.settings.depthLimit) {id : ClassId} {record : ClassRecord}
    (found : realm.registry.recordOf id = .ok record) :
    realm.ancestors id = .ok (realm.lineage id record.kind) := by
  have long := (realm.length_lineage_le_walkLimit_iff id record.kind).mpr fun _ => deep
  rw [ancestors, formed.ancestors_eq found, if_pos long]

/-- The class on whose chain the realm goes on with a search is registered, if the realm knows the
value. -/
theorem WellFormed.isRegistered_start (formed : realm.WellFormed) (knows : realm.Knows value)
    {store : Store} {name : String} {start : ClassId}
    (goesOn : realm.registry.GoesOn store value name start) : realm.registry.IsRegistered start := by
  have wrapper {convention : Convention} {wrapped : Method} (wraps : realm.Wraps convention wrapped) :
      realm.registry.IsRegistered wrapped.classId := by
    obtain ⟨record, found, _⟩ := formed.exists_wrapper convention
    rw [wraps.ofClass]
    exact Registry.isRegistered_iff.mpr ⟨record, found⟩
  obtain ⟨noClass, _, carried⟩ := goesOn
  cases value with
  | ofClass id => cases noClass
  | plain object =>
    cases carried
    exact knows
  | method wrapped =>
    cases carried
    exact wrapper knows
  | unboundMethod wrapped =>
    cases carried
    exact wrapper knows

/-- A search for a member of a value that the realm knows finds it or ends without a failure of the
walk. -/
theorem WellFormed.search_answers (formed : realm.WellFormed)
    (deep : 2 ≤ realm.settings.depthLimit) (knows : realm.Knows value) {store : Store}
    {name : String} {outcome : Except Error Value} {records : List LogRecord}
    (search : realm.registry.Search store name realm.settings.walkLimit value outcome records) :
    outcome = .error (.notFound name) ∨ ∃ member, outcome = .ok member := by
  cases search with
  | own | inherited => exact .inr ⟨_, rfl⟩
  | classLacks | missing => exact .inl rfl
  | unknownClass missing => exact absurd knows missing
  | @walkFails _ start cause goesOn walk =>
    obtain ⟨record, found⟩ := Registry.isRegistered_iff.mp (formed.isRegistered_start knows goesOn)
    have reached := formed.ancestors_of_deep deep found
    rw [ancestors, walk] at reached
    cases reached

end Realm

namespace World

/-- After every run, in a realm whose walks may visit two classes: the chain of every registered class
is the class alone, or for a user class the class and the root, and it counts as a subclass of exactly
these, whatever identifier is asked about. A look-up on any value that the realm handed out, now or
long ago, finds a member or says that there is none of this name; it fails in no other way. -/
theorem walks_well_founded (actions : List Action) {context : Nat} {realm : Realm}
    (present : (empty.run actions).contexts[context]? = some (.realm realm))
    (deep : 2 ≤ realm.settings.depthLimit) :
    let world := empty.run actions
    (∀ (id : ClassId) (record : ClassRecord), realm.registry.recordOf id = .ok record →
      realm.ancestors id = .ok (if record.kind = .user then [id, realm.builtins.root] else [id]) ∧
      ∀ sup, realm.isSubclassOf id sup =
        .ok (decide (sup = id ∨ record.kind = .user ∧ sup = realm.builtins.root))) ∧
    ∀ value, world.HandedOut context value → ∀ name,
      let outcome := ((realm.lookup value name).perform world.store).1
      outcome = .error (.notFound name) ∨ ∃ member, outcome = .ok member := by
  intro world
  have reachable : world.Reachable := ⟨actions, rfl⟩
  have formed := reachable.realmsWellFormed present
  constructor
  · intro id record found
    have walk := formed.ancestors_of_deep deep found
    constructor
    · rw [walk]
      by_cases user : record.kind = .user
      · rw [realm.lineage_of_user id user, if_pos user]
      · rw [realm.lineage_of_ne_user id user, if_neg user]
    · intro sup
      rw [realm.isSubclassOf_eq, walk, map_ok]
      simp only [realm.mem_lineage_iff]
  · intro value handed name outcome
    obtain ⟨found, records, search⟩ :=
      realm.registry.exists_search world.store value name realm.settings.walkLimit
    have same : outcome = found := by
      simp only [outcome]
      rw [Realm.lookup, search.perform_lookup reachable.coherent]
    rw [same]
    exact formed.search_answers deep (handed.knows present) search

/-! ## An instance of a created class -/

namespace TwoLevels

/-- A class is created under a limit of two, and an instance is made of it. -/
def actions : List Action :=
  Realm.Shallow.actions 2 ++ [.instantiate 0 ⟨5⟩]

def realm : Realm :=
  Realm.Shallow.realm 2

def point : Value :=
  .plain ⟨1, ⟨5⟩, ⟨12⟩, none⟩

end TwoLevels

open TwoLevels in
/-- Two levels are enough for an instance of a class that was created. -/
theorem walks_well_founded_point :
    (empty.run actions).contexts[0]? = some (.realm realm) ∧ 2 ≤ realm.settings.depthLimit ∧
      realm.ancestors ⟨5⟩ = .ok [⟨5⟩, ⟨0⟩] ∧
      realm.isSubclassOf ⟨5⟩ ⟨0⟩ = .ok true ∧ realm.isSubclassOf ⟨5⟩ ⟨7⟩ = .ok false ∧
      (empty.run actions).HandedOut 0 point ∧
      let outcome := ((realm.lookup point "area").perform (empty.run actions).store).1
      outcome = .error (.notFound "area") ∨ ∃ member, outcome = .ok member := by
  have present : (empty.run actions).contexts[0]? = some (.realm realm) := rfl
  have deep : 2 ≤ realm.settings.depthLimit := Nat.le_refl 2
  have before : (empty.run (Realm.Shallow.actions 2)).contexts[0]? = some (.realm realm) := rfl
  have handed : (empty.run actions).HandedOut 0 point :=
    ⟨Realm.Shallow.actions 2, empty.run actions, [], .made before (.plain ⟨5⟩) rfl, run_nil _⟩
  obtain ⟨walks, answers⟩ := walks_well_founded actions present deep
  obtain ⟨chain, subclass⟩ := walks ⟨5⟩ Realm.Shallow.record rfl
  exact ⟨present, deep, chain, subclass ⟨0⟩, subclass ⟨7⟩, handed, answers point handed "area"⟩

end World

end ObjectModel
