import ObjectModel.Proofs.Classes.CopyOnCreate
import ObjectModel.Proofs.Journal.Message
import ObjectModel.Proofs.Realms.Isolation
import ObjectModel.Proofs.Realms.Shape
import ObjectModel.Proofs.Runs.Demands

/-! # The journal tells of the classes

While code runs in one realm, each operation is one of two things. It leaves the classes as they are, and
then it writes no record that concerns classes, or it creates one class and writes the three records
that belong to a creation, one behind the other. So the registrations in the journal are the classes of
the realm, in the order of their identifiers.
-/

namespace ObjectModel

open Relation

/-! ## What a creation writes -/

/-- The records of the creation of a class, where the members are copied from this table. -/
def creationRecords (source : PropertyTable) (name : String) (id : ClassId) : List LogRecord :=
  [.snapshot (source.entries.toList.filter (·.tier = publicTier)).length source.entries.size,
    .registered name id .user, .created name id]

/-- The lines of these records. -/
def creationLines (source : PropertyTable) (name : String) (id : ClassId) : List (String × String) :=
  [("TRACE", "inheritable snapshot: " ++
      (source.entries.toList.filter (·.tier = publicTier)).length.repr ++ " of " ++
      source.entries.size.repr ++ " entries"),
    ("DEBUG", "registered class '" ++ name ++ "' as " ++ id.text ++ " (" ++ "User" ++ ")"),
    ("DEBUG", "created class '" ++ name ++ "' as " ++ id.text)]

theorem journalLines_creationRecords (source : PropertyTable) (name : String) (id : ClassId) :
    journalLines .trace (creationRecords source name id) = creationLines source name id :=
  rfl

/-- The store after a creation has these records and no others. -/
theorem Realm.journal_storeAfterCreating (realm : Realm) {store : Store} {rootMembers : TableRef}
    (coherent : (store.table rootMembers).Coherent) (name : String) :
    (realm.storeAfterCreating store rootMembers name).journal.toList =
      store.journal.toList ++
        creationRecords (store.table rootMembers) name realm.registry.nextId := by
  have kept : (store.table rootMembers).inheritable.size =
      ((store.table rootMembers).entries.toList.filter (·.tier = publicTier)).length := by
    rw [PropertyTable.size, ← Array.length_toList, PropertyTable.toList_inheritable coherent]
    rfl
  simp only [storeAfterCreating, Store.withTables, Array.toList_append, kept]
  rfl

theorem Registry.push_ne (registry : Registry) (record : ClassRecord) : registry.push record ≠ registry := by
  intro same
  have size := congrArg Registry.size same
  simp [push, Registry.size] at size

namespace World

/-- All that came into the journal are records that concern no class. -/
def OnlyTraces (world later : World) : Prop :=
  ∃ added : List LogRecord, (∀ record ∈ added, record.level = .trace) ∧
    later.store.journal.toList = world.store.journal.toList ++ added

/-- What one operation does to the classes of a realm and tells of them. -/
inductive Episode (context : Nat) (world later : World) : Prop where
  /-- The classes stay as they are, and no record concerns them. -/
  | quiet (contexts : later.contexts = world.contexts) (traces : world.OnlyTraces later)
  /-- One class is created, and the records are those of its creation. -/
  | created {realm : Realm} {root : ClassRecord} {name : String}
      (present : world.contexts[context]? = some (.realm realm))
      (found : realm.registry.recordOf realm.builtins.root = .ok root)
      (contexts : later.contexts = world.contexts.modify context fun _ =>
        .realm { realm with registry := realm.registry.push (realm.recordFor world.store name) })
      (journal : later.store.journal.toList = world.store.journal.toList ++
        creationRecords (world.store.table root.members) name realm.registry.nextId)

variable {context : Nat} {world middle later : World}

theorem OnlyTraces.of_eq (same : later.store.journal = world.store.journal) :
    world.OnlyTraces later :=
  ⟨[], by simp, by simp [same]⟩

theorem OnlyTraces.trans (first : world.OnlyTraces middle) (second : middle.OnlyTraces later) :
    world.OnlyTraces later := by
  obtain ⟨added, traces, journal⟩ := first
  obtain ⟨added', traces', journal'⟩ := second
  exact ⟨added ++ added', List.forall_mem_append.mpr ⟨traces, traces'⟩, by
    rw [journal', journal, List.append_assoc]⟩

/-- Putting a context at a position is putting another one there, or it changes nothing. -/
theorem modify_contexts_eq_iff {found replacement : Context}
    (present : world.contexts[context]? = some found) :
    (world.contexts.modify context fun _ => replacement) = world.contexts ↔ replacement = found := by
  constructor
  · intro same
    have here := getElem?_modify_self present replacement
    rw [same, present, Option.some.injEq] at here
    exact here.symm
  · rintro rfl
    refine Array.ext_getElem? fun position => ?_
    rw [Array.getElem?_modify]
    split
    next here =>
      subst here
      rw [present, Option.map_some]
    next => rfl

/-- Where one context is put at a position and all others stay, it is put at the position that may
change, or it changes nothing. -/
theorem SameElsewhere.contexts_eq (elsewhere : SameElsewhere context world later) {acted : Nat}
    {found replacement : Context} (there : world.contexts[acted]? = some found) (apart : acted ≠ context)
    (put : later.contexts = world.contexts.modify acted fun _ => replacement) :
    later.contexts = world.contexts := by
  have kept := elsewhere acted apart
  rw [put, getElem?_modify_self there, there, Option.some.injEq] at kept
  rw [put, modify_contexts_eq_iff there]
  exact kept

theorem bare_push_ne (registry : Registry) (record : ClassRecord) :
    Context.bare (registry.push record) ≠ .bare registry :=
  fun same => registry.push_ne record (Context.bare.inj same)

theorem realm_push_ne (realm : Realm) (record : ClassRecord) :
    Context.realm { realm with registry := realm.registry.push record } ≠ .realm realm :=
  fun same => realm.registry.push_ne record (congrArg Realm.registry (Context.realm.inj same))

/-- A move that leaves the contexts as they are writes no record that concerns classes. -/
theorem Move.onlyTraces (move : Move world later) (same : later.contexts = world.contexts) :
    world.OnlyTraces later := by
  cases move with
  | store move =>
    cases move with
    | record event trace => exact ⟨[event], by simp [trace], by simp⟩
    | addTable | addPlain | addMethod => exact .of_eq rfl
  | keep | bind | openBare => exact .of_eq rfl
  | register present => exact absurd ((modify_contexts_eq_iff present).mp same) (bare_push_ne _ _)
  | createClass present => exact absurd ((modify_contexts_eq_iff present).mp same) (realm_push_ne _ _)
  | openRealm => exact absurd (congrArg Array.size same) (by simp)

theorem onlyTraces_of_quiet (moves : ReflTransGen Quiet world later) : world.OnlyTraces later := by
  induction moves with
  | refl => exact .of_eq rfl
  | tail _ last ih => exact ih.trans (last.1.onlyTraces last.2)

/-- A move in a realm that leaves all other contexts alone is an episode of that realm. -/
theorem Move.episode (move : Move world later) (elsewhere : SameElsewhere context world later)
    {realm : Realm} (present : world.contexts[context]? = some (.realm realm))
    (formed : realm.WellFormed) (coherent : world.store.Coherent) : world.Episode context later := by
  by_cases same : later.contexts = world.contexts
  · exact .quiet same (move.onlyTraces same)
  · have notPushed {added : Context} (pushed : later.contexts = world.contexts.push added) : False := by
      have bound := (Array.getElem?_eq_some_iff.mp present).1
      have kept := elsewhere world.contexts.size (Nat.ne_of_gt bound)
      simp [pushed] at kept
    cases move with
    | store | keep => exact absurd rfl same
    | @register acted registry there =>
      have apart : acted ≠ context := by
        rintro rfl
        cases present.symm.trans there
      exact absurd (elsewhere.contexts_eq there apart rfl) same
    | @createClass acted other root name there found =>
      by_cases here : acted = context
      · subst here
        exact .created there found rfl (other.journal_storeAfterCreating (coherent.table _) name)
      · exact absurd (elsewhere.contexts_eq there here rfl) same
    | @bind acted found target link registry there bound =>
      have apart : acted ≠ context := by
        rintro rfl
        cases present.symm.trans there
        exact formed.bind_ne_ok target link registry bound
      exact absurd (elsewhere.contexts_eq there apart rfl) same
    | openBare | openRealm => exact (notPushed rfl).elim

theorem Turn.episode {change? : Option (TableRef × TableChange)} (turn : world.Turn change? later)
    (elsewhere : SameElsewhere context world later) {realm : Realm}
    (present : world.contexts[context]? = some (.realm realm)) (formed : realm.WellFormed)
    (coherent : world.store.Coherent) : world.Episode context later := by
  cases turn with
  | quiet moves => exact .quiet (contexts_of_quiet moves) (onlyTraces_of_quiet moves)
  | @change middle moves ref route change =>
    have written : middle.OnlyTraces (middle.written ref route change) := .of_eq rfl
    have contexts : (middle.written ref route change).contexts = middle.contexts := rfl
    exact .quiet (contexts.trans (contexts_of_quiet moves)) ((onlyTraces_of_quiet moves).trans written)
  | move one => exact one.episode elsewhere present formed coherent

theorem Reachable.episode (reachable : world.Reachable) {realm : Realm}
    (present : world.contexts[context]? = some (.realm realm)) {action : Action}
    (acts : action.ActsIn context) : world.Episode context (world.act action) :=
  (action.act_turn world).episode (sameElsewhere_act acts world) present
    (reachable.realmsWellFormed present) reachable.coherent

theorem Episode.exists_realm (episode : world.Episode context later) {realm : Realm}
    (present : world.contexts[context]? = some (.realm realm)) :
    ∃ realm, later.contexts[context]? = some (.realm realm) := by
  cases episode with
  | quiet contexts => exact ⟨realm, contexts ▸ present⟩
  | created there _ contexts => exact ⟨_, contexts ▸ getElem?_modify_self there _⟩

/-- Whatever code does in a realm, it does in episodes. -/
theorem Reachable.episodes (reachable : world.Reachable) {realm : Realm}
    (present : world.contexts[context]? = some (.realm realm))
    (chain : ReflTransGen (Acts context) world later) : ReflTransGen (Episode context) world later := by
  suffices ReflTransGen (Episode context) world later ∧ later.Reachable ∧
      ∃ realm, later.contexts[context]? = some (.realm realm) from this.1
  induction chain with
  | refl => exact ⟨.refl, reachable, realm, present⟩
  | tail _ last ih =>
    obtain ⟨episodes, reachable, realm, present⟩ := ih
    obtain ⟨action, acts, rfl⟩ := last
    have episode := reachable.episode present acts
    exact ⟨episodes.tail episode, reachable.act action, episode.exists_realm present⟩

end World

/-! ## What the journal tells of a realm -/

/-- The name, the identifier and the kind of each class, in the order of the identifiers. -/
def Registry.listing (registry : Registry) : List (String × ClassId × ClassKind) :=
  registry.toList.map fun (id, record) => (record.name, id, record.kind)

theorem Registry.listing_push (registry : Registry) (record : ClassRecord) :
    (registry.push record).listing =
      registry.listing ++ [(record.name, registry.nextId, record.kind)] := by
  simp [listing, toList, push, List.zipIdx_append, nextId, size]

namespace World

/-- The registrations in the journal since an earlier moment are the classes of the realm. -/
def Tells (origin : World) (context : Nat) (world : World) : Prop :=
  ∃ realm told, world.contexts[context]? = some (.realm realm) ∧
    world.store.journal.toList = origin.store.journal.toList ++ told ∧
    told.filterMap LogRecord.registration? = realm.registry.listing

variable {origin world later : World} {context : Nat}

theorem Episode.tells (episode : world.Episode context later) (tells : origin.Tells context world) :
    origin.Tells context later := by
  obtain ⟨realm, told, present, journal, registrations⟩ := tells
  cases episode with
  | quiet contexts traces =>
    obtain ⟨added, traces, journal'⟩ := traces
    have silent : added.filterMap LogRecord.registration? = [] := by
      refine List.filterMap_eq_nil_iff.mpr fun record member => ?_
      have trace := traces record member
      cases record with
      | registered name id kind => cases trace
      | _ => rfl
    refine ⟨realm, told ++ added, contexts ▸ present, ?_, ?_⟩
    · rw [journal', journal, List.append_assoc]
    · rw [List.filterMap_append, registrations, silent, List.append_nil]
  | @created realm' root name there found contexts journal' =>
    cases present.symm.trans there
    refine ⟨_, told ++ creationRecords (world.store.table root.members) name realm.registry.nextId,
      contexts ▸ getElem?_modify_self present _, ?_, ?_⟩
    · rw [journal', journal, List.append_assoc]
    · rw [List.filterMap_append, registrations, Registry.listing_push]
      rfl

theorem tells_openRealm (world : World) (settings : Settings) :
    world.Tells world.contexts.size (world.act (.openContext (.realm settings))) := by
  have journal : (world.act (.openContext (.realm settings))).store.journal.toList =
      world.store.journal.toList ++
        [.registered settings.rootName ⟨0⟩ .metaclass, .rootBound settings.rootName,
          .registered "Method" ⟨1⟩ .builtin, .registered "UnboundMethod" ⟨2⟩ .builtin,
          .registered "String" ⟨3⟩ .builtin, .registered "Integer" ⟨4⟩ .builtin,
          .bootstrapComplete 5] := by
    rw [act_openRealm, Realm.storeAfterBoot, Array.toList_append]
  exact ⟨_, _, world.getElem?_openRealm settings, journal, rfl⟩

theorem Tells.episodes (tells : origin.Tells context world)
    (episodes : ReflTransGen (Episode context) world later) : origin.Tells context later := by
  induction episodes with
  | refl => exact tells
  | tail _ last ih => exact last.tells ih

/-- A creation that succeeds has the next identifier and writes the lines of a creation. -/
theorem Reachable.lines_of_createClass (reachable : world.Reachable) {realm : Realm}
    (present : world.contexts[context]? = some (.realm realm)) {name : String} {id : ClassId}
    (created : (createClass context name).perform world = (.ok id, later)) :
    ∃ root, realm.registry.recordOf realm.builtins.root = .ok root ∧ id = realm.registry.nextId ∧
      journalLines .trace (journalSince world later) =
        creationLines (world.store.table root.members) name id := by
  obtain ⟨other, root, there, found, rfl, rfl⟩ := exists_of_createClass_eq_ok created
  cases present.symm.trans there
  have journal := realm.journal_storeAfterCreating (reachable.coherent.table root.members) name
  refine ⟨root, found, rfl, ?_⟩
  rw [journalSince, journal, ← Array.length_toList, List.drop_left, journalLines_creationRecords]

/-- A realm is opened after any run, with any settings, and then demands are made in it alone, with all
that the code of the realm does at any depth of nested calls. From the lines that were written since
then, the names, identifiers and kinds of its classes are read off in the order of their identifiers,
whatever the names are and whichever lines the reader keeps. A creation that succeeds writes the three
lines of a creation. Each operation, and each step of what meets a demand, creates one class and writes
the records of its creation, or leaves the classes as they are and writes no record that concerns
them. -/
theorem journal_tells_classes (earlier : List Action) (settings : Settings) (demands : List Demand)
    (made : ∀ demand ∈ demands, demand.MadeIn (empty.run earlier).contexts.size) :
    let origin := empty.run earlier
    let context := origin.contexts.size
    let world := (origin.act (.openContext (.realm settings))).meetAll demands
    ∃ realm, world.contexts[context]? = some (.realm realm) ∧
      (∀ reader, LogRecord.registrationsTold (journalLines reader (journalSince origin world)) =
        realm.registry.listing.map some) ∧
      (∀ name id later, (createClass context name).perform world = (.ok id, later) →
        ∃ root, realm.registry.recordOf realm.builtins.root = .ok root ∧ id = realm.registry.nextId ∧
          journalLines .trace (journalSince world later) =
            creationLines (world.store.table root.members) name id) ∧
      (∀ action : Action, action.ActsIn context → world.Episode context (world.act action)) ∧
      ∀ demand : Demand, demand.MadeIn context →
        ReflTransGen (Episode context) world (world.meet demand).2 := by
  intro origin context world
  have opened : (origin.act (.openContext (.realm settings))).Reachable :=
    Reachable.act ⟨earlier, rfl⟩ _
  have episodes := opened.episodes (origin.getElem?_openRealm settings) (acts_meetAll _ made)
  obtain ⟨realm, told, present, journal, registrations⟩ :=
    (tells_openRealm origin settings).episodes episodes
  have reachable : world.Reachable := opened.meetAll made
  refine ⟨realm, present, fun reader => ?_, fun name id later => reachable.lines_of_createClass present,
    fun action acts => reachable.episode present acts,
    fun demand made => reachable.episodes present (world.acts_meet made)⟩
  have since : journalSince origin world = told := by
    rw [journalSince, journal, ← Array.length_toList, List.drop_left]
  rw [LogRecord.registrationsTold_journalLines, since, registrations]

/-! ## Names like messages -/

namespace Imitation

/-- The root is called like a whole message. -/
def settings : Settings :=
  Settings.standard.withRootName "registered class 'x' as #9 (User)"

/-- The name goes on like the end of a message. -/
def name : String :=
  "A' as #7 (Builtin)"

def body : Script :=
  [⟨.realm (.createClass name), none, false⟩]

def method : Value :=
  .method ⟨1, ⟨1⟩, ⟨2⟩, .script body⟩

/-- Code that has the method as its receiver calls it. -/
def call : Demand :=
  .perform 1 ⟨0, some method, []⟩ (.call .wrapper .receiver [] none)

/-- The method is made and called, and then a class without a name is created. -/
def demands : List Demand :=
  [.act (.newMethod 0 .method (.script body)), call, .act (.createClass 0 "")]

def realm : Realm :=
  { Realm.started settings 0 with
    registry := ((Realm.started settings 0).registry.push
      ⟨name, .user, some ⟨0⟩, some ⟨0⟩, ⟨10⟩, ⟨11⟩⟩).push
      ⟨"", .user, some ⟨0⟩, some ⟨0⟩, ⟨12⟩, ⟨13⟩⟩ }

theorem run_body (world : World) :
    ((Invocation.run 1 0 ⟨.script body, none, []⟩).perform world).2 =
      ((createClass 0 name).perform world).2 := by
  simp only [body, Invocation.run, Script.run, Command.run, Operation.perform,
    RealmOperation.perform, bind_assoc, pure_bind, Effect.perform_bind, Effect.perform_attempt]
  cases (createClass 0 name).perform world with
  | mk outcome after => cases outcome <;> simp

/-- The call creates the class. -/
theorem meet_call (world : World) :
    (world.meet call).2 = (world.meet (.act (.createClass 0 name))).2 := by
  have called := run_body { world with displays := #[] }
  simp [meet, call, Demand.effect, Operation.perform, ValueTerm.read, readValues, CallRoute.call,
    CallRoute.called, method, Action.effect, called]

end Imitation

open Imitation in
/-- Names that imitate messages are read as the names that they are. -/
theorem journal_tells_classes_imitation :
    (∀ demand ∈ demands, demand.MadeIn 0) ∧
      LogRecord.registrationsTold (journalLines .debug (journalSince empty
        ((empty.act (.openContext (.realm settings))).meetAll demands))) =
          [some ("registered class 'x' as #9 (User)", ⟨0⟩, .metaclass), some ("Method", ⟨1⟩, .builtin),
            some ("UnboundMethod", ⟨2⟩, .builtin), some ("String", ⟨3⟩, .builtin),
            some ("Integer", ⟨4⟩, .builtin), some ("A' as #7 (Builtin)", ⟨5⟩, .user),
            some ("", ⟨6⟩, .user)] := by
  have made : ∀ demand ∈ demands, demand.MadeIn 0 := by
    simp [demands, call, Demand.MadeIn, Action.ActsIn]
  obtain ⟨found, present, told, _⟩ := journal_tells_classes [] settings demands made
  have there : ((empty.act (.openContext (.realm settings))).meetAll demands).contexts[0]? =
      some (.realm realm) := by
    have single (world : World) : world.meetAll demands =
      (((world.meet (.act (.newMethod 0 .method (.script body)))).2.meet call).2.meet
        (.act (.createClass 0 ""))).2 := rfl
    rw [single, meet_call]
    rfl
  cases there.symm.trans present
  exact ⟨made, told .debug⟩

end World

end ObjectModel
