import ObjectModel.Proofs.Runs.Action
import ObjectModel.Proofs.Runs.Outcomes
import ObjectModel.Proofs.Tables.Refinement

/-! # What an operation can do

Every public operation is a chain of moves, and there are few of them: a record is written, a table
is added or given to a new instance, a method is made, a class is added to a registry with two new
tables, a pending link is bound, a context is opened. No move touches a table that is already there.
Some operations end with one change to one table, and nothing else can happen: what all moves and
all changes preserve is preserved by every run.
-/

namespace ObjectModel

open Relation

/-- Every table of the store can be searched through its index. -/
def Store.Coherent (store : Store) : Prop :=
  ∀ table ∈ store.tables, table.Coherent

theorem Store.Coherent.table {store : Store} (coherent : store.Coherent) (ref : TableRef) :
    (store.table ref).Coherent := by
  rw [Store.table]
  cases found : store.tables[ref.index]? with
  | none => exact PropertyTable.coherent_empty
  | some table => exact coherent table (Array.mem_of_getElem? found)

namespace Store

/-- What can happen to a store while no class is added and no table changes. -/
inductive Move : Store → Store → Prop where
  /-- A record that concerns no class is written. -/
  | record (store : Store) (event : LogRecord) (trace : event.level = .trace) :
      Move store { store with journal := store.journal.push event }
  | addTable (store : Store) (table : PropertyTable)
      (coherent : store.Coherent → table.Coherent) :
      Move store { store with tables := store.tables.push table }
  /-- A plain instance is made over a table of its own. -/
  | addPlain (store : Store) (ofClass : ClassId) (table : PropertyTable)
      (payload : Option Primitive) (coherent : table.Coherent) :
      Move store
        { store with
          tables := store.tables.push table
          objects := store.objects.push
            (.plain ⟨store.objects.size, ofClass, ⟨store.tables.size⟩, payload⟩) }
  | addMethod (store : Store) (convention : Convention) (ofClass : ClassId) (table : TableRef)
      (callable : Callable) :
      Move store
        { store with
          objects := store.objects.push
            (convention.wrap ⟨store.objects.size, ofClass, table, callable⟩) }

theorem addTable_leads {table : PropertyTable} (coherent : table.Coherent) :
    (addTable table).Leads Move :=
  .of_step fun store => .addTable store table fun _ => coherent

theorem snapshot_leads (ref : TableRef) : (snapshot ref).Leads Move :=
  .of_step fun store => .record store _ rfl

theorem addPlain_leads (ofClass : ClassId) {table : PropertyTable} (coherent : table.Coherent)
    (payload : Option Primitive) : (addPlain ofClass table payload).Leads Move :=
  .of_step fun store => .addPlain store ofClass table payload coherent

theorem addMethod_leads (convention : Convention) (ofClass : ClassId) (table : TableRef)
    (callable : Callable) : (addMethod convention ofClass table callable).Leads Move :=
  .of_step fun store => .addMethod store convention ofClass table callable

/-- An instance that is seeded from a table has a coherent table of its own. -/
theorem snapshot_addPlain_leads (ref : TableRef) (ofClass : ClassId) (payload : Option Primitive) :
    (snapshot ref >>= fun table => addPlain ofClass table payload).Leads Move := by
  intro store
  refine (snapshot_leads ref store).trans ?_
  exact addPlain_leads ofClass (PropertyTable.coherent_inheritable (store.table ref)) payload _

end Store

open Store

theorem Registry.lookup_leads (registry : Registry) (value : Value) (name : String) (limit : Nat) :
    (registry.lookup value name limit).Leads Move := by
  refine Effect.Leads.get.bind fun store => (Effect.Leads.ofOutcome _).bind fun resolution => ?_
  cases resolution with
  | own member => exact .pure member
  | inherited owner member =>
    exact Effect.Leads.bind (.of_step fun store => .record store _ rfl) fun _ => .pure member

namespace Realm

variable (realm : Realm)

theorem newMethod_leads (convention : Convention) (callable : Callable) :
    (realm.newMethod convention callable).Leads Move :=
  (Effect.Leads.ofOutcome _).bind fun table => addMethod_leads convention _ table callable

theorem instantiate_leads (ofClass : ClassId) : (realm.instantiate ofClass).Leads Move :=
  (Effect.Leads.ofOutcome _).bind fun template => snapshot_addPlain_leads template ofClass none

theorem newPrimitive_leads (ofClass : ClassId) (payload : Primitive) :
    (realm.newPrimitive ofClass payload).Leads Move := by
  rw [newPrimitive]
  cases realm.registry.templateOf ofClass with
  | error cause =>
    simp only [pure_bind]
    exact addPlain_leads ofClass PropertyTable.coherent_empty (some payload)
  | ok template => exact snapshot_addPlain_leads template ofClass (some payload)

end Realm

/-- What can happen to a world while no table changes. -/
inductive World.Move : World → World → Prop where
  | store {world : World} {store : Store} (move : Store.Move world.store store) :
      Move world { world with store }
  /-- Names and what was shown change, but neither the store nor the contexts. -/
  | keep (world : World) (slots : Std.ExtTreeMap String Value)
      (heldTables : Std.ExtTreeMap String TableRef) (displays : Array (Display Value TableRef)) :
      Move world { world with slots, heldTables, displays }
  /-- A class with two new tables is added to a bare registry. -/
  | register {world : World} {context : Nat} {registry : Registry}
      (present : world.contexts[context]? = some (.bare registry)) (name : String)
      (kind : ClassKind) (link super : Option ClassId) {members template : PropertyTable}
      (coherentMembers : members.Coherent) (coherentTemplate : template.Coherent) :
      Move world
        { world with
          store := world.store.withTables members template [.registered name registry.nextId kind]
          contexts := world.contexts.modify context fun _ =>
            .bare (registry.push (world.store.recordFor name kind link super)) }
  /-- A class is created in a realm, with a copy of the public members of the root. -/
  | createClass {world : World} {context : Nat} {realm : Realm} {root : ClassRecord} {name : String}
      (present : world.contexts[context]? = some (.realm realm))
      (found : realm.registry.recordOf realm.builtins.root = .ok root)
      (accepted : name = "" → realm.settings.allowsEmptyNames = true) :
      Move world
        { world with
          store := realm.storeAfterCreating world.store root.members name
          contexts := world.contexts.modify context fun _ =>
            .realm { realm with
              registry := realm.registry.push (realm.recordFor world.store name) } }
  /-- A pending class link is bound. -/
  | bind {world : World} {context : Nat} {found : Context} {target link : ClassId}
      {registry : Registry} (present : world.contexts[context]? = some found)
      (bound : found.registry.bind target link = .ok registry) :
      Move world
        { world with
          contexts := world.contexts.modify context fun _ => found.withRegistry registry }
  | openBare (world : World) : Move world { world with contexts := world.contexts.push (.bare .empty) }
  | openRealm (world : World) (settings : Settings) :
      Move world
        { world with
          store := Realm.storeAfterBoot settings world.store
          contexts := world.contexts.push
            (.realm (Realm.started settings world.store.tables.size)) }

/-- A move that leaves all contexts as they are. -/
def World.Quiet (world later : World) : Prop :=
  Move world later ∧ later.contexts = world.contexts

/-- The world after a change to the table behind a handle. -/
def World.written (world : World) (ref : TableRef) (route : WriteRoute) (change : TableChange) :
    World :=
  { world with store := ((Store.write ref route change).perform world.store).2 }

/-- How one operation takes a world to another: by a chain of moves that leave the contexts alone, by
such a chain and then the one change that is named, or by one other move. -/
inductive World.Turn (world : World) : Option (TableRef × TableChange) → World → Prop where
  | quiet {later : World} (moves : ReflTransGen Quiet world later) : Turn world none later
  | change {middle : World} (moves : ReflTransGen Quiet world middle) (ref : TableRef)
      (route : WriteRoute) (change : TableChange) :
      Turn world (some (ref, change)) (middle.written ref route change)
  | move {later : World} (move : Move world later) : Turn world none later

/-- It does not matter whether the answer is looked at. -/
theorem World.Turn.ignore {α : Type} {world : World} {effect : Effect World α}
    {change? : Option (TableRef × TableChange)}
    (turn : world.Turn change? (effect.perform world).2) :
    world.Turn change? (effect.ignore.perform world).2 := by
  rwa [Effect.perform_ignore]

namespace World

variable {context : Nat}

theorem quiet_of_store {world : World} {store : Store}
    (moves : ReflTransGen Store.Move world.store store) :
    ReflTransGen Quiet world { world with store } :=
  moves.lift (fun store => { world with store }) fun _ _ move => ⟨.store move, rfl⟩

theorem onStore_leads {α : Type} {effect : Effect Store α} (leads : effect.Leads Store.Move) :
    (onStore effect).Leads Quiet :=
  fun world => quiet_of_store (leads world.store)

theorem openContext_turn (world : World) (plan : ContextPlan) :
    world.Turn none ((openContext plan).perform world).2 := by
  cases plan with
  | bare => exact .move (.openBare world)
  | realm settings =>
    have opened : ((openContext (.realm settings)).perform world).2 =
        { world with
          store := Realm.storeAfterBoot settings world.store
          contexts := world.contexts.push
            (.realm (Realm.started settings world.store.tables.size)) } := by
      simp [openContext, Effect.perform_bind, Realm.perform_boot, perform_addContext]
    rw [opened]
    exact .move (.openRealm world settings)

theorem createClass_turn (world : World) (name : String) :
    world.Turn none ((createClass context name).perform world).2 := by
  rcases createClass_cases context name world with
    ⟨cause, failed⟩ | ⟨realm, root, present, found, accepted, created⟩
  · rw [failed]
    exact .quiet .refl
  · rw [created]
    exact .move (.createClass present found accepted)

theorem bind_turn (world : World) (target link : ClassId) :
    world.Turn none ((bind context target link).perform world).2 := by
  rcases bind_cases context target link world with ⟨cause, failed⟩ | ⟨found, registry, present, bound, done⟩
  · rw [failed]
    exact .quiet .refl
  · rw [done]
    exact .move (.bind present bound)

/-- Registering a record that was just made adds the class, or leaves its tables behind alone. -/
theorem register_turn (world : World) {make : Effect Store ClassRecord} {name : String} {kind : ClassKind}
    {link super : Option ClassId} {members template : PropertyTable}
    (coherentMembers : members.Coherent) (coherentTemplate : template.Coherent)
    (makes : ∀ store : Store, make.perform store =
      (.ok (store.recordFor name kind link super), store.withTables members template [])) :
    world.Turn none ((do let record ← onStore make; register context record).perform world).2 := by
  let withMembers : Store := { world.store with tables := world.store.tables.push members }
  let withBoth : Store := world.store.withTables members template []
  let record := world.store.recordFor name kind link super
  have performs : (do let record ← onStore make; register context record).perform world =
      (register context record).perform { world with store := withBoth } := by
    simp only [Effect.perform_bind, perform_onStore, makes, withBoth, record]
  rw [performs]
  rcases register_cases context record { world with store := withBoth } with
    ⟨cause, failed⟩ | ⟨registry, present, registered⟩
  · have first : Store.Move world.store withMembers :=
      .addTable world.store members fun _ => coherentMembers
    have second : Store.Move withMembers withBoth := by
      simpa [withBoth, Store.withTables] using
        Store.Move.addTable withMembers template fun _ => coherentTemplate
    rw [failed]
    exact .quiet (quiet_of_store ((ReflTransGen.single first).tail second))
  · have added : Store.withTables world.store members template [.registered name registry.nextId kind] =
        { withBoth with
          journal := withBoth.journal.push (.registered record.name registry.nextId record.kind) } := by
      simp [withBoth, record, Store.withTables, Store.recordFor]
    have there : world.contexts[context]? = some (.bare registry) := present
    rw [registered, ← added]
    exact .move (.register there name kind link super coherentMembers coherentTemplate)

end World

/-! ## Changes to tables -/

/-- Setting a member of a class is a write to the table of its members. -/
theorem Realm.perform_setProperty {realm : Realm} {target : ClassId} {ref : TableRef}
    (members : realm.registry.membersOf target = .ok ref) (tier name : String) (value : Value)
    (store : Store) :
    (realm.setProperty target tier name value).perform store =
      (Store.write ref .members (.set tier name value)).perform store := by
  simp [setProperty, Effect.perform_bind, members]

namespace World

/-- The realm at a position, if there is one. -/
def realm? (world : World) (context : Nat) : Option Realm :=
  match world.contexts[context]? with
  | some (.realm realm) => some realm
  | _ => none

/-- The method that the realm at a position makes of some code. -/
def methodMade? (world : World) (context : Nat) (convention : Convention) (callable : Callable) :
    Option Value := do
  let realm ← world.realm? context
  ((realm.newMethod convention callable).perform world.store).1.toOption

/-- A change that goes through the members of a class of a realm. -/
def throughMembers? (world : World) (context : Nat) (target : ClassId) (change : TableChange) :
    Option (TableRef × TableChange) := do
  let realm ← world.realm? context
  let ref ← (realm.registry.membersOf target).toOption
  return (ref, change)

theorem realm?_eq_some_iff {world : World} {context : Nat} {realm : Realm} :
    world.realm? context = some realm ↔ world.contexts[context]? = some (.realm realm) := by
  rw [realm?]
  rcases world.contexts[context]? with _ | ⟨registry | found⟩ <;> simp

theorem ne_of_realm?_eq_none {world : World} {context : Nat} (absent : world.realm? context = none)
    (realm : Realm) : world.contexts[context]? ≠ some (.realm realm) := by
  intro present
  simp [realm?_eq_some_iff.mpr present] at absent

/-- Setting a member of a class after some moves is the one change through its members, or nothing
where there is no such class. -/
theorem throughMembers_turn {world : World} {context : Nat} {realm : Realm} {store : Store}
    (there : world.realm? context = some realm)
    (moves : ReflTransGen Quiet world { world with store }) (target : ClassId) (tier name : String)
    (value : Value) :
    world.Turn (world.throughMembers? context target (.set tier name value))
      { world with store := ((realm.setProperty target tier name value).perform store).2 } := by
  cases members : realm.registry.membersOf target with
  | error cause =>
    have none' : world.throughMembers? context target (.set tier name value) = none := by
      simp [throughMembers?, there, members, Except.toOption]
    have unchanged : ((realm.setProperty target tier name value).perform store).2 = store := by
      simp [Realm.setProperty, Effect.perform_bind, members]
    rw [none', unchanged]
    exact .quiet moves
  | ok ref =>
    have one : world.throughMembers? context target (.set tier name value) =
        some (ref, .set tier name value) := by
      simp [throughMembers?, there, members, Except.toOption]
    rw [one, Realm.perform_setProperty members]
    exact .change moves ref .members _

end World

namespace Action

/-- The change that an operation makes to a table which is there before it, with the handle it goes
through. -/
def change? (world : World) : Action → Option (TableRef × TableChange)
  | setProperty context target tier name value =>
    world.throughMembers? context target (.set tier name value)
  | defineMethod context convention target name callable => do
    let method ← world.methodMade? context convention callable
    world.throughMembers? context target (.set publicTier name method)
  | write ref change => some (ref, change)
  | _ => none

private theorem setProperty_turn (world : World) (context : Nat) (target : ClassId)
    (tier name : String) (value : Value) :
    let action := Action.setProperty context target tier name value
    world.Turn (action.change? world) (world.act action) := by
  intro action
  cases there : world.realm? context with
  | none =>
    obtain ⟨cause, failed⟩ := World.perform_realmAt_of_ne (World.ne_of_realm?_eq_none there)
    have unchanged : world.act action = world := by
      simp [action, World.act, effect, Effect.perform_bind, failed]
    have none' : action.change? world = none := by simp [action, change?, World.throughMembers?, there]
    rw [unchanged, none']
    exact .quiet .refl
  | some realm =>
    have found := World.perform_realmAt (World.realm?_eq_some_iff.mp there)
    have after : world.act action =
        { world with store := ((realm.setProperty target tier name value).perform world.store).2 } := by
      simp [action, World.act, effect, Effect.perform_bind, found]
    rw [after]
    exact World.throughMembers_turn there .refl target tier name value

private theorem defineMethod_turn (world : World) (context : Nat) (convention : Convention)
    (target : ClassId) (name : String) (callable : Callable) :
    let action := Action.defineMethod context convention target name callable
    world.Turn (action.change? world) (world.act action) := by
  intro action
  cases there : world.realm? context with
  | none =>
    obtain ⟨cause, failed⟩ := World.perform_realmAt_of_ne (World.ne_of_realm?_eq_none there)
    have unchanged : world.act action = world := by
      simp [action, World.act, effect, Effect.perform_bind, failed]
    have none' : action.change? world = none := by
      simp [action, change?, World.methodMade?, there]
    rw [unchanged, none']
    exact .quiet .refl
  | some realm =>
    have found := World.perform_realmAt (World.realm?_eq_some_iff.mp there)
    have moves := World.onStore_leads (realm.newMethod_leads convention callable) world
    rw [World.perform_onStore] at moves
    rcases made : (realm.newMethod convention callable).perform world.store with
      ⟨cause | method, store⟩
    · have after : world.act action = { world with store } := by
        simp [action, World.act, effect, Effect.perform_bind, found, Realm.defineMethod, made]
      have none' : action.change? world = none := by
        simp [action, change?, World.methodMade?, there, made, Except.toOption]
      rw [after, none']
      rw [made] at moves
      exact .quiet moves
    · have after : world.act action =
          { world with
            store := ((realm.setProperty target publicTier name method).perform store).2 } := by
        simp [action, World.act, effect, Effect.perform_bind, found, Realm.defineMethod, made]
      have through : action.change? world =
          world.throughMembers? context target (.set publicTier name method) := by
        simp [action, change?, World.methodMade?, there, made, Except.toOption]
      rw [after, through]
      rw [made] at moves
      exact World.throughMembers_turn there moves target publicTier name method

/-- An operation is a chain of moves, or a chain of moves and then the one change that it makes. -/
theorem act_turn (world : World) (action : Action) :
    world.Turn (action.change? world) (world.act action) := by
  have onRealm {α : Type} {context : Nat} {effect : Realm → Effect Store α}
      (leads : ∀ realm, (effect realm).Leads Store.Move) :
      (do (World.onStore (effect (← World.realmAt context))).ignore).Leads World.Quiet :=
    (World.realmAt_leads _).bind fun realm => (World.onStore_leads (leads realm)).ignore
  cases action with
  | openContext plan => exact (world.openContext_turn plan).ignore
  | createClass context name => exact (world.createClass_turn name).ignore
  | instantiate context ofClass =>
    exact .quiet (onRealm (fun realm => realm.instantiate_leads ofClass) world)
  | newText context content =>
    exact .quiet (onRealm (fun realm => realm.newPrimitive_leads _ _) world)
  | newInteger context content =>
    exact .quiet (onRealm (fun realm => realm.newPrimitive_leads _ _) world)
  | newMethod context convention callable =>
    exact .quiet (onRealm (fun realm => realm.newMethod_leads convention callable) world)
  | defineMethod context convention target name callable =>
    exact defineMethod_turn world context convention target name callable
  | setProperty context target tier name value =>
    exact setProperty_turn world context target tier name value
  | lookup context value name limit =>
    refine .quiet ?_
    cases limit with
    | none => exact onRealm (fun realm => realm.registry.lookup_leads value name _) world
    | some limit =>
      exact (World.registryAt_leads _).bind (fun registry =>
        (World.onStore_leads (registry.lookup_leads value name limit)).ignore) world
  | registerPending context name kind =>
    simp only [World.act, effect, Effect.bind_ignore]
    exact (world.register_turn PropertyTable.coherent_empty PropertyTable.coherent_empty
      (ClassRecord.perform_pending name kind)).ignore
  | registerLinked context name kind link super members template =>
    simp only [World.act, effect, Effect.bind_ignore]
    exact (world.register_turn (PropertyTable.coherent_ofEntries members)
      (PropertyTable.coherent_ofEntries template)
      (ClassRecord.perform_linked name kind link super _ _)).ignore
  | bind context target link => exact world.bind_turn target link
  | makePlain ofClass entries payload =>
    exact .quiet ((World.onStore_leads
      (addPlain_leads ofClass (PropertyTable.coherent_ofEntries entries) payload)).ignore world)
  | makeMethod convention ofClass table callable =>
    exact .quiet ((World.onStore_leads
      (addMethod_leads convention ofClass table callable)).ignore world)
  | share entries =>
    exact .quiet ((World.onStore_leads
      (addTable_leads (PropertyTable.coherent_ofEntries entries))).ignore world)
  | shareCopy table =>
    exact .quiet (.single
      ⟨.store (.addTable world.store _ fun coherent => coherent.table table), rfl⟩)
  | shareSnapshot table =>
    refine .quiet ((World.onStore_leads (snapshot_leads table) world).tail ?_)
    exact ⟨.store (.addTable _ _ fun _ => PropertyTable.coherent_inheritable _), rfl⟩
  | snapshot table => exact .quiet ((World.onStore_leads (snapshot_leads table)).ignore world)
  | write table change => exact .change .refl table .handle change
  | keep slots heldTables displays =>
    exact .quiet (.single ⟨.keep world slots heldTables displays, rfl⟩)

end Action

namespace World

/-- What moves and changes preserve, a run preserves. -/
theorem run_preserves_of_move {invariant : World → Prop}
    (move : ∀ {world later : World}, Move world later → invariant world → invariant later)
    (write : ∀ (world : World) (ref : TableRef) (route : WriteRoute) (change : TableChange),
      invariant world → invariant (world.written ref route change))
    {world : World} (initial : invariant world) (actions : List Action) :
    invariant (world.run actions) := by
  refine run_preserves (fun world action holds => ?_) initial actions
  have chain {middle : World} (moves : ReflTransGen Quiet world middle) : invariant middle := by
    induction moves with
    | refl => exact holds
    | tail _ last ih => exact move last.1 ih
  have turn := action.act_turn world
  generalize action.change? world = change?, world.act action = later at turn
  cases turn with
  | quiet moves => exact chain moves
  | change moves ref route change => exact write _ ref route change (chain moves)
  | move one => exact move one holds

end World

end ObjectModel
