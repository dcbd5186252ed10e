import ObjectModel.Proofs.Classes.Routes

/-! # Refused requests

An operation that can be refused first asks for all that it needs, and writes only when nothing can
go wrong any more. So a request that fails leaves the contexts and the tables as they are and writes
no record. There is one exception: an invocation may find a member on the chain of its target and
then see that it is no code, and the record of what it found is written by then.
-/

namespace ObjectModel

open Relation

namespace Effect

variable {σ α β : Type}

/-- The effect answers in every state. -/
def Succeeds (effect : Effect σ α) : Prop :=
  ∀ state, ∃ answer after, effect.perform state = (.ok answer, after)

/-- Where the effect fails, it has changed the state by a chain of steps and in no other way. -/
def Refuses (step : σ → σ → Prop) (effect : Effect σ α) : Prop :=
  ∀ state cause, (effect.perform state).1 = .error cause →
    ReflTransGen step state (effect.perform state).2

variable {step : σ → σ → Prop} {first effect : Effect σ α} {next : α → Effect σ β}

theorem Succeeds.refuses (succeeds : effect.Succeeds) : effect.Refuses step := by
  intro state cause failed
  obtain ⟨answer, after, performed⟩ := succeeds state
  rw [performed] at failed
  cases failed

theorem Leads.refuses (leads : effect.Leads step) : effect.Refuses step :=
  fun state _ _ => leads state

/-- What only asks can come before what refuses. -/
theorem Leads.bind_refuses (leads : first.Leads step) (refuses : ∀ answer, (next answer).Refuses step) :
    (first >>= next).Refuses step := by
  intro state cause failed
  have start := leads state
  rw [perform_bind] at failed ⊢
  rcases outcome : first.perform state with ⟨stopped | answer, middle⟩
  · simpa only [outcome] using start
  · rw [outcome] at start failed
    exact start.trans (refuses answer middle cause failed)

/-- Behind what refuses everything must succeed. -/
theorem Refuses.bind (refuses : first.Refuses step) (succeeds : ∀ answer, (next answer).Succeeds) :
    (first >>= next).Refuses step := by
  intro state cause failed
  rw [perform_bind] at failed ⊢
  rcases outcome : first.perform state with ⟨stopped | answer, middle⟩
  · have stop := refuses state stopped (by rw [outcome])
    simpa only [outcome] using stop
  · obtain ⟨last, after, performed⟩ := succeeds answer middle
    rw [outcome] at failed
    simp only [performed] at failed
    cases failed

theorem Refuses.ignore (refuses : effect.Refuses step) : effect.ignore.Refuses step := by
  intro state cause failed
  rw [perform_ignore]
  cases outcome : (effect.perform state).1 with
  | ok answer => simp [Effect.ignore, outcome, Except.map] at failed
  | error stopped => exact refuses state stopped outcome

/-- Nothing comes behind an effect that fails, whether its answer would be looked at or not. -/
theorem perform_bind_of_ignore {state after : σ} {cause : Error}
    (failed : effect.ignore.perform state = (.error cause, after)) (next : α → Effect σ β) :
    (effect >>= next).perform state = (.error cause, after) := by
  rw [perform_bind]
  rcases outcome : effect.perform state with ⟨stopped | answer, middle⟩
  · simpa [Effect.ignore, outcome, Except.map] using failed
  · simp [Effect.ignore, outcome, Except.map] at failed

end Effect

open Effect

/-! ## What the operations on a realm refuse -/

namespace Store

/-- One more object is there, and nothing else. -/
def HasSpare (store later : Store) : Prop :=
  ∃ object, later = { store with objects := store.objects.push object }

theorem write_succeeds (ref : TableRef) (route : WriteRoute) (change : TableChange) :
    (write ref route change).Succeeds :=
  fun _ => ⟨_, _, rfl⟩

end Store

section Refusals

variable {step : Store → Store → Prop} (realm : Realm)

theorem Realm.createClass_refuses (name : String) : (realm.createClass name).Refuses step := by
  intro store cause failed
  rcases realm.createClass_cases name store with ⟨_, performed⟩ | ⟨_, _, _, performed⟩
  · rw [performed]
  · rw [performed] at failed
    cases failed

theorem Realm.setProperty_refuses (target : ClassId) (tier name : String) (value : Value) :
    (realm.setProperty target tier name value).Refuses step :=
  (Leads.ofOutcome _).bind_refuses fun table => (Store.write_succeeds table _ _).refuses

theorem Realm.getProperty_refuses (target : ClassId) (name : String) :
    (realm.getProperty target name).Refuses step :=
  (Leads.ofOutcome _).bind_refuses fun _ => (Leads.get.bind fun _ => .ofOutcome _).refuses

theorem Realm.instantiate_refuses (ofClass : ClassId) : (realm.instantiate ofClass).Refuses step :=
  (Leads.ofOutcome _).bind_refuses fun _ => Succeeds.refuses fun _ => ⟨_, _, rfl⟩

/-- The method is made before it turns out that there is no class to set it on. -/
theorem Realm.defineMethod_refuses (convention : Convention) (target : ClassId) (name : String)
    (callable : Callable) :
    (realm.defineMethod convention target name callable).Refuses Store.HasSpare := by
  have makes : (realm.newMethod convention callable).Leads Store.HasSpare :=
    (Leads.ofOutcome _).bind fun table => .of_step fun store => ⟨_, rfl⟩
  exact makes.bind_refuses fun method => realm.setProperty_refuses target publicTier name method

theorem Registry.lookup_refuses (registry : Registry) (value : Value) (name : String) (limit : Nat) :
    (registry.lookup value name limit).Refuses step := by
  refine Leads.get.bind_refuses fun store => (Leads.ofOutcome _).bind_refuses fun resolution => ?_
  cases resolution with
  | own member => exact (Leads.pure member).refuses
  | inherited owner member => exact Succeeds.refuses fun _ => ⟨_, _, rfl⟩

end Refusals

/-! ## Requests -/

/-- An operation that can be refused, with its operands. A walk or a look-up takes the limit that is
given or else that of the realm. -/
inductive Request where
  | createClass (name : String)
  /-- Call the class constructor. -/
  | construct (arguments : List Value)
  | setProperty (target : ClassId) (tier name : String) (value : Value)
  | getProperty (target : ClassId) (name : String)
  | defineMethod (convention : Convention) (target : ClassId) (name : String) (callable : Callable)
  | instantiate (ofClass : ClassId)
  | ancestors (start : ClassId) (limit : Option Nat)
  | isSubclass (sub sup : ClassId) (limit : Option Nat)
  | lookup (value : Value) (name : String) (limit : Option Nat)
  | bind (target link : ClassId)
  | get (table : TableRef) (name : String)
  | invoke (target : Value) (name : String) (arguments : List Value)

/-- What a request does in a context. An invocation is followed to where the code that it found would
start. -/
def Request.effect (context : Nat) : Request → Effect World Unit
  | createClass name => (World.createClass context name).ignore
  | construct arguments => (World.construct context arguments).ignore
  | setProperty target tier name value => do
    let realm ← World.realmAt context
    World.onStore (realm.setProperty target tier name value)
  | getProperty target name => do
    let realm ← World.realmAt context
    (World.onStore (realm.getProperty target name)).ignore
  | defineMethod convention target name callable => do
    let realm ← World.realmAt context
    World.onStore (realm.defineMethod convention target name callable)
  | instantiate ofClass => do
    let realm ← World.realmAt context
    (World.onStore (realm.instantiate ofClass)).ignore
  | ancestors start none => do
    let realm ← World.realmAt context
    (Effect.ofOutcome (realm.ancestors start)).ignore
  | ancestors start (some limit) => do
    let registry ← World.registryAt context
    (Effect.ofOutcome (registry.ancestors start limit)).ignore
  | isSubclass sub sup none => do
    let realm ← World.realmAt context
    (Effect.ofOutcome (realm.isSubclassOf sub sup)).ignore
  | isSubclass sub sup (some limit) => do
    let registry ← World.registryAt context
    (Effect.ofOutcome (registry.isSubclassOf sub sup limit)).ignore
  | lookup value name none => do
    let realm ← World.realmAt context
    (World.onStore (realm.lookup value name)).ignore
  | lookup value name (some limit) => do
    let registry ← World.registryAt context
    (World.onStore (registry.lookup value name limit)).ignore
  | bind target link => World.bind context target link
  | get table name => do
    let contents ← World.tableBehind table
    (Effect.ofOutcome (contents.get name)).ignore
  | invoke target name arguments => do
    let realm ← World.realmAt context
    (World.onStore (realm.dispatch target name arguments)).ignore

namespace World

variable {context : Nat}

/-- One more object is in the store, and nothing else. -/
def HasSpare (world later : World) : Prop :=
  ∃ store, Store.HasSpare world.store store ∧ later = { world with store }

theorem onStore_refuses {α : Type} {effect : Effect Store α} (refuses : effect.Refuses Store.HasSpare) :
    (onStore effect).Refuses HasSpare := by
  intro world cause failed
  refine (refuses world.store cause failed).lift (fun store => { world with store }) ?_
  intro store later spare
  exact ⟨later, spare, rfl⟩

theorem createClass_refuses (name : String) : (createClass context name).Refuses HasSpare :=
  (realmAt_leads context).bind_refuses fun realm =>
    (onStore_refuses (realm.createClass_refuses name)).bind fun _ _ => ⟨_, _, rfl⟩

theorem construct_refuses (arguments : List Value) : (construct context arguments).Refuses HasSpare :=
  (Leads.ofOutcome _).bind_refuses fun name =>
    (createClass_refuses name).bind fun _ _ => ⟨_, _, rfl⟩

theorem bind_refuses (target link : ClassId) : (bind context target link).Refuses HasSpare :=
  (contextAt_leads context).bind_refuses fun _ => (Leads.ofOutcome _).bind_refuses fun _ =>
    Succeeds.refuses fun _ => ⟨_, _, rfl⟩

end World

/-- Only an invocation can have written anything but a spare object when it is refused. -/
theorem Request.effect_refuses {context : Nat} {request : Request}
    (other : ∀ target name arguments, request ≠ .invoke target name arguments) :
    (request.effect context).Refuses World.HasSpare := by
  cases request with
  | createClass name => exact (World.createClass_refuses name).ignore
  | construct arguments => exact (World.construct_refuses arguments).ignore
  | setProperty target tier name value =>
    exact (World.realmAt_leads context).bind_refuses fun realm =>
      World.onStore_refuses (realm.setProperty_refuses target tier name value)
  | getProperty target name =>
    exact (World.realmAt_leads context).bind_refuses fun realm =>
      (World.onStore_refuses (realm.getProperty_refuses target name)).ignore
  | defineMethod convention target name callable =>
    exact (World.realmAt_leads context).bind_refuses fun realm =>
      World.onStore_refuses (realm.defineMethod_refuses convention target name callable)
  | instantiate ofClass =>
    exact (World.realmAt_leads context).bind_refuses fun realm =>
      (World.onStore_refuses (realm.instantiate_refuses ofClass)).ignore
  | ancestors start limit =>
    cases limit with
    | none => exact ((World.realmAt_leads context).bind fun _ => (Leads.ofOutcome _).ignore).refuses
    | some limit =>
      exact ((World.registryAt_leads context).bind fun _ => (Leads.ofOutcome _).ignore).refuses
  | isSubclass sub sup limit =>
    cases limit with
    | none => exact ((World.realmAt_leads context).bind fun _ => (Leads.ofOutcome _).ignore).refuses
    | some limit =>
      exact ((World.registryAt_leads context).bind fun _ => (Leads.ofOutcome _).ignore).refuses
  | lookup value name limit =>
    cases limit with
    | none =>
      exact (World.realmAt_leads context).bind_refuses fun realm =>
        (World.onStore_refuses (realm.registry.lookup_refuses value name _)).ignore
    | some limit =>
      exact (World.registryAt_leads context).bind_refuses fun registry =>
        (World.onStore_refuses (registry.lookup_refuses value name limit)).ignore
  | bind target link => exact World.bind_refuses target link
  | get table name =>
    exact Leads.refuses (Leads.bind (Leads.get.bind fun _ => .pure _) fun _ => (Leads.ofOutcome _).ignore)
  | invoke target name arguments => exact absurd rfl (other target name arguments)

/-! ## Invocations -/

/-- Dispatch answers what the search finds, if that is code. -/
theorem Registry.Search.perform_dispatch {realm : Realm} {store : Store} {target : Value} {name : String}
    {outcome : Except Error Value} {records : List LogRecord}
    (search : realm.registry.Search store name realm.settings.walkLimit target outcome records)
    (coherent : store.Coherent) (arguments : List Value) :
    (realm.dispatch target name arguments).perform store =
      (outcome >>= fun member => (Invocation.ofValue? member target arguments).elim
          (.error (.typeMismatch "method" member.kindName)) .ok,
        { store with journal := store.journal ++ records.toArray }) := by
  rw [Realm.dispatch, perform_bind, Realm.lookup, search.perform_lookup coherent]
  cases outcome with
  | error cause => rfl
  | ok member => cases called : Invocation.ofValue? member target arguments <;> simp [called]

theorem Invocation.ofValue?_eq_none_iff {callee receiver : Value} {arguments : List Value} :
    Invocation.ofValue? callee receiver arguments = none ↔ callee.callable? = none := by
  cases callee <;> simp [Invocation.ofValue?, Value.callable?]

/-- An invocation that is refused ends there, whatever the code would do. -/
theorem Operation.perform_invoke_of_refused {frame : Frame} {before world later : World}
    {term : ValueTerm} {terms : List ValueTerm} {target : Value} {arguments : List Value}
    {name : String} {cause : Error} (reads : frame.Reads before term terms target arguments world)
    (refused : ((Request.invoke target name arguments).effect frame.context).perform world =
      (.error cause, later)) (run : Invocation → Effect World Value) :
    ((Operation.invoke term terms name).perform run frame).perform before = (.error cause, later) := by
  obtain ⟨middle, readTerm, readTerms⟩ := reads
  rw [Request.effect, bind_ignore] at refused
  have stopped := perform_bind_of_ignore refused fun invocation =>
    (Reply.value <$> run invocation : Effect World WorldReply)
  rw [bind_assoc] at stopped
  simpa only [Operation.perform, perform_bind, readTerm, readTerms, map_eq_pure_bind] using stopped

namespace World

variable {world later : World} {context : Nat}

/-- The later world is this one with some more records, and perhaps with objects that nobody was
given. -/
def SameBut (world : World) (records : List LogRecord) (later : World) : Prop :=
  ∃ spare : Array Value, later =
    { world with
      store := { world.store with
        objects := world.store.objects ++ spare
        journal := world.store.journal ++ records.toArray } }

theorem sameBut_of_spare (chain : ReflTransGen HasSpare world later) : world.SameBut [] later := by
  induction chain with
  | refl => exact ⟨#[], by simp⟩
  | tail _ last ih =>
    obtain ⟨spare, rfl⟩ := ih
    obtain ⟨_, ⟨object, rfl⟩, rfl⟩ := last
    exact ⟨spare.push object, by simp⟩

/-- The realm in a context finds a member of a value on a class of the chain of the value, but the
member is no code. -/
def InheritsNoCode (world : World) (context : Nat) (target : Value) (name : String) (owner : ClassId)
    (member : Value) : Prop :=
  ∃ realm, world.contexts[context]? = some (.realm realm) ∧
    realm.registry.Search world.store name realm.settings.walkLimit target (.ok member)
      [.resolved name owner] ∧
    member.callable? = none

/-- The records that a request leaves which is refused for a cause. -/
inductive RefusalLeaves (world : World) (context : Nat) : Request → Error → List LogRecord → Prop
  /-- What was found has been recorded by the time that it is refused. -/
  | noCode {target member : Value} {name : String} {arguments : List Value} {owner : ClassId}
      (inherits : world.InheritsNoCode context target name owner member) :
      RefusalLeaves world context (.invoke target name arguments)
        (.typeMismatch "method" member.kindName) [.resolved name owner]
  | nothing {request : Request} {cause : Error}
      (other : ∀ target name arguments owner member, request = .invoke target name arguments →
        ¬ world.InheritsNoCode context target name owner member) :
      RefusalLeaves world context request cause []

/-- Two searches that are at odds rule out that a member which is no code was inherited. -/
theorem Reachable.not_inheritsNoCode (reachable : world.Reachable) {realm : Realm}
    (present : world.contexts[context]? = some (.realm realm)) {target : Value} {name : String}
    {outcome : Except Error Value}
    (search : realm.registry.Search world.store name realm.settings.walkLimit target outcome [])
    (owner : ClassId) (member : Value) :
    ¬ world.InheritsNoCode context target name owner member := by
  rintro ⟨other, there, found, _⟩
  cases present.symm.trans there
  cases (search.unique reachable.coherent found).2

/-- What is recorded of an inherited member that is no code is the class that it was found on. -/
theorem RefusalLeaves.records_eq {target member : Value} {name : String} {arguments : List Value}
    {owner : ClassId} {cause : Error} {records : List LogRecord}
    (leaves : world.RefusalLeaves context (.invoke target name arguments) cause records)
    (reachable : world.Reachable)
    (inherits : world.InheritsNoCode context target name owner member) :
    records = [.resolved name owner] := by
  cases leaves with
  | nothing other => exact absurd inherits (other target name arguments owner member rfl)
  | noCode found =>
    obtain ⟨realm, present, search, _⟩ := inherits
    obtain ⟨other, there, search', _⟩ := found
    cases present.symm.trans there
    exact (search'.unique reachable.coherent search).2

/-- An invocation that is refused leaves what its search leaves. -/
theorem Reachable.refused_invoke (reachable : world.Reachable) {target : Value} {name : String}
    {arguments : List Value} {cause : Error}
    (refused : ((Request.invoke target name arguments).effect context).perform world =
      (.error cause, later)) :
    ∃ records, world.RefusalLeaves context (.invoke target name arguments) cause records ∧
      world.SameBut records later := by
  by_cases present : ∃ realm, world.contexts[context]? = some (.realm realm)
  · obtain ⟨realm, present⟩ := present
    obtain ⟨outcome, records, search⟩ :=
      realm.registry.exists_search world.store target name realm.settings.walkLimit
    simp only [Request.effect, perform_bind, perform_realmAt present, Effect.ignore, perform_map,
      perform_onStore, search.perform_dispatch reachable.coherent, Prod.mk.injEq] at refused
    obtain ⟨failed, rfl⟩ := refused
    refine ⟨records, ?_, #[], by simp⟩
    cases outcome with
    | error stopped =>
      obtain rfl := search.records_of_error
      refine .nothing ?_
      rintro _ _ _ owner member ⟨⟩
      exact reachable.not_inheritsNoCode present search owner member
    | ok member =>
      cases called : Invocation.ofValue? member target arguments with
      | some invocation => simp [called, Except.map] at failed
      | none =>
        obtain rfl : .typeMismatch "method" member.kindName = cause := by
          simpa [called, Except.map] using failed
        have noCode := Invocation.ofValue?_eq_none_iff.mp called
        cases search with
        | inherited goesOn walk lack holds =>
          exact .noCode ⟨realm, present, .inherited goesOn walk lack holds, noCode⟩
        | own table holds =>
          refine .nothing ?_
          rintro _ _ _ owner other ⟨⟩
          exact reachable.not_inheritsNoCode present (.own table holds) owner other
  · obtain ⟨stopped, failed⟩ := perform_realmAt_of_ne (not_exists.mp present)
    simp only [Request.effect, perform_bind, failed, Prod.mk.injEq, Except.error.injEq] at refused
    obtain ⟨rfl, rfl⟩ := refused
    refine ⟨[], .nothing ?_, sameBut_of_spare .refl⟩
    rintro _ _ _ owner member ⟨⟩ ⟨realm, there, _⟩
    exact present ⟨realm, there⟩

/-- After any run, take any request in any context, a realm or a bare registry. If it is refused,
every registry with its links and its index of names, the settings of every realm, every table and
every name that is kept are as they were. No record is written but the one of an invocation that
found a member on the chain of its target and saw that it is no code. The whole invocation ends there,
whatever the code that it calls would do. -/
theorem refused_changes_nothing (actions : List Action) (context : Nat) (request : Request)
    (cause : Error) :
    let world := World.empty.run actions
    let later := ((request.effect context).perform world).2
    ((request.effect context).perform world).1 = .error cause →
      (∃ records, world.RefusalLeaves context request cause records ∧ world.SameBut records later) ∧
      ∀ (target : Value) (name : String) (arguments : List Value) (frame : Frame) (before : World)
        (term : ValueTerm) (terms : List ValueTerm) (run : Invocation → Effect World Value),
        request = .invoke target name arguments → frame.context = context →
        frame.Reads before term terms target arguments world →
          ((Operation.invoke term terms name).perform run frame).perform before =
            (.error cause, later) := by
  intro world later failed
  have reachable : world.Reachable := ⟨actions, rfl⟩
  have refused : (request.effect context).perform world = (.error cause, later) :=
    Prod.ext failed rfl
  constructor
  · by_cases invokes : ∃ target name arguments, request = .invoke target name arguments
    · obtain ⟨target, name, arguments, rfl⟩ := invokes
      exact reachable.refused_invoke refused
    · have other : ∀ target name arguments, request ≠ .invoke target name arguments :=
        fun target name arguments same => invokes ⟨target, name, arguments, same⟩
      refine ⟨[], .nothing ?_, sameBut_of_spare (Request.effect_refuses other world cause failed)⟩
      intro target name arguments owner member same
      exact absurd same (other target name arguments)
  · rintro target name arguments frame before term terms run rfl rfl reads
    exact Operation.perform_invoke_of_refused reads refused run

/-! ## A member that is no code -/

namespace Refusing

/-- The class of texts gets a member that is a class, and then a text is made. -/
def actions : List Action :=
  [.openContext (.realm .strict), .setProperty 0 ⟨3⟩ "hidden" "size" (.ofClass ⟨4⟩), .newText 0 "abc"]

def realm : Realm :=
  Realm.started .strict 0

def text : Value :=
  .plain ⟨1, ⟨3⟩, ⟨10⟩, some (.text "abc")⟩

theorem search_text :
    realm.registry.Search (empty.run actions).store "size" realm.settings.walkLimit text
      (.ok (.ofClass ⟨4⟩)) [.resolved "size" ⟨3⟩] := by
  have walk : realm.registry.ancestors ⟨3⟩ realm.settings.walkLimit = .ok ([] ++ ⟨3⟩ :: []) := rfl
  have bare : ((empty.run actions).store.table ⟨10⟩).entries = #[] := rfl
  have lacks : (empty.run actions).store.Lacks ⟨10⟩ "size" := by
    intro entry member
    simp [bare] at member
  have holds : (empty.run actions).store.Holds ⟨6⟩ "size" (.ofClass ⟨4⟩) :=
    ⟨⟨"size", "hidden", .ofClass ⟨4⟩⟩, Array.mem_of_getElem? (i := 0) rfl, rfl, rfl⟩
  exact .inherited ⟨rfl, ⟨⟨10⟩, rfl, lacks⟩, rfl⟩ walk (by simp) ⟨⟨6⟩, rfl, holds⟩

end Refusing

open Refusing in
/-- A text inherits the member of its class, but it cannot be called: nothing but the record of what
was found is left of the invocation. -/
theorem refused_changes_nothing_text :
    let world := empty.run actions
    ∃ later, ((Request.invoke text "size" []).effect 0).perform world =
        (.error (.typeMismatch "method" "class"), later) ∧
      world.SameBut [.resolved "size" ⟨3⟩] later := by
  intro world
  have reachable : world.Reachable := ⟨actions, rfl⟩
  have present : world.contexts[0]? = some (.realm realm) := rfl
  have search : realm.registry.Search world.store "size" realm.settings.walkLimit text
      (.ok (.ofClass ⟨4⟩)) [.resolved "size" ⟨3⟩] := search_text
  have inherits : world.InheritsNoCode 0 text "size" ⟨3⟩ (.ofClass ⟨4⟩) :=
    ⟨realm, present, search, rfl⟩
  have refused : (((Request.invoke text "size" []).effect 0).perform world).1 =
      .error (.typeMismatch "method" "class") := by
    simp [Request.effect, perform_bind, perform_realmAt present, Effect.ignore,
      search.perform_dispatch reachable.coherent, Invocation.ofValue?, Value.kindName, Except.map]
  obtain ⟨⟨records, leaves, same⟩, _⟩ := refused_changes_nothing actions 0 _ _ refused
  refine ⟨(((Request.invoke text "size" []).effect 0).perform world).2, Prod.ext refused rfl, ?_⟩
  obtain rfl := leaves.records_eq reachable inherits
  exact same

end World

end ObjectModel
