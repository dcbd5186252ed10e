import ObjectModel.Proofs.Runs.Action

/-! # Scripts make runs

Whatever a script does to a world, at whatever depth of nested calls, is a run of public operations
that act on the context in which the script runs. With that, every world of a session is reachable,
and what holds of all runs holds of what sessions and callables do.
-/

namespace ObjectModel

/-- The effect changes a world only by operations in the context. -/
abbrev Effect.RunsIn {α : Type} (context : Nat) (effect : Effect World α) : Prop :=
  effect.Leads (World.Acts context)

/-- An effect that does what one operation does. -/
theorem Effect.RunsIn.of_act {α : Type} {context : Nat} {effect : Effect World α} (action : Action)
    (acts : action.ActsIn context) (same : ∀ world, (effect.perform world).2 = world.act action) :
    effect.RunsIn context :=
  .of_step fun world => ⟨action, acts, (same world).symm⟩

open Effect

variable {context : Nat}

namespace World

theorem tableBehind_runsIn (ref : TableRef) : (tableBehind ref).RunsIn context :=
  Leads.get.bind fun _ => .pure _

theorem contentsBehind_runsIn (ref : TableRef) : (contentsBehind ref).RunsIn context :=
  Leads.get.bind fun _ => .pure _

theorem readSlot_runsIn (name : String) : (readSlot name).RunsIn context := by
  refine Leads.get.bind fun world => ?_
  cases world.slots[name]? with
  | some value => exact .pure value
  | none => exact .throw _

theorem fillSlot_runsIn (name : String) (value : Value) : (fillSlot name value).RunsIn context :=
  .of_step fun world =>
    ⟨.keep (world.slots.insert name value) world.heldTables world.displays, trivial, rfl⟩

theorem holdTable_runsIn (name : String) (ref : TableRef) : (holdTable name ref).RunsIn context :=
  .of_step fun world =>
    ⟨.keep world.slots (world.heldTables.insert name ref) world.displays, trivial, rfl⟩

theorem display_runsIn (shown : Display Value TableRef) : (display shown).RunsIn context :=
  .of_step fun world =>
    ⟨.keep world.slots world.heldTables (world.displays.push shown), trivial, rfl⟩

theorem createClass_runsIn (name : String) : (createClass context name).RunsIn context :=
  RunsIn.of_act (.createClass context name) rfl fun world => by
    simp [act, Action.effect]

theorem construct_runsIn (arguments : List Value) : (construct context arguments).RunsIn context :=
  (Leads.ofOutcome _).bind fun name => (createClass_runsIn name).bind fun _ => .pure _

theorem bind_runsIn (target link : ClassId) : (bind context target link).RunsIn context :=
  RunsIn.of_act (.bind context target link) rfl fun _ => rfl

end World

/-! ## Reading terms -/

theorem ClassTerm.read_runsIn (term : ClassTerm) : term.read.RunsIn context := by
  cases term with
  | known id => exact .pure id
  | slot name =>
    refine (World.readSlot_runsIn name).bind fun value => ?_
    cases value with
    | ofClass id => exact .pure id
    | plain object => exact .throw _
    | method wrapped => exact .throw _
    | unboundMethod wrapped => exact .throw _

variable {frame : Frame}

theorem ValueTerm.read_runsIn (term : ValueTerm) : (term.read frame).RunsIn frame.context := by
  cases term with
  | slot name => exact World.readSlot_runsIn name
  | ofClass term => exact (ClassTerm.read_runsIn term).bind fun _ => .pure _
  | text content =>
    exact RunsIn.of_act (.newText frame.context content) rfl fun world => by
      simp [read, World.act, Action.effect, bind_ignore]
  | integer content =>
    exact RunsIn.of_act (.newInteger frame.context content) rfl fun world => by
      simp [read, World.act, Action.effect, bind_ignore]
  | receiver =>
    simp only [read]
    cases frame.receiver with
    | some value => exact .pure value
    | none => exact .throw _
  | argument position =>
    simp only [read]
    cases frame.arguments[position]? with
    | some value => exact .pure value
    | none => exact .throw _

theorem TableTerm.read_runsIn (term : TableTerm) : (term.read frame).RunsIn frame.context := by
  cases term with
  | named name =>
    refine Leads.get.bind fun world => ?_
    cases world.heldTables[name]? with
    | some ref => exact .pure ref
    | none => exact .throw _
  | ofClass term | template term =>
    exact (ClassTerm.read_runsIn term).bind fun _ =>
      (World.registryAt_leads _).bind fun _ => .ofOutcome _
  | ofValue term =>
    exact (ValueTerm.read_runsIn term).bind fun _ =>
      (World.registryAt_leads _).bind fun _ => .ofOutcome _

theorem readValues_runsIn (terms : List ValueTerm) :
    (readValues frame terms).RunsIn frame.context :=
  .mapM ValueTerm.read_runsIn terms

theorem readMembers_runsIn (members : List (String × ValueTerm)) :
    (readMembers frame members).RunsIn frame.context :=
  .mapM (fun member => (ValueTerm.read_runsIn member.2).bind fun _ => .pure _) members

/-- The entries of a table that is written out, with their values at hand. -/
def resolveEntries (frame : Frame) (entries : List EntryTerm) : Effect World (List Entry) :=
  entries.mapM fun entry =>
    return { name := entry.name, tier := entry.tier, value := ← entry.value.read frame }

theorem resolveEntries_runsIn (entries : List EntryTerm) :
    (resolveEntries frame entries).RunsIn frame.context :=
  .mapM (fun entry => (ValueTerm.read_runsIn entry.value).bind fun _ => .pure _) entries

/-- What goes on with a table that is written out goes on with its entries. -/
theorem readEntries_bind {α : Type} (entries : List EntryTerm)
    (next : PropertyTable → Effect World α) :
    (readEntries frame entries >>= next) =
      resolveEntries frame entries >>= fun resolved => next (.ofEntries resolved) := by
  simp only [readEntries, resolveEntries, bind_assoc, pure_bind]

theorem FailureTerm.read_runsIn (term : FailureTerm) : term.read.RunsIn context := by
  cases term with
  | plain error => exact .pure error
  | unknownClass id | cyclicHierarchy id => exact (ClassTerm.read_runsIn id).bind fun _ => .pure _
  | hierarchyTooDeep id limit => exact (ClassTerm.read_runsIn id).bind fun _ => .pure _

/-! ## Operations -/

theorem ValueOperation.perform_runsIn (operation : ValueOperation) :
    (operation.perform frame).RunsIn frame.context := by
  cases operation with
  | answer value | inspect value => exact (ValueTerm.read_runsIn value).bind fun _ => .pure _
  | makePlain ofClass entries payload =>
    refine (ClassTerm.read_runsIn ofClass).bind fun id => ?_
    rw [readEntries_bind]
    refine (resolveEntries_runsIn entries).bind fun resolved => ?_
    refine Leads.bind (RunsIn.of_act (.makePlain id resolved payload) trivial fun world => ?_)
      fun _ => .pure _
    simp [World.act, Action.effect]
  | classOf value =>
    exact (ValueTerm.read_runsIn value).bind fun _ =>
      (World.registryAt_leads _).bind fun _ => (Leads.ofOutcome _).bind fun _ => .pure _
  | same left right =>
    exact (ValueTerm.read_runsIn left).bind fun _ =>
      (ValueTerm.read_runsIn right).bind fun _ => .pure _
  | compareClasses left right =>
    exact (ClassTerm.read_runsIn left).bind fun _ =>
      (ClassTerm.read_runsIn right).bind fun _ => .pure _
  | add left right =>
    refine (ValueTerm.read_runsIn left).bind fun _ => (ValueTerm.read_runsIn right).bind fun _ => ?_
    refine (Leads.ofOutcome _).bind fun _ => (Leads.ofOutcome _).bind fun _ => ?_
    refine (Leads.ofOutcome _).bind fun sum => ?_
    refine Leads.bind_bind
      (RunsIn.of_act (.newInteger frame.context sum) rfl fun world => ?_) fun _ => .pure _
    simp [World.act, Action.effect, bind_ignore]

theorem holdAndShow_runsIn (heldAs : String) (ref : TableRef) :
    (holdAndShow heldAs ref).RunsIn context :=
  (World.holdTable_runsIn heldAs ref).bind fun _ =>
    (World.contentsBehind_runsIn ref).bind fun _ => .pure _

theorem TableOperation.perform_runsIn (operation : TableOperation) :
    (operation.perform frame).RunsIn frame.context := by
  cases operation with
  | make entries heldAs =>
    simp only [perform]
    rw [readEntries_bind]
    refine (resolveEntries_runsIn entries).bind fun resolved => ?_
    refine Leads.bind (RunsIn.of_act (.share resolved) trivial fun world => ?_)
      fun ref => (World.holdTable_runsIn heldAs ref).bind fun _ => .pure _
    simp [World.act, Action.effect]
  | hold table heldAs =>
    exact (TableTerm.read_runsIn table).bind fun ref => holdAndShow_runsIn heldAs ref
  | copy table heldAs =>
    refine (TableTerm.read_runsIn table).bind fun source => ?_
    refine Leads.bind_bind (RunsIn.of_act (.shareCopy source) trivial fun world => ?_)
      (holdAndShow_runsIn heldAs)
    simp [World.act, Action.effect, bind_ignore]
  | snapshot table heldAs =>
    refine (TableTerm.read_runsIn table).bind fun source => ?_
    refine Leads.bind_bind (RunsIn.of_act (.shareSnapshot source) trivial fun world => ?_)
      (holdAndShow_runsIn heldAs)
    simp [World.act, Action.effect, bind_ignore]
  | same left right =>
    exact (TableTerm.read_runsIn left).bind fun _ =>
      (TableTerm.read_runsIn right).bind fun _ => .pure _
  | set table value tier name =>
    refine (TableTerm.read_runsIn table).bind fun ref => (ValueTerm.read_runsIn value).bind fun _ => ?_
    exact Leads.bind (RunsIn.of_act (.write ref (.set tier name _)) trivial fun _ => rfl)
      fun _ => .pure _
  | setAll table tier members =>
    refine (TableTerm.read_runsIn table).bind fun ref => (readMembers_runsIn members).bind fun _ => ?_
    exact Leads.bind (RunsIn.of_act (.write ref (.setAll tier _)) trivial fun _ => rfl)
      fun _ => .pure _
  | get table name =>
    exact (TableTerm.read_runsIn table).bind fun ref => (World.tableBehind_runsIn ref).bind fun _ =>
      (Leads.ofOutcome _).bind fun _ => .pure _
  | find table name | contains table name | entriesIn table name =>
    exact (TableTerm.read_runsIn table).bind fun ref =>
      (World.tableBehind_runsIn ref).bind fun _ => .pure _
  | tierOf table name =>
    refine (TableTerm.read_runsIn table).bind fun ref => ?_
    refine (World.tableBehind_runsIn ref).bind fun contents => ?_
    cases contents.tierOf? name <;> exact .pure _
  | remove table name =>
    refine (TableTerm.read_runsIn table).bind fun ref => ?_
    exact Leads.bind (RunsIn.of_act (.write ref (.remove name)) trivial fun _ => rfl)
      fun _ => .pure _
  | contents table =>
    exact (TableTerm.read_runsIn table).bind fun ref =>
      (World.contentsBehind_runsIn ref).bind fun _ => .pure _

theorem RegistryOperation.perform_runsIn (operation : RegistryOperation) :
    (operation.perform frame).RunsIn frame.context := by
  cases operation with
  | registerPending name kind =>
    refine Leads.bind_bind
      (RunsIn.of_act (.registerPending frame.context name kind) rfl fun world => ?_)
      fun _ => .pure _
    simp [World.act, Action.effect, bind_ignore]
  | registerLinked name kind link super members template =>
    refine (ClassTerm.read_runsIn link).bind fun link => ?_
    have readSuper : (super.mapM ClassTerm.read : Effect World _).RunsIn frame.context := by
      cases super with
      | none => exact .pure none
      | some term => exact (ClassTerm.read_runsIn term).bind fun _ => .pure _
    refine readSuper.bind fun super => ?_
    rw [readEntries_bind]
    refine (resolveEntries_runsIn members).bind fun members => ?_
    rw [readEntries_bind]
    refine (resolveEntries_runsIn template).bind fun template => ?_
    refine Leads.bind_bind (RunsIn.of_act
      (.registerLinked frame.context name kind link super members template) rfl
      fun world => ?_) fun _ => .pure _
    simp [World.act, Action.effect, bind_ignore]
  | bind target link =>
    exact (ClassTerm.read_runsIn target).bind fun target => (ClassTerm.read_runsIn link).bind fun link =>
      (World.bind_runsIn target link).bind fun _ => .pure _
  | describe target | nameOf target | classOf target =>
    exact (ClassTerm.read_runsIn target).bind fun _ =>
      (World.registryAt_leads _).bind fun _ => (Leads.ofOutcome _).bind fun _ => .pure _
  | superOf target =>
    refine (ClassTerm.read_runsIn target).bind fun _ => (World.registryAt_leads _).bind fun _ => ?_
    refine (Leads.ofOutcome _).bind fun super => ?_
    cases super <;> exact .pure _
  | requireClassOf target =>
    refine (ClassTerm.read_runsIn target).bind fun id => (World.registryAt_leads _).bind fun registry => ?_
    cases registry.requireClassOf id <;> exact .pure _
  | findByName name | idsNamed name => exact (World.registryAt_leads _).bind fun _ => .pure _
  | list => exact (World.registryAt_leads _).bind fun _ => .pure _

theorem ChainOperation.perform_runsIn (operation : ChainOperation) :
    (operation.perform frame).RunsIn frame.context := by
  cases operation with
  | ancestors start limit =>
    refine (ClassTerm.read_runsIn start).bind fun _ => ?_
    cases limit with
    | some limit =>
      exact (World.registryAt_leads _).bind fun _ => (Leads.ofOutcome _).bind fun _ => .pure _
    | none => exact (World.realmAt_leads _).bind fun _ => (Leads.ofOutcome _).bind fun _ => .pure _
  | isSubclass sub sup limit =>
    refine (ClassTerm.read_runsIn sub).bind fun _ => (ClassTerm.read_runsIn sup).bind fun _ => ?_
    cases limit with
    | some limit =>
      exact (World.registryAt_leads _).bind fun _ => (Leads.ofOutcome _).bind fun _ => .pure _
    | none => exact (World.realmAt_leads _).bind fun _ => (Leads.ofOutcome _).bind fun _ => .pure _
  | lookup value name limit =>
    refine (ValueTerm.read_runsIn value).bind fun value => ?_
    cases limit with
    | some limit =>
      refine Leads.bind_bind
        (RunsIn.of_act (.lookup frame.context value name (some limit)) rfl fun world => ?_)
        fun _ => .pure _
      simp [World.act, Action.effect, bind_ignore]
    | none =>
      refine Leads.bind_bind
        (RunsIn.of_act (.lookup frame.context value name none) rfl fun world => ?_)
        fun _ => .pure _
      simp [World.act, Action.effect, bind_ignore]

theorem RealmOperation.perform_runsIn (operation : RealmOperation) :
    (operation.perform frame).RunsIn frame.context := by
  cases operation with
  | createClass name => exact (World.createClass_runsIn name).bind fun _ => .pure _
  | instantiate ofClass =>
    refine (ClassTerm.read_runsIn ofClass).bind fun id => ?_
    refine Leads.bind_bind
      (RunsIn.of_act (.instantiate frame.context id) rfl fun world => ?_) fun _ => .pure _
    simp [World.act, Action.effect, bind_ignore]
  | setProperty target value tier name =>
    refine (ClassTerm.read_runsIn target).bind fun id => (ValueTerm.read_runsIn value).bind fun value => ?_
    exact Leads.bind_bind
      (RunsIn.of_act (.setProperty frame.context id tier name value) rfl fun _ => rfl)
      fun _ => .pure _
  | getProperty target name =>
    refine (ClassTerm.read_runsIn target).bind fun id => (World.realmAt_leads _).bind fun realm => ?_
    refine Leads.bind (Leads.of_unchanged fun world => ?_) fun _ => .pure _
    rw [World.onStore, perform_within]
    cases found : realm.registry.membersOf id <;> simp [Realm.getProperty, found, perform_bind]

/-- Dispatch leaves what the look-up of its member leaves. -/
theorem Realm.perform_dispatch_snd (realm : Realm) (target : Value) (name : String)
    (arguments : List Value) (store : Store) :
    ((realm.dispatch target name arguments).perform store).2 =
      ((realm.lookup target name).perform store).2 := by
  rw [dispatch, perform_bind]
  rcases outcome : (realm.lookup target name).perform store with ⟨cause | member, after⟩
  · rfl
  · cases found : Invocation.ofValue? member target arguments <;> simp [found]

theorem CodeTerm.read_runsIn (convention : Convention) (code : CodeTerm Operation) :
    (code.read frame convention).RunsIn frame.context := by
  cases code with
  | script body => exact .pure _
  | sharedWith value => exact (ValueTerm.read_runsIn value).bind fun _ => .ofOutcome _

theorem CallRoute.call_runsIn (route : CallRoute) (callee : Value) (receiver : Option ValueTerm)
    (arguments : List Value) : (route.call frame callee receiver arguments).RunsIn frame.context := by
  cases callee with
  | ofClass id => exact .throw _
  | plain object => exact .throw _
  | method wrapped => exact .pure _
  | unboundMethod wrapped =>
    cases receiver with
    | none => exact .throw _
    | some term => exact (ValueTerm.read_runsIn term).bind fun _ => .pure _

/-- An operation makes a run if the code that it calls does. -/
theorem Operation.perform_runsIn (frame : Frame) {run : Invocation → Effect World Value}
    (code : ∀ invocation, (run invocation).RunsIn frame.context) (operation : Operation) :
    (operation.perform run frame).RunsIn frame.context := by
  cases operation with
  | value operation => exact operation.perform_runsIn
  | table operation => exact operation.perform_runsIn
  | registry operation => exact operation.perform_runsIn
  | chain operation => exact operation.perform_runsIn
  | realm operation => exact operation.perform_runsIn
  | newMethod convention body =>
    refine Leads.bind_bind
      (RunsIn.of_act (.newMethod frame.context convention (.script body)) rfl fun world => ?_)
      fun _ => .pure _
    simp [World.act, Action.effect, bind_ignore]
  | defineMethod convention target name body =>
    refine (ClassTerm.read_runsIn target).bind fun id => ?_
    exact Leads.bind_bind
      (RunsIn.of_act (.defineMethod frame.context convention id name (.script body)) rfl
        fun _ => rfl)
      fun _ => .pure _
  | makeMethod convention ofClass sharing code =>
    refine (ClassTerm.read_runsIn ofClass).bind fun id => (TableTerm.read_runsIn sharing).bind fun ref => ?_
    refine (CodeTerm.read_runsIn convention code).bind fun callable => ?_
    refine Leads.bind (RunsIn.of_act (.makeMethod convention id ref callable) trivial
      fun world => ?_) fun _ => .pure _
    simp [World.act, Action.effect]
  | call route callee arguments receiver =>
    refine (ValueTerm.read_runsIn callee).bind fun callee => ?_
    refine (readValues_runsIn arguments).bind fun values => ?_
    exact (route.call_runsIn callee receiver values).bind fun invocation =>
      (code invocation).bind fun _ => .pure _
  | invoke target arguments name =>
    refine (ValueTerm.read_runsIn target).bind fun target => ?_
    refine (readValues_runsIn arguments).bind fun values => ?_
    refine Leads.bind_bind (RunsIn.of_act (.lookup frame.context target name none) rfl
      fun world => ?_) fun invocation => (code invocation).bind fun _ => .pure _
    simp only [World.act, Action.effect, bind_ignore, perform_ignore, perform_bind]
    cases (World.realmAt frame.context).perform world with
    | mk outcome after =>
      cases outcome with
      | error cause => rfl
      | ok realm => simp [World.onStore, Realm.perform_dispatch_snd]
  | fail failure => exact (FailureTerm.read_runsIn failure).bind fun _ => .throw _
  | noteCall => exact (World.display_runsIn _).bind fun _ => .pure _
  | noteValue noted =>
    exact (ValueTerm.read_runsIn noted).bind fun _ => (World.display_runsIn _).bind fun _ => .pure _

theorem Command.run_runsIn {perform : Operation → Effect World WorldReply}
    (runs : ∀ operation, (perform operation).RunsIn context) (command : Command Operation) :
    (command.run perform).RunsIn context := by
  refine (runs command.operation).bind fun reply => ?_
  cases command.slot with
  | none => exact .pure _
  | some name =>
    cases reply.value? with
    | none => exact .pure _
    | some value => exact (World.fillSlot_runsIn name value).bind fun _ => .pure _

theorem Script.run_runsIn {perform : Operation → Effect World WorldReply}
    (runs : ∀ operation, (perform operation).RunsIn context) (script : Script)
    (result : Except Error Value) : (Script.run perform script result).RunsIn context := by
  induction script generalizing result with
  | nil => exact .ofOutcome result
  | cons command rest ih =>
    refine (Command.run_runsIn runs command).attempt.bind fun outcome => ?_
    cases outcome with
    | error cause =>
      cases optional : command.optional
      · simpa only [optional, Bool.false_eq_true, if_false] using Leads.throw cause
      · simpa only [optional, if_true] using ih result
    | ok reply =>
      cases reply with
      | value value => exact ih (.ok value)
      | _ => exact (World.display_runsIn _).bind fun _ => ih result

/-- Code that runs in a context makes a run of operations in that context, however deep it calls. -/
theorem Invocation.run_runsIn (depth : Nat) (invocation : Invocation) :
    (Invocation.run depth context invocation).RunsIn context := by
  induction depth generalizing invocation with
  | zero =>
    obtain ⟨_ | body, receiver, arguments⟩ := invocation
    · exact World.construct_runsIn arguments
    · exact .throw _
  | succ depth ih =>
    obtain ⟨_ | body, receiver, arguments⟩ := invocation
    · exact World.construct_runsIn arguments
    · exact Script.run_runsIn (Operation.perform_runsIn ⟨context, receiver, arguments⟩ ih)
        body _

theorem Command.runOutside_runsIn (depth : Nat) (command : Command Operation) :
    (command.runOutside depth context).RunsIn context :=
  Command.run_runsIn
    (Operation.perform_runsIn (.outer context) (Invocation.run_runsIn depth)) command

/-! ## Sessions -/

namespace World

/-- A step of a session makes a run of operations in the context of the step. -/
theorem step_eq_run (world : World) (step : Step) :
    ∃ actions, (∀ action ∈ actions, action.ActsIn step.context) ∧
      (world.step step).2 = world.run actions := by
  obtain ⟨actions, acts, ran⟩ := exists_run_of_acts
    (Command.runOutside_runsIn callDepthLimit step.command { world with displays := #[] })
  refine ⟨.keep world.slots world.heldTables #[] :: actions, ?_, ran.symm⟩
  simpa [Action.ActsIn] using acts

theorem opening_eq_act (world : World) (plan : ContextPlan) :
    (world.opening plan).2 = world.act (.openContext plan) := by
  simp [opening, act, Action.effect]

theorem Reachable.opening {world : World} (reachable : world.Reachable) (plan : ContextPlan) :
    (world.opening plan).2.Reachable := by
  rw [opening_eq_act]
  exact reachable.run [.openContext plan]

theorem Reachable.step {world : World} (reachable : world.Reachable) (step : Step) :
    (world.step step).2.Reachable := by
  obtain ⟨actions, _, ran⟩ := world.step_eq_run step
  rw [ran]
  exact reachable.run actions

end World

/-- The world that a session leaves is reachable. -/
theorem Session.reachable (session : Session) : session.run.2.2.Reachable := by
  have collected {α β : Type} {act : World → α → β × World}
      (keeps : ∀ world item, world.Reachable → (act world item).2.Reachable) (items : List α)
      {world : World} (reachable : world.Reachable) : (collect act world items).2.Reachable := by
    induction items generalizing world with
    | nil => exact reachable
    | cons item rest ih => exact ih (keeps world item reachable)
  exact collected (fun _ step reachable => reachable.step step) session.steps
    (collected (fun _ plan reachable => reachable.opening plan) session.contexts ⟨[], rfl⟩)

end ObjectModel
