import ObjectModel.Proofs.Runs.Agreement
import ObjectModel.Proofs.Runs.Demands

/-! # Alike worlds run alike

Whatever is done to two worlds that are alike, by a public operation or by a script at any depth of
nested calls, ends in the same way in both and leaves them alike. The answers are the same, but for
operations that show the entries of a table: they list them as alike tables do. A script never gets at
such a list, because what it goes on with are values alone.
-/

namespace ObjectModel

open Effect

variable {like : Likeness} {start twinStart : Store} {context : Nat} {frame : Frame}

/-! ## Reading terms -/

theorem ClassTerm.read_respects (term : ClassTerm) :
    term.read.Respects (like.Worlds start twinStart) := by
  cases term with
  | known id => exact .pure rfl
  | slot name =>
    refine (World.readSlot_respects name).bind_same fun value => ?_
    cases value with
    | ofClass id => exact .pure rfl
    | plain object => exact .throw _
    | method wrapped => exact .throw _
    | unboundMethod wrapped => exact .throw _

theorem ValueTerm.read_respects (term : ValueTerm) :
    (term.read frame).Respects (like.Worlds start twinStart) := by
  cases term with
  | slot name => exact World.readSlot_respects name
  | ofClass term => exact (ClassTerm.read_respects term).bind_same fun _ => .pure rfl
  | text content =>
    exact World.onRealm_respects (fun _ _ => rfl) fun realm => realm.newPrimitive_respects _ _
  | integer content =>
    exact World.onRealm_respects (fun _ _ => rfl) fun realm => realm.newPrimitive_respects _ _
  | receiver =>
    simp only [read]
    cases frame.receiver with
    | some value => exact .pure rfl
    | none => exact .throw _
  | argument position =>
    simp only [read]
    cases frame.arguments[position]? with
    | some value => exact .pure rfl
    | none => exact .throw _

/-- What is asked of the registry at a position has the same outcome in alike worlds. -/
theorem World.onRegistry_respects {α : Type} (outcome : Registry → Except Error α) :
    (do Effect.ofOutcome (outcome (← World.registryAt context))).Respects
      (like.Worlds start twinStart) :=
  (World.registryAt_respects context).bind_same fun _ => Respects.ofOutcome _

theorem TableTerm.read_respects (term : TableTerm) :
    (term.read frame).Respects (like.Worlds start twinStart) := by
  cases term with
  | named name =>
    refine Agrees.get.bind fun world other worlds => ?_
    rw [worlds.heldTables]
    cases other.heldTables[name]? with
    | some ref => exact .pure rfl
    | none => exact .throw _
  | ofClass term | template term =>
    exact (ClassTerm.read_respects term).bind_same fun _ => World.onRegistry_respects _
  | ofValue term =>
    exact (ValueTerm.read_respects term).bind_same fun _ => World.onRegistry_respects _

theorem readValues_respects (terms : List ValueTerm) :
    (readValues frame terms).Respects (like.Worlds start twinStart) :=
  Respects.mapM ValueTerm.read_respects terms

theorem readMembers_respects (members : List (String × ValueTerm)) :
    (readMembers frame members).Respects (like.Worlds start twinStart) :=
  Respects.mapM (fun member => (ValueTerm.read_respects member.2).bind_same fun _ => .pure rfl) members

theorem readEntries_agrees (entries : List EntryTerm) :
    (readEntries frame entries).Agrees (like.Worlds start twinStart) like.tables
      (readEntries frame entries) :=
  (Respects.mapM (fun entry => (ValueTerm.read_respects entry.value).bind_same fun _ => .pure rfl)
    entries).bind_same fun resolved => .pure (like.tables_ofEntries resolved)

theorem FailureTerm.read_respects (term : FailureTerm) :
    term.read.Respects (like.Worlds start twinStart) := by
  cases term with
  | plain error => exact .pure rfl
  | unknownClass id | cyclicHierarchy id =>
    exact (ClassTerm.read_respects id).bind_same fun _ => .pure rfl
  | hierarchyTooDeep id limit => exact (ClassTerm.read_respects id).bind_same fun _ => .pure rfl

/-! ## Operations -/

theorem ValueOperation.perform_respects (operation : ValueOperation) :
    (operation.perform frame).Respects (like.Worlds start twinStart) := by
  cases operation with
  | answer value | inspect value =>
    exact (ValueTerm.read_respects value).bind_same fun _ => .pure rfl
  | makePlain ofClass entries payload =>
    refine (ClassTerm.read_respects ofClass).bind_same fun id => ?_
    refine (readEntries_agrees entries).bind fun table twin alike => ?_
    exact (World.onStore_agrees (Store.addPlain_agrees id alike payload)).bind_same fun _ => .pure rfl
  | classOf value =>
    refine (ValueTerm.read_respects value).bind_same fun _ => ?_
    exact (World.onRegistry_respects _).bind_bind fun _ => .pure rfl
  | same left right =>
    exact (ValueTerm.read_respects left).bind_same fun _ =>
      (ValueTerm.read_respects right).bind_same fun _ => .pure rfl
  | compareClasses left right =>
    exact (ClassTerm.read_respects left).bind_same fun _ =>
      (ClassTerm.read_respects right).bind_same fun _ => .pure rfl
  | add left right =>
    refine (ValueTerm.read_respects left).bind_same fun _ => ?_
    refine (ValueTerm.read_respects right).bind_same fun _ => ?_
    refine (Respects.ofOutcome _).bind_same fun _ => (Respects.ofOutcome _).bind_same fun _ => ?_
    refine (Respects.ofOutcome _).bind_same fun sum => ?_
    exact (World.onRealm_respects (fun _ _ => rfl) fun realm =>
      realm.newPrimitive_respects realm.builtins.integer (.integer sum)).bind_bind fun _ => .pure rfl

/-- The operation answers with the entries of a table, as they stand one behind the other. Whoever is
given a table, a copy of it or a snapshot is shown what is in it. -/
def TableOperation.Lists : TableOperation → Prop
  | .hold .. | .copy .. | .snapshot .. | .entriesIn .. | .contents _ => True
  | _ => False

/-- The replies are the same, unless entries are listed in them. -/
structure Likeness.Answers (like : Likeness) (lists : Prop) (reply twin : WorldReply) : Prop where
  replies : like.Replies reply twin
  same : ¬ lists → reply = twin

theorem Likeness.Answers.of_eq {lists : Prop} {reply twin : WorldReply} (same : reply = twin) :
    like.Answers lists reply twin :=
  ⟨same ▸ .same reply, fun _ => same⟩

theorem Likeness.Answers.of_listed {reply twin : WorldReply} (alike : like.Replies reply twin) :
    like.Answers True reply twin :=
  ⟨alike, fun never => absurd trivial never⟩

theorem holdAndShow_agrees (heldAs : String) (ref : TableRef) :
    (holdAndShow heldAs ref).Agrees (like.Worlds start twinStart) (like.Answers True)
      (holdAndShow heldAs ref) :=
  (World.holdTable_respects heldAs ref).bind_same fun _ =>
    (World.contentsBehind_agrees ref).bind fun _ _ alike => .pure (.of_listed (.contents alike))

theorem TableOperation.perform_agrees (operation : TableOperation) :
    (operation.perform frame).Agrees (like.Worlds start twinStart) (like.Answers operation.Lists)
      (operation.perform frame) := by
  cases operation with
  | make entries heldAs =>
    refine (readEntries_agrees entries).bind fun table twin alike => ?_
    refine (World.onStore_agrees (Store.addTable_agrees alike)).bind_same fun ref => ?_
    exact (World.holdTable_respects heldAs ref).bind_same fun _ => .pure (.of_eq rfl)
  | hold table heldAs =>
    exact (TableTerm.read_respects table).bind_same fun ref => holdAndShow_agrees heldAs ref
  | copy table heldAs =>
    refine (TableTerm.read_respects table).bind_same fun source => ?_
    refine (World.tableBehind_agrees source).bind fun copy twin alike => ?_
    exact (World.onStore_agrees (Store.addTable_agrees alike)).bind_same (holdAndShow_agrees heldAs)
  | snapshot table heldAs =>
    refine (TableTerm.read_respects table).bind_same fun source => ?_
    refine (World.onStore_agrees (Store.snapshot_agrees source)).bind fun copy twin alike => ?_
    exact (World.onStore_agrees (Store.addTable_agrees alike)).bind_same (holdAndShow_agrees heldAs)
  | same left right =>
    exact (TableTerm.read_respects left).bind_same fun _ =>
      (TableTerm.read_respects right).bind_same fun _ => .pure (.of_eq rfl)
  | set table value tier name =>
    refine (TableTerm.read_respects table).bind_same fun ref => ?_
    refine (ValueTerm.read_respects value).bind_same fun value => ?_
    exact (World.onStore_agrees (Store.write_respects ref _ _)).bind_same fun _ => .pure (.of_eq rfl)
  | setAll table tier members =>
    refine (TableTerm.read_respects table).bind_same fun ref => ?_
    refine (readMembers_respects members).bind_same fun members => ?_
    exact (World.onStore_agrees (Store.write_respects ref _ _)).bind_same fun _ => .pure (.of_eq rfl)
  | get table name =>
    refine (TableTerm.read_respects table).bind_same fun ref => ?_
    refine (World.tableBehind_agrees ref).bind fun table twin alike => ?_
    rw [like.get_eq alike]
    exact (Respects.ofOutcome _).bind_same fun _ => .pure (.of_eq rfl)
  | find table name =>
    refine (TableTerm.read_respects table).bind_same fun ref => ?_
    exact (World.tableBehind_agrees ref).bind fun table twin alike =>
      .pure (.of_eq (by rw [like.find?_eq alike]))
  | contains table name =>
    refine (TableTerm.read_respects table).bind_same fun ref => ?_
    exact (World.tableBehind_agrees ref).bind fun table twin alike =>
      .pure (.of_eq (by rw [like.contains_eq alike]))
  | tierOf table name =>
    refine (TableTerm.read_respects table).bind_same fun ref => ?_
    refine (World.tableBehind_agrees ref).bind fun table twin alike => ?_
    rw [PropertyTable.tierOf?, PropertyTable.tierOf?, like.entryOf?_eq alike]
    cases (twin.entryOf? name).map Entry.tier <;> exact .pure (.of_eq rfl)
  | remove table name =>
    refine (TableTerm.read_respects table).bind_same fun ref => ?_
    exact (World.onStore_agrees (Store.removeMember_respects ref name)).bind_same fun _ =>
      .pure (.of_eq rfl)
  | entriesIn table tier =>
    refine (TableTerm.read_respects table).bind_same fun ref => ?_
    exact (World.tableBehind_agrees ref).bind fun table twin alike =>
      .pure (.of_listed (.entries (like.listings_entriesIn alike tier)))
  | contents table =>
    refine (TableTerm.read_respects table).bind_same fun ref => ?_
    exact (World.contentsBehind_agrees ref).bind fun _ _ alike =>
      .pure (.of_listed (.contents alike))

theorem RegistryOperation.perform_respects (operation : RegistryOperation) :
    (operation.perform frame).Respects (like.Worlds start twinStart) := by
  cases operation with
  | registerPending name kind =>
    exact (World.onStore_agrees (ClassRecord.pending_respects name kind)).bind_same fun record =>
      (World.register_respects record).bind_same fun _ => .pure rfl
  | registerLinked name kind link super members template =>
    refine (ClassTerm.read_respects link).bind_same fun link => ?_
    have readSuper : (super.mapM ClassTerm.read : Effect World _).Respects (like.Worlds start twinStart) := by
      cases super with
      | none => exact .pure rfl
      | some term => exact (ClassTerm.read_respects term).bind_same fun _ => .pure rfl
    refine readSuper.bind_same fun super => ?_
    refine (readEntries_agrees members).bind fun members members' alike => ?_
    refine (readEntries_agrees template).bind fun template template' alikeTemplate => ?_
    refine (World.onStore_agrees
      (ClassRecord.linked_agrees name kind link super alike alikeTemplate)).bind_same fun record => ?_
    exact (World.register_respects record).bind_same fun _ => .pure rfl
  | bind target link =>
    exact (ClassTerm.read_respects target).bind_same fun target =>
      (ClassTerm.read_respects link).bind_same fun link =>
        (World.bind_respects target link).bind_same fun _ => .pure rfl
  | describe target | nameOf target | classOf target =>
    exact (ClassTerm.read_respects target).bind_same fun _ =>
      (World.onRegistry_respects _).bind_bind fun _ => .pure rfl
  | superOf target =>
    refine (ClassTerm.read_respects target).bind_same fun _ => ?_
    refine (World.onRegistry_respects _).bind_bind fun super => ?_
    cases super <;> exact .pure rfl
  | requireClassOf target =>
    refine (ClassTerm.read_respects target).bind_same fun id => ?_
    refine (World.registryAt_respects _).bind_same fun registry => ?_
    cases registry.requireClassOf id <;> exact .pure rfl
  | findByName name | idsNamed name =>
    exact (World.registryAt_respects _).bind_same fun _ => .pure rfl
  | list => exact (World.registryAt_respects _).bind_same fun _ => .pure rfl

theorem ChainOperation.perform_respects (operation : ChainOperation) :
    (operation.perform frame).Respects (like.Worlds start twinStart) := by
  cases operation with
  | ancestors first limit =>
    refine (ClassTerm.read_respects first).bind_same fun _ => ?_
    cases limit with
    | some limit => exact (World.onRegistry_respects _).bind_bind fun _ => .pure rfl
    | none =>
      refine (World.realmAt_agrees _).bind fun realm twin alike => ?_
      rw [alike.ancestors_eq]
      exact (Respects.ofOutcome _).bind_same fun _ => .pure rfl
  | isSubclass sub sup limit =>
    refine (ClassTerm.read_respects sub).bind_same fun _ => ?_
    refine (ClassTerm.read_respects sup).bind_same fun _ => ?_
    cases limit with
    | some limit => exact (World.onRegistry_respects _).bind_bind fun _ => .pure rfl
    | none =>
      refine (World.realmAt_agrees _).bind fun realm twin alike => ?_
      rw [alike.isSubclassOf_eq]
      exact (Respects.ofOutcome _).bind_same fun _ => .pure rfl
  | lookup value name limit =>
    refine (ValueTerm.read_respects value).bind_same fun value => ?_
    cases limit with
    | some limit =>
      refine (World.registryAt_respects _).bind_same fun registry => ?_
      exact (World.onStore_agrees (registry.lookup_agrees value name fun _ => rfl)).bind_same
        fun _ => .pure rfl
    | none =>
      refine (World.realmAt_agrees _).bind fun realm twin alike => ?_
      exact (World.onStore_agrees (alike.lookup value name)).bind_same fun _ => .pure rfl

theorem RealmOperation.perform_respects (operation : RealmOperation) :
    (operation.perform frame).Respects (like.Worlds start twinStart) := by
  cases operation with
  | createClass name => exact (World.createClass_respects name).bind_same fun _ => .pure rfl
  | instantiate ofClass =>
    refine (ClassTerm.read_respects ofClass).bind_same fun id => ?_
    exact (World.onRealm_respects (fun _ _ => rfl) fun realm =>
      realm.instantiate_respects id).bind_bind fun _ => .pure rfl
  | setProperty target value tier name =>
    refine (ClassTerm.read_respects target).bind_same fun id => ?_
    refine (ValueTerm.read_respects value).bind_same fun value => ?_
    exact (World.onRealm_respects (fun _ _ => rfl) fun realm =>
      realm.setProperty_respects id tier name value).bind_bind fun _ => .pure rfl
  | getProperty target name =>
    refine (ClassTerm.read_respects target).bind_same fun id => ?_
    exact (World.onRealm_respects (fun _ _ => rfl) fun realm =>
      realm.getProperty_respects id name).bind_bind fun _ => .pure rfl

theorem CodeTerm.read_respects (convention : Convention) (code : CodeTerm Operation) :
    (code.read frame convention).Respects (like.Worlds start twinStart) := by
  cases code with
  | script body => exact .pure rfl
  | sharedWith value => exact (ValueTerm.read_respects value).bind_same fun _ => Respects.ofOutcome _

theorem CallRoute.call_respects (route : CallRoute) (callee : Value) (receiver : Option ValueTerm)
    (arguments : List Value) :
    (route.call frame callee receiver arguments).Respects (like.Worlds start twinStart) := by
  cases callee with
  | ofClass id => exact .throw _
  | plain object => exact .throw _
  | method wrapped => exact .pure rfl
  | unboundMethod wrapped =>
    cases receiver with
    | none => exact .throw _
    | some term => exact (ValueTerm.read_respects term).bind_same fun _ => .pure rfl

/-- The operation answers with the entries of a table. -/
def Operation.Lists : Operation → Prop
  | .table operation => operation.Lists
  | _ => False

/-- An operation agrees with itself in alike worlds if the code that it calls does. -/
theorem Operation.perform_agrees (frame : Frame) {run : Invocation → Effect World Value}
    (code : ∀ invocation, (run invocation).Respects (like.Worlds start twinStart))
    (operation : Operation) :
    (operation.perform run frame).Agrees (like.Worlds start twinStart) (like.Answers operation.Lists)
      (operation.perform run frame) := by
  cases operation with
  | value operation => exact operation.perform_respects.mono .of_eq
  | table operation => exact operation.perform_agrees
  | registry operation => exact operation.perform_respects.mono .of_eq
  | chain operation => exact operation.perform_respects.mono .of_eq
  | realm operation => exact operation.perform_respects.mono .of_eq
  | newMethod convention body =>
    exact (World.onRealm_respects (fun _ _ => rfl) fun realm =>
      realm.newMethod_respects convention (.script body)).bind_bind fun _ => .pure (.of_eq rfl)
  | defineMethod convention target name body =>
    refine (ClassTerm.read_respects target).bind_same fun id => ?_
    exact (World.onRealm_respects (fun _ _ => rfl) fun realm =>
      realm.defineMethod_respects convention id name (.script body)).bind_bind
        fun _ => .pure (.of_eq rfl)
  | makeMethod convention ofClass sharing code =>
    refine (ClassTerm.read_respects ofClass).bind_same fun id => ?_
    refine (TableTerm.read_respects sharing).bind_same fun ref => ?_
    refine (CodeTerm.read_respects convention code).bind_same fun callable => ?_
    exact (World.onStore_agrees (Store.addMethod_respects convention id ref callable)).bind_same
      fun _ => .pure (.of_eq rfl)
  | call route callee arguments receiver =>
    refine (ValueTerm.read_respects callee).bind_same fun callee => ?_
    refine (readValues_respects arguments).bind_same fun values => ?_
    exact (route.call_respects callee receiver values).bind_same fun invocation =>
      (code invocation).bind_same fun _ => .pure (.of_eq rfl)
  | invoke target arguments name =>
    refine (ValueTerm.read_respects target).bind_same fun target => ?_
    refine (readValues_respects arguments).bind_same fun values => ?_
    refine (World.realmAt_agrees _).bind fun realm twin alike => ?_
    exact (World.onStore_agrees (alike.dispatch target name values)).bind_same fun invocation =>
      (code invocation).bind_same fun _ => .pure (.of_eq rfl)
  | fail failure => exact (FailureTerm.read_respects failure).bind_same fun _ => .throw _
  | noteCall => exact (World.display_agrees (.note _)).bind_same fun _ => .pure (.of_eq rfl)
  | noteValue noted =>
    exact (ValueTerm.read_respects noted).bind_same fun _ =>
      (World.display_agrees (.note _)).bind_same fun _ => .pure (.of_eq rfl)

/-! ## Scripts -/

theorem Command.run_agrees {perform : Operation → Effect World WorldReply}
    (agrees : ∀ operation,
      (perform operation).Agrees (like.Worlds start twinStart) like.Replies (perform operation))
    (command : Command Operation) :
    (command.run perform).Agrees (like.Worlds start twinStart) like.Replies (command.run perform) := by
  refine (agrees command.operation).bind fun reply twin alike => ?_
  rw [alike.value?_eq]
  cases command.slot with
  | none => exact .pure alike
  | some name =>
    cases twin.value? with
    | none => exact .pure alike
    | some value => exact (World.fillSlot_respects name value).bind_same fun _ => .pure alike

/-- Replies that are listings are shown, and a script goes on with values alone. -/
theorem Script.run_respects {perform : Operation → Effect World WorldReply}
    (agrees : ∀ operation,
      (perform operation).Agrees (like.Worlds start twinStart) like.Replies (perform operation))
    (script : Script) (result : Except Error Value) :
    (Script.run perform script result).Respects (like.Worlds start twinStart) := by
  induction script generalizing result with
  | nil => exact Respects.ofOutcome result
  | cons command rest ih =>
    refine (Command.run_agrees agrees command).attempt.bind fun outcome twin matched => ?_
    cases matched with
    | error cause =>
      cases optional : command.optional
      · simpa only [optional, Bool.false_eq_true, if_false] using Agrees.throw cause
      · simpa only [optional, if_true] using ih result
    | @ok reply twin alike =>
      cases alike with
      | entries members =>
        exact (World.display_agrees (.reply (.entries members))).bind_same fun _ => ih result
      | contents shown =>
        exact (World.display_agrees (.reply (.contents shown))).bind_same fun _ => ih result
      | same =>
        cases reply with
        | value value => exact ih (.ok value)
        | _ => exact (World.display_agrees (.refl _)).bind_same fun _ => ih result

/-- Code that runs in alike worlds ends in the same way and leaves alike worlds, however deep it
calls. -/
theorem Invocation.run_respects (depth : Nat) (invocation : Invocation) :
    (Invocation.run depth context invocation).Respects (like.Worlds start twinStart) := by
  induction depth generalizing invocation with
  | zero =>
    obtain ⟨_ | body, receiver, arguments⟩ := invocation
    · exact World.construct_respects arguments
    · exact .throw _
  | succ depth ih =>
    obtain ⟨_ | body, receiver, arguments⟩ := invocation
    · exact World.construct_respects arguments
    · exact Script.run_respects (fun operation =>
        (Operation.perform_agrees ⟨context, receiver, arguments⟩ ih operation).mono (·.replies))
        body _

/-! ## Public operations -/

theorem Action.effect_respects (action : Action) :
    action.effect.Respects (like.Worlds start twinStart) := by
  cases action with
  | openContext plan => exact (World.openContext_respects plan).ignore
  | createClass context name => exact (World.createClass_respects name).ignore
  | instantiate context ofClass =>
    rw [effect, bind_ignore]
    exact (World.onRealm_respects (fun _ _ => rfl) fun realm => realm.instantiate_respects ofClass).ignore
  | newText context content =>
    rw [effect, bind_ignore]
    exact (World.onRealm_respects (fun _ _ => rfl) fun realm => realm.newPrimitive_respects _ _).ignore
  | newInteger context content =>
    rw [effect, bind_ignore]
    exact (World.onRealm_respects (fun _ _ => rfl) fun realm => realm.newPrimitive_respects _ _).ignore
  | newMethod context convention callable =>
    rw [effect, bind_ignore]
    exact (World.onRealm_respects (fun _ _ => rfl) fun realm =>
      realm.newMethod_respects convention callable).ignore
  | defineMethod context convention target name callable =>
    exact World.onRealm_respects (fun _ _ => rfl) fun realm =>
      realm.defineMethod_respects convention target name callable
  | setProperty context target tier name value =>
    exact World.onRealm_respects (fun _ _ => rfl) fun realm =>
      realm.setProperty_respects target tier name value
  | lookup context value name limit =>
    cases limit with
    | none =>
      exact (World.realmAt_agrees context).bind fun realm twin alike =>
        (World.onStore_agrees (alike.lookup value name)).ignore
    | some limit =>
      exact (World.registryAt_respects context).bind_same fun registry =>
        (World.onStore_agrees (registry.lookup_agrees value name fun _ => rfl)).ignore
  | registerPending context name kind =>
    exact (World.onStore_agrees (ClassRecord.pending_respects name kind)).bind_same fun record =>
      (World.register_respects record).ignore
  | registerLinked context name kind link super members template =>
    exact (World.onStore_agrees (ClassRecord.linked_agrees name kind link super
      (like.tables_ofEntries members) (like.tables_ofEntries template))).bind_same fun record =>
        (World.register_respects record).ignore
  | bind context target link => exact World.bind_respects target link
  | makePlain ofClass entries payload =>
    exact (World.onStore_agrees
      (Store.addPlain_agrees ofClass (like.tables_ofEntries entries) payload)).ignore
  | makeMethod convention ofClass table callable =>
    exact (World.onStore_agrees (Store.addMethod_respects convention ofClass table callable)).ignore
  | share entries =>
    exact (World.onStore_agrees (Store.addTable_agrees (like.tables_ofEntries entries))).ignore
  | shareCopy table =>
    exact (World.tableBehind_agrees table).bind fun copy twin alike =>
      (World.onStore_agrees (Store.addTable_agrees alike)).ignore
  | shareSnapshot table =>
    exact (World.onStore_agrees (Store.snapshot_agrees table)).bind fun copy twin alike =>
      (World.onStore_agrees (Store.addTable_agrees alike)).ignore
  | snapshot table => exact (World.onStore_agrees (Store.snapshot_agrees table)).ignore
  | write table change => exact World.onStore_agrees (Store.write_respects table .handle change)
  | keep slots heldTables displays =>
    intro world other worlds
    exact ⟨.ok rfl, { worlds with
      slots := rfl
      heldTables := rfl
      displays := List.forall₂_same.mpr fun shown _ => .refl shown }⟩

/-! ## Demands -/

/-- The demand is answered with the entries of a table. -/
def Demand.Lists : Demand → Prop
  | act _ => False
  | perform _ _ operation => operation.Lists

theorem Demand.effect_agrees (demand : Demand) :
    demand.effect.Agrees (like.Worlds start twinStart) (like.Answers demand.Lists) demand.effect := by
  cases demand with
  | act action => exact action.effect_respects.bind_same fun _ => .pure (.of_eq rfl)
  | perform depth frame operation =>
    exact Operation.perform_agrees frame (Invocation.run_respects depth) operation

namespace Likeness

/-- The worlds are alike, whatever was recorded and shown in them so far. -/
def Alike (like : Likeness) (world twin : World) : Prop :=
  like.Worlds world.store twin.store { world with displays := #[] } { twin with displays := #[] }

/-- Two demands were met in the same way: with the same records, with the same outcome unless entries
are listed in it, and what scripts showed meanwhile is the same but for listed entries. -/
structure Records (like : Likeness) (lists : Prop) (record twin : StepRecord) : Prop where
  displays : List.Forall₂ like.Displays record.displays twin.displays
  outcome : OutcomesMatch (like.Answers lists) record.outcome twin.outcome
  journal : record.journal = twin.journal

theorem Records.outcome_eq {lists : Prop} {record twin : StepRecord}
    (records : like.Records lists record twin) (silent : ¬ lists) : record.outcome = twin.outcome :=
  (records.outcome.mono fun answers => answers.same silent).eq

namespace Worlds

variable {world twin : World}

/-- From now on nothing counts but what comes. -/
theorem alike (worlds : like.Worlds start twinStart world twin) : like.Alike world twin where
  store := { worlds.store with
    journal := .refl _ _
    writes := .refl _ _ }
  contexts := worlds.contexts
  shared := worlds.shared
  slots := worlds.slots
  heldTables := worlds.heldTables
  displays := .nil

theorem meet (worlds : like.Worlds start twinStart world twin) (demand : Demand) :
    like.Worlds start twinStart (world.meet demand).2 (twin.meet demand).2 := by
  have silent : like.Worlds start twinStart { world with displays := #[] }
      { twin with displays := #[] } :=
    { worlds with displays := .nil }
  exact (demand.effect_agrees _ _ silent).2

theorem meetAll (worlds : like.Worlds start twinStart world twin) (demands : List Demand) :
    like.Worlds start twinStart (world.meetAll demands) (twin.meetAll demands) := by
  induction demands generalizing world twin with
  | nil => exact worlds
  | cons demand rest ih => exact ih (worlds.meet demand)

end Worlds

namespace Alike

variable {world twin : World}

theorem meetAll (alike : like.Alike world twin) (demands : List Demand) :
    like.Alike (world.meetAll demands) (twin.meetAll demands) := by
  cases demands with
  | nil => exact alike
  | cons demand rest => exact ((Worlds.meet alike demand).meetAll rest).alike

/-- Alike worlds meet every demand in the same way. -/
theorem records (alike : like.Alike world twin) (demand : Demand) :
    like.Records demand.Lists (world.meet demand).1 (twin.meet demand).1 := by
  obtain ⟨matched, after⟩ := demand.effect_agrees _ _ alike
  obtain ⟨added, grown, twinGrown⟩ := after.store.journal
  refine { displays := after.displays, outcome := matched, journal := ?_ }
  simp only [World.meet, World.journalSince, grown, twinGrown, ← Array.length_toList,
    List.drop_left]

end Alike

end Likeness

end ObjectModel
