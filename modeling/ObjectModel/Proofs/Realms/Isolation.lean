import ObjectModel.Proofs.Runs.History
import ObjectModel.Proofs.Runs.Scripts

/-! # Realms are isolated

An operation acts in one context, and so does all code that it calls, wherever the code was made. All
other contexts stay as they are. A table that belongs to a class of another context can only be
changed by who holds its handle, since no member of the context in which the operation acts is such a
table, and then only at the names that are written.
-/

namespace ObjectModel

open Relation

/-- The context of the class that owns a table. -/
def Owner.context? : Owner → Option Nat
  | members context _ | template context _ => some context
  | plain _ => none

namespace World

/-! ## Other contexts stay as they are -/

/-- All contexts but one are as they were. -/
def SameElsewhere (context : Nat) (world later : World) : Prop :=
  ∀ other, other ≠ context → later.contexts[other]? = world.contexts[other]?

/-- All contexts are as they were. -/
def SameContexts (world later : World) : Prop :=
  later.contexts = world.contexts

variable {context : Nat}

theorem onStore_sameContexts {α : Type} (effect : Effect Store α) :
    (onStore effect).Leads SameContexts :=
  .of_step fun _ => rfl

theorem onStore_elsewhere {α : Type} (effect : Effect Store α) :
    (onStore effect).Leads (SameElsewhere context) :=
  .of_step fun _ _ _ => rfl

theorem replaceContext_elsewhere (replacement : Context) :
    (replaceContext context replacement).Leads (SameElsewhere context) :=
  .of_step fun world other differ => by
    simp [perform_replaceContext, Array.getElem?_modify, Ne.symm differ]

theorem createClass_elsewhere (name : String) :
    (createClass context name).Leads (SameElsewhere context) :=
  (realmAt_leads _).bind fun _ => (onStore_elsewhere _).bind fun _ =>
    (replaceContext_elsewhere _).bind fun _ => .pure _

theorem register_elsewhere (record : ClassRecord) :
    (register context record).Leads (SameElsewhere context) := by
  refine (contextAt_leads _).bind fun found => ?_
  cases found with
  | bare registry =>
    exact (onStore_elsewhere _).bind fun _ => (replaceContext_elsewhere _).bind fun _ => .pure _
  | realm realm => exact .throw _

theorem bind_elsewhere (target link : ClassId) :
    (bind context target link).Leads (SameElsewhere context) :=
  (contextAt_leads _).bind fun _ => (Effect.Leads.ofOutcome _).bind fun _ =>
    replaceContext_elsewhere _

end World

/-- The operation neither opens a context nor changes the registry of one. -/
def Action.LeavesContexts : Action → Prop
  | openContext _ | createClass .. | registerPending .. | registerLinked .. | bind .. => False
  | instantiate .. | newText .. | newInteger .. | newMethod .. | defineMethod .. | setProperty ..
  | lookup .. | makePlain .. | makeMethod .. | share _ | shareCopy _ | shareSnapshot _ | snapshot _
  | write .. | keep .. => True

theorem Action.effect_sameContexts {action : Action} (leaves : action.LeavesContexts) :
    action.effect.Leads World.SameContexts := by
  cases action with
  | openContext | createClass | registerPending | registerLinked | bind => exact leaves.elim
  | instantiate | newText | newInteger | newMethod =>
    exact (World.realmAt_leads _).bind fun _ => (World.onStore_sameContexts _).ignore
  | defineMethod | setProperty =>
    exact (World.realmAt_leads _).bind fun _ => World.onStore_sameContexts _
  | lookup acted value name limit =>
    cases limit with
    | none => exact (World.realmAt_leads _).bind fun _ => (World.onStore_sameContexts _).ignore
    | some limit => exact (World.registryAt_leads _).bind fun _ => (World.onStore_sameContexts _).ignore
  | makePlain | makeMethod | share | snapshot => exact (World.onStore_sameContexts _).ignore
  | shareCopy table =>
    exact Effect.Leads.get.bind fun _ => (World.onStore_sameContexts _).ignore
  | shareSnapshot table =>
    exact (World.onStore_sameContexts _).bind fun _ => (World.onStore_sameContexts _).ignore
  | write table change => exact World.onStore_sameContexts _
  | keep => exact .of_step fun _ => rfl

/-- An operation changes no context but the one that it acts in. -/
theorem Action.effect_elsewhere {context : Nat} {action : Action} (acts : action.ActsIn context) :
    action.effect.Leads (World.SameElsewhere context) := by
  have leavesAll (leaves : action.LeavesContexts) : action.effect.Leads (World.SameElsewhere context) :=
    (action.effect_sameContexts leaves).mono fun world later same other _ => congrArg (·[other]?) same
  cases action with
  | openContext plan => exact acts.elim
  | createClass acted name =>
    obtain rfl : acted = context := acts
    exact (World.createClass_elsewhere name).ignore
  | registerPending acted | registerLinked acted =>
    obtain rfl : acted = context := acts
    exact (World.onStore_elsewhere _).bind fun record => (World.register_elsewhere record).ignore
  | bind acted target link =>
    obtain rfl : acted = context := acts
    exact World.bind_elsewhere target link
  | _ => exact leavesAll trivial

namespace World

variable {context : Nat} {world later : World}

theorem sameElsewhere_of_chain (chain : ReflTransGen (SameElsewhere context) world later) :
    SameElsewhere context world later := by
  induction chain with
  | refl => exact fun _ _ => rfl
  | tail _ last ih => exact fun other differ => (last other differ).trans (ih other differ)

theorem sameContexts_of_chain (chain : ReflTransGen SameContexts world later) :
    SameContexts world later := by
  induction chain with
  | refl => rfl
  | tail _ last ih => exact last.trans ih

theorem contexts_act {action : Action} (leaves : action.LeavesContexts) (world : World) :
    (world.act action).contexts = world.contexts :=
  sameContexts_of_chain (action.effect_sameContexts leaves world)

theorem sameElsewhere_act {action : Action} (acts : action.ActsIn context) (world : World) :
    SameElsewhere context world (world.act action) :=
  sameElsewhere_of_chain (action.effect_elsewhere acts world)

/-! ## Tables of other contexts -/

/-- An owner elsewhere has the table that it had. -/
theorem SameElsewhere.tableOf? (same : SameElsewhere context world later) {owner : Owner}
    {other : Nat} (owns : owner.context? = some other) (differ : other ≠ context) :
    later.tableOf? owner = world.tableOf? owner := by
  cases owner with
  | members _ id | template _ id =>
    cases owns
    simp only [World.tableOf?, recordAt?, same other differ]
  | plain identity => cases owns

/-- What is spared while operations act in one context: all other contexts, and every table of their
classes from changes by anybody who does not hold it. -/
structure Spares (context : Nat) (world later : World) : Prop where
  contexts : SameElsewhere context world later
  tables : ∃ made, later.store.writes.toList = world.store.writes.toList ++ made ∧
    ∀ {owner : Owner} {other : Nat} {ref : TableRef}, owner.context? = some other →
      other ≠ context → world.tableOf? owner = some ref →
        (∀ write ∈ made, write.table = ref → write.route = .handle) ∧
        later.store.table ref = (ref.changesIn made).foldl PropertyTable.apply (world.store.table ref)

theorem Spares.refl (context : Nat) (world : World) : world.Spares context world :=
  ⟨fun _ _ => rfl, [], by simp, fun _ _ _ => ⟨by simp, rfl⟩⟩

theorem Spares.trans {middle : World} (first : world.Spares context middle)
    (second : middle.Spares context later) : world.Spares context later where
  contexts other differ := (second.contexts other differ).trans (first.contexts other differ)
  tables := by
    obtain ⟨made, appended, spared⟩ := first.tables
    obtain ⟨made', appended', spared'⟩ := second.tables
    refine ⟨made ++ made', by rw [appended', appended, List.append_assoc], ?_⟩
    intro owner other ref owns differ has
    obtain ⟨held, became⟩ := spared owns differ has
    obtain ⟨held', became'⟩ :=
      spared' owns differ ((first.contexts.tableOf? owns differ).trans has)
    refine ⟨List.forall_mem_append.mpr ⟨held, held'⟩, ?_⟩
    rw [became', became, ref.changesIn_append, List.foldl_append]

theorem Spares.of_act {action : Action} (acts : action.ActsIn context) (reachable : world.Reachable) :
    world.Spares context (world.act action) where
  contexts := sameElsewhere_act acts world
  tables := by
    have owned := reachable.tablesOwned
    obtain ⟨made, appended, became, through⟩ := world.exists_writes_act action
    refine ⟨made, appended, ?_⟩
    intro owner other ref owns differ has
    refine ⟨fun write member same => ?_, became ref (owned.inStore has)⟩
    subst same
    cases route : write.route with
    | handle => rfl
    | members =>
      -- the writer would have named a class of its own context, which does not own this table
      obtain ⟨id, hasOwn⟩ := through write member (owned.inStore has) route context acts
      cases owned.unique has hasOwn
      cases owns
      exact absurd rfl differ

theorem Reachable.spares (reachable : world.Reachable)
    (chain : ReflTransGen (Acts context) world later) : world.Spares context later := by
  suffices world.Spares context later ∧ later.Reachable from this.1
  induction chain with
  | refl => exact ⟨.refl context world, reachable⟩
  | tail _ last ih =>
    obtain ⟨action, acts, rfl⟩ := last
    exact ⟨ih.1.trans (.of_act acts ih.2), ih.2.act action⟩

/-- After any run, take any operation, in any frame and however deep the code that it calls may nest.
Every context but the one of the frame stays as it is. The tables of classes of other contexts are
changed by holders of their handles only, they become what exactly these changes make of them, and
the entries of all names that are not written stay as they are, in the same order. -/
theorem realms_isolated (earlier : List Action) (depth : Nat) (frame : Frame)
    (operation : Operation) :
    let world := World.empty.run earlier
    let later :=
      ((operation.perform (Invocation.run depth frame.context) frame).perform world).2
    (∀ other, other ≠ frame.context → later.contexts[other]? = world.contexts[other]?) ∧
    ∃ made, later.store.writes.toList = world.store.writes.toList ++ made ∧
      ∀ (owner : Owner) (other : Nat) (ref : TableRef), owner.context? = some other →
        other ≠ frame.context → world.tableOf? owner = some ref →
          later.tableOf? owner = some ref ∧
          (∀ write ∈ made, write.table = ref → write.route = .handle) ∧
          let changes := ref.changesIn made
          later.store.table ref = changes.foldl PropertyTable.apply (world.store.table ref) ∧
          EntryList.without (later.store.table ref).entries.toList (changes.flatMap TableChange.names) =
            EntryList.without (world.store.table ref).entries.toList
              (changes.flatMap TableChange.names) := by
  intro world later
  have reachable : world.Reachable := ⟨earlier, rfl⟩
  have chain : ReflTransGen (Acts frame.context) world later :=
    Operation.perform_runsIn frame (Invocation.run_runsIn depth) operation world
  have spares := reachable.spares chain
  obtain ⟨made, appended, spared⟩ := spares.tables
  refine ⟨spares.contexts, made, appended, ?_⟩
  intro owner other ref owns differ has
  obtain ⟨held, became⟩ := spared owns differ has
  refine ⟨(spares.contexts.tableOf? owns differ).trans has, held, became, ?_⟩
  rw [became, PropertyTable.toList_changes (reachable.coherent.table ref)]
  refine EntryList.without_changes (fun change member name written => ?_) _
  exact List.mem_flatMap.mpr ⟨change, member, written⟩

/-! ## A method that writes to its own table -/

namespace Marking

def mark : TableChange :=
  .set "hidden" "mark" (.ofClass ⟨0⟩)

/-- The code sets a member of the table that its first argument carries. -/
def body : Script :=
  [⟨.table (.set (.ofValue (.argument 0)) (.ofClass (.known ⟨0⟩)) "hidden" "mark"), none, false⟩]

def marker : Value :=
  .method ⟨2, ⟨1⟩, ⟨2⟩, .script body⟩

/-- The first of two realms makes the method. -/
def actions : List Action :=
  [.openContext (.realm .standard), .openContext (.realm .standard), .newMethod 0 .method (.script body),
    .keep (Std.ExtTreeMap.empty.insert "marker" marker) {} #[]]

def operation : Operation :=
  .call .wrapper (.slot "marker") [.slot "marker"] none

/-- In the second realm the method does nothing but write to its table. -/
theorem writes_operation :
    let world := empty.run actions
    ((operation.perform (Invocation.run 1 1) (.outer 1)).perform world).2.store.writes.toList =
      world.store.writes.toList ++ [⟨⟨2⟩, .handle, mark⟩] := by
  intro world
  have stored : world.slots["marker"]? = some marker := rfl
  have there : world.contexts[1]? = some (.realm (Realm.started .standard 10)) := rfl
  simp [operation, Operation.perform, Effect.perform_bind, ValueTerm.read, readValues, readSlot, stored,
    CallRoute.call, CallRoute.called, marker, Invocation.run, body, Script.run, Command.run,
    TableOperation.perform, TableTerm.read, registryAt, perform_contextAt there,
    Registry.tableOfValue, ClassTerm.read, mark, display]

end Marking

open Marking in
/-- Called in the second realm, the method leaves the first one as it is, but for the one member that
it wrote through the handle that it carries itself. -/
theorem realms_isolated_marker :
    let world := empty.run actions
    let later := ((operation.perform (Invocation.run 1 1) (.outer 1)).perform world).2
    later.contexts[0]? = world.contexts[0]? ∧
      later.store.table ⟨2⟩ = (world.store.table ⟨2⟩).apply mark ∧
      EntryList.without (later.store.table ⟨2⟩).entries.toList ["mark"] =
        EntryList.without (world.store.table ⟨2⟩).entries.toList ["mark"] := by
  intro world later
  obtain ⟨same, made, appended, spared⟩ := realms_isolated actions 1 (.outer 1) operation
  have only : made = [⟨⟨2⟩, .handle, mark⟩] :=
    List.append_cancel_left (appended.symm.trans writes_operation)
  have has : world.tableOf? (.members 0 ⟨1⟩) = some ⟨2⟩ := rfl
  obtain ⟨_, _, became, kept⟩ := spared (.members 0 ⟨1⟩) 0 ⟨2⟩ rfl (by decide) has
  rw [only] at became kept
  exact ⟨same 0 (by decide), became, kept⟩

end World

end ObjectModel
