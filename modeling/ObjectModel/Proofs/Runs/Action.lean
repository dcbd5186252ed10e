import ObjectModel.Proofs.Runs.Leads
import ObjectModel.Session

/-! # Runs of public operations

A run is a list of public operations in the order in which they are made. It does not matter who
makes them: an operation of the code that drives the contexts and one of a callable that is running
somewhere inside a call act on the world in the same way, so the operations of nested calls stand in
one list with all others. Operands are values, handles and identifiers that are at hand, of whatever
origin. Operations that only read are left out, because they leave the world as it is; a look-up is
here because it may write a record.
-/

namespace ObjectModel

/-- A public operation with its operands. A position names the context that it acts on. -/
inductive Action where
  /-- Build a realm or an empty registry as a new context. -/
  | openContext (plan : ContextPlan)
  | createClass (context : Nat) (name : String)
  | instantiate (context : Nat) (ofClass : ClassId)
  | newText (context : Nat) (content : String)
  | newInteger (context : Nat) (content : Int64)
  | newMethod (context : Nat) (convention : Convention) (callable : Callable)
  | defineMethod (context : Nat) (convention : Convention) (target : ClassId) (name : String)
      (callable : Callable)
  | setProperty (context : Nat) (target : ClassId) (tier name : String) (value : Value)
  /-- Look a member up, within the limit that is given or else within that of the realm. -/
  | lookup (context : Nat) (value : Value) (name : String) (limit : Option Nat)
  | registerPending (context : Nat) (name : String) (kind : ClassKind)
  | registerLinked (context : Nat) (name : String) (kind : ClassKind) (link : ClassId)
      (super : Option ClassId) (members template : List Entry)
  | bind (context : Nat) (target link : ClassId)
  | makePlain (ofClass : ClassId) (entries : List Entry) (payload : Option Primitive)
  | makeMethod (convention : Convention) (ofClass : ClassId) (table : TableRef)
      (callable : Callable)
  /-- Put a new table of these entries behind a handle. -/
  | share (entries : List Entry)
  /-- Put a copy of a table behind a handle. -/
  | shareCopy (table : TableRef)
  /-- Put a copy of the public entries of a table behind a handle. -/
  | shareSnapshot (table : TableRef)
  | snapshot (table : TableRef)
  /-- Change the table behind a handle that is held. -/
  | write (table : TableRef) (change : TableChange)
  /-- Change what is kept under names or shown, but nothing in the store or the contexts. -/
  | keep (slots : Std.ExtTreeMap String Value) (heldTables : Std.ExtTreeMap String TableRef)
      (displays : Array (Display Value TableRef))

namespace Action

/-- What an operation does to a world. -/
def effect : Action → Effect World Unit
  | openContext plan => (World.openContext plan).ignore
  | createClass context name => (World.createClass context name).ignore
  | instantiate context ofClass => do
    let realm ← World.realmAt context
    (World.onStore (realm.instantiate ofClass)).ignore
  | newText context content => do
    let realm ← World.realmAt context
    (World.onStore (realm.newText content)).ignore
  | newInteger context content => do
    let realm ← World.realmAt context
    (World.onStore (realm.newInteger content)).ignore
  | newMethod context convention callable => do
    let realm ← World.realmAt context
    (World.onStore (realm.newMethod convention callable)).ignore
  | defineMethod context convention target name callable => do
    let realm ← World.realmAt context
    World.onStore (realm.defineMethod convention target name callable)
  | setProperty context target tier name value => do
    let realm ← World.realmAt context
    World.onStore (realm.setProperty target tier name value)
  | lookup context value name none => do
    let realm ← World.realmAt context
    (World.onStore (realm.lookup value name)).ignore
  | lookup context value name (some limit) => do
    let registry ← World.registryAt context
    (World.onStore (registry.lookup value name limit)).ignore
  | registerPending context name kind => do
    let record ← World.onStore (ClassRecord.pending name kind)
    (World.register context record).ignore
  | registerLinked context name kind link super members template => do
    let record ← World.onStore
      (ClassRecord.linked name kind link super (.ofEntries members) (.ofEntries template))
    (World.register context record).ignore
  | bind context target link => World.bind context target link
  | makePlain ofClass entries payload =>
    (World.onStore (Store.addPlain ofClass (.ofEntries entries) payload)).ignore
  | makeMethod convention ofClass table callable =>
    (World.onStore (Store.addMethod convention ofClass table callable)).ignore
  | share entries => (World.onStore (Store.addTable (.ofEntries entries))).ignore
  | shareCopy table => do
    let copy ← World.tableBehind table
    (World.onStore (Store.addTable copy)).ignore
  | shareSnapshot table => do
    let copy ← World.onStore (Store.snapshot table)
    (World.onStore (Store.addTable copy)).ignore
  | snapshot table => (World.onStore (Store.snapshot table)).ignore
  | write table change => World.onStore (Store.write table .handle change)
  | keep slots heldTables displays =>
    modify fun world => { world with slots, heldTables, displays }

/-- Whether an operation can be made by code that runs in a context: it acts on that context, or on
no context at all. -/
def ActsIn (context : Nat) : Action → Prop
  | openContext _ => False
  | createClass acted _ | instantiate acted _ | newText acted _ | newInteger acted _
  | newMethod acted _ _ | defineMethod acted _ _ _ _ | setProperty acted _ _ _ _
  | lookup acted _ _ _ | registerPending acted _ _ | registerLinked acted _ _ _ _ _ _
  | bind acted _ _ => acted = context
  | makePlain .. | makeMethod .. | share _ | shareCopy _ | shareSnapshot _ | snapshot _ | write ..
  | keep .. => True

end Action

namespace World

/-- The world after an operation, whether it succeeded or failed. -/
def act (world : World) (action : Action) : World :=
  (action.effect.perform world).2

/-- The world after a run. -/
def run (world : World) (actions : List Action) : World :=
  actions.foldl act world

/-- A world that some run of public operations leads to. -/
def Reachable (world : World) : Prop :=
  ∃ actions, empty.run actions = world

@[simp]
theorem run_nil (world : World) : world.run [] = world :=
  rfl

@[simp]
theorem run_cons (world : World) (action : Action) (rest : List Action) :
    world.run (action :: rest) = (world.act action).run rest :=
  rfl

theorem run_append (world : World) (first second : List Action) :
    world.run (first ++ second) = (world.run first).run second :=
  List.foldl_append

/-- What an operation preserves, a run preserves. -/
theorem run_preserves {invariant : World → Prop}
    (step : ∀ world action, invariant world → invariant (world.act action)) {world : World}
    (initial : invariant world) (actions : List Action) : invariant (world.run actions) := by
  induction actions generalizing world with
  | nil => exact initial
  | cons action rest ih => exact ih (step world action initial)

theorem Reachable.run {world : World} (reachable : world.Reachable) (actions : List Action) :
    (world.run actions).Reachable := by
  obtain ⟨earlier, rfl⟩ := reachable
  exact ⟨earlier ++ actions, run_append empty earlier actions⟩

theorem Reachable.act {world : World} (reachable : world.Reachable) (action : Action) :
    (world.act action).Reachable :=
  reachable.run [action]

/-! ## Asking for a context -/

section Asking

variable {step : World → World → Prop}

theorem contextAt_leads (context : Nat) : (contextAt context).Leads step := by
  refine Effect.Leads.get.bind fun world => ?_
  cases world.contexts[context]? with
  | some found => exact .pure found
  | none => exact .throw _

theorem registryAt_leads (context : Nat) : (registryAt context).Leads step :=
  (contextAt_leads context).bind fun _ => .pure _

theorem realmAt_leads (context : Nat) : (realmAt context).Leads step := by
  refine (contextAt_leads context).bind fun found => ?_
  cases found with
  | bare registry => exact .throw _
  | realm realm => exact .pure realm

end Asking

/-! ## Operations in one context -/

/-- One world comes from another by an operation in a context. -/
def Acts (context : Nat) (world later : World) : Prop :=
  ∃ action : Action, action.ActsIn context ∧ world.act action = later

/-- Chains of operations in a context are runs. -/
theorem exists_run_of_acts {context : Nat} {world later : World}
    (chain : Relation.ReflTransGen (Acts context) world later) :
    ∃ actions, (∀ action ∈ actions, action.ActsIn context) ∧ world.run actions = later := by
  induction chain with
  | refl => exact ⟨[], by simp, rfl⟩
  | tail _ last ih =>
    obtain ⟨earlier, actEarlier, rfl⟩ := ih
    obtain ⟨action, acts, rfl⟩ := last
    refine ⟨earlier ++ [action], ?_, run_append ..⟩
    intro other member
    rcases List.mem_append.mp member with inEarlier | isLast
    · exact actEarlier other inEarlier
    · rwa [List.mem_singleton.mp isLast]

end World

end ObjectModel
