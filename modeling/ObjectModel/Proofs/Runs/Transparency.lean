import ObjectModel.Proofs.Classes.Routes

/-! # What an invocation adds to the code that it runs

Nothing. An invocation is refused while it looks the member up, and then no code runs; or it runs the
code of the member once, with the operands that it read, and ends as the code ends. Code that ends with
what a further invocation gave it hands that on: through any number of calls the outermost ends as the
innermost did, and a failure finds the world as the innermost left it. A cause of failure is not looked
at on the way, so that a member which is missing inside a call is not sought again outside.
-/

namespace ObjectModel

open Effect Relation

/-! ## What a member comes to -/

/-- What an invocation comes to before code runs, and the store that the look-up leaves. A method is
given the arguments alone, and an unbound method the target before them, wherever it was found. -/
inductive Realm.Dispatches (realm : Realm) (target : Value) (name : String) (arguments : List Value)
    (store : Store) : Except Error Invocation → Store → Prop where
  | unfound {cause : Error} {after : Store}
      (lookup : (realm.lookup target name).perform store = (.error cause, after)) :
      Dispatches realm target name arguments store (.error cause) after
  | ofClass {id : ClassId} {after : Store}
      (lookup : (realm.lookup target name).perform store = (.ok (.ofClass id), after)) :
      Dispatches realm target name arguments store (.error (.typeMismatch "method" "class")) after
  | plain {object : PlainInstance} {after : Store}
      (lookup : (realm.lookup target name).perform store = (.ok (.plain object), after)) :
      Dispatches realm target name arguments store (.error (.typeMismatch "method" "instance")) after
  | method {wrapped : Method} {after : Store}
      (lookup : (realm.lookup target name).perform store = (.ok (.method wrapped), after)) :
      Dispatches realm target name arguments store (.ok ⟨wrapped.callable, none, arguments⟩) after
  | unboundMethod {wrapped : Method} {after : Store}
      (lookup : (realm.lookup target name).perform store = (.ok (.unboundMethod wrapped), after)) :
      Dispatches realm target name arguments store (.ok ⟨wrapped.callable, some target, arguments⟩)
        after

namespace Realm

variable {realm : Realm} {target : Value} {name : String} {arguments : List Value} {store : Store}

theorem Dispatches.perform_dispatch {outcome : Except Error Invocation} {after : Store}
    (dispatches : realm.Dispatches target name arguments store outcome after) :
    (realm.dispatch target name arguments).perform store = (outcome, after) := by
  cases dispatches with
  | unfound lookup => simp only [dispatch, perform_bind, lookup]
  | ofClass lookup | plain lookup =>
    simp only [dispatch, perform_bind, lookup, Invocation.ofValue?, Value.kindName, perform_throw]
  | method lookup | unboundMethod lookup =>
    simp only [dispatch, perform_bind, lookup, Invocation.ofValue?, Method.called_eq,
      Method.calledOn_eq, perform_pure]

/-- Every look-up comes to one of these. -/
theorem exists_dispatches (realm : Realm) (target : Value) (name : String) (arguments : List Value)
    (store : Store) : ∃ outcome after, realm.Dispatches target name arguments store outcome after := by
  rcases lookup : (realm.lookup target name).perform store with ⟨cause | member, after⟩
  · exact ⟨_, _, .unfound lookup⟩
  · cases member with
    | ofClass id => exact ⟨_, _, .ofClass lookup⟩
    | plain object => exact ⟨_, _, .plain lookup⟩
    | method wrapped => exact ⟨_, _, .method lookup⟩
    | unboundMethod wrapped => exact ⟨_, _, .unboundMethod lookup⟩

end Realm

/-! ## Scripts by parts -/

/-- The world after the value of a command was stored, if the command names a slot. -/
def World.storing (world : World) (value : Value) : Option String → World
  | some name => { world with slots := world.slots.insert name value }
  | none => world

section Scripts

variable {perform : Operation → Effect World WorldReply} {command : Command Operation}
  {before after : World}

theorem Command.perform_run_of_value {value : Value}
    (answers : (perform command.operation).perform before = (.ok (.value value), after)) :
    (command.run perform).perform before =
      (.ok (.value value), after.storing value command.slot) := by
  rw [Command.run, perform_bind, answers]
  cases command.slot <;> rfl

theorem Command.perform_run_of_error {cause : Error}
    (fails : (perform command.operation).perform before = (.error cause, after)) :
    (command.run perform).perform before = (.error cause, after) := by
  rw [Command.run, perform_bind, fails]

/-- A value replaces the result so far, any other reply is shown, and a failure ends the script unless
it is passed over. -/
theorem Script.perform_run_cons (command : Command Operation) (rest : Script)
    (result : Except Error Value) (before : World) :
    (Script.run perform (command :: rest) result).perform before =
      match (command.run perform).perform before with
      | (.ok (.value value), middle) => (Script.run perform rest (.ok value)).perform middle
      | (.ok reply, middle) =>
        (Script.run perform rest result).perform
          { middle with displays := middle.displays.push (.reply reply) }
      | (.error cause, middle) =>
        if command.optional then (Script.run perform rest result).perform middle
        else (.error cause, middle) := by
  rw [Script.run, perform_bind, perform_attempt]
  rcases (command.run perform).perform before with ⟨cause | reply, middle⟩
  · cases command.optional <;> rfl
  · cases reply <;> rfl

/-- Where the first commands come to an end, the rest goes on from the world that they leave. -/
theorem Script.exists_perform_run_append {front : Script} {given answer : Value}
    (ends : (Script.run perform front (.ok given)).perform before = (.ok answer, after))
    (rest : Script) (result : Except Error Value) :
    ∃ result', (Script.run perform (front ++ rest) result).perform before =
      (Script.run perform rest result').perform after := by
  induction front generalizing before given result with
  | nil =>
    obtain rfl : before = after := congrArg Prod.snd ends
    exact ⟨result, rfl⟩
  | cons command front ih =>
    rw [perform_run_cons] at ends
    rw [List.cons_append, perform_run_cons]
    rcases ran : (command.run perform).perform before with ⟨cause | reply, middle⟩
    · rw [ran] at ends
      cases passed : command.optional with
      | false =>
        simp only [passed] at ends
        cases ends
      | true =>
        simp only [passed] at ends
        exact ih ends _
    · rw [ran] at ends
      cases reply <;> exact ih ends _

/-- How a script ends after an invocation in it has ended. With a failure it ends at once. A value it
stores, and it hands the value on if that is still its result when the rest has come to an end. -/
inductive Script.HandsOn (perform : Operation → Effect World WorldReply) (slot : Option String)
    (rest : Script) : Except Error Value → World → World → Prop where
  | failure (cause : Error) (world : World) : HandsOn perform slot rest (.error cause) world world
  | value {value : Value} {before after : World}
      (ends : (Script.run perform rest (.ok value)).perform (before.storing value slot) =
        (.ok value, after)) : HandsOn perform slot rest (.ok value) before after

/-- A script that hands on what a command gave ends as the command did. -/
theorem Script.HandsOn.perform_run {operation : Operation} {slot : Option String} {rest : Script}
    {outcome : Except Error Value} {before middle after : World}
    (hands : Script.HandsOn perform slot rest outcome middle after)
    (gives : (perform operation).perform before = (outcome.map .value, middle))
    (result : Except Error Value) :
    (Script.run perform (⟨operation, slot, false⟩ :: rest) result).perform before =
      (outcome, after) := by
  rw [perform_run_cons]
  cases hands with
  | failure cause => rw [Command.perform_run_of_error gives]; rfl
  | value ends => rw [Command.perform_run_of_value gives]; exact ends

end Scripts

/-! ## Chains of calls -/

/-- Code that runs, with the levels that it has left, and the worlds before and after it. -/
structure Call where
  depth : Nat
  code : Invocation
  before : World
  after : World

namespace Call

variable {context : Nat} {outcome : Except Error Value} {outer inner : Call}

/-- The call ends in this way. -/
def Ends (context : Nat) (outcome : Except Error Value) (call : Call) : Prop :=
  (Invocation.run call.depth context call.code).perform call.before = (outcome, call.after)

/-- The outer call runs a script with an invocation in it. The commands before come to an end, the
invocation comes to the code of the inner call, and the script hands on how that ends. -/
inductive HandsOn (context : Nat) (outcome : Except Error Value) : Call → Call → Prop where
  | script {depth : Nat} {receiver : Option Value} {arguments operands : List Value}
      {front rest : Script} {term : ValueTerm} {terms : List ValueTerm} {name : String}
      {slot : Option String} {given answer target : Value} {realm : Realm} {code : Invocation}
      {before reading world ended after : World} {store : Store}
      (starts : (Script.run
        (Operation.perform (Invocation.run depth context) ⟨context, receiver, arguments⟩)
        front (.ok given)).perform before = (.ok answer, reading))
      (reads : Frame.Reads ⟨context, receiver, arguments⟩ reading term terms target operands world)
      (present : world.contexts[context]? = some (.realm realm))
      (dispatches : realm.Dispatches target name operands world.store (.ok code) store)
      (hands : Script.HandsOn
        (Operation.perform (Invocation.run depth context) ⟨context, receiver, arguments⟩)
        slot rest outcome ended after) :
      HandsOn context outcome
        ⟨depth + 1,
          ⟨.script (front ++ ⟨.invoke term terms name, slot, false⟩ :: rest), receiver, arguments⟩,
          before, after⟩
        ⟨depth, code, { world with store }, ended⟩

/-- A call ends as the call that it hands on, and a failure leaves the world as it is. -/
theorem HandsOn.ends (handsOn : HandsOn context outcome outer inner) (ends : inner.Ends context outcome) :
    outer.Ends context outcome ∧ ∀ cause, outcome = .error cause → outer.after = inner.after := by
  cases handsOn with
  | @script depth receiver arguments _ _ rest _ _ _ slot _ _ _ _ code _ _ _ ended after _
      starts reads present dispatches hands =>
    constructor
    · obtain ⟨result, continues⟩ := Script.exists_perform_run_append starts
        (⟨.invoke _ _ _, slot, false⟩ :: rest) (.error (.native "no value"))
      refine continues.trans (hands.perform_run ?_ result)
      have inside : (Invocation.run depth context code).perform _ = (outcome, ended) := ends
      rw [Operation.perform_invoke_of_ok reads present dispatches.perform_dispatch, perform_map, inside]
    · rintro cause rfl
      cases hands
      rfl

/-- Through any number of calls. -/
theorem ends_of_chain (chain : ReflTransGen (HandsOn context outcome) outer inner)
    (ends : inner.Ends context outcome) :
    outer.Ends context outcome ∧ ∀ cause, outcome = .error cause → outer.after = inner.after := by
  induction chain using ReflTransGen.head_induction_on with
  | refl => exact ⟨ends, fun _ _ => rfl⟩
  | head first _ ih =>
    obtain ⟨endsFirst, same⟩ := first.ends ih.1
    exact ⟨endsFirst, fun cause failed => (same cause failed).trans (ih.2 cause failed)⟩

end Call

/-- An invocation in any realm comes to a refusal or to code. If it is refused, it answers the refusal
and leaves the world as the look-up left it, whatever code would do. If not, it is the one run of the
code, in the world that the look-up left. And if the code hands on, through any number of calls with
the levels that it has, how some inner call ends, then the invocation ends in that way, and with a
failure also in the world in which the inner call ended. -/
theorem invocations_transparent {frame : Frame} {before world : World} {term : ValueTerm}
    {terms : List ValueTerm} {target : Value} {arguments : List Value} {realm : Realm}
    (reads : frame.Reads before term terms target arguments world)
    (present : world.contexts[frame.context]? = some (.realm realm)) (name : String) :
    let invoke run := ((Operation.invoke term terms name).perform run frame).perform before
    (∃ outcome store, realm.Dispatches target name arguments world.store outcome store) ∧
    (∀ cause store, realm.Dispatches target name arguments world.store (.error cause) store →
      ∀ run, invoke run = (.error cause, { world with store })) ∧
    (∀ code store, realm.Dispatches target name arguments world.store (.ok code) store →
      ∀ run, invoke run = (Reply.value <$> run code).perform { world with store }) ∧
    ∀ (outer inner : Call) (store : Store) (outcome : Except Error Value),
      realm.Dispatches target name arguments world.store (.ok outer.code) store →
      outer.before = { world with store } →
      ReflTransGen (Call.HandsOn frame.context outcome) outer inner →
      inner.Ends frame.context outcome →
        invoke (Invocation.run outer.depth frame.context) = (outcome.map .value, outer.after) ∧
        ∀ cause, outcome = .error cause → outer.after = inner.after := by
  intro invoke
  refine ⟨realm.exists_dispatches target name arguments world.store, ?_, ?_, ?_⟩
  · intro cause store dispatches run
    simp only [invoke, Operation.perform_invoke reads present, perform_bind, World.perform_onStore,
      dispatches.perform_dispatch]
  · intro code store dispatches run
    exact Operation.perform_invoke_of_ok reads present dispatches.perform_dispatch run
  · intro outer inner store outcome dispatches starts chain ends
    obtain ⟨outerEnds, same⟩ := Call.ends_of_chain chain ends
    refine ⟨?_, same⟩
    rw [Call.Ends, starts] at outerEnds
    simp only [invoke]
    rw [Operation.perform_invoke_of_ok reads present dispatches.perform_dispatch, perform_map, outerEnds]

/-! ## A failure from inside -/

namespace Nested

/-- Code that creates a class and then fails as a look-up does. -/
def innerBody : Script :=
  [⟨.realm (.createClass "Made"), none, false⟩, ⟨.fail (.plain (.notFound "inner")), none, false⟩]

def outerBody : Script :=
  [⟨.invoke (.ofClass (.known ⟨0⟩)) [] "inner", none, false⟩]

/-- The root has the code as members, and the first invokes the second. -/
def world : World :=
  World.empty.run
    [.openContext (.realm .standard), .defineMethod 0 .method ⟨0⟩ "outer" (.script outerBody),
      .defineMethod 0 .method ⟨0⟩ "inner" (.script innerBody)]

def realm : Realm :=
  Realm.started .standard 0

def root : ClassRecord :=
  Realm.startRecord 0 0 "Class" .metaclass

/-- The world with the class that the inner code creates. -/
def created : World :=
  world.afterCreating 0 realm root "Made"

def outer : Call :=
  ⟨2, ⟨.script outerBody, none, []⟩, world, created⟩

def inner : Call :=
  ⟨1, ⟨.script innerBody, none, []⟩, world, created⟩

theorem present : world.contexts[0]? = some (.realm realm) :=
  rfl

theorem reachable : world.Reachable :=
  ⟨_, rfl⟩

theorem reads (frame : Frame) :
    frame.Reads world (.ofClass (.known ⟨0⟩)) [] (.ofClass ⟨0⟩) [] world :=
  ⟨world, rfl, rfl⟩

theorem dispatches {name : String} {wrapped : Method}
    (holds : world.store.Holds ⟨0⟩ name (.method wrapped)) :
    realm.Dispatches (.ofClass ⟨0⟩) name [] world.store (.ok ⟨wrapped.callable, none, []⟩)
      world.store := by
  have members : realm.registry.membersOf ⟨0⟩ = .ok ⟨0⟩ := rfl
  refine .method ?_
  rw [Realm.lookup, Registry.perform_lookup_ofClass members, PropertyTable.get,
    reachable.coherent.find?_of_holds holds]

theorem dispatches_outer :
    realm.Dispatches (.ofClass ⟨0⟩) "outer" [] world.store (.ok outer.code) world.store :=
  dispatches ⟨⟨"outer", publicTier, .method ⟨1, ⟨1⟩, ⟨2⟩, .script outerBody⟩⟩,
    Array.mem_of_getElem? (i := 1) rfl, rfl, rfl⟩

theorem dispatches_inner :
    realm.Dispatches (.ofClass ⟨0⟩) "inner" [] world.store (.ok inner.code) world.store :=
  dispatches ⟨⟨"inner", publicTier, .method ⟨2, ⟨1⟩, ⟨2⟩, .script innerBody⟩⟩,
    Array.mem_of_getElem? (i := 2) rfl, rfl, rfl⟩

theorem perform_innerBody (perform : Operation → Effect World WorldReply)
    (creates : (perform (.realm (.createClass "Made"))).perform world =
      (.ok (.value (.ofClass ⟨5⟩)), created))
    (fails : (perform (.fail (.plain (.notFound "inner")))).perform created =
      (.error (.notFound "inner"), created)) :
    (Script.run perform innerBody (.error (.native "no value"))).perform world =
      (.error (.notFound "inner"), created) := by
  rw [innerBody, Script.perform_run_cons, Command.perform_run_of_value creates]
  have stops : (Command.run perform ⟨.fail (.plain (.notFound "inner")), none, false⟩).perform created =
      (.error (.notFound "inner"), created) := Command.perform_run_of_error fails
  refine (Script.perform_run_cons _ [] _ created).trans ?_
  rw [stops]
  rfl

theorem inner_ends : inner.Ends 0 (.error (.notFound "inner")) := by
  have performed := World.perform_createClass (reachable.realmsWellFormed present)
    (show realm.registry.recordOf realm.builtins.root = .ok root from rfl) present "Made"
  rw [if_neg (by simp)] at performed
  refine perform_innerBody _ ?_ rfl
  simp only [Operation.perform, RealmOperation.perform, bind_pure_comp, perform_map, performed]
  rfl

theorem outer_handsOn : Call.HandsOn 0 (.error (.notFound "inner")) outer inner := by
  have starts : (Script.run (Operation.perform (Invocation.run 1 0) (.outer 0)) []
      (.ok (.ofClass ⟨0⟩))).perform world = (.ok (.ofClass ⟨0⟩), world) := rfl
  have hands : Script.HandsOn (Operation.perform (Invocation.run 1 0) (.outer 0)) none []
      (.error (.notFound "inner")) created created := .failure _ _
  have handsOn := Call.HandsOn.script starts (reads _) present dispatches_inner hands
  exact handsOn

end Nested

open Nested in
/-- The outer code fails as the inner code did, and the class is there. -/
theorem invocations_transparent_nested :
    ((Operation.invoke (.ofClass (.known ⟨0⟩)) [] "outer").perform (Invocation.run 2 0)
        (.outer 0)).perform world = (.error (.notFound "inner"), created) ∧
      ∃ made, created.contexts[0]? =
        some (.realm { realm with registry := realm.registry.push made }) ∧ made.name = "Made" := by
  obtain ⟨_, _, _, handed⟩ := invocations_transparent (reads (.outer 0)) present "outer"
  obtain ⟨ends, _⟩ := handed outer inner world.store _ dispatches_outer rfl
    (.single outer_handsOn) inner_ends
  exact ⟨ends, _, rfl, rfl⟩

end ObjectModel
