import ObjectModel.Proofs.Chains.Places
import ObjectModel.Proofs.Realms.Isolation
import ObjectModel.Proofs.Realms.Shape
import Mathlib.Data.List.Induction

/-! # Links are bound once

A class comes with its link, or with the link pending, and a pending link can be bound. That happens
once: the first bind of a pending class decides, and every later one is refused and leaves everything as
it is. So the link of a class can be told from the history alone, from what the class came with and the
first bind of it since, whatever else was done in between, in this registry or in others. The classes of
a realm are linked from the start, and no bind of any of them is ever accepted.
-/

namespace ObjectModel

/-! ## Registries -/

namespace Registry

variable {registry bound : Registry} {id target link : ClassId} {record added : ClassRecord}

theorem recordOf_push (found : registry.recordOf id = .ok record) (added : ClassRecord) :
    (registry.push added).recordOf id = .ok record := by
  rw [recordOf_eq_ok_iff] at found ⊢
  exact getElem?_push_of_eq_some found added

/-- A class of the larger registry was there, or it is the one that was added. -/
theorem recordOf_push_cases (found : (registry.push added).recordOf id = .ok record) :
    registry.recordOf id = .ok record ∨ record = added := by
  rw [recordOf_eq_ok_iff] at found ⊢
  rcases getElem?_push_cases found with ⟨_, new⟩ | old
  · exact .inr new
  · exact .inl old

theorem classOf_of_recordOf (found : registry.recordOf id = .ok record) :
    registry.classOf id = record.link.elim
      (.error (.bootstrap ("class '" ++ record.name ++ "' used before its bootstrap completed"))) .ok := by
  rw [classOf, found, ok_bind, ClassRecord.classOf]
  cases record.link <;> rfl

theorem bind_of_pending (found : registry.recordOf target = .ok record) (pending : record.link = none)
    (link : ClassId) :
    registry.bind target link = .ok { registry with
      classes := registry.classes.modify target.index fun _ => { record with link := some link } } :=
  bind_eq_ok_iff.mpr ⟨record, found, pending, rfl⟩

theorem bind_of_linked (found : registry.recordOf target = .ok record) {old : ClassId}
    (linked : record.link = some old) (link : ClassId) :
    registry.bind target link =
      .error (.bootstrap ("class link of '" ++ record.name ++ "' is already bound")) := by
  simp [bind, found, ClassRecord.bind, linked]

theorem bind_of_not_registered (missing : ¬ registry.IsRegistered target) (link : ClassId) :
    registry.bind target link = .error (.unknownClass target) := by
  simp [bind, recordOf_of_not_registered missing]

/-- A bind that is accepted gives the one class its link and leaves all others. -/
theorem recordOf_bind (binds : registry.bind target link = .ok bound)
    (found : registry.recordOf id = .ok record) :
    bound.recordOf id =
      .ok { record with link := record.link.or (if target = id then some link else none) } := by
  obtain ⟨old, there, pending, rfl⟩ := bind_eq_ok_iff.mp binds
  rw [recordOf_eq_ok_iff] at found ⊢
  by_cases here : target = id
  · subst here
    cases (recordOf_eq_ok_iff.mp there).symm.trans found
    simp [getElem?_modify_self found, pending]
  · have apart : target.index ≠ id.index := fun same => here (congrArg ClassId.mk same)
    simp [Array.getElem?_modify, apart, here, found]

/-- A bind brings no class in. -/
theorem exists_recordOf_of_bind (binds : registry.bind target link = .ok bound)
    (found : bound.recordOf id = .ok record) : ∃ old, registry.recordOf id = .ok old := by
  obtain ⟨old, _, _, rfl⟩ := bind_eq_ok_iff.mp binds
  refine isRegistered_iff.mp ?_
  simpa [IsRegistered, size] using isRegistered_iff.mpr ⟨record, found⟩

end Registry

/-! ## What operations do to a context -/

/-- The name and the link of the class that an operation registers in the bare registry at a position. A
class with a pending link comes without one. -/
def Action.registers? (context : Nat) : Action → Option (String × Option ClassId)
  | registerPending acted name _ => if acted = context then some (name, none) else none
  | registerLinked acted name _ link _ _ _ => if acted = context then some (name, some link) else none
  | _ => none

/-- What an operation asks the link of a class to be bound to. -/
def Action.bindsTo? (context : Nat) (id : ClassId) : Action → Option ClassId
  | bind acted target link => if acted = context ∧ target = id then some link else none
  | _ => none

/-- What the first bind of a class asks for. -/
def firstBind? (context : Nat) (id : ClassId) (actions : List Action) : Option ClassId :=
  actions.findSome? (·.bindsTo? context id)

section Asking

variable {action : Action} {context : Nat} {id link : ClassId}

theorem Action.bindsTo?_eq_some_iff :
    action.bindsTo? context id = some link ↔ action = .bind context id link := by
  cases action <;> simp [bindsTo?, and_assoc]

theorem Action.bindsTo?_of_registers {given : String × Option ClassId}
    (asked : action.registers? context = some given) : action.bindsTo? context id = none := by
  refine Option.eq_none_iff_forall_ne_some.mpr fun link binds => ?_
  obtain rfl := bindsTo?_eq_some_iff.mp binds
  cases asked

theorem firstBind?_cons (action : Action) (rest : List Action) :
    firstBind? context id (action :: rest) =
      (action.bindsTo? context id).or (firstBind? context id rest) := by
  rw [firstBind?, List.findSome?_cons]
  cases action.bindsTo? context id <;> rfl

end Asking

namespace World

theorem perform_bind_of_ok {world : World} {context : Nat} {found : Context} {target link : ClassId}
    {bound : Registry} (present : world.contexts[context]? = some found)
    (binds : found.registry.bind target link = .ok bound) :
    (bind context target link).perform world = (.ok (), { world with
      contexts := world.contexts.modify context fun _ => found.withRegistry bound }) := by
  simp [bind, Effect.perform_bind, perform_contextAt present, binds, perform_replaceContext]

theorem perform_bind_of_error {world : World} {context : Nat} {found : Context} {target link : ClassId}
    {cause : Error} (present : world.contexts[context]? = some found)
    (refused : found.registry.bind target link = .error cause) :
    (bind context target link).perform world = (.error cause, world) := by
  simp [bind, Effect.perform_bind, perform_contextAt present, refused]

/-- All that an operation can do to the context at a position. -/
inductive ContextTurn (world : World) (context : Nat) (later : World) : Action → Prop where
  /-- Nothing. If the operation is a bind, then not of a class with a pending link. -/
  | keeps {action : Action} (same : later.contexts[context]? = world.contexts[context]?)
      (refused : ∀ {target link record}, action = .bind context target link →
        world.recordAt? context target = some record → record.link ≠ none) :
      ContextTurn world context later action
  /-- It opens the context. Without a realm the registry is empty. -/
  | opens {plan : ContextPlan} {added : Context} (absent : world.contexts[context]? = none)
      (present : later.contexts[context]? = some added)
      (bare : ∀ {registry : Registry}, added = .bare registry → registry = .empty) :
      ContextTurn world context later (.openContext plan)
  /-- It registers a class in a bare registry. -/
  | registers {registration : Action} {registry : Registry} {record : ClassRecord}
      (asked : registration.registers? context = some (record.name, record.link))
      (present : world.contexts[context]? = some (.bare registry))
      (added : later.contexts[context]? = some (.bare (registry.push record))) :
      ContextTurn world context later registration
  /-- It creates a class in a realm. -/
  | creates {name : String} {realm : Realm} {record : ClassRecord}
      (present : world.contexts[context]? = some (.realm realm))
      (added : later.contexts[context]? =
        some (.realm { realm with registry := realm.registry.push record })) :
      ContextTurn world context later (.createClass context name)
  /-- It binds a pending link. -/
  | binds {target link : ClassId} {found : Context} {bound : Registry}
      (present : world.contexts[context]? = some found)
      (accepted : found.registry.bind target link = .ok bound)
      (replaced : later.contexts[context]? = some (found.withRegistry bound)) :
      ContextTurn world context later (.bind context target link)

section Turns

variable {world : World} {context : Nat} {id : ClassId} {record : ClassRecord}

theorem openContext_contextTurn (world : World) (context : Nat) (plan : ContextPlan) :
    world.ContextTurn context (world.act (.openContext plan)) (.openContext plan) := by
  obtain ⟨added, opened, bare⟩ : ∃ added : Context,
      (world.act (.openContext plan)).contexts = world.contexts.push added ∧
        ∀ {registry : Registry}, added = .bare registry → registry = .empty := by
    cases plan with
    | bare => exact ⟨.bare .empty, rfl, fun same => (Context.bare.inj same).symm⟩
    | realm settings =>
      rw [act_openRealm]
      exact ⟨_, rfl, fun same => by cases same⟩
  by_cases last : context = world.contexts.size
  · subst last
    exact .opens (Array.getElem?_eq_none (Nat.le_refl _)) (by rw [opened, Array.getElem?_push_size]) bare
  · refine .keeps (by rw [opened, Array.getElem?_push, if_neg last]) ?_
    intro _ _ _ same
    cases same

theorem createClass_contextTurn (world : World) (context : Nat) (name : String) :
    world.ContextTurn context (world.act (.createClass context name)) (.createClass context name) := by
  rw [act, Action.effect, Effect.perform_ignore]
  rcases createClass_cases context name world with ⟨cause, failed⟩ | ⟨realm, root, present, _, _, created⟩
  · rw [failed]
    refine .keeps rfl ?_
    intro _ _ _ same
    cases same
  · rw [created]
    exact .creates present (getElem?_modify_self present _)

/-- Registering a record that was just made adds it, or leaves the contexts alone. -/
theorem register_contextTurn {registration : Action} {make : Effect Store ClassRecord}
    {made : ClassRecord} {store : Store}
    (effect_eq : registration.effect = do
      let record ← onStore make
      (register context record).ignore)
    (makes : make.perform world.store = (.ok made, store))
    (asked : registration.registers? context = some (made.name, made.link)) :
    world.ContextTurn context (world.act registration) registration := by
  have after : world.act registration = ((register context made).perform { world with store }).2 := by
    simp only [act, effect_eq, Effect.bind_ignore, Effect.perform_ignore, Effect.perform_bind,
      perform_onStore, makes]
  rw [after]
  rcases register_cases context made { world with store } with
    ⟨cause, failed⟩ | ⟨registry, present, registered⟩
  · refine .keeps (by rw [failed]) ?_
    rintro target link record rfl
    cases asked
  · rw [registered]
    exact .registers asked present (getElem?_modify_self present _)

theorem bind_contextTurn (world : World) (context : Nat) (target link : ClassId) :
    world.ContextTurn context (world.act (.bind context target link)) (.bind context target link) := by
  rw [act, Action.effect]
  cases present : world.contexts[context]? with
  | none =>
    obtain ⟨cause, failed⟩ := perform_contextAt_of_none present
    have refused : (bind context target link).perform world = (.error cause, world) := by
      simp [bind, Effect.perform_bind, failed]
    rw [refused]
    refine .keeps rfl ?_
    intro _ _ _ _ recorded
    simp [recordAt?, present] at recorded
  | some found =>
    cases binds : found.registry.bind target link with
    | ok bound =>
      rw [perform_bind_of_ok present binds]
      exact .binds present binds (getElem?_modify_self present _)
    | error cause =>
      rw [perform_bind_of_error present binds]
      refine .keeps rfl ?_
      rintro _ _ record same recorded pending
      cases same
      obtain ⟨_, present', there⟩ := recordAt?_eq_some_iff.mp recorded
      cases present.symm.trans present'
      rw [Registry.bind_of_pending there pending] at binds
      cases binds

theorem act_contextTurn (world : World) (context : Nat) (action : Action) :
    world.ContextTurn context (world.act action) action := by
  have elsewhere {acted : Nat} (acts : action.ActsIn acted) (apart : acted ≠ context) :
      world.ContextTurn context (world.act action) action := by
    refine .keeps (sameElsewhere_act acts world context (Ne.symm apart)) ?_
    rintro _ _ _ rfl
    exact absurd acts.symm apart
  have quiet (leaves : action.LeavesContexts) : world.ContextTurn context (world.act action) action := by
    refine .keeps (congrArg (·[context]?) (contexts_act leaves world)) ?_
    rintro _ _ _ rfl
    exact leaves.elim
  cases action with
  | openContext plan => exact openContext_contextTurn world context plan
  | createClass acted name =>
    by_cases here : acted = context
    · subst here
      exact createClass_contextTurn world acted name
    · exact elsewhere rfl here
  | registerPending acted name kind =>
    by_cases here : acted = context
    · subst here
      exact register_contextTurn rfl (ClassRecord.perform_pending name kind world.store) (if_pos rfl)
    · exact elsewhere rfl here
  | registerLinked acted name kind link super members template =>
    by_cases here : acted = context
    · subst here
      exact register_contextTurn rfl (ClassRecord.perform_linked name kind link super _ _ world.store)
        (if_pos rfl)
    · exact elsewhere rfl here
  | bind acted target link =>
    by_cases here : acted = context
    · subst here
      exact bind_contextTurn world acted target link
    · exact elsewhere rfl here
  | _ => exact quiet trivial

/-! ## What becomes of a class -/

/-- A class that is there keeps its record, and if its link is pending then a bind of it gives the
link. -/
theorem recordAt?_act (recorded : world.recordAt? context id = some record) (action : Action) :
    (world.act action).recordAt? context id =
      some { record with link := record.link.or (action.bindsTo? context id) } := by
  obtain ⟨found, present, there⟩ := recordAt?_eq_some_iff.mp recorded
  have turn := world.act_contextTurn context action
  generalize world.act action = later at turn ⊢
  cases turn with
  | keeps same refused =>
    have stays : record.link.or (action.bindsTo? context id) = record.link := by
      cases asked : action.bindsTo? context id with
      | none => exact Option.or_none
      | some link =>
        have linked := refused (Action.bindsTo?_eq_some_iff.mp asked) recorded
        exact Option.or_of_isSome (Option.isSome_iff_ne_none.mpr linked)
    rw [stays]
    exact recordAt?_eq_some_iff.mpr ⟨found, same.trans present, there⟩
  | opens absent =>
    rw [absent] at present
    cases present
  | registers asked present' added =>
    cases present.symm.trans present'
    rw [Action.bindsTo?_of_registers asked, Option.or_none]
    exact recordAt?_eq_some_iff.mpr ⟨_, added, Registry.recordOf_push there _⟩
  | creates present' added =>
    cases present.symm.trans present'
    simp only [Action.bindsTo?, Option.or_none]
    exact recordAt?_eq_some_iff.mpr ⟨_, added, Registry.recordOf_push there _⟩
  | @binds target link _ bound present' accepted replaced =>
    cases present.symm.trans present'
    refine recordAt?_eq_some_iff.mpr ⟨_, replaced, ?_⟩
    rw [Context.registry_withRegistry, Registry.recordOf_bind accepted there]
    simp [Action.bindsTo?]

/-- After a run the link is the one that was there, or else the one that the first bind asked for. -/
theorem recordAt?_run (recorded : world.recordAt? context id = some record) (actions : List Action) :
    (world.run actions).recordAt? context id =
      some { record with link := record.link.or (firstBind? context id actions) } := by
  induction actions generalizing world record with
  | nil =>
    rw [run_nil, recorded, firstBind?, List.findSome?_nil, Option.or_none]
  | cons action rest ih =>
    rw [run_cons, ih (recordAt?_act recorded action), firstBind?_cons, Option.or_assoc]

/-- A class of a bare registry that was not there before an operation was registered by it. -/
theorem registers?_of_new {action : Action} {registry : Registry}
    (new : world.recordAt? context id = none)
    (present : (world.act action).contexts[context]? = some (.bare registry))
    (recorded : registry.recordOf id = .ok record) :
    action.registers? context = some (record.name, record.link) := by
  have turn := world.act_contextTurn context action
  have notBefore {found : Context} {old : ClassRecord} (there : world.contexts[context]? = some found)
      (was : found.registry.recordOf id = .ok old) : False := by
    rw [recordAt?_eq_some_iff.mpr ⟨found, there, was⟩] at new
    cases new
  generalize world.act action = later at present turn
  cases turn with
  | keeps same =>
    exact (notBefore (same.symm.trans present) recorded).elim
  | opens _ opened bare =>
    cases bare (Option.some.inj (opened.symm.trans present))
    cases recorded
  | registers asked there added =>
    cases present.symm.trans added
    rcases Registry.recordOf_push_cases recorded with was | rfl
    · exact (notBefore there was).elim
    · exact asked
  | creates _ added => cases present.symm.trans added
  | @binds _ _ found _ there accepted replaced =>
    cases found with
    | realm realm => cases present.symm.trans replaced
    | bare before =>
      cases present.symm.trans replaced
      obtain ⟨old, was⟩ := Registry.exists_recordOf_of_bind accepted recorded
      exact (notBefore there was).elim

end Turns

/-! ## Where a class comes from -/

/-- After these operations a class is not there yet. The next one registers it in the bare registry, with
this name, and with this link or a pending one. -/
structure Registers (earlier : List Action) (registration : Action) (context : Nat) (id : ClassId)
    (name : String) (given : Option ClassId) : Prop where
  new : (empty.run earlier).recordAt? context id = none
  asked : registration.registers? context = some (name, given)
  made : ∃ record, ((empty.run earlier).act registration).recordAt? context id = some record ∧
    record.name = name ∧ record.link = given

section Origins

variable {context : Nat} {id : ClassId} {record : ClassRecord} {actions : List Action}

/-- A class that is there came in with one operation of the run. -/
theorem exists_moment (recorded : (empty.run actions).recordAt? context id = some record) :
    ∃ earlier action later, actions = earlier ++ action :: later ∧
      (empty.run earlier).recordAt? context id = none ∧
      ∃ made, ((empty.run earlier).act action).recordAt? context id = some made := by
  induction actions using List.reverseRecOn generalizing record with
  | nil => cases recorded
  | append_singleton front last ih =>
    cases before : (empty.run front).recordAt? context id with
    | none =>
      rw [run_append] at recorded
      exact ⟨front, last, [], rfl, before, record, recorded⟩
    | some old =>
      obtain ⟨earlier, action, later, rfl, new, made⟩ := ih before
      exact ⟨earlier, action, later ++ [last], by simp, new, made⟩

/-- Every class of a bare registry was registered, and its link tells what became of it since. -/
theorem exists_registers {registry : Registry}
    (present : (empty.run actions).contexts[context]? = some (.bare registry))
    (recorded : registry.recordOf id = .ok record) :
    ∃ earlier registration later given, actions = earlier ++ registration :: later ∧
      Registers earlier registration context id record.name given ∧
      record.link = given.or (firstBind? context id later) := by
  have there := recordAt?_eq_some_iff.mpr ⟨_, present, recorded⟩
  obtain ⟨earlier, registration, later, rfl, new, made, added⟩ := exists_moment there
  obtain ⟨found, opened, inFound⟩ := recordAt?_eq_some_iff.mp added
  rw [run_append, run_cons] at present there
  have became := there.symm.trans (recordAt?_run added later)
  obtain ⟨before, rfl⟩ : ∃ before, found = .bare before := by
    obtain ⟨after, present', grown⟩ := (((empty.run earlier).act registration).grows_run later).contexts
      opened
    cases present.symm.trans present'
    cases found with
    | bare before => exact ⟨before, rfl⟩
    | realm realm => cases grown.same
  have asked := registers?_of_new new opened inFound
  obtain rfl := Option.some.inj became
  exact ⟨earlier, registration, later, made.link, rfl, ⟨new, asked, made, added, rfl, rfl⟩, rfl⟩

end Origins

/-! ## How binding goes -/

/-- The world with another record for one class. -/
def withRecord (world : World) (context : Nat) (id : ClassId) (record : ClassRecord) : World :=
  { world with
    contexts := world.contexts.modify context fun found => found.withRegistry { found.registry with
      classes := found.registry.classes.modify id.index fun _ => record } }

/-- How a bind goes, whatever class it is asked for. -/
structure BindsOnce (world : World) : Prop where
  /-- A bind of a linked class is refused and changes nothing. -/
  linked : ∀ {context : Nat} {id : ClassId} {record : ClassRecord},
    world.recordAt? context id = some record → record.link ≠ none → ∀ link,
      (bind context id link).perform world =
        (.error (.bootstrap ("class link of '" ++ record.name ++ "' is already bound")), world)
  /-- A bind of a pending class is accepted. It gives the class its link, and nothing else changes. -/
  pending : ∀ {context : Nat} {id : ClassId} {record : ClassRecord},
    world.recordAt? context id = some record → record.link = none → ∀ link,
      let later := world.withRecord context id { record with link := some link }
      (bind context id link).perform world = (.ok (), later) ∧
        later.recordAt? context id = some { record with link := some link } ∧
        ∀ {context' : Nat} {id' : ClassId}, context' ≠ context ∨ id' ≠ id →
          later.recordAt? context' id' = world.recordAt? context' id'
  unregistered : ∀ {context : Nat} {found : Context} {id : ClassId},
    world.contexts[context]? = some found → ¬ found.registry.IsRegistered id → ∀ link,
      (bind context id link).perform world = (.error (.unknownClass id), world)

section Records

variable {world : World} {context : Nat} {id : ClassId} {record : ClassRecord}

theorem recordAt?_withRecord_self {old : ClassRecord} (recorded : world.recordAt? context id = some old)
    (record : ClassRecord) : (world.withRecord context id record).recordAt? context id = some record := by
  obtain ⟨found, present, there⟩ := recordAt?_eq_some_iff.mp recorded
  have replaced : (world.withRecord context id record).contexts[context]? =
      some (found.withRegistry { found.registry with
        classes := found.registry.classes.modify id.index fun _ => record }) := by
    rw [withRecord, Array.getElem?_modify, if_pos rfl, present, Option.map_some]
  refine recordAt?_eq_some_iff.mpr ⟨_, replaced, ?_⟩
  rw [Context.registry_withRegistry, Registry.recordOf_eq_ok_iff]
  exact getElem?_modify_self (Registry.recordOf_eq_ok_iff.mp there) record

theorem recordAt?_withRecord_of_ne {context' : Nat} {id' : ClassId}
    (apart : context' ≠ context ∨ id' ≠ id) :
    (world.withRecord context id record).recordAt? context' id' = world.recordAt? context' id' := by
  rw [recordAt?, withRecord, Array.getElem?_modify, recordAt?]
  by_cases here : context = context'
  · subst here
    have differ : id.index ≠ id'.index := by
      rcases apart with elsewhere | other
      · exact absurd rfl elsewhere
      · exact fun same => other (congrArg ClassId.mk same).symm
    rw [if_pos rfl]
    cases world.contexts[context]? with
    | none => rfl
    | some found => simp [Registry.recordOf, Array.getElem?_modify, differ]
  · rw [if_neg here]

/-- A bind of a pending class replaces its record, and nothing else. -/
theorem perform_bind_of_pending (recorded : world.recordAt? context id = some record)
    (pending : record.link = none) (link : ClassId) :
    (bind context id link).perform world =
      (.ok (), world.withRecord context id { record with link := some link }) := by
  obtain ⟨found, present, there⟩ := recordAt?_eq_some_iff.mp recorded
  rw [perform_bind_of_ok present (Registry.bind_of_pending there pending link), withRecord]
  congr 2
  refine Array.ext_getElem? fun position => ?_
  rw [Array.getElem?_modify, Array.getElem?_modify]
  split
  next here =>
    subst here
    rw [present, Option.map_some, Option.map_some]
  next => rfl

end Records

theorem bindsOnce (world : World) : world.BindsOnce where
  linked := by
    intro context id record recorded linked link
    obtain ⟨found, present, there⟩ := recordAt?_eq_some_iff.mp recorded
    obtain ⟨old, isOld⟩ := Option.ne_none_iff_exists'.mp linked
    exact perform_bind_of_error present (Registry.bind_of_linked there isOld link)
  pending recorded pending link :=
    ⟨perform_bind_of_pending recorded pending link, recordAt?_withRecord_self recorded _,
      recordAt?_withRecord_of_ne⟩
  unregistered present missing link :=
    perform_bind_of_error present (Registry.bind_of_not_registered missing link)

/-! ## Every history -/

/-- After every run, whatever was done in it and by whom:

* a bind is refused and changes nothing if the class is linked, and is accepted and changes the link of
  the class alone if that is pending;
* whatever is done further, the link of a class is the one that it has, or else the one that the first
  bind of the class asks for, so that a class which is bound stays so;
* every class of a bare registry was registered by an operation of the run, and its class is the link that
  it was given then, or else the one that the first bind since asked for, and where there was none the
  class is refused as not bootstrapped;
* in a realm every class is linked to the root, and no bind is ever accepted. -/
theorem links_bound_once (actions : List Action) :
    let world := empty.run actions
    world.BindsOnce ∧
    (∀ {context : Nat} {id : ClassId} {record : ClassRecord},
      world.recordAt? context id = some record → ∀ further : List Action,
        let after := { record with link := record.link.or (firstBind? context id further) }
        (world.run further).recordAt? context id = some after ∧
          (record.summary.isBound = true → after.summary.isBound = true)) ∧
    (∀ {context : Nat} {registry : Registry} {id : ClassId},
      world.contexts[context]? = some (.bare registry) → registry.IsRegistered id →
        ∃ earlier registration later name given, actions = earlier ++ registration :: later ∧
          Registers earlier registration context id name given ∧
          registry.classOf id = (given.or (firstBind? context id later)).elim
            (.error (.bootstrap ("class '" ++ name ++ "' used before its bootstrap completed"))) .ok) ∧
    ∀ {context : Nat} {realm : Realm}, world.contexts[context]? = some (.realm realm) →
      (∀ id, realm.registry.IsRegistered id → realm.registry.classOf id = .ok realm.builtins.root) ∧
        ∀ target link, ∃ cause, (bind context target link).perform world = (.error cause, world) := by
  intro world
  have reachable : world.Reachable := ⟨actions, rfl⟩
  refine ⟨world.bindsOnce, ?_, ?_, ?_⟩
  · intro context id record recorded further
    refine ⟨recordAt?_run recorded further, fun bound => ?_⟩
    simp only [ClassRecord.summary] at bound ⊢
    rw [Option.or_of_isSome bound]
    exact bound
  · intro context registry id present registered
    obtain ⟨record, recorded⟩ := Registry.isRegistered_iff.mp registered
    obtain ⟨earlier, registration, later, given, split, registers, link⟩ :=
      exists_registers present recorded
    refine ⟨earlier, registration, later, _, given, split, registers, ?_⟩
    rw [Registry.classOf_of_recordOf recorded, link]
  · intro context realm present
    have formed := reachable.realmsWellFormed present
    refine ⟨fun id registered => ?_, fun target link => ?_⟩
    · obtain ⟨record, recorded⟩ := Registry.isRegistered_iff.mp registered
      rw [Registry.classOf_of_recordOf recorded, formed.link_eq recorded, formed.builtins]
      rfl
    · cases binds : realm.registry.bind target link with
      | error cause => exact ⟨cause, perform_bind_of_error present binds⟩
      | ok bound => exact absurd binds (formed.bind_ne_ok target link bound)

/-! ## A class that is bound twice -/

namespace Rebound

/-- A class is registered with a pending link, after a bind that did not find it. -/
def actions : List Action :=
  [.openContext .bare, .bind 0 ⟨0⟩ ⟨3⟩, .registerPending 0 "Root" .metaclass]

def further : List Action :=
  [.bind 0 ⟨0⟩ ⟨0⟩, .bind 0 ⟨0⟩ ⟨7⟩]

def record : ClassRecord :=
  ⟨"Root", .metaclass, none, none, ⟨0⟩, ⟨1⟩⟩

end Rebound

open Rebound in
/-- Of three binds the first finds no class, the second is accepted, and the third is refused. -/
theorem links_bound_once_rebound :
    (empty.run actions).recordAt? 0 ⟨0⟩ = some record ∧
      (∃ later, (bind 0 ⟨0⟩ ⟨0⟩).perform (empty.run actions) = (.ok (), later)) ∧
      ((empty.run actions).run further).recordAt? 0 ⟨0⟩ = some { record with link := some ⟨0⟩ } ∧
      (bind 0 ⟨0⟩ ⟨7⟩).perform ((empty.run actions).run further) =
        (.error (.bootstrap "class link of 'Root' is already bound"),
          (empty.run actions).run further) := by
  have recorded : (empty.run actions).recordAt? 0 ⟨0⟩ = some record := rfl
  obtain ⟨binds, stays, _⟩ := links_bound_once actions
  obtain ⟨accepted, _⟩ := binds.pending recorded rfl ⟨0⟩
  have bound : ((empty.run actions).run further).recordAt? 0 ⟨0⟩ =
      some { record with link := some ⟨0⟩ } := (stays recorded further).1
  obtain ⟨binds', _⟩ := links_bound_once (actions ++ further)
  rw [run_append] at binds'
  exact ⟨recorded, ⟨_, accepted⟩, bound, binds'.linked bound (Option.some_ne_none _) ⟨7⟩⟩

end World

end ObjectModel
