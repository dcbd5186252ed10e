import ObjectModel.Proofs.Runs.Likeness
import ObjectModel.Proofs.Runs.Scripts

/-! # Alike worlds keep alike

Each effect of a realm or of a world, performed in two worlds that are alike, ends in the same way in
both and leaves them alike. A realm is not read through its settings but for two things, whether empty
names are allowed and how far walks go, and a likeness leaves both as they are.
-/

namespace ObjectModel

open Effect

variable {like : Likeness} {start twinStart : Store} {context : Nat}

/-! ## Effects of realms -/

namespace Realm

section Respects

variable (realm : Realm)

theorem newMethod_respects (convention : Convention) (callable : Callable) :
    (realm.newMethod convention callable).Respects (like.Stores start twinStart) :=
  (Respects.ofOutcome _).bind_same fun table => Store.addMethod_respects convention _ table callable

theorem setProperty_respects (target : ClassId) (tier name : String) (value : Value) :
    (realm.setProperty target tier name value).Respects (like.Stores start twinStart) :=
  (Respects.ofOutcome _).bind_same fun table => Store.write_respects table _ _

theorem getProperty_respects (target : ClassId) (name : String) :
    (realm.getProperty target name).Respects (like.Stores start twinStart) := by
  refine (Respects.ofOutcome _).bind_same fun table => Agrees.get.bind fun store other stores => ?_
  rw [like.get_eq (stores.table table)]
  exact Respects.ofOutcome _

theorem defineMethod_respects (convention : Convention) (target : ClassId) (name : String)
    (callable : Callable) :
    (realm.defineMethod convention target name callable).Respects (like.Stores start twinStart) :=
  (realm.newMethod_respects convention callable).bind_same fun method =>
    realm.setProperty_respects target publicTier name method

theorem snapshot_addPlain_respects (template : TableRef) (ofClass : ClassId)
    (payload : Option Primitive) :
    (Store.snapshot template >>= fun table => Store.addPlain ofClass table payload).Respects
      (like.Stores start twinStart) :=
  (Store.snapshot_agrees template).bind fun _ _ copies => Store.addPlain_agrees ofClass copies payload

theorem instantiate_respects (ofClass : ClassId) :
    (realm.instantiate ofClass).Respects (like.Stores start twinStart) :=
  (Respects.ofOutcome _).bind_same fun template => snapshot_addPlain_respects template ofClass none

theorem newPrimitive_respects (ofClass : ClassId) (payload : Primitive) :
    (realm.newPrimitive ofClass payload).Respects (like.Stores start twinStart) := by
  rw [newPrimitive]
  cases realm.registry.templateOf ofClass with
  | error cause =>
    simp only [pure_bind]
    exact Store.addPlain_agrees ofClass like.tables_empty (some payload)
  | ok template => exact snapshot_addPlain_respects template ofClass (some payload)

end Respects

theorem registerBuiltin_respects (registry : Registry) (root : ClassId) (name : String) :
    (registerBuiltin registry root name).Respects (like.Stores start twinStart) :=
  (ClassRecord.linked_agrees name .builtin root none like.tables_empty like.tables_empty).bind_same
    fun record => registry.register_respects record

theorem boot_respects (settings : Settings) :
    (boot settings).Respects (like.Stores start twinStart) := by
  refine (ClassRecord.pending_respects _ _).bind_same fun record => ?_
  refine (Registry.register_respects _ record).bind_same fun root => ?_
  refine (Respects.ofOutcome _).bind_same fun registry => (Store.record_respects _).bind_same fun _ => ?_
  refine (registerBuiltin_respects registry _ _).bind_same fun method => ?_
  refine (registerBuiltin_respects method.2 _ _).bind_same fun unboundMethod => ?_
  refine (registerBuiltin_respects unboundMethod.2 _ _).bind_same fun text => ?_
  refine (registerBuiltin_respects text.2 _ _).bind_same fun integer => ?_
  refine (defineMethod_respects _ _ _ _ _).bind_same fun _ => ?_
  exact (Store.record_respects _).bind_same fun _ => .pure rfl

/-- The bootstrap builds the same realm in alike stores, and a well-formed one. -/
theorem boot_agrees (settings : Settings) :
    (boot settings).Agrees (like.Stores start twinStart)
      (fun realm twin => realm = twin ∧ realm.WellFormed) (boot settings) := by
  intro store other stores
  obtain ⟨matched, after⟩ := boot_respects settings store other stores
  rw [perform_boot, perform_boot] at *
  cases matched with
  | ok same => exact ⟨.ok ⟨same, wellFormed_started settings _⟩, after⟩

end Realm

namespace Likeness.Realms

variable {realm twin : Realm} (alike : like.Realms context realm twin)
include alike

/-- What does not read the settings is the same in both realms. -/
theorem eq_of_not_reads {α : Type} {effect : Realm → Effect Store α}
    (notReads : ∀ realm settings, effect { realm with settings } = effect realm) :
    effect twin = effect realm := by
  cases alike
  exact notReads realm _

theorem ancestors_eq (first : ClassId) : realm.ancestors first = twin.ancestors first := by
  cases alike with
  | intro formed settings => exact like.ancestors_eq settings formed first

theorem isSubclassOf_eq (sub sup : ClassId) : realm.isSubclassOf sub sup = twin.isSubclassOf sub sup :=
  congrArg (fun chain => return (← chain).contains sup) (alike.ancestors_eq sub)

theorem lookup (value : Value) (name : String) :
    (realm.lookup value name).Agrees (like.Stores start twinStart) Eq (twin.lookup value name) := by
  cases alike with
  | intro formed settings =>
    exact realm.registry.lookup_agrees value name (like.ancestors_eq settings formed)

theorem dispatch (target : Value) (name : String) (arguments : List Value) :
    (realm.dispatch target name arguments).Agrees (like.Stores start twinStart) Eq
      (twin.dispatch target name arguments) := by
  refine (alike.lookup target name).bind_same fun member => ?_
  cases Invocation.ofValue? member target arguments with
  | none => exact .throw _
  | some invocation => exact .pure rfl

/-- Both realms give the new class the same identifier, and they stay alike. -/
theorem createClass (name : String) :
    (realm.createClass name).Agrees (like.Stores start twinStart)
      (fun made other => made.1 = other.1 ∧ like.Realms context made.2 other.2)
      (twin.createClass name) := by
  intro store other stores
  cases alike with
  | @intro settings formed alike =>
    obtain ⟨root, found, linked⟩ := formed.exists_root
    have created := Realm.perform_createClass formed.ready found linked name store
    have twinCreated := @Realm.perform_createClass { realm with settings } _ _
      formed.ready found linked name other
    rw [created, twinCreated, like.allowsEmptyNames_eq alike]
    split
    next => exact ⟨.error _, stores⟩
    next =>
      have sameRecord : other.recordFor name .user = store.recordFor name .user := by
        funext link super
        rw [Store.recordFor, Store.recordFor, stores.tables.size_eq]
      simp only [Realm.recordFor, sameRecord]
      refine ⟨.ok ⟨rfl, .intro (formed.push store name) alike⟩, ?_⟩
      have source := stores.table root.members
      have copies := like.tables_inheritable source
      simp only [Realm.storeAfterCreating, ← like.size_eq source, ← like.size_eq copies]
      exact stores.withTables copies like.tables_empty _

end Likeness.Realms

/-! ## Effects on worlds -/

namespace World

theorem onStore_agrees {α β : Type} {answers : α → β → Prop} {effect : Effect Store α}
    {twin : Effect Store β} (agrees : effect.Agrees (like.Stores start twinStart) answers twin) :
    (onStore effect).Agrees (like.Worlds start twinStart) answers (onStore twin) := by
  intro world other worlds
  obtain ⟨matched, after⟩ := agrees _ _ worlds.store
  exact ⟨matched, { worlds with store := after }⟩

theorem contextAt_agrees (context : Nat) :
    (contextAt context).Agrees (like.Worlds start twinStart) (like.Contexts context)
      (contextAt context) := by
  refine Agrees.get.bind fun world other worlds => ?_
  have there := worlds.contexts context
  generalize world.contexts[context]? = found at there
  generalize other.contexts[context]? = twin at there
  cases there with
  | some alike => exact .pure alike
  | none => exact .throw _

theorem registryAt_respects (context : Nat) :
    (registryAt context).Respects (like.Worlds start twinStart) := by
  refine (contextAt_agrees context).bind fun found twin alike => .pure ?_
  cases alike with
  | bare registry => rfl
  | realm alike =>
    cases alike
    rfl

theorem realmAt_agrees (context : Nat) :
    (realmAt context).Agrees (like.Worlds start twinStart) (like.Realms context) (realmAt context) := by
  refine (contextAt_agrees context).bind fun found twin alike => ?_
  cases alike with
  | bare registry => exact .throw _
  | realm alike => exact .pure alike

/-- What does not read the settings of the realm respects likeness if it does so for each realm. -/
theorem onRealm_respects {α : Type} {effect : Realm → Effect Store α}
    (notReads : ∀ realm settings, effect { realm with settings } = effect realm)
    (respects : ∀ realm, (effect realm).Respects (like.Stores start twinStart)) :
    (do onStore (effect (← realmAt context))).Respects (like.Worlds start twinStart) := by
  refine (realmAt_agrees context).bind fun realm twin alike => onStore_agrees ?_
  rw [alike.eq_of_not_reads notReads]
  exact respects realm

theorem tableBehind_agrees (ref : TableRef) :
    (tableBehind ref).Agrees (like.Worlds start twinStart) like.tables (tableBehind ref) :=
  Agrees.get.bind fun _ _ worlds => .pure (worlds.store.table ref)

theorem contentsBehind_agrees (ref : TableRef) :
    (contentsBehind ref).Agrees (like.Worlds start twinStart) like.Contents (contentsBehind ref) :=
  Agrees.get.bind fun _ _ worlds => .pure (worlds.store.contents ref)

theorem readSlot_respects (name : String) : (readSlot name).Respects (like.Worlds start twinStart) := by
  refine Agrees.get.bind fun world other worlds => ?_
  rw [worlds.slots]
  cases other.slots[name]? with
  | some value => exact .pure rfl
  | none => exact .throw _

theorem fillSlot_respects (name : String) (value : Value) :
    (fillSlot name value).Respects (like.Worlds start twinStart) :=
  fun _ _ worlds => ⟨.ok rfl, { worlds with slots := congrArg (·.insert name value) worlds.slots }⟩

theorem holdTable_respects (name : String) (ref : TableRef) :
    (holdTable name ref).Respects (like.Worlds start twinStart) :=
  fun _ _ worlds =>
    ⟨.ok rfl, { worlds with heldTables := congrArg (·.insert name ref) worlds.heldTables }⟩

theorem display_agrees {shown twin : Display Value TableRef} (alike : like.Displays shown twin) :
    (display shown).Agrees (like.Worlds start twinStart) Eq (display twin) := by
  intro world other worlds
  refine ⟨.ok rfl, { worlds with displays := ?_ }⟩
  simp only [display, perform_modify, Array.toList_push]
  exact List.rel_append worlds.displays (.cons alike .nil)

theorem replaceContext_agrees {replacement twin : Context}
    (alike : like.Contexts context replacement twin) :
    (replaceContext context replacement).Agrees (like.Worlds start twinStart) Eq
      (replaceContext context twin) :=
  fun _ _ worlds => ⟨.ok rfl, { worlds with
    contexts := worlds.contexts.modify context fun _ => alike
    shared := by simpa [perform_replaceContext] using worlds.shared }⟩

theorem createClass_respects (name : String) :
    (createClass context name).Respects (like.Worlds start twinStart) := by
  refine (realmAt_agrees context).bind fun realm twin alike => ?_
  refine (onStore_agrees (alike.createClass name)).bind fun made other same => ?_
  obtain ⟨id, created⟩ := made
  obtain ⟨id', created'⟩ := other
  obtain ⟨rfl, alike⟩ := same
  exact (replaceContext_agrees (.realm alike)).bind_same fun _ => .pure rfl

theorem construct_respects (arguments : List Value) :
    (construct context arguments).Respects (like.Worlds start twinStart) :=
  (Respects.ofOutcome _).bind_same fun name => (createClass_respects name).bind_same fun _ => .pure rfl

theorem register_respects (record : ClassRecord) :
    (register context record).Respects (like.Worlds start twinStart) := by
  refine (contextAt_agrees context).bind fun found twin alike => ?_
  cases alike with
  | bare registry =>
    refine (onStore_agrees (registry.register_respects record)).bind_same fun made => ?_
    exact (replaceContext_agrees (.bare made.2)).bind_same fun _ => .pure rfl
  | realm alike => exact .throw _

/-- In a realm no link is left to be bound, so the registry of a realm stays what it is. -/
theorem bind_respects (target link : ClassId) :
    (bind context target link).Respects (like.Worlds start twinStart) := by
  refine (contextAt_agrees context).bind fun found twin alike => ?_
  cases alike with
  | bare registry =>
    exact (Respects.ofOutcome _).bind_same fun bound => replaceContext_agrees (.bare bound)
  | @realm realm twin alike =>
    cases alike with
    | @intro settings formed settingsAlike =>
      simp only [Context.registry]
      cases bound : realm.registry.bind target link with
      | error cause => exact Agrees.throw cause
      | ok registry => exact absurd bound (formed.bind_ne_ok target link registry)

/-- A context that is opened last is opened with the same settings in both worlds. -/
theorem openContext_respects (plan : ContextPlan) :
    (openContext plan).Respects (like.Worlds start twinStart) := by
  have adds {added : Context} (alike : ∀ {context}, like.shared ≤ context → like.Contexts context added added) :
      (addContext added).Respects (like.Worlds start twinStart) :=
    fun _ _ worlds => ⟨.ok rfl, { worlds with
      contexts := worlds.contexts.push (alike worlds.shared)
      shared := by
        have late := worlds.shared
        simp only [perform_addContext, Array.size_push]
        omega }⟩
  cases plan with
  | bare => exact (adds fun _ => .bare _).bind_same fun _ => .pure rfl
  | realm settings =>
    refine (onStore_agrees (Realm.boot_agrees settings)).bind fun realm twin same => ?_
    obtain ⟨rfl, formed⟩ := same
    have opened {context : Nat} (late : like.shared ≤ context) :
        like.Contexts context (.realm realm) (.realm realm) :=
      .realm (.intro formed (like.settings_shared late realm.settings))
    exact (adds opened).bind_same fun _ => .pure rfl

end World

end ObjectModel
