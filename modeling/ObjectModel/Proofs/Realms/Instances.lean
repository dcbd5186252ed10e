import ObjectModel.Proofs.Realms.Origin
import ObjectModel.Proofs.Runs.History

/-! # Instances

A realm makes an instance from the template of its class: the instance gets a copy of the public
entries that the template has at that moment, in a table of its own. Texts and integers are made in
the same way, because the classes of both are there from the start and are never taken out. The table
of an instance is reached through its own handle only. So what becomes of an instance is what is
written through that handle, and what is written there is seen nowhere else.
-/

namespace ObjectModel

open Effect

/-! ## Values that differ -/

/-- A class is no object, and objects of different identity are different. -/
theorem Value.same_eq_false {left right : Value} (differ : left.identity? ≠ right.identity?) :
    left.same right = false := by
  cases left <;> cases right <;> simp_all [same, identity?]

/-- The value is a class, or an object that was made so far. -/
def World.Has (world : World) (value : Value) : Prop :=
  value ∈ world.store.objects ∨ ∃ id, value = .ofClass id

/-- No value that is there has the identity of the next object. -/
theorem World.ObjectsIdentified.identity?_ne {world : World} (identified : world.ObjectsIdentified)
    {value : Value} (has : world.Has value) : value.identity? ≠ some world.store.objects.size := by
  rcases has with made | ⟨id, rfl⟩
  · obtain ⟨position, present⟩ := Array.mem_iff_getElem?.mp made
    have bound : position < world.store.objects.size := (Array.getElem?_eq_some_iff.mp present).1
    rw [identified position value present]
    intro same
    exact Nat.ne_of_lt bound (Option.some.inj same)
  · simp [Value.identity?]

/-! ## Asking for an instance -/

/-- What a realm can be asked to make an instance of. -/
inductive Seeding where
  | plain (ofClass : ClassId)
  | text (content : String)
  | integer (content : Int64)

namespace Seeding

/-- The class of the instance in a realm. -/
def classIn (realm : Realm) : Seeding → ClassId
  | plain ofClass => ofClass
  | text _ => realm.builtins.text
  | integer _ => realm.builtins.integer

def payload : Seeding → Option Primitive
  | plain _ => none
  | text content => some (.text content)
  | integer content => some (.integer content)

/-- What the realm does. -/
def effect (realm : Realm) : Seeding → Effect Store Value
  | plain ofClass => realm.instantiate ofClass
  | text content => realm.newText content
  | integer content => realm.newInteger content

/-- The public operation of the realm in a context. -/
def action (context : Nat) : Seeding → Action
  | plain ofClass => .instantiate context ofClass
  | text content => .newText context content
  | integer content => .newInteger context content

variable {realm : Realm} {seeding : Seeding} {template : TableRef}

/-- Where the class has a template all three do the same: they copy its public entries. -/
theorem effect_eq (found : realm.registry.templateOf (seeding.classIn realm) = .ok template) :
    seeding.effect realm = (do
      let table ← Store.snapshot template
      Store.addPlain (seeding.classIn realm) table seeding.payload) := by
  cases seeding with
  | plain ofClass =>
    have found : realm.registry.templateOf ofClass = .ok template := found
    rw [effect, Realm.instantiate, found]
    rfl
  | text content =>
    have found : realm.registry.templateOf realm.builtins.text = .ok template := found
    rw [effect, Realm.newText, Realm.newPrimitive, found]
    rfl
  | integer content =>
    have found : realm.registry.templateOf realm.builtins.integer = .ok template := found
    rw [effect, Realm.newInteger, Realm.newPrimitive, found]
    rfl

theorem act_eq {world : World} {context : Nat}
    (present : world.contexts[context]? = some (.realm realm)) :
    world.act (seeding.action context) =
      { world with store := ((seeding.effect realm).perform world.store).2 } := by
  have found := World.perform_realmAt present
  cases seeding <;>
    simp [action, World.act, Action.effect, effect, perform_bind, found]

/-- The classes of texts and of integers are registered in every realm, and any other class that is
asked for must be. -/
theorem exists_template (formed : realm.WellFormed)
    (asked : ∀ ofClass, seeding = .plain ofClass → realm.registry.IsRegistered ofClass) :
    ∃ template, realm.registry.templateOf (seeding.classIn realm) = .ok template := by
  have registered : ∃ record, realm.registry.recordOf (seeding.classIn realm) = .ok record := by
    cases seeding with
    | plain ofClass => exact Registry.isRegistered_iff.mp (asked ofClass rfl)
    | text content =>
      obtain ⟨record, found, _⟩ := formed.shape.builtin 2 "String" rfl
      exact ⟨record, by rw [classIn, formed.builtins]; exact found⟩
    | integer content =>
      obtain ⟨record, found, _⟩ := formed.shape.builtin 3 "Integer" rfl
      exact ⟨record, by rw [classIn, formed.builtins]; exact found⟩
  obtain ⟨record, found⟩ := registered
  exact ⟨record.template, by simp [Registry.templateOf, found]⟩

end Seeding

/-- The store after an instance was made from a template. -/
def Store.withInstance (store : Store) (template : TableRef) (object : PlainInstance) : Store where
  tables := store.tables.push (store.table template).inheritable
  objects := store.objects.push (.plain object)
  journal := store.journal.push
    (.snapshot (store.table template).inheritable.size (store.table template).size)
  writes := store.writes

/-- The instance that is made next in a store. -/
def Store.nextInstance (store : Store) (ofClass : ClassId) (payload : Option Primitive) :
    PlainInstance :=
  ⟨store.objects.size, ofClass, ⟨store.tables.size⟩, payload⟩

theorem Seeding.perform_effect {realm : Realm} {seeding : Seeding} {template : TableRef}
    (found : realm.registry.templateOf (seeding.classIn realm) = .ok template) (store : Store) :
    (seeding.effect realm).perform store =
      (.ok (.plain (store.nextInstance (seeding.classIn realm) seeding.payload)),
        store.withInstance template (store.nextInstance (seeding.classIn realm) seeding.payload)) := by
  rw [effect_eq found]
  simp [perform_bind, Store.addPlain, Store.withInstance, Store.nextInstance]

/-! ## Writes through the handle of an instance -/

/-- The change that an operation makes through a handle that is held. -/
def Action.writeTo? (ref : TableRef) : Action → Option TableChange
  | write target change => if target = ref then some change else none
  | _ => none

namespace World

variable {world : World} {identity : Nat} {ref : TableRef}

/-- The table of an instance is changed through its handle only: what goes through a class goes to
the members of that class. -/
theorem TablesOwned.changesAt_plain (owned : world.TablesOwned)
    (has : world.tableOf? (.plain identity) = some ref) (action : Action) :
    action.changesAt world ref = (action.writeTo? ref).toList := by
  have members {context : Nat} (acts : action.ActsIn context)
      (noWrite : ∀ change, action ≠ .write ref change) : action.changesAt world ref = [] := by
    rw [Action.changesAt]
    cases named : action.change? world with
    | none => rfl
    | some made =>
      obtain ⟨target, change⟩ := made
      refine if_neg ?_
      rintro rfl
      rcases change?_cases named with same | through
      · exact noWrite change same
      · obtain ⟨id, hasMembers⟩ := through context acts
        cases owned.unique has hasMembers
  cases action with
  | write target change =>
    by_cases same : target = ref <;>
      simp [Action.writeTo?, Action.changesAt, Action.change?, TableRef.concerned, same]
  | setProperty context | defineMethod context =>
    refine @members context rfl ?_
    intro change same
    cases same
  | _ => rfl

theorem Reachable.changesAt_plain_run (reachable : world.Reachable)
    (has : world.tableOf? (.plain identity) = some ref) (actions : List Action) :
    world.changesAt ref actions = actions.filterMap (Action.writeTo? ref) := by
  induction actions generalizing world with
  | nil => rfl
  | cons action rest ih =>
    have grows := world.grows_act action
    rw [changesAt, reachable.tablesOwned.changesAt_plain has, ih (reachable.act action) (grows.tableOf? has),
      List.filterMap_cons]
    cases action.writeTo? ref <;> rfl

/-! ## Instances of a realm -/

/-- The realm in a context makes an instance as it is asked, from the template behind a handle. -/
structure Seeds (world : World) (context : Nat) (realm : Realm) (seeding : Seeding)
    (template : TableRef) (object : PlainInstance) : Prop where
  /-- There is a template to copy, so no instance is ever made without one. -/
  found : realm.registry.templateOf (seeding.classIn realm) = .ok template
  owned : world.tableOf? (.template context (seeding.classIn realm)) = some template
  answers : (seeding.effect realm).perform world.store =
    (.ok (.plain object), (world.act (seeding.action context)).store)
  ofClass : object.classId = seeding.classIn realm
  bare : ∀ ofClass, seeding = .plain ofClass → (Value.plain object).payload? = none
  text : ∀ content, seeding = .text content → (Value.plain object).text? = some content
  integer : ∀ content, seeding = .integer content → (Value.plain object).integer? = some content
  new : ∀ value, world.Has value →
    (Value.plain object).same value = false ∧ value.same (.plain object) = false
  /-- From then on it is among the values that are there. -/
  kept : (world.act (seeding.action context)).store.objects =
    world.store.objects.push (.plain object)
  entries : ((world.act (seeding.action context)).store.table object.table).entries.toList =
    EntryList.publicPart (world.store.table template).entries.toList

variable {context : Nat} {realm : Realm} {seeding : Seeding} {template : TableRef}

theorem Reachable.seeds (reachable : world.Reachable)
    (present : world.contexts[context]? = some (.realm realm))
    (found : realm.registry.templateOf (seeding.classIn realm) = .ok template) :
    world.Seeds context realm seeding template
      (world.store.nextInstance (seeding.classIn realm) seeding.payload) := by
  have performed := Seeding.perform_effect found world.store
  have store : (world.act (seeding.action context)).store = world.store.withInstance template
      (world.store.nextInstance (seeding.classIn realm) seeding.payload) := by
    rw [Seeding.act_eq present, performed]
  refine { found, owned := ?_, answers := ?_, ofClass := rfl, bare := ?_, text := ?_, integer := ?_,
           new := ?_, kept := ?_, entries := ?_ }
  · exact (tableOf?_template_iff present).mpr found
  · rw [performed, store]
  · rintro ofClass rfl
    rfl
  · rintro content rfl
    rfl
  · rintro content rfl
    rfl
  · intro value has
    have differ := reachable.objectsIdentified.identity?_ne has
    exact ⟨Value.same_eq_false differ.symm, Value.same_eq_false differ⟩
  · rw [store]
    rfl
  · have added : (world.store.withInstance template
        (world.store.nextInstance (seeding.classIn realm) seeding.payload)).table
          ⟨world.store.tables.size⟩ = (world.store.table template).inheritable :=
      Store.table_addTable _ world.store
    rw [store]
    exact (congrArg (·.entries.toList) added).trans
      (PropertyTable.toList_inheritable (reachable.coherent.table template))

/-- In every reachable world a realm makes an instance of any class that it has, of any text and of any
integer. The instance differs from every value that was there, and it starts with the public entries
of the template of its class, in their order. At every later point of every run it has these entries
with the changes written through its own handle, and what is written there leaves the table of every
class, every template and every other instance as it is. -/
theorem instances_seeded (actions : List Action) {context : Nat} {realm : Realm}
    (present : (empty.run actions).contexts[context]? = some (.realm realm)) (seeding : Seeding)
    (asked : ∀ ofClass, seeding = .plain ofClass → realm.registry.IsRegistered ofClass) :
    let world := empty.run actions
    ∃ template object, world.Seeds context realm seeding template object ∧
      ∀ further : List Action,
        let last := (world.act (seeding.action context)).run further
        (last.store.table object.table).entries.toList =
          (further.filterMap (Action.writeTo? object.table)).foldl EntryList.apply
            (EntryList.publicPart (world.store.table template).entries.toList) ∧
        ∀ (change : TableChange) (owner : Owner) (ref : TableRef),
          owner ≠ .plain object.identity → last.tableOf? owner = some ref →
            (last.act (.write object.table change)).store.table ref = last.store.table ref := by
  intro world
  have reachable : world.Reachable := ⟨actions, rfl⟩
  have formed := reachable.realmsWellFormed present
  obtain ⟨template, found⟩ := Seeding.exists_template formed asked
  have reachable' : (world.act (seeding.action context)).Reachable := reachable.act _
  obtain ⟨object, seeds, owns⟩ : ∃ object, world.Seeds context realm seeding template object ∧
      (world.act (seeding.action context)).tableOf? (.plain object.identity) = some object.table := by
    have seeds := reachable.seeds present found
    refine ⟨_, seeds, tableOf?_plain_iff.mpr ⟨_, ?_, rfl⟩⟩
    rw [seeds.kept]
    exact Array.getElem?_push_size
  refine ⟨template, object, seeds, fun further => ⟨?_, ?_⟩⟩
  · rw [reachable'.entries_run owns, reachable'.changesAt_plain_run owns, seeds.entries]
  · intro change owner ref differ has
    have ownsStill := ((world.act (seeding.action context)).grows_run further).tableOf? owns
    refine Store.table_write_of_ne ?_ .handle change _
    rintro rfl
    exact differ ((reachable'.run further).tablesOwned.unique has ownsStill)

end World

/-! ## A template that changes later -/

namespace Seeded

/-- A class whose instances start with one member, and with none of another tier. -/
def actions : List Action :=
  [.openContext (.realm .standard), .createClass 0 "Point",
    .write ⟨11⟩ (.set publicTier "x" (.ofClass ⟨1⟩)), .write ⟨11⟩ (.set "hidden" "y" (.ofClass ⟨2⟩))]

def world : World :=
  World.empty.run actions

def realm : Realm :=
  let start := Realm.started .standard 0
  { start with registry := start.registry.push ⟨"Point", .user, some ⟨0⟩, some ⟨0⟩, ⟨10⟩, ⟨11⟩⟩ }

def point : PlainInstance :=
  ⟨1, ⟨5⟩, ⟨12⟩, none⟩

/-- The template loses its member, and what is set on the next instance is not set on this one. -/
def further : List Action :=
  [.write ⟨11⟩ (.remove "x"), .instantiate 0 ⟨5⟩, .write ⟨13⟩ (.set publicTier "x" (.ofClass ⟨3⟩)),
    .write ⟨12⟩ (.set "hidden" "z" (.ofClass ⟨4⟩))]

end Seeded

open Seeded in
/-- The instance keeps the member that the template had, and gets the one that is set on it. -/
theorem World.instances_seeded_point :
    realm.registry.IsRegistered ⟨5⟩ ∧
      ((realm.instantiate ⟨5⟩).perform world.store).1 = .ok (.plain point) ∧
      (((world.act (.instantiate 0 ⟨5⟩)).run further).store.table point.table).entries.toList =
        [⟨"x", publicTier, .ofClass ⟨1⟩⟩, ⟨"z", "hidden", .ofClass ⟨4⟩⟩] := by
  have present : world.contexts[0]? = some (.realm realm) := rfl
  have registered : realm.registry.IsRegistered ⟨5⟩ := show 5 < 6 by decide
  obtain ⟨template, object, seeds, always⟩ := instances_seeded actions present (.plain ⟨5⟩)
    (by rintro _ ⟨⟩; exact registered)
  have found : realm.registry.templateOf ⟨5⟩ = .ok ⟨11⟩ := rfl
  have answer := Realm.perform_instantiate found world.store
  obtain rfl : ⟨11⟩ = template := Except.ok.inj (found.symm.trans seeds.found)
  obtain rfl : point = object := by
    have same := answer.symm.trans (congrArg Prod.fst seeds.answers)
    exact Value.plain.inj (Except.ok.inj same)
  have start : ((World.empty.run actions).store.table ⟨11⟩).entries.toList =
      [⟨"x", publicTier, .ofClass ⟨1⟩⟩, ⟨"y", "hidden", .ofClass ⟨2⟩⟩] := by
    have written : (World.empty.run actions).store.table ⟨11⟩ =
        (PropertyTable.empty.set publicTier "x" (.ofClass ⟨1⟩)).set "hidden" "y" (.ofClass ⟨2⟩) := rfl
    have first := PropertyTable.coherent_set PropertyTable.coherent_empty publicTier "x" (.ofClass ⟨1⟩)
    rw [written, PropertyTable.toList_set first, PropertyTable.toList_set PropertyTable.coherent_empty]
    simp [PropertyTable.empty, EntryList.set]
  have own : further.filterMap (Action.writeTo? point.table) =
      [.set "hidden" "z" (.ofClass ⟨4⟩)] := rfl
  have contents := (always further).1
  rw [start, own] at contents
  refine ⟨registered, answer, contents.trans ?_⟩
  simp [EntryList.publicPart, EntryList.apply, EntryList.set, publicTier]

end ObjectModel
