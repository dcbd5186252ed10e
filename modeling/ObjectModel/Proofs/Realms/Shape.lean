import ObjectModel.Proofs.Runs.Growth

/-! # The shape of a realm

A realm starts with the root and four builtin classes, and every class that is added later is a user
class under the root. All of them are linked to the root from the start, the root to itself, so no
link of a realm can ever be bound again. Whatever is done to a world, each of its realms keeps this
shape, and the record of each class in it stays as it is.
-/

namespace ObjectModel

namespace Realm

/-- The bootstrap has finished, and the classes are those of the start and then user classes under
the root. -/
structure WellFormed (realm : Realm) : Prop where
  ready : realm.bootstrapped = true
  builtins : realm.builtins = ⟨⟨0⟩, ⟨1⟩, ⟨2⟩, ⟨3⟩, ⟨4⟩⟩
  classes : ∃ first created,
    realm.registry.classes.toList = startRecords realm.settings first ++ created ∧
    ∀ record ∈ created, record.kind = .user ∧ record.link = some ⟨0⟩ ∧ record.super = some ⟨0⟩

theorem wellFormed_started (settings : Settings) (first : Nat) :
    (started settings first).WellFormed where
  ready := rfl
  builtins := rfl
  classes := by
    refine ⟨first, [], ?_, by simp⟩
    rw [started, Registry.classes_foldl_push]
    rfl

namespace WellFormed

variable {realm : Realm}

theorem push (formed : realm.WellFormed) (store : Store) (name : String) :
    WellFormed { realm with registry := realm.registry.push (realm.recordFor store name) } where
  ready := formed.ready
  builtins := formed.builtins
  classes := by
    obtain ⟨first, created, classes, users⟩ := formed.classes
    refine ⟨first, created ++ [realm.recordFor store name], by simp [Registry.push, classes], ?_⟩
    intro record member
    rcases List.mem_append.mp member with old | new
    · exact users record old
    · rw [List.mem_singleton.mp new, recordFor, formed.builtins]
      exact ⟨rfl, rfl, rfl⟩

/-- Every class of the realm is linked to the root. -/
theorem link_eq (formed : realm.WellFormed) {id : ClassId} {record : ClassRecord}
    (found : realm.registry.recordOf id = .ok record) : record.link = some ⟨0⟩ := by
  obtain ⟨first, created, classes, users⟩ := formed.classes
  have member : record ∈ realm.registry.classes.toList :=
    (Array.mem_of_getElem? (Registry.recordOf_eq_ok_iff.mp found)).val
  rw [classes, List.mem_append] at member
  rcases member with start | new
  · obtain ⟨position, name, kind, rfl, _⟩ := exists_startRecord_of_mem start
    rfl
  · exact (users record new).2.1

/-- No link of the realm is left to be bound. -/
theorem bind_ne_ok (formed : realm.WellFormed) (target link : ClassId) (bound : Registry) :
    realm.registry.bind target link ≠ .ok bound := by
  intro success
  obtain ⟨record, found, pending, _⟩ := Registry.bind_eq_ok_iff.mp success
  rw [formed.link_eq found] at pending
  cases pending

end WellFormed

end Realm

/-! ## Every realm of a world -/

/-- A property that every realm has when it is opened, and keeps when a class is created in it or a
link is bound. -/
structure Realm.Lasts (holds : Realm → Prop) : Prop where
  started : ∀ settings first, holds (started settings first)
  push : ∀ {realm : Realm}, holds realm → ∀ (store : Store) {name : String},
    (name = "" → realm.settings.allowsEmptyNames = true) →
      holds { realm with registry := realm.registry.push (realm.recordFor store name) }
  bind : ∀ {realm : Realm}, holds realm → ∀ {target link : ClassId} {registry : Registry},
    realm.registry.bind target link = .ok registry → holds { realm with registry }

theorem Realm.lasts_wellFormed : Lasts WellFormed where
  started := wellFormed_started
  push formed store name _ := formed.push store name
  bind formed target link registry bound := absurd bound (formed.bind_ne_ok target link registry)

namespace World

variable {holds : Realm → Prop}

/-- No move does anything else to a realm. -/
theorem Move.realms {world later : World} (move : Move world later) (lasts : Realm.Lasts holds)
    (all : ∀ (context : Nat) (realm : Realm),
      world.contexts[context]? = some (.realm realm) → holds realm)
    (other : Nat) (realm : Realm) (present : later.contexts[other]? = some (.realm realm)) :
    holds realm := by
  cases move with
  | store | keep => exact all other realm present
  | register =>
    rcases getElem?_modify_cases present with ⟨_, new⟩ | old
    · cases new
    · exact all other realm old
  | createClass there _ accepted =>
    rcases getElem?_modify_cases present with ⟨_, new⟩ | old
    · cases new
      exact lasts.push (all _ _ there) _ accepted
    · exact all other realm old
  | @bind _ found _ _ _ there bound =>
    rcases getElem?_modify_cases present with ⟨_, new⟩ | old
    · cases found with
      | bare => cases new
      | realm whole =>
        cases new
        exact lasts.bind (all _ _ there) bound
    · exact all other realm old
  | openBare =>
    rcases getElem?_push_cases present with ⟨_, new⟩ | old
    · cases new
    · exact all other realm old
  | openRealm settings =>
    rcases getElem?_push_cases present with ⟨_, new⟩ | old
    · cases new
      exact lasts.started settings _
    · exact all other realm old

/-- In every reachable world every realm has what lasts. -/
theorem Reachable.realm_of_lasts {world : World} (reachable : world.Reachable) (lasts : Realm.Lasts holds)
    {context : Nat} {realm : Realm} (present : world.contexts[context]? = some (.realm realm)) :
    holds realm := by
  obtain ⟨actions, rfl⟩ := reachable
  refine run_preserves_of_move (fun move all => move.realms lasts all) (fun _ _ _ _ all => all) ?_
    actions context realm present
  intro context realm present
  simp [empty] at present

/-- Every realm of the world is well-formed. -/
def RealmsWellFormed (world : World) : Prop :=
  ∀ {context : Nat} {realm : Realm}, world.contexts[context]? = some (.realm realm) →
    realm.WellFormed

theorem Reachable.realmsWellFormed {world : World} (reachable : world.Reachable) :
    world.RealmsWellFormed :=
  fun present => reachable.realm_of_lasts Realm.lasts_wellFormed present

/-- Opening a realm builds it over the store that is there. -/
theorem act_openRealm (world : World) (settings : Settings) :
    world.act (.openContext (.realm settings)) =
      { world with
        store := Realm.storeAfterBoot settings world.store
        contexts := world.contexts.push (.realm (Realm.started settings world.store.tables.size)) } := by
  simp [act, Action.effect, openContext, Effect.perform_bind, Realm.perform_boot,
    perform_addContext]

/-- Opening a realm puts a new realm behind the contexts that are there. -/
theorem getElem?_openRealm (world : World) (settings : Settings) :
    (world.act (.openContext (.realm settings))).contexts[world.contexts.size]? =
      some (.realm (Realm.started settings world.store.tables.size)) := by
  rw [act_openRealm]
  exact Array.getElem?_push_size

end World

/-! ## What a realm reports of its shape -/

namespace Realm

/-- The names of the builtin classes besides the root, in their order. -/
def builtinNames : List String :=
  ["Method", "UnboundMethod", "String", "Integer"]

/-- What a realm of these settings tells about its classes. -/
structure Shape (settings : Settings) (realm : Realm) : Prop where
  configured : realm.settings = settings
  builtins : realm.builtins = ⟨⟨0⟩, ⟨1⟩, ⟨2⟩, ⟨3⟩, ⟨4⟩⟩
  root : ∃ record, realm.registry.recordOf ⟨0⟩ = .ok record ∧
    record.name = settings.rootName ∧ record.kind = .metaclass ∧ record.super = none
  builtin : ∀ (position : Nat) (name : String), builtinNames[position]? = some name →
    ∃ record, realm.registry.recordOf ⟨position + 1⟩ = .ok record ∧
      record.name = name ∧ record.kind = .builtin ∧ record.super = none
  created : ∀ (id : ClassId) (record : ClassRecord), 5 ≤ id.index →
    realm.registry.recordOf id = .ok record → record.kind = .user ∧ record.super = some ⟨0⟩
  /-- No registered class is refused when its class is asked for. -/
  linked : ∀ id : ClassId, id.index < realm.registry.size →
    realm.registry.requireClassOf id = .ok ⟨0⟩

theorem WellFormed.shape {realm : Realm} (formed : realm.WellFormed) :
    realm.Shape realm.settings := by
  obtain ⟨first, created, classes, users⟩ := formed.classes
  have recordAt (id : ClassId) : realm.registry.classes[id.index]? =
      (startRecords realm.settings first ++ created)[id.index]? := by
    rw [← classes, Array.getElem?_toList]
  refine {
    configured := rfl
    builtins := formed.builtins
    root := ⟨startRecord first 0 realm.settings.rootName .metaclass,
      Registry.recordOf_eq_ok_iff.mpr (recordAt ⟨0⟩), rfl, rfl, rfl⟩
    builtin := ?_
    created := ?_
    linked := ?_ }
  · intro position name named
    have bound : position < 4 := (List.getElem?_eq_some_iff.mp named).1
    refine ⟨startRecord first (position + 1) name .builtin,
      Registry.recordOf_eq_ok_iff.mpr ((recordAt ⟨position + 1⟩).trans ?_), rfl, rfl, rfl⟩
    obtain rfl | rfl | rfl | rfl : position = 0 ∨ position = 1 ∨ position = 2 ∨ position = 3 := by
      omega
    all_goals
      cases named
      rfl
  · intro id record late found
    have found := (recordAt id).symm.trans (Registry.recordOf_eq_ok_iff.mp found)
    have length : (startRecords realm.settings first).length = 5 := rfl
    rw [List.getElem?_append_right (by omega)] at found
    obtain ⟨kind, _, super⟩ := users record (List.mem_of_getElem? found)
    exact ⟨kind, super⟩
  · intro id registered
    obtain ⟨record, found⟩ : ∃ record, realm.registry.recordOf id = .ok record :=
      ⟨_, Registry.recordOf_eq_ok_iff.mpr (Array.getElem?_eq_getElem registered)⟩
    simp [Registry.requireClassOf, Registry.classOf, found, ClassRecord.classOf,
      formed.link_eq found]

/-- The root is registered and linked. -/
theorem WellFormed.exists_root {realm : Realm} (formed : realm.WellFormed) :
    ∃ root, realm.registry.recordOf realm.builtins.root = .ok root ∧ root.link = some ⟨0⟩ := by
  obtain ⟨root, found, _⟩ := formed.shape.root
  rw [formed.builtins]
  exact ⟨root, found, formed.link_eq found⟩

/-- For all settings the bootstrap succeeds over every store. The realm that it opens, among
whatever contexts there are by then, keeps its shape along every run, and while a run goes on classes
are only added to it: the record of a registered class stays as it is. -/
theorem shape_of_boot (settings : Settings) :
    (∀ store, ∃ realm after, (boot settings).perform store = (.ok realm, after)) ∧
    ∀ earlier later further : List Action,
      let context := (World.empty.run earlier).contexts.size
      let world := World.empty.run (earlier ++ .openContext (.realm settings) :: later)
      ∃ realm, world.contexts[context]? = some (.realm realm) ∧ realm.Shape settings ∧
        ∃ last, (world.run further).contexts[context]? = some (.realm last) ∧
          last.Shape settings ∧ last.builtins = realm.builtins ∧
          realm.registry.size ≤ last.registry.size ∧
          ∀ (id : ClassId) (record : ClassRecord), realm.registry.recordOf id = .ok record →
            last.registry.recordOf id = .ok record := by
  refine ⟨fun store => ⟨_, _, perform_boot settings store⟩, fun earlier later further => ?_⟩
  intro context world
  have reachable : world.Reachable := ⟨_, rfl⟩
  have opened := World.getElem?_openRealm (World.empty.run earlier) settings
  have grows : ((World.empty.run earlier).act (.openContext (.realm settings))).GrowsTo world := by
    simp only [world, World.run_append, World.run_cons]
    exact World.grows_run _ later
  obtain ⟨registry, present, _⟩ := grows.exists_realm opened
  have formed := reachable.realmsWellFormed present
  obtain ⟨registry', present', grown⟩ := (world.grows_run further).exists_realm present
  have formed' := (reachable.run further).realmsWellFormed present'
  have keeps (id : ClassId) (record : ClassRecord) (found : registry.recordOf id = .ok record) :
      registry'.recordOf id = .ok record := by
    obtain ⟨after, found', grew⟩ := grown.classes (Registry.recordOf_eq_ok_iff.mp found)
    rw [← grew.eq_of_link (formed.link_eq found)]
    exact Registry.recordOf_eq_ok_iff.mpr found'
  exact ⟨_, present, formed.shape, _, present', formed'.shape, rfl, grown.size_le, keeps⟩

end Realm

end ObjectModel
