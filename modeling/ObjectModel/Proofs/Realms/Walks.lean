import ObjectModel.Proofs.Members.Search
import ObjectModel.Proofs.Realms.Shape

/-! # Walks in a realm

The chains of supers in a realm are short. The classes of the start stand alone, and a class that was
created later has the root behind it and nothing more, so a walk comes to its end whenever the limit
is not below the length of the chain. The limit of a realm is at least one. That is enough for the
classes of the start, but a class that was created later needs two: under a smaller limit its walks
fail, and then neither the class nor its instances see what the class has.
-/

namespace ObjectModel

namespace Realm

/-- A class of this kind with its supers, nearest first. -/
def lineage (realm : Realm) (id : ClassId) : ClassKind → List ClassId
  | .user => [id, realm.builtins.root]
  | .metaclass | .builtin => [id]

theorem lineage_of_user (realm : Realm) (id : ClassId) {kind : ClassKind} (user : kind = .user) :
    realm.lineage id kind = [id, realm.builtins.root] := by
  rw [user, lineage]

theorem lineage_of_ne_user (realm : Realm) (id : ClassId) {kind : ClassKind} (other : kind ≠ .user) :
    realm.lineage id kind = [id] := by
  cases kind with
  | user => exact absurd rfl other
  | metaclass | builtin => rfl

/-- A lineage starts with the class itself. -/
theorem exists_lineage_eq_cons (realm : Realm) (id : ClassId) (kind : ClassKind) :
    ∃ further, realm.lineage id kind = id :: further := by
  cases kind <;> exact ⟨_, rfl⟩

theorem mem_lineage_iff (realm : Realm) (id : ClassId) (kind : ClassKind) (sup : ClassId) :
    sup ∈ realm.lineage id kind ↔ sup = id ∨ kind = .user ∧ sup = realm.builtins.root := by
  cases kind <;> simp [lineage]

/-- The limit of a realm is large enough for every lineage but that of a user class, which needs two. -/
theorem length_lineage_le_walkLimit_iff (realm : Realm) (id : ClassId) (kind : ClassKind) :
    (realm.lineage id kind).length ≤ realm.settings.walkLimit ↔
      (kind = .user → 2 ≤ realm.settings.depthLimit) := by
  rw [Settings.walkLimit]
  cases kind <;> simp only [lineage, List.length_cons, List.length_nil] <;> grind

namespace WellFormed

variable {realm : Realm} {id : ClassId} {record : ClassRecord}

/-- The root is the super of every user class, and no other class has one. -/
theorem super_eq (formed : realm.WellFormed) (found : realm.registry.recordOf id = .ok record) :
    record.super = if record.kind = .user then some realm.builtins.root else none := by
  obtain ⟨first, created, classes, users⟩ := formed.classes
  have member : record ∈ realm.registry.classes.toList :=
    (Array.mem_of_getElem? (Registry.recordOf_eq_ok_iff.mp found)).val
  rw [classes, List.mem_append] at member
  rcases member with start | new
  · obtain ⟨position, name, kind, rfl, notUser⟩ := exists_startRecord_of_mem start
    exact (if_neg notUser).symm
  · obtain ⟨user, _, super⟩ := users record new
    rw [super, if_pos user, formed.builtins]

theorem superOf_eq (formed : realm.WellFormed) (found : realm.registry.recordOf id = .ok record) :
    realm.registry.superOf id =
      .ok (if record.kind = .user then some realm.builtins.root else none) := by
  rw [Registry.superOf, found, ok_bind, pure_eq_ok, formed.super_eq found]

/-- The root itself is no user class and has no super. -/
theorem root_stands_alone (formed : realm.WellFormed) :
    (∀ record, realm.registry.recordOf realm.builtins.root = .ok record → record.kind ≠ .user) ∧
      realm.registry.superOf realm.builtins.root = .ok none := by
  obtain ⟨root, found, _, kind, _⟩ := formed.shape.root
  have there : realm.registry.recordOf realm.builtins.root = .ok root := by
    rw [formed.builtins]
    exact found
  have notUser : root.kind ≠ .user := by
    rw [kind]
    decide
  refine ⟨fun record found => ?_, ?_⟩
  · cases there.symm.trans found
    exact notUser
  · rw [formed.superOf_eq there, if_neg notUser]

/-- A walk comes to the end of its lineage, or it fails because the limit is too small for that. -/
theorem ancestors_eq (formed : realm.WellFormed) (found : realm.registry.recordOf id = .ok record)
    (limit : Nat) :
    realm.registry.ancestors id limit =
      if (realm.lineage id record.kind).length ≤ limit then .ok (realm.lineage id record.kind)
      else .error (.hierarchyTooDeep id limit) := by
  have super := formed.superOf_eq found
  by_cases user : record.kind = .user
  · rw [if_pos user] at super
    obtain ⟨rootKind, rootSuper⟩ := formed.root_stands_alone
    have apart : realm.builtins.root ≠ id := by
      rintro rfl
      exact rootKind record found user
    rw [realm.lineage_of_user id user]
    rcases limit with _ | _ | limit
    · simp [Registry.ancestors, Registry.walk, Registry.walkFrom, Walk.stop]
    · simp [Registry.ancestors, Registry.walk, Registry.walkFrom, Walk.stop, Walk.after, super, apart,
        Except.map]
    · simp [Registry.ancestors, Registry.walk, Registry.walkFrom, Walk.after, super, apart, rootSuper]
  · rw [if_neg user] at super
    rw [realm.lineage_of_ne_user id user]
    cases limit with
    | zero => simp [Registry.ancestors, Registry.walk, Registry.walkFrom, Walk.stop]
    | succ limit => simp [Registry.ancestors, Registry.walk, Registry.walkFrom, super]

end WellFormed

/-! ## What a class sees of itself -/

/-- A class sees itself: it counts as its own subclass, its chain starts with it, and each of its
plain instances finds the members of the class that the instance does not hide. -/
structure SeesItself (realm : Realm) (store : Store) (id : ClassId) : Prop where
  subclass : realm.isSubclassOf id id = .ok true
  chain : ∃ further, realm.ancestors id = .ok (id :: further)
  members : ∀ (object : PlainInstance) (name : String) (member : Value), object.classId = id →
    store.Lacks object.table name → realm.registry.ClassHolds store id name member →
      ((realm.lookup (.plain object) name).perform store).1 = .ok member

/-- The limit is used up behind the class: every walk from it fails, and so does every look-up of a
plain instance that does not end in the table of the instance. -/
structure LosesItself (realm : Realm) (store : Store) (id : ClassId) : Prop where
  subclass : ∀ sup, realm.isSubclassOf id sup = .error (.hierarchyTooDeep id 1)
  chain : realm.ancestors id = .error (.hierarchyTooDeep id 1)
  members : ∀ (object : PlainInstance) (name : String), object.classId = id →
    store.Lacks object.table name →
      (realm.lookup (.plain object) name).perform store = (.error (.hierarchyTooDeep id 1), store)

section Seeing

variable {realm : Realm} {store : Store} {id : ClassId} {record : ClassRecord}

/-- A plain instance that lacks a name is searched for it along the chain of its class. -/
theorem goesOn_plain {object : PlainInstance} {name : String} (ofClass : object.classId = id)
    (lacks : store.Lacks object.table name) :
    realm.registry.GoesOn store (.plain object) name id :=
  ⟨rfl, ⟨object.table, rfl, lacks⟩, congrArg Except.ok ofClass⟩

/-- A class is a subclass of the classes on its chain, and where the walk fails so does the question. -/
theorem isSubclassOf_eq (realm : Realm) (id sup : ClassId) :
    realm.isSubclassOf id sup = (realm.ancestors id).map fun chain => decide (sup ∈ chain) :=
  realm.registry.isSubclassOf_eq id sup realm.settings.walkLimit

theorem seesItself_of_ancestors (coherent : store.Coherent) {further : List ClassId}
    (walk : realm.ancestors id = .ok (id :: further)) : realm.SeesItself store id where
  subclass := by simp [isSubclassOf_eq, walk]
  chain := ⟨further, walk⟩
  members object name member ofClass lacks holds := by
    have first : realm.registry.ancestors id realm.settings.walkLimit = .ok ([] ++ id :: further) := walk
    have search : realm.registry.Search store name realm.settings.walkLimit (.plain object)
        (.ok member) [.resolved name id] :=
      .inherited (goesOn_plain ofClass lacks) first (by simp) holds
    rw [Realm.lookup, search.perform_lookup coherent]

theorem losesItself_of_ancestors (coherent : store.Coherent)
    (walk : realm.ancestors id = .error (.hierarchyTooDeep id 1)) : realm.LosesItself store id where
  subclass sup := by
    rw [isSubclassOf_eq, walk]
    rfl
  chain := walk
  members object name ofClass lacks := by
    have search : realm.registry.Search store name realm.settings.walkLimit (.plain object)
        (.error (.hierarchyTooDeep id 1)) [] := .walkFails (goesOn_plain ofClass lacks) walk
    rw [Realm.lookup, search.perform_lookup coherent]
    simp

end Seeing

/-- After every run and for all settings, a class of a realm sees itself exactly if it is a class of
the start or the limit of the settings is at least two. The limit that walks are given is never below
one, but that does not help a class that was created later: under a limit of zero or one all its walks
and the look-ups of its instances fail as too deep. -/
theorem seesItself_iff (actions : List Action) {context : Nat} {realm : Realm} {id : ClassId}
    {record : ClassRecord}
    (present : (World.empty.run actions).contexts[context]? = some (.realm realm))
    (registered : realm.registry.recordOf id = .ok record) :
    let store := (World.empty.run actions).store
    (realm.SeesItself store id ↔ (record.kind = .user → 2 ≤ realm.settings.depthLimit)) ∧
      (record.kind = .user → realm.settings.depthLimit < 2 → realm.LosesItself store id) := by
  intro store
  have reachable : (World.empty.run actions).Reachable := ⟨actions, rfl⟩
  have coherent : store.Coherent := reachable.coherent
  have walk := (reachable.realmsWellFormed present).ancestors_eq registered realm.settings.walkLimit
  rw [← ancestors] at walk
  constructor
  · rw [← realm.length_lineage_le_walkLimit_iff id]
    constructor
    · intro sees
      by_contra short
      obtain ⟨further, chain⟩ := sees.chain
      rw [walk, if_neg short] at chain
      cases chain
    · intro long
      obtain ⟨further, starts⟩ := realm.exists_lineage_eq_cons id record.kind
      rw [if_pos long, starts] at walk
      exact seesItself_of_ancestors coherent walk
  · intro user small
    have short : ¬ (realm.lineage id record.kind).length ≤ realm.settings.walkLimit := by
      rw [length_lineage_le_walkLimit_iff]
      exact fun long => absurd (long user) (Nat.not_le_of_lt small)
    have one : realm.settings.walkLimit = 1 := by
      rw [Settings.walkLimit]
      omega
    rw [if_neg short, one] at walk
    exact losesItself_of_ancestors coherent walk

/-! ## A class under small limits -/

namespace Shallow

def settings (depth : Nat) : Settings :=
  { Settings.standard with depthLimit := depth }

/-- A class is created in a realm whose walks may visit so many classes. -/
def actions (depth : Nat) : List Action :=
  [.openContext (.realm (settings depth)), .createClass 0 "A"]

def record : ClassRecord :=
  ⟨"A", .user, some ⟨0⟩, some ⟨0⟩, ⟨10⟩, ⟨11⟩⟩

def realm (depth : Nat) : Realm :=
  { started (settings depth) 0 with registry := (started (settings depth) 0).registry.push record }

end Shallow

open Shallow in
/-- Two levels are enough. -/
theorem seesItself_two :
    (World.empty.run (actions 2)).contexts[0]? = some (.realm (realm 2)) ∧
      (realm 2).registry.recordOf ⟨5⟩ = .ok record ∧
      (realm 2).SeesItself (World.empty.run (actions 2)).store ⟨5⟩ := by
  have present : (World.empty.run (actions 2)).contexts[0]? = some (.realm (realm 2)) := rfl
  have registered : (realm 2).registry.recordOf ⟨5⟩ = .ok record := rfl
  exact ⟨present, registered,
    (seesItself_iff (actions 2) present registered).1.mpr fun _ => Nat.le_refl 2⟩

open Shallow in
/-- Under a limit of zero, which walks take for one, the class does not count as its own subclass. -/
theorem not_seesItself_zero :
    (World.empty.run (actions 0)).contexts[0]? = some (.realm (realm 0)) ∧
      (realm 0).registry.recordOf ⟨5⟩ = .ok record ∧
      (realm 0).isSubclassOf ⟨5⟩ ⟨5⟩ = .error (.hierarchyTooDeep ⟨5⟩ 1) ∧
      (realm 0).LosesItself (World.empty.run (actions 0)).store ⟨5⟩ ∧
      ¬ (realm 0).SeesItself (World.empty.run (actions 0)).store ⟨5⟩ := by
  have reachable : (World.empty.run (actions 0)).Reachable := ⟨actions 0, rfl⟩
  have loses : (realm 0).LosesItself (World.empty.run (actions 0)).store ⟨5⟩ :=
    losesItself_of_ancestors reachable.coherent rfl
  refine ⟨rfl, rfl, loses.subclass ⟨5⟩, loses, fun sees => ?_⟩
  have subclass := sees.subclass
  rw [loses.subclass ⟨5⟩] at subclass
  cases subclass

end Realm

end ObjectModel
