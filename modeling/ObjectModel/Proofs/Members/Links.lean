import ObjectModel.Proofs.Members.Dependence

/-! # Class links decide nothing

Walks follow supers, and searches read the tables of the value and of the classes along a walk. The
class of a value comes in only where a walk starts, and only for values that are no classes and carry
their class with them. So nothing in the record of a class matters to a walk or a search but its super
and its members: names, kinds and class links may be any, links that go round and pending ones
included.
-/

namespace ObjectModel

/-! ## Corresponding registries -/

/-- Two classes have the same super, and their class-level tables have the same contents. Names, kinds,
class links and templates may differ. -/
structure ClassRecord.Corresponds (store : Store) (record other : ClassRecord) : Prop where
  super : record.super = other.super
  members : store.table record.members = store.table other.members

/-- Two registries have equally many classes, and those of each identifier correspond. -/
structure Registry.Corresponds (store : Store) (left right : Registry) : Prop where
  size : left.size = right.size
  records : ∀ {id : ClassId} {record other : ClassRecord}, left.recordOf id = .ok record →
    right.recordOf id = .ok other → record.Corresponds store other

namespace Registry

section Correspondence

variable {store : Store} {left right : Registry}

theorem Corresponds.cases (corresponds : left.Corresponds store right) (id : ClassId) :
    (∃ record other, left.recordOf id = .ok record ∧ right.recordOf id = .ok other ∧
      record.Corresponds store other) ∨
    ∃ cause, left.recordOf id = .error cause ∧ right.recordOf id = .error cause := by
  by_cases registered : left.IsRegistered id
  · have registered' : right.IsRegistered id := Nat.lt_of_lt_of_eq registered corresponds.size
    have found := recordOf_eq_ok_iff.mpr (Array.getElem?_eq_getElem registered)
    have found' := recordOf_eq_ok_iff.mpr (Array.getElem?_eq_getElem registered')
    exact .inl ⟨_, _, found, found', corresponds.records found found'⟩
  · have missing : ¬ right.IsRegistered id := by
      rwa [IsRegistered, ← corresponds.size]
    exact .inr ⟨_, recordOf_of_not_registered registered, recordOf_of_not_registered missing⟩

theorem Corresponds.superOf_eq (corresponds : left.Corresponds store right) (id : ClassId) :
    left.superOf id = right.superOf id := by
  rcases corresponds.cases id with ⟨record, other, found, found', same⟩ | ⟨cause, absent, absent'⟩
  · simp only [superOf, found, found', ok_bind, same.super]
  · simp only [superOf, absent, absent', error_bind]

theorem Corresponds.map_membersOf (corresponds : left.Corresponds store right) (id : ClassId) :
    (left.membersOf id).map store.shown = (right.membersOf id).map store.shown := by
  rcases corresponds.cases id with ⟨record, other, found, found', same⟩ | ⟨cause, absent, absent'⟩
  · have shown : store.shown record.members = store.shown other.members := by
      funext name
      rw [Store.shown, Store.shown, same.members]
    simp only [membersOf, found, found', ok_bind, pure_eq_ok, map_ok, shown]
  · simp only [membersOf, absent, absent', error_bind]

end Correspondence

/-- In corresponding registries every walk has the same outcome, every class counts as a subclass of
the same classes, and every look-up, of any value and under any limit, answers the same and leaves the
same records. Corresponding classes may have any names and kinds, and their class links may be bound to
anything or be pending. -/
theorem links_decide_nothing {store : Store} {left right : Registry}
    (corresponds : left.Corresponds store right) :
    (∀ start limit, left.ancestors start limit = right.ancestors start limit) ∧
    (∀ sub sup limit, left.isSubclassOf sub sup limit = right.isSubclassOf sub sup limit) ∧
    ∀ value name limit, (left.lookup value name limit).perform store =
      (right.lookup value name limit).perform store := by
  have supers := corresponds.superOf_eq
  refine ⟨ancestors_congr supers, isSubclassOf_congr supers, fun value name limit => ?_⟩
  exact perform_lookup_congr (resolve_congr corresponds.map_membersOf rfl
    (fun start => ancestors_congr supers start limit) value name)

/-! ## A pending root -/

namespace Relinked

def store : Store :=
  { Store.empty with
    tables := #[PropertyTable.empty.set publicTier "x" (.ofClass ⟨7⟩), .empty,
      PropertyTable.empty.set publicTier "x" (.ofClass ⟨7⟩)] }

/-- The root is its own class, and the class under it is linked to the root. -/
def bound : Registry :=
  ⟨#[⟨"Class", .metaclass, some ⟨0⟩, none, ⟨0⟩, ⟨1⟩⟩, ⟨"Point", .user, some ⟨0⟩, some ⟨0⟩, ⟨1⟩, ⟨1⟩⟩], {}⟩

/-- The root is pending, and the class under it is linked to a class that does not exist. -/
def loose : Registry :=
  ⟨#[⟨"", .user, none, none, ⟨2⟩, ⟨0⟩⟩, ⟨"", .builtin, some ⟨9⟩, some ⟨0⟩, ⟨1⟩, ⟨0⟩⟩], {}⟩

def point : Value :=
  .plain ⟨0, ⟨1⟩, ⟨1⟩, none⟩

theorem corresponds_loose : bound.Corresponds store loose where
  size := rfl
  records := by
    rintro ⟨position⟩ record other found found'
    rw [recordOf_eq_ok_iff] at found found'
    rcases position with _ | _ | position
    · cases found
      cases found'
      exact ⟨rfl, rfl⟩
    · cases found
      cases found'
      exact ⟨rfl, rfl⟩
    · cases found

theorem coherent_store : store.Coherent := by
  intro table member
  simp only [store, List.mem_toArray, List.mem_cons, List.not_mem_nil, or_false] at member
  rcases member with rfl | rfl | rfl
  · exact PropertyTable.coherent_set PropertyTable.coherent_empty _ _ _
  · exact PropertyTable.coherent_empty
  · exact PropertyTable.coherent_set PropertyTable.coherent_empty _ _ _

/-- The instance finds the member on the root, which is the super of its class. -/
theorem search_point :
    bound.Search store "x" 2 point (.ok (.ofClass ⟨7⟩)) [.resolved "x" ⟨0⟩] := by
  have bare : (store.table ⟨1⟩).entries = #[] := rfl
  have lacks : store.Lacks ⟨1⟩ "x" := by
    intro entry member
    simp [bare] at member
  have holds : store.Holds ⟨0⟩ "x" (.ofClass ⟨7⟩) :=
    ⟨⟨"x", publicTier, .ofClass ⟨7⟩⟩, Array.mem_of_getElem? (i := 0) rfl, rfl, rfl⟩
  have walk : bound.ancestors ⟨1⟩ 2 = .ok ([⟨1⟩] ++ ⟨0⟩ :: []) := rfl
  exact .inherited ⟨rfl, ⟨⟨1⟩, rfl, lacks⟩, rfl⟩ walk
    (List.forall_mem_singleton.mpr ⟨⟨1⟩, rfl, lacks⟩) ⟨⟨0⟩, rfl, holds⟩

end Relinked

open Relinked in
/-- The classes of the classes differ, and for the pending root there is none, but an instance finds
the member of the root in both registries. -/
theorem links_decide_nothing_loose :
    bound.Corresponds store loose ∧ bound.classOf ⟨0⟩ = .ok ⟨0⟩ ∧
      loose.classOf ⟨0⟩ = .error (.bootstrap "class '' used before its bootstrap completed") ∧
      (loose.lookup point "x" 2).perform store =
        (.ok (.ofClass ⟨7⟩), { store with journal := #[.resolved "x" ⟨0⟩] }) := by
  obtain ⟨_, _, lookups⟩ := links_decide_nothing corresponds_loose
  refine ⟨corresponds_loose, rfl, rfl, ?_⟩
  rw [← lookups point "x" 2]
  exact search_point.perform_lookup coherent_store

end Registry

end ObjectModel
