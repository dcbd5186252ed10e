import ObjectModel.Hierarchy
import Mathlib.Data.Nat.Init

/-! # Places of a chain of supers

The chain that starts at a class is a sequence: the class itself stands at place zero, and the super
of the class at one place stands at the next. The sequence ends behind a class without a super and
behind an identifier that is not registered. Super links may form any graph, so the sequence may
also come back to a class that it had before, and then it goes round for ever.
-/

namespace ObjectModel.Registry

/-- Whether an identifier names a class of the registry. -/
def IsRegistered (registry : Registry) (id : ClassId) : Prop :=
  id.index < registry.size

/-- The super of a class, if the class is registered and has one. -/
def super? (registry : Registry) (id : ClassId) : Option ClassId :=
  registry.classes[id.index]?.bind ClassRecord.super

/-- The class at a place of the chain that starts at a class, if the chain goes on so far. -/
def superAt? (registry : Registry) (start : ClassId) : (place : Nat) → Option ClassId
  | 0 => some start
  | place + 1 => (registry.superAt? start place).bind registry.super?

/-- The classes before a place of a chain are registered, and no two of them are the same. -/
structure ClearBefore (registry : Registry) (start : ClassId) (place : Nat) : Prop where
  registered : ∀ earlier < place, ∃ id,
    registry.superAt? start earlier = some id ∧ registry.IsRegistered id
  distinct : ∀ {first second : Nat}, first < second → second < place →
    registry.superAt? start first ≠ registry.superAt? start second

variable {registry : Registry} {start id : ClassId} {place : Nat}

/-! ## Super links -/

theorem superOf_of_registered (registered : registry.IsRegistered id) :
    registry.superOf id = .ok (registry.super? id) := by
  have found : registry.classes[id.index]? = some registry.classes[id.index] :=
    Array.getElem?_eq_getElem registered
  simp only [superOf, recordOf, super?, found]
  rfl

theorem recordOf_of_not_registered (missing : ¬ registry.IsRegistered id) :
    registry.recordOf id = .error (.unknownClass id) := by
  rw [recordOf, Array.getElem?_eq_none (Nat.not_lt.mp missing)]

theorem isRegistered_iff : registry.IsRegistered id ↔ ∃ record, registry.recordOf id = .ok record := by
  constructor
  · intro registered
    exact ⟨registry.classes[id.index], by rw [recordOf, Array.getElem?_eq_getElem registered]⟩
  · rintro ⟨record, found⟩
    refine Classical.byContradiction fun missing => ?_
    rw [recordOf_of_not_registered missing] at found
    cases found

theorem superOf_of_not_registered (missing : ¬ registry.IsRegistered id) :
    registry.superOf id = .error (.unknownClass id) := by
  rw [superOf, recordOf_of_not_registered missing]
  rfl

theorem isRegistered_of_super? {next : ClassId} (link : registry.super? id = some next) :
    registry.IsRegistered id := by
  obtain ⟨record, found, _⟩ := Option.bind_eq_some_iff.mp link
  exact (Array.getElem?_eq_some_iff.mp found).1

/-! ## Chains that are clear before a place -/

theorem superAt?_succ (here : registry.superAt? start place = some id) :
    registry.superAt? start (place + 1) = registry.super? id := by
  rw [superAt?, here, Option.bind_some]

namespace ClearBefore

theorem zero (registry : Registry) (start : ClassId) : registry.ClearBefore start 0 :=
  ⟨fun _ before => absurd before (Nat.not_lt_zero _), fun _ before => absurd before (Nat.not_lt_zero _)⟩

theorem mono {later : Nat} (clear : registry.ClearBefore start later) (bound : place ≤ later) :
    registry.ClearBefore start place :=
  ⟨fun earlier before => clear.registered earlier (Nat.lt_of_lt_of_le before bound),
    fun before beforePlace => clear.distinct before (Nat.lt_of_lt_of_le beforePlace bound)⟩

/-- One more place is clear if a registered class stands there that is new in the chain. -/
theorem succ (clear : registry.ClearBefore start place)
    (here : registry.superAt? start place = some id) (registered : registry.IsRegistered id)
    (new : ∀ earlier < place, registry.superAt? start earlier ≠ some id) :
    registry.ClearBefore start (place + 1) where
  registered earlier before := by
    rcases Nat.lt_succ_iff_lt_or_eq.mp before with before | rfl
    · exact clear.registered earlier before
    · exact ⟨id, here, registered⟩
  distinct {first second} before beforeSucc := by
    rcases Nat.lt_succ_iff_lt_or_eq.mp beforeSucc with beforePlace | rfl
    · exact clear.distinct before beforePlace
    · rw [here]
      exact new first before

end ClearBefore

/-! ## Chains that go round -/

/-- The chain goes on from a class in the same way wherever the class stands. -/
theorem superAt?_add_of_eq {first second : Nat}
    (same : registry.superAt? start first = registry.superAt? start second) (further : Nat) :
    registry.superAt? start (first + further) = registry.superAt? start (second + further) := by
  induction further with
  | zero => exact same
  | succ further ih => exact congrArg (·.bind registry.super?) ih

/-- From a class that is met twice on, every place shows a class of the round between the two. -/
theorem exists_superAt?_eq_of_round {first second : Nat} (before : first < second)
    (same : registry.superAt? start first = registry.superAt? start second) {later : Nat}
    (behind : first ≤ later) :
    ∃ within, first ≤ within ∧ within < second ∧
      registry.superAt? start later = registry.superAt? start within := by
  induction later using Nat.strong_induction_on with
  | _ later ih =>
    rcases Nat.lt_or_ge later second with inRound | past
    · exact ⟨later, behind, inRound, rfl⟩
    · obtain ⟨further, rfl⟩ := Nat.exists_eq_add_of_le past
      obtain ⟨within, notBefore, beforeSecond, shown⟩ := ih (first + further) (by omega) (by omega)
      exact ⟨within, notBefore, beforeSecond, (superAt?_add_of_eq same further).symm.trans shown⟩

end ObjectModel.Registry
