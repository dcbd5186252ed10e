import ObjectModel.Proofs.Chains.Forest
import Mathlib.Data.Fintype.Card

/-! # Walks are bounded by their registry

A walk is given a limit, and the limit may be larger than any registry. It does not keep the walk going:
the classes that a walk has behind it are registered and all different, so they are not more than the
registry holds, and at the next one the walk ends in some way. A limit beyond the number of classes is
therefore never used up, and how the walk ends is then a matter of the chain alone: it has a last class,
or its last identifier names no class, or it goes on for ever.
-/

namespace ObjectModel.Registry

/-- The chain has a last class: none stands behind it. The identifier need not be registered. -/
def HasLast (registry : Registry) (start last : ClassId) : Prop :=
  ∃ place, registry.superAt? start place = some last ∧ registry.super? last = none

section Walks

variable {registry : Registry} {start id last : ClassId} {limit place : Nat}

/-! ## No more classes than are registered -/

/-- The classes before a clear place are registered and different, so there is one class of the registry
for each of them. -/
theorem ClearBefore.le_size (clear : registry.ClearBefore start place) : place ≤ registry.size := by
  choose idAt here registered using fun earlier : Fin place => clear.registered earlier earlier.isLt
  let positionAt (earlier : Fin place) : Fin registry.size := ⟨(idAt earlier).index, registered earlier⟩
  have injective : Function.Injective positionAt := by
    intro first second same
    have sameId : idAt first = idAt second := congrArg ClassId.mk (congrArg Fin.val same)
    have shown : registry.superAt? start first = registry.superAt? start second := by
      rw [here first, here second, sameId]
    rcases Nat.lt_trichotomy first second with before | equal | behind
    · exact absurd shown (clear.distinct before second.isLt)
    · exact Fin.ext equal
    · exact absurd shown.symm (clear.distinct behind first.isLt)
  simpa using Fintype.card_le_of_injective positionAt injective

theorem Ends.length_le_size {ids : List ClassId} (ends : registry.Ends start limit ids) :
    ids.length ≤ registry.size := by
  obtain ⟨end', _, clear, _, _, _, listed⟩ := ends
  have length : ids.length = end' + 1 := by simpa using congrArg List.length listed
  rw [length]
  exact clear.le_size

namespace Underway

variable {remaining : Nat} {seen : List ClassId} {current : ClassId}

theorem place_le (walk : registry.Underway start limit place remaining seen current) :
    place ≤ min limit registry.size :=
  Nat.le_min.mpr ⟨walk.levels ▸ Nat.le_add_right place remaining, walk.clear.le_size⟩

/-- The classes behind a walk and those that it still looks at are one more than the bound, at most. -/
theorem place_add_passes_le (walk : registry.Underway start limit place remaining seen current) :
    place + (registry.walkFrom start limit remaining seen current).passes ≤
      min limit registry.size + 1 := by
  induction remaining generalizing place seen current with
  | zero =>
    have one : (registry.walkFrom start limit 0 seen current).passes = 1 := by
      by_cases again : current ∈ seen <;> simp [walkFrom, again, Walk.stop]
    rw [one]
    exact Nat.succ_le_succ walk.place_le
  | succ remaining ih =>
    by_cases again : current ∈ seen
    · rw [walkFrom, if_pos again]
      exact Nat.succ_le_succ walk.place_le
    · rw [walkFrom, if_neg again]
      by_cases registered : registry.IsRegistered current
      · rw [superOf_of_registered registered]
        cases link : registry.super? current with
        | none => exact Nat.succ_le_succ walk.place_le
        | some super =>
          have rest := ih (walk.next again link)
          simp only [Walk.after]
          omega
      · rw [superOf_of_not_registered registered]
        exact Nat.succ_le_succ walk.place_le

end Underway

theorem passes_walk_le (registry : Registry) (start : ClassId) (limit : Nat) :
    (registry.walk start limit).passes ≤ min limit registry.size + 1 := by
  have whole := (Underway.start_walk registry start limit).place_add_passes_le
  rwa [Nat.zero_add] at whole

/-! ## The last class of a chain -/

/-- Behind a class that is not registered there is none. -/
theorem super?_of_not_registered (missing : ¬ registry.IsRegistered id) : registry.super? id = none :=
  Option.eq_none_iff_forall_ne_some.mpr fun _ link => missing (isRegistered_of_super? link)

namespace HasLast

theorem not_goesOn (hasLast : registry.HasLast start last) :
    ¬ ∀ place, (registry.superAt? start place).isSome := by
  obtain ⟨place, here, ended⟩ := hasLast
  intro goesOn
  simpa [superAt?_succ here, ended] using goesOn (place + 1)

/-- A chain has one last class at most. -/
theorem unique (hasLast : registry.HasLast start id) (hasLast' : registry.HasLast start last) :
    id = last := by
  obtain ⟨place, here, ended⟩ := hasLast
  obtain ⟨place', here', ended'⟩ := hasLast'
  have notBehind {place place' : Nat} {id last : ClassId} (here : registry.superAt? start place = some id)
      (ended : registry.super? id = none) (here' : registry.superAt? start place' = some last) :
      place' ≤ place := by
    refine Nat.le_of_not_lt fun behind => ?_
    have behindLast : registry.superAt? start (place + 1) = none := by rw [superAt?_succ here, ended]
    rw [superAt?_eq_none_of_le behindLast behind] at here'
    cases here'
  obtain rfl : place = place' :=
    Nat.le_antisymm (notBehind here' ended' here) (notBehind here ended here')
  exact Option.some.inj (here.symm.trans here')

end HasLast

theorem Ends.exists_hasLast {ids : List ClassId} (ends : registry.Ends start limit ids) :
    ∃ last, registry.HasLast start last ∧ registry.IsRegistered last := by
  obtain ⟨place, last, clear, here, isLast, _⟩ := ends
  obtain ⟨_, here', registered⟩ := clear.registered place (Nat.lt_succ_self place)
  cases here.symm.trans here'
  rw [superOf_of_registered registered, Except.ok.injEq] at isLast
  exact ⟨last, ⟨place, here, isLast⟩, registered⟩

theorem Leaves.hasLast (leaves : registry.Leaves start limit id) :
    registry.HasLast start id ∧ ¬ registry.IsRegistered id := by
  obtain ⟨place, _, _, here, missing⟩ := leaves
  exact ⟨⟨place, here, super?_of_not_registered missing⟩, missing⟩

/-- A chain that comes back goes on for ever. -/
theorem Repeats.isSome_superAt? (repeats : registry.Repeats start limit id) (later : Nat) :
    (registry.superAt? start later).isSome := by
  obtain ⟨place, _, clear, here, first, before, met⟩ := repeats
  have inRound {within : Nat} (inside : within < place) : (registry.superAt? start within).isSome := by
    obtain ⟨_, shown, _⟩ := clear.registered within inside
    rw [shown, Option.isSome_some]
  rcases Nat.lt_or_ge later first with early | late
  · exact inRound (Nat.lt_trans early before)
  · obtain ⟨within, _, inside, shown⟩ := exists_superAt?_eq_of_round before (met.trans here.symm) late
    rw [shown]
    exact inRound inside

/-! ## Limits beyond the number of classes -/

section Room

variable (room : registry.size < limit)
include room

theorem not_runsOver : ¬ registry.RunsOver start limit := by
  rintro ⟨_, clear, _⟩
  exact Nat.not_le.mpr room clear.le_size

/-- The walk ends in the way in which the chain does. -/
theorem ancestors_cases_of_size_lt (start : ClassId) :
    (∃ ids last, registry.ancestors start limit = .ok ids ∧ registry.HasLast start last ∧
      registry.IsRegistered last) ∨
    (∃ id, registry.ancestors start limit = .error (.cyclicHierarchy id) ∧
      ∀ place, (registry.superAt? start place).isSome) ∨
    ∃ id, registry.ancestors start limit = .error (.unknownClass id) ∧ registry.HasLast start id ∧
      ¬ registry.IsRegistered id := by
  have accounts := accounts_ancestors registry start limit
  cases outcome : registry.ancestors start limit with
  | ok ids =>
    rw [outcome] at accounts
    obtain ⟨last, hasLast, registered⟩ := Ends.exists_hasLast accounts
    exact .inl ⟨ids, last, rfl, hasLast, registered⟩
  | error cause =>
    rw [outcome] at accounts
    cases cause with
    | cyclicHierarchy id => exact .inr (.inl ⟨id, rfl, Repeats.isSome_superAt? accounts⟩)
    | unknownClass id => exact .inr (.inr ⟨id, rfl, Leaves.hasLast accounts⟩)
    | hierarchyTooDeep => exact absurd accounts.2.2 (not_runsOver room)
    | notFound | bootstrap | argument | typeMismatch | native => exact accounts.elim

/-- What the chain calls for under one such limit it calls for under every other. -/
theorem Accounts.of_size_lt {outcome : Except Error (List ClassId)}
    (accounts : registry.Accounts start limit outcome) {further : Nat}
    (room' : registry.size < further) : registry.Accounts start further outcome := by
  cases outcome with
  | ok ids =>
    obtain ⟨place, last, clear, here, isLast, _, listed⟩ := accounts
    exact ⟨place, last, clear, here, isLast, clear.le_size.trans room'.le, listed⟩
  | error cause =>
    cases cause with
    | cyclicHierarchy id =>
      obtain ⟨place, _, clear, met⟩ := accounts
      exact ⟨place, clear.le_size.trans room'.le, clear, met⟩
    | unknownClass id =>
      obtain ⟨place, _, clear, gone⟩ := accounts
      exact ⟨place, clear.le_size.trans_lt room', clear, gone⟩
    | hierarchyTooDeep => exact absurd accounts.2.2 (not_runsOver room)
    | notFound | bootstrap | argument | typeMismatch | native => exact accounts.elim

theorem ancestors_eq_of_size_lt {further : Nat} (room' : registry.size < further) :
    registry.ancestors start further = registry.ancestors start limit :=
  ancestors_eq_iff.mpr ((accounts_ancestors registry start limit).of_size_lt room room')

theorem exists_ancestors_eq_ok_iff :
    (∃ ids, registry.ancestors start limit = .ok ids) ↔
      ∃ last, registry.HasLast start last ∧ registry.IsRegistered last := by
  constructor
  · rintro ⟨ids, walk⟩
    exact Ends.exists_hasLast (ancestors_eq_iff.mp walk)
  · rintro ⟨last, hasLast, registered⟩
    rcases ancestors_cases_of_size_lt room start with
      ⟨ids, _, walk, _⟩ | ⟨_, _, goesOn⟩ | ⟨id, _, hasLast', missing⟩
    · exact ⟨ids, walk⟩
    · exact absurd goesOn hasLast.not_goesOn
    · exact absurd (hasLast.unique hasLast' ▸ registered) missing

theorem exists_ancestors_eq_cyclic_iff :
    (∃ id, registry.ancestors start limit = .error (.cyclicHierarchy id)) ↔
      ∀ place, (registry.superAt? start place).isSome := by
  constructor
  · rintro ⟨id, walk⟩
    exact Repeats.isSome_superAt? (ancestors_eq_iff.mp walk)
  · intro goesOn
    rcases ancestors_cases_of_size_lt room start with
      ⟨_, _, _, hasLast, _⟩ | ⟨id, walk, _⟩ | ⟨_, _, hasLast, _⟩
    · exact absurd goesOn hasLast.not_goesOn
    · exact ⟨id, walk⟩
    · exact absurd goesOn hasLast.not_goesOn

theorem ancestors_eq_unknown_iff :
    registry.ancestors start limit = .error (.unknownClass id) ↔
      registry.HasLast start id ∧ ¬ registry.IsRegistered id := by
  constructor
  · intro walk
    exact Leaves.hasLast (ancestors_eq_iff.mp walk)
  · rintro ⟨hasLast, missing⟩
    rcases ancestors_cases_of_size_lt room start with
      ⟨_, last, _, hasLast', registered⟩ | ⟨_, _, goesOn⟩ | ⟨other, walk, hasLast', _⟩
    · exact absurd (hasLast'.unique hasLast ▸ registered) missing
    · exact absurd goesOn hasLast.not_goesOn
    · rw [walk, hasLast'.unique hasLast]

end Room

/-- How far a walk goes, and how it ends where the limit has room for all classes of the registry and
more. -/
structure BoundedWalk (registry : Registry) (start : ClassId) (limit : Nat) : Prop where
  passes : (registry.walk start limit).passes ≤ min limit registry.size + 1
  classes : ∀ ids, registry.ancestors start limit = .ok ids →
    ids.Nodup ∧ (∀ id ∈ ids, registry.IsRegistered id) ∧ ids.length ≤ min limit registry.size
  notTooDeep : registry.size < limit → ∀ id levels,
    registry.ancestors start limit ≠ .error (.hierarchyTooDeep id levels)
  ok_iff : registry.size < limit → ((∃ ids, registry.ancestors start limit = .ok ids) ↔
    ∃ last, registry.HasLast start last ∧ registry.IsRegistered last)
  /-- A chain that does not end at a class of the registry is reported in one of two ways. -/
  reported : registry.size < limit →
    (¬ ∃ last, registry.HasLast start last ∧ registry.IsRegistered last) →
      (∃ id, registry.ancestors start limit = .error (.cyclicHierarchy id)) ∨
        ∃ id, registry.ancestors start limit = .error (.unknownClass id)
  /-- A chain that goes on for ever is reported as a cycle. -/
  cyclic_iff : registry.size < limit →
    ((∃ id, registry.ancestors start limit = .error (.cyclicHierarchy id)) ↔
      ∀ place, (registry.superAt? start place).isSome)
  /-- A chain that leaves the registry is reported with the identifier through which it does. -/
  unknown_iff : registry.size < limit → ∀ id,
    registry.ancestors start limit = .error (.unknownClass id) ↔
      registry.HasLast start id ∧ ¬ registry.IsRegistered id
  /-- The limit itself does not matter. -/
  sameOutcome : registry.size < limit → ∀ further, registry.size < further →
    registry.ancestors start further = registry.ancestors start limit

/-- Every walk is bounded by the registry: whatever the super links, from every start and under every
limit, however large. -/
theorem walks_bounded (registry : Registry) (start : ClassId) (limit : Nat) :
    registry.BoundedWalk start limit where
  passes := passes_walk_le registry start limit
  classes ids walk := by
    obtain ⟨_, within, distinct, registered, _⟩ := ancestors_eq_ok_iff.mp walk
    have room : ids.length ≤ registry.size := Ends.length_le_size (ancestors_eq_iff.mp walk)
    exact ⟨distinct, registered, Nat.le_min.mpr ⟨within, room⟩⟩
  notTooDeep room id levels deep := not_runsOver room (ancestors_eq_iff.mp deep).2.2
  ok_iff := exists_ancestors_eq_ok_iff
  reported room endless := by
    rcases ancestors_cases_of_size_lt room start with
      ⟨_, last, _, ends⟩ | ⟨id, walk, _⟩ | ⟨id, walk, _⟩
    · exact absurd ⟨last, ends⟩ endless
    · exact .inl ⟨id, walk⟩
    · exact .inr ⟨id, walk⟩
  cyclic_iff := exists_ancestors_eq_cyclic_iff
  unknown_iff room _ := ancestors_eq_unknown_iff room
  sameOutcome room _ := ancestors_eq_of_size_lt room

end Walks

/-! ## The largest limit -/

namespace LargestLimit

/-- Two classes that are each other's super, and one whose super is not registered. -/
def registry : Registry :=
  ⟨#[⟨"A", .user, none, some ⟨1⟩, ⟨0⟩, ⟨1⟩⟩, ⟨"B", .user, none, some ⟨0⟩, ⟨2⟩, ⟨3⟩⟩,
    ⟨"C", .user, none, some ⟨7⟩, ⟨4⟩, ⟨5⟩⟩], {}⟩

/-- The largest number of 64 bits. -/
def limit : Nat :=
  0xffffffffffffffff

theorem size_lt : registry.size < limit := by
  decide

/-- The two classes stand on their chain in turn. -/
theorem isSome_superAt? (place : Nat) : (registry.superAt? ⟨0⟩ place).isSome := by
  suffices registry.superAt? ⟨0⟩ place = some ⟨0⟩ ∨ registry.superAt? ⟨0⟩ place = some ⟨1⟩ by
    rcases this with first | second
    · rw [first, Option.isSome_some]
    · rw [second, Option.isSome_some]
  induction place with
  | zero => exact .inl rfl
  | succ place ih =>
    rcases ih with first | second
    · exact .inr (superAt?_succ first)
    · exact .inl (superAt?_succ second)

end LargestLimit

open LargestLimit in
/-- Under the largest limit that fits into 64 bits, a walk among three classes looks at four at most. The
one round is reported as a cycle, and the identifier that is not registered as unknown. -/
theorem walks_bounded_largest :
    registry.size < limit ∧ (registry.walk ⟨0⟩ limit).passes ≤ 4 ∧
      (∃ id, registry.ancestors ⟨0⟩ limit = .error (.cyclicHierarchy id)) ∧
      registry.ancestors ⟨2⟩ limit = .error (.unknownClass ⟨7⟩) := by
  have round := walks_bounded registry ⟨0⟩ limit
  have leaving := walks_bounded registry ⟨2⟩ limit
  have last : registry.HasLast ⟨2⟩ ⟨7⟩ := ⟨1, rfl, rfl⟩
  have missing : ¬ registry.IsRegistered ⟨7⟩ := by
    simp [IsRegistered, size, registry]
  exact ⟨size_lt, round.passes, (round.cyclic_iff size_lt).mpr isSome_superAt?,
    (leaving.unknown_iff size_lt ⟨7⟩).mpr ⟨last, missing⟩⟩

end ObjectModel.Registry
