import ObjectModel.Proofs.Chains.Places

/-! # How a walk along supers ends

A walk goes along its chain as long as the classes that it meets are registered and new, and as long
as there are levels left. What stands at the place where it stops decides its outcome. A class met
before comes first, then the limit, then an identifier that is not registered, so there are four ways
to end. They exclude each other, and one of them always happens.
-/

namespace ObjectModel.Registry

/-- The chain is exactly these classes: they are registered, all different and not more than the
limit allows, and the last of them has no super. -/
def Ends (registry : Registry) (start : ClassId) (limit : Nat) (ids : List ClassId) : Prop :=
  ∃ place last, registry.ClearBefore start (place + 1) ∧ registry.superAt? start place = some last ∧
    registry.superOf last = .ok none ∧ place + 1 ≤ limit ∧
    ids.map some = (List.range (place + 1)).map (registry.superAt? start)

/-- The chain comes back, within the limit, to a class that it had before, and to no other class
earlier. -/
def Repeats (registry : Registry) (start : ClassId) (limit : Nat) (id : ClassId) : Prop :=
  ∃ place ≤ limit, registry.ClearBefore start place ∧ registry.superAt? start place = some id ∧
    ∃ earlier < place, registry.superAt? start earlier = some id

/-- The chain goes on to one class more than the limit allows, and they are all different. The last
of them need not be registered. -/
def RunsOver (registry : Registry) (start : ClassId) (limit : Nat) : Prop :=
  ∃ id, registry.ClearBefore start limit ∧ registry.superAt? start limit = some id ∧
    ∀ earlier < limit, registry.superAt? start earlier ≠ some id

/-- The chain comes, before the limit is used up, to an identifier that is not registered. -/
def Leaves (registry : Registry) (start : ClassId) (limit : Nat) (id : ClassId) : Prop :=
  ∃ place < limit, registry.ClearBefore start place ∧ registry.superAt? start place = some id ∧
    ¬ registry.IsRegistered id

/-- The outcome is the one that the chain calls for. -/
def Accounts (registry : Registry) (start : ClassId) (limit : Nat) :
    Except Error (List ClassId) → Prop
  | .ok ids => registry.Ends start limit ids
  | .error (.cyclicHierarchy id) => registry.Repeats start limit id
  | .error (.hierarchyTooDeep id levels) =>
    id = start ∧ levels = limit ∧ registry.RunsOver start limit
  | .error (.unknownClass id) => registry.Leaves start limit id
  | .error _ => False

variable {registry : Registry} {start id : ClassId} {limit : Nat}

/-! ## The walk ends as its chain does -/

/-- A walk is under way at a place: it met the classes before the place, which is clear, and together
with the levels that are left these are as many as the limit allows. -/
structure Underway (registry : Registry) (start : ClassId) (limit place remaining : Nat)
    (seen : List ClassId) (current : ClassId) : Prop where
  clear : registry.ClearBefore start place
  here : registry.superAt? start place = some current
  met : seen.reverse.map some = (List.range place).map (registry.superAt? start)
  levels : place + remaining = limit

namespace Underway

variable {place remaining : Nat} {seen : List ClassId} {current : ClassId}

theorem start_walk (registry : Registry) (start : ClassId) (limit : Nat) :
    registry.Underway start limit 0 limit [] start :=
  ⟨.zero registry start, rfl, rfl, Nat.zero_add limit⟩

theorem mem_seen_iff (walk : registry.Underway start limit place remaining seen current) :
    id ∈ seen ↔ ∃ earlier < place, registry.superAt? start earlier = some id := by
  calc id ∈ seen
      ↔ some id ∈ seen.reverse.map some := by simp
    _ ↔ some id ∈ (List.range place).map (registry.superAt? start) := by rw [walk.met]
    _ ↔ ∃ earlier < place, registry.superAt? start earlier = some id := by simp

theorem new_of_notMem (walk : registry.Underway start limit place remaining seen current)
    (new : current ∉ seen) : ∀ earlier < place, registry.superAt? start earlier ≠ some current :=
  fun earlier before met => new (walk.mem_seen_iff.mpr ⟨earlier, before, met⟩)

theorem repeats (walk : registry.Underway start limit place remaining seen current)
    (again : current ∈ seen) : registry.Repeats start limit current :=
  ⟨place, walk.levels ▸ Nat.le_add_right place remaining, walk.clear, walk.here,
    walk.mem_seen_iff.mp again⟩

theorem runsOver (walk : registry.Underway start limit place 0 seen current)
    (new : current ∉ seen) : registry.RunsOver start limit := by
  obtain rfl : place = limit := walk.levels
  exact ⟨current, walk.clear, walk.here, walk.new_of_notMem new⟩

theorem leaves (walk : registry.Underway start limit place (remaining + 1) seen current)
    (missing : ¬ registry.IsRegistered current) : registry.Leaves start limit current := by
  have levels := walk.levels
  exact ⟨place, by omega, walk.clear, walk.here, missing⟩

theorem ends (walk : registry.Underway start limit place (remaining + 1) seen current)
    (new : current ∉ seen) (registered : registry.IsRegistered current)
    (last : registry.super? current = none) :
    registry.Ends start limit (seen.reverse ++ [current]) := by
  have levels := walk.levels
  refine ⟨place, current, walk.clear.succ walk.here registered (walk.new_of_notMem new), walk.here,
    ?_, by omega, ?_⟩
  · rw [superOf_of_registered registered, last]
  · simp [walk.met, List.range_succ, walk.here]

/-- The walk goes on to the super of a class that is registered and new. -/
theorem next (walk : registry.Underway start limit place (remaining + 1) seen current)
    (new : current ∉ seen) {super : ClassId} (link : registry.super? current = some super) :
    registry.Underway start limit (place + 1) remaining (current :: seen) super where
  clear := walk.clear.succ walk.here (isRegistered_of_super? link) (walk.new_of_notMem new)
  here := (superAt?_succ walk.here).trans link
  met := by simp [walk.met, List.range_succ, walk.here]
  levels := by
    have levels := walk.levels
    omega

/-- From wherever a walk is under way it ends as its chain calls for. -/
theorem accounts (walk : registry.Underway start limit place remaining seen current) :
    registry.Accounts start limit
      ((registry.walkFrom start limit remaining seen current).outcome.map (seen.reverse ++ ·)) := by
  induction remaining generalizing place seen current with
  | zero =>
    by_cases again : current ∈ seen
    · simpa [walkFrom, again, Walk.stop, Except.map, Accounts] using walk.repeats again
    · simpa [walkFrom, again, Walk.stop, Except.map, Accounts] using walk.runsOver again
  | succ remaining ih =>
    by_cases again : current ∈ seen
    · simpa [walkFrom, again, Walk.stop, Except.map, Accounts] using walk.repeats again
    · by_cases registered : registry.IsRegistered current
      · rw [walkFrom, if_neg again, superOf_of_registered registered]
        cases link : registry.super? current with
        | none => exact walk.ends again registered link
        | some super =>
          have rest := ih (walk.next again link)
          cases outcome : (registry.walkFrom start limit remaining (current :: seen) super).outcome <;>
            simpa [Walk.after, outcome, Except.map] using rest
      · rw [walkFrom, if_neg again, superOf_of_not_registered registered]
        exact walk.leaves registered

end Underway

theorem accounts_ancestors (registry : Registry) (start : ClassId) (limit : Nat) :
    registry.Accounts start limit (registry.ancestors start limit) := by
  have whole := (Underway.start_walk registry start limit).accounts
  cases outcome : (registry.walkFrom start limit limit [] start).outcome <;>
    simpa [ancestors, walk, outcome, Except.map] using whole

/-! ## Only one end fits -/

/-- The place where a walk along the chain stops: the places before it are clear, and it is as far as
the limit allows or not clear itself. -/
structure StopsAt (registry : Registry) (start : ClassId) (limit place : Nat) : Prop where
  clear : registry.ClearBefore start place
  within : place ≤ limit
  last : place < limit → ¬ registry.ClearBefore start (place + 1)

theorem StopsAt.unique {first second : Nat} (stops : registry.StopsAt start limit first)
    (stops' : registry.StopsAt start limit second) : first = second := by
  -- a walk that stops later finds the earlier place clear
  have notBefore {first second : Nat} (stops : registry.StopsAt start limit first)
      (stops' : registry.StopsAt start limit second) : ¬ first < second :=
    fun before => stops.last (Nat.lt_of_lt_of_le before stops'.within) (stops'.clear.mono before)
  exact Nat.le_antisymm (Nat.le_of_not_lt (notBefore stops' stops))
    (Nat.le_of_not_lt (notBefore stops stops'))

/-- The outcome that the chain calls for when a walk stops at a place. -/
def verdict (registry : Registry) (start : ClassId) (limit place : Nat) :
    Except Error (List ClassId) :=
  match registry.superAt? start place with
  | none => .ok ((List.range place).filterMap (registry.superAt? start))
  | some id =>
    if some id ∈ (List.range place).map (registry.superAt? start) then .error (.cyclicHierarchy id)
    else if place = limit then .error (.hierarchyTooDeep start limit)
    else .error (.unknownClass id)

/-- Behind the end of a chain no place is clear. -/
theorem not_clearBefore_of_superAt?_eq_none {place : Nat}
    (ended : registry.superAt? start place = none) : ¬ registry.ClearBefore start (place + 1) := by
  intro clear
  obtain ⟨id, here, _⟩ := clear.registered place (Nat.lt_succ_self place)
  rw [ended] at here
  cases here

theorem Ends.stopsAt {ids : List ClassId} (ends : registry.Ends start limit ids) :
    ∃ place, registry.StopsAt start limit place ∧ registry.verdict start limit place = .ok ids := by
  obtain ⟨place, last, clear, here, isLast, within, listed⟩ := ends
  obtain ⟨_, here', registered⟩ := clear.registered place (Nat.lt_succ_self place)
  cases here.symm.trans here'
  have ended : registry.superAt? start (place + 1) = none := by
    rw [superOf_of_registered registered, Except.ok.injEq] at isLast
    rw [superAt?_succ here, isLast]
  refine ⟨place + 1, ⟨clear, within, fun _ => not_clearBefore_of_superAt?_eq_none ended⟩, ?_⟩
  have all : (List.range (place + 1)).filterMap (registry.superAt? start) = ids := by
    calc (List.range (place + 1)).filterMap (registry.superAt? start)
        = ((List.range (place + 1)).map (registry.superAt? start)).filterMap id := by
          rw [List.filterMap_map]
          rfl
      _ = ids := by rw [← listed, List.filterMap_map]; simp
  rw [verdict, ended, all]

theorem Repeats.stopsAt (repeats : registry.Repeats start limit id) :
    ∃ place, registry.StopsAt start limit place ∧
      registry.verdict start limit place = .error (.cyclicHierarchy id) := by
  obtain ⟨place, within, clear, here, earlier, before, met⟩ := repeats
  refine ⟨place, ⟨clear, within, fun _ further => ?_⟩, ?_⟩
  · exact further.distinct before (Nat.lt_succ_self place) (met.trans here.symm)
  · have again : some id ∈ (List.range place).map (registry.superAt? start) :=
      List.mem_map.mpr ⟨earlier, List.mem_range.mpr before, met⟩
    rw [verdict, here]
    exact if_pos again

theorem RunsOver.stopsAt (runsOver : registry.RunsOver start limit) :
    ∃ place, registry.StopsAt start limit place ∧
      registry.verdict start limit place = .error (.hierarchyTooDeep start limit) := by
  obtain ⟨id, clear, here, new⟩ := runsOver
  refine ⟨limit, ⟨clear, Nat.le_refl limit, fun more => absurd more (Nat.lt_irrefl limit)⟩, ?_⟩
  have notMet : some id ∉ (List.range limit).map (registry.superAt? start) := by
    simpa using new
  rw [verdict, here]
  exact (if_neg notMet).trans (if_pos rfl)

theorem Leaves.stopsAt (leaves : registry.Leaves start limit id) :
    ∃ place, registry.StopsAt start limit place ∧
      registry.verdict start limit place = .error (.unknownClass id) := by
  obtain ⟨place, within, clear, here, missing⟩ := leaves
  refine ⟨place, ⟨clear, Nat.le_of_lt within, fun _ further => ?_⟩, ?_⟩
  · obtain ⟨_, here', registered⟩ := further.registered place (Nat.lt_succ_self place)
    cases here.symm.trans here'
    exact missing registered
  · have notMet : some id ∉ (List.range place).map (registry.superAt? start) := by
      intro met
      obtain ⟨earlier, before, there⟩ := List.mem_map.mp met
      obtain ⟨_, there', registered⟩ := clear.registered earlier (List.mem_range.mp before)
      cases there.symm.trans there'
      exact missing registered
    rw [verdict, here]
    exact (if_neg notMet).trans (if_neg (Nat.ne_of_lt within))

theorem Accounts.stopsAt {outcome : Except Error (List ClassId)}
    (accounts : registry.Accounts start limit outcome) :
    ∃ place, registry.StopsAt start limit place ∧ registry.verdict start limit place = outcome := by
  match outcome, accounts with
  | .ok ids, ends => exact Ends.stopsAt ends
  | .error (.cyclicHierarchy id), repeats => exact Repeats.stopsAt repeats
  | .error (.hierarchyTooDeep _ _), ⟨rfl, rfl, runsOver⟩ => exact runsOver.stopsAt
  | .error (.unknownClass id), leaves => exact Leaves.stopsAt leaves

/-- A walk has the one outcome that its chain calls for. -/
theorem ancestors_eq_iff {outcome : Except Error (List ClassId)} :
    registry.ancestors start limit = outcome ↔ registry.Accounts start limit outcome := by
  constructor
  · rintro rfl
    exact accounts_ancestors registry start limit
  · intro accounts
    obtain ⟨place, stops, rfl⟩ := accounts.stopsAt
    obtain ⟨place', stops', walked⟩ := (accounts_ancestors registry start limit).stopsAt
    rw [← walked, stops.unique stops']

/-- The class that a chain comes back to first is the one through which it enters its round: from its
first place on the chain goes round through it, and no class before it is met again. -/
theorem Repeats.entry (repeats : registry.Repeats start limit id) :
    ∃ first round, 0 < round ∧ registry.superAt? start first = some id ∧
      (∀ place, first ≤ place →
        registry.superAt? start (place + round) = registry.superAt? start place) ∧
      ∀ earlier < first, ∀ later > earlier,
        registry.superAt? start later ≠ registry.superAt? start earlier := by
  obtain ⟨place, _, clear, here, first, before, met⟩ := repeats
  have same := met.trans here.symm
  refine ⟨first, place - first, by omega, met, fun other behind => ?_, ?_⟩
  · obtain ⟨further, rfl⟩ := Nat.exists_eq_add_of_le behind
    have round : first + further + (place - first) = place + further := by omega
    rw [round]
    exact (superAt?_add_of_eq same further).symm
  · intro earlier beforeFirst later behind again
    rcases Nat.lt_or_ge later first with stillBefore | inRound
    · exact clear.distinct behind (by omega) again.symm
    · obtain ⟨within, fromFirst, inside, shown⟩ := exists_superAt?_eq_of_round before same inRound
      exact clear.distinct (by omega : earlier < within) inside (again.symm.trans shown)

/-- For every registry, whatever its super links, every start and every limit: which outcome a walk
has depends on its chain alone. The four ways to end are exhaustive and exclude each other, and a
chain that comes back is reported at the class through which it enters its round. -/
theorem ancestors_outcome (registry : Registry) (start : ClassId) (limit : Nat) :
    (∀ ids, registry.ancestors start limit = .ok ids ↔ registry.Ends start limit ids) ∧
    (∀ id, registry.ancestors start limit = .error (.cyclicHierarchy id) ↔
      registry.Repeats start limit id) ∧
    (∀ id levels, registry.ancestors start limit = .error (.hierarchyTooDeep id levels) ↔
      id = start ∧ levels = limit ∧ registry.RunsOver start limit) ∧
    (∀ id, registry.ancestors start limit = .error (.unknownClass id) ↔
      registry.Leaves start limit id) ∧
    ((∃ ids, registry.Ends start limit ids) ∨ (∃ id, registry.Repeats start limit id) ∨
      registry.RunsOver start limit ∨ ∃ id, registry.Leaves start limit id) ∧
    [∃ ids, registry.Ends start limit ids, ∃ id, registry.Repeats start limit id,
      registry.RunsOver start limit, ∃ id, registry.Leaves start limit id].Pairwise
        (fun one other => ¬ (one ∧ other)) ∧
    ∀ id, registry.ancestors start limit = .error (.cyclicHierarchy id) →
      ∃ first round, 0 < round ∧ registry.superAt? start first = some id ∧
        (∀ place, first ≤ place →
          registry.superAt? start (place + round) = registry.superAt? start place) ∧
        ∀ earlier < first, ∀ later > earlier,
          registry.superAt? start later ≠ registry.superAt? start earlier := by
  have ends (ids) : registry.ancestors start limit = .ok ids ↔ registry.Ends start limit ids :=
    ancestors_eq_iff
  have repeats (id) : registry.ancestors start limit = .error (.cyclicHierarchy id) ↔
      registry.Repeats start limit id := ancestors_eq_iff
  have runsOver (id levels) : registry.ancestors start limit = .error (.hierarchyTooDeep id levels) ↔
      id = start ∧ levels = limit ∧ registry.RunsOver start limit := ancestors_eq_iff
  have leaves (id) : registry.ancestors start limit = .error (.unknownClass id) ↔
      registry.Leaves start limit id := ancestors_eq_iff
  refine ⟨ends, repeats, runsOver, leaves, ?_, ?_, fun id cyclic => ((repeats id).mp cyclic).entry⟩
  · have accounts := accounts_ancestors registry start limit
    match registry.ancestors start limit, accounts with
    | .ok ids, found => exact .inl ⟨ids, found⟩
    | .error (.cyclicHierarchy id), found => exact .inr (.inl ⟨id, found⟩)
    | .error (.hierarchyTooDeep _ _), found => exact .inr (.inr (.inl found.2.2))
    | .error (.unknownClass id), found => exact .inr (.inr (.inr ⟨id, found⟩))
  · -- each way to end fixes the outcome, and the four outcomes are different
    have tooDeep := runsOver start limit
    simp only [true_and] at tooDeep
    simp only [List.pairwise_cons, List.forall_mem_cons, ← ends, ← repeats, ← tooDeep, ← leaves]
    simp +contextual

/-- A class that is its own super is a cycle, if there is a level left to see that. -/
example :
    let registry : Registry := ⟨#[⟨"A", .user, none, some ⟨0⟩, ⟨0⟩, ⟨1⟩⟩], {}⟩
    registry.ancestors ⟨0⟩ 1 = .error (.cyclicHierarchy ⟨0⟩) ∧
      registry.ancestors ⟨0⟩ 0 = .error (.hierarchyTooDeep ⟨0⟩ 0) :=
  ⟨rfl, rfl⟩

end ObjectModel.Registry
