import ObjectModel.Proofs.Tables.Ownership

/-! # What the history of writes tells

The store keeps a history of the changes made to tables. It leaves nothing out: what became of a
table since some earlier world is what the changes made of it that came into the history since then.
A change whose writer did not hold the table was made through the members of a class of the context
in which the writer acted.
-/

namespace ObjectModel

open Relation

/-- The changes to the table behind a handle among some writes, in their order. -/
def TableRef.changesIn (ref : TableRef) (writes : List TableWrite) : List TableChange :=
  (writes.filter (·.table = ref)).map TableWrite.change

theorem TableRef.changesIn_append (ref : TableRef) (first second : List TableWrite) :
    ref.changesIn (first ++ second) = ref.changesIn first ++ ref.changesIn second := by
  simp [changesIn]

theorem TableRef.changesIn_singleton (ref : TableRef) (write : TableWrite) :
    ref.changesIn [write] = ref.concerned (some (write.table, write.change)) := by
  by_cases same : write.table = ref <;> simp [changesIn, concerned, same]

namespace World

variable {world later : World}

/-- A move makes no change to a table that is there. The bootstrap changes a table that it adds. -/
theorem Move.writes_cases (move : Move world later) :
    later.store.writes = world.store.writes ∨
      ∃ route change, later.store.writes =
        world.store.writes.push ⟨⟨world.store.tables.size⟩, route, change⟩ := by
  cases move with
  | store move => cases move <;> exact .inl rfl
  | keep | register | createClass | bind | openBare => exact .inl rfl
  | openRealm => exact .inr ⟨_, _, rfl⟩

theorem writes_of_quiet (moves : ReflTransGen Quiet world later) :
    later.store.writes = world.store.writes := by
  induction moves with
  | refl => rfl
  | @tail middle later _ last ih =>
    obtain ⟨move, contexts⟩ := last
    cases move with
    | store move => cases move <;> exact ih
    | keep | register | createClass | bind | openBare => exact ih
    | openRealm => exact absurd (congrArg Array.size contexts) (by simp)

/-- In one turn the history grows by the change that is named, apart from changes to new tables. -/
theorem Turn.exists_writes {change? : Option (TableRef × TableChange)}
    (turn : world.Turn change? later) :
    ∃ made, later.store.writes.toList = world.store.writes.toList ++ made ∧
      (∀ ref : TableRef, ref.index < world.store.tables.size →
        ref.changesIn made = ref.concerned change?) ∧
      ∀ write ∈ made, write.table.index < world.store.tables.size →
        change? = some (write.table, write.change) := by
  cases turn with
  | quiet moves => exact ⟨[], by simp [writes_of_quiet moves], fun _ _ => rfl, by simp⟩
  | change moves target route change =>
    refine ⟨[⟨target, route, change⟩], ?_, fun ref _ => ref.changesIn_singleton _, by simp⟩
    simp [written, writes_of_quiet moves]
  | move one =>
    rcases one.writes_cases with same | ⟨route, change, pushed⟩
    · exact ⟨[], by simp [same], fun _ _ => rfl, by simp⟩
    · refine ⟨[⟨⟨world.store.tables.size⟩, route, change⟩], by simp [pushed], fun ref bound => ?_, ?_⟩
      · have new : (⟨world.store.tables.size⟩ : TableRef) ≠ ref := by
          rintro rfl
          exact Nat.lt_irrefl _ bound
        rw [ref.changesIn_singleton, TableRef.concerned, if_neg new]
        rfl
      · intro write member bound
        rw [List.mem_singleton.mp member] at bound
        exact absurd bound (Nat.lt_irrefl _)

theorem tableOf?_of_throughMembers? {context : Nat} {target : ClassId} {change changed : TableChange}
    {ref : TableRef} (through : world.throughMembers? context target change = some (ref, changed)) :
    world.tableOf? (.members context target) = some ref := by
  obtain ⟨realm, there, through⟩ := Option.bind_eq_some_iff.mp through
  obtain ⟨found, members, same⟩ := Option.bind_eq_some_iff.mp through
  cases same
  cases membersOf : realm.registry.membersOf target with
  | error cause =>
    rw [membersOf] at members
    cases members
  | ok ref =>
    rw [membersOf] at members
    cases members
    exact (tableOf?_members_iff (realm?_eq_some_iff.mp there)).mpr membersOf

/-- An operation changes a table because its handle is held, or as the members of a class of the
context in which the operation acts. -/
theorem change?_cases {action : Action} {ref : TableRef} {change : TableChange}
    (named : action.change? world = some (ref, change)) :
    action = .write ref change ∨ ∀ context, action.ActsIn context →
      ∃ id, world.tableOf? (.members context id) = some ref := by
  cases action with
  | setProperty acted target tier name value =>
    refine .inr ?_
    rintro context rfl
    exact ⟨target, tableOf?_of_throughMembers? named⟩
  | defineMethod acted convention target name callable =>
    refine .inr ?_
    rintro context rfl
    obtain ⟨method, _, through⟩ := Option.bind_eq_some_iff.mp named
    exact ⟨target, tableOf?_of_throughMembers? through⟩
  | write target changed =>
    cases named
    exact .inl rfl
  | _ => cases named

/-- One operation makes what the history tells of it, and where the writer did not hold the table the
change went through the members of a class of the context in which the operation acts. -/
theorem exists_writes_act (world : World) (action : Action) :
    ∃ made, (world.act action).store.writes.toList = world.store.writes.toList ++ made ∧
      (∀ ref : TableRef, ref.index < world.store.tables.size →
        (world.act action).store.table ref =
          (ref.changesIn made).foldl PropertyTable.apply (world.store.table ref)) ∧
      ∀ write ∈ made, write.table.index < world.store.tables.size → write.route = .members →
        ∀ context, action.ActsIn context →
          ∃ id, world.tableOf? (.members context id) = some write.table := by
  obtain ⟨made, appended, changes, named⟩ := (action.act_turn world).exists_writes
  refine ⟨made, appended, fun ref bound => ?_, fun write member bound route => ?_⟩
  · rw [table_act world action bound, Action.changesAt, changes ref bound]
  · rcases change?_cases (named write member bound) with rfl | through
    · -- a writer who holds the table says so in the history
      have held : (world.act (.write write.table write.change)).store.writes.toList =
          world.store.writes.toList ++ [⟨write.table, .handle, write.change⟩] := by
        simp [act, Action.effect]
      have one := List.append_cancel_left (appended.symm.trans held)
      rw [one, List.mem_singleton] at member
      rw [member] at route
      cases route
    · exact through

end World

end ObjectModel
