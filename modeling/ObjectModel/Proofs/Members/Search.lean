import ObjectModel.Proofs.Chains.Forest
import ObjectModel.Proofs.Runs.Growth

/-! # How the search for a member goes

The search for a member of a value has six ways to go. It is over at once where the table of the
value itself has the name, and for a class it is over then in any case. For every other value it goes
along the classes of the chain, once the whole chain is known, to the first whose class-level table
has the name. The search changes nothing but the journal, and leaves a record there only where it
found the member on the chain.
-/

namespace ObjectModel

/-- The table behind a handle has an entry of this name with this value, whatever its tier. -/
def Store.Holds (store : Store) (ref : TableRef) (name : String) (member : Value) : Prop :=
  ∃ entry ∈ (store.table ref).entries, entry.name = name ∧ entry.value = member

/-- No entry of the table behind a handle has this name. -/
def Store.Lacks (store : Store) (ref : TableRef) (name : String) : Prop :=
  ∀ entry ∈ (store.table ref).entries, entry.name ≠ name

/-- The records that a search leaves for what it found. -/
def Resolution.records (name : String) : Resolution → List LogRecord
  | own _ => []
  | inherited owner _ => [.resolved name owner]

namespace Store

variable {store : Store} {ref : TableRef} {name : String}

theorem Coherent.find?_of_holds (coherent : store.Coherent) {member : Value}
    (holds : store.Holds ref name member) : (store.table ref).find? name = some member :=
  (coherent.table ref).find?_eq_some_iff.mpr holds

theorem Coherent.find?_of_lacks (coherent : store.Coherent) (lacks : store.Lacks ref name) :
    (store.table ref).find? name = none :=
  (coherent.table ref).find?_eq_none_iff.mpr lacks

theorem lacks_or_holds (store : Store) (ref : TableRef) (name : String) :
    store.Lacks ref name ∨ ∃ member, store.Holds ref name member := by
  by_cases present : ∃ entry ∈ (store.table ref).entries, entry.name = name
  · obtain ⟨entry, member, named⟩ := present
    exact .inr ⟨entry.value, entry, member, named, rfl⟩
  · exact .inl fun entry member named => present ⟨entry, member, named⟩

end Store

namespace Registry

/-- The class-level table of a class has an entry of this name with this value. -/
def ClassHolds (registry : Registry) (store : Store) (id : ClassId) (name : String)
    (member : Value) : Prop :=
  ∃ ref, registry.membersOf id = .ok ref ∧ store.Holds ref name member

/-- No entry of the class-level table of a class has this name. -/
def ClassLacks (registry : Registry) (store : Store) (id : ClassId) (name : String) : Prop :=
  ∃ ref, registry.membersOf id = .ok ref ∧ store.Lacks ref name

/-- The value is no class and its own table does not have the name, so the search goes on along the
chain of its class. -/
structure GoesOn (registry : Registry) (store : Store) (value : Value) (name : String)
    (start : ClassId) : Prop where
  noClass : value.classId? = none
  own : ∃ ref, registry.tableOfValue value = .ok ref ∧ store.Lacks ref name
  start : registry.classOfValue value = .ok start

/-- How the search for a member of a value goes: the outcome that it has and the records that it
leaves. -/
inductive Search (registry : Registry) (store : Store) (name : String) (limit : Nat) :
    Value → Except Error Value → List LogRecord → Prop
  | own {value member : Value} {ref : TableRef} (table : registry.tableOfValue value = .ok ref)
      (holds : store.Holds ref name member) : Search registry store name limit value (.ok member) []
  | unknownClass {id : ClassId} (missing : ¬ registry.IsRegistered id) :
      Search registry store name limit (.ofClass id) (.error (.unknownClass id)) []
  /-- A class is searched no further than its own table. -/
  | classLacks {id : ClassId} (lacks : registry.ClassLacks store id name) :
      Search registry store name limit (.ofClass id) (.error (.notFound name)) []
  | walkFails {value : Value} {start : ClassId} {cause : Error}
      (goesOn : registry.GoesOn store value name start)
      (walk : registry.ancestors start limit = .error cause) :
      Search registry store name limit value (.error cause) []
  /-- The owner is the nearest class that has the name. -/
  | inherited {value member : Value} {start owner : ClassId} {nearer further : List ClassId}
      (goesOn : registry.GoesOn store value name start)
      (walk : registry.ancestors start limit = .ok (nearer ++ owner :: further))
      (lack : ∀ id ∈ nearer, registry.ClassLacks store id name)
      (holds : registry.ClassHolds store owner name member) :
      Search registry store name limit value (.ok member) [.resolved name owner]
  | missing {value : Value} {start : ClassId} {chain : List ClassId}
      (goesOn : registry.GoesOn store value name start)
      (walk : registry.ancestors start limit = .ok chain)
      (lack : ∀ id ∈ chain, registry.ClassLacks store id name) :
      Search registry store name limit value (.error (.notFound name)) []

variable {registry : Registry} {store : Store} {value : Value} {name : String} {limit : Nat}
  {start id : ClassId}

/-! ## One of the six ways -/

theorem exists_membersOf (registered : registry.IsRegistered id) :
    ∃ ref, registry.membersOf id = .ok ref := by
  have found : registry.recordOf id = .ok registry.classes[id.index] :=
    Registry.recordOf_eq_ok_iff.mpr (Array.getElem?_eq_getElem registered)
  exact ⟨_, by rw [membersOf, found]; rfl⟩

/-- The classes of a chain that a walk goes to its end are registered. -/
theorem isRegistered_of_mem_ancestors {chain : List ClassId}
    (walk : registry.ancestors start limit = .ok chain) (member : id ∈ chain) :
    registry.IsRegistered id :=
  (ancestors_eq_ok_iff.mp walk).2.2.2.1 id member

/-- Along registered classes either all lack the name, or there is a nearest one that has it. -/
theorem lack_or_nearest (store : Store) (name : String) {chain : List ClassId}
    (registered : ∀ id ∈ chain, registry.IsRegistered id) :
    (∀ id ∈ chain, registry.ClassLacks store id name) ∨
      ∃ nearer owner further member, chain = nearer ++ owner :: further ∧
        (∀ id ∈ nearer, registry.ClassLacks store id name) ∧
        registry.ClassHolds store owner name member := by
  induction chain with
  | nil => exact .inl (by simp)
  | cons first rest ih =>
    obtain ⟨ref, table⟩ := exists_membersOf (registered first List.mem_cons_self)
    rcases store.lacks_or_holds ref name with lacks | ⟨member, holds⟩
    · have firstLacks : registry.ClassLacks store first name := ⟨ref, table, lacks⟩
      rcases ih fun id member => registered id (List.mem_cons_of_mem first member) with
        all | ⟨nearer, owner, further, member, rfl, lack, holds⟩
      · exact .inl (List.forall_mem_cons.mpr ⟨firstLacks, all⟩)
      · exact .inr ⟨first :: nearer, owner, further, member, rfl,
          List.forall_mem_cons.mpr ⟨firstLacks, lack⟩, holds⟩
    · exact .inr ⟨[], first, rest, member, rfl, by simp, ref, table, holds⟩

theorem exists_search_of_goesOn (goesOn : registry.GoesOn store value name start) (limit : Nat) :
    ∃ outcome records, registry.Search store name limit value outcome records := by
  cases walk : registry.ancestors start limit with
  | error cause => exact ⟨_, _, .walkFails goesOn walk⟩
  | ok chain =>
    rcases lack_or_nearest store name fun id member => isRegistered_of_mem_ancestors walk member with
      all | ⟨nearer, owner, further, member, rfl, lack, holds⟩
    · exact ⟨_, _, .missing goesOn walk all⟩
    · exact ⟨_, _, .inherited goesOn walk lack holds⟩

theorem exists_search (registry : Registry) (store : Store) (value : Value) (name : String)
    (limit : Nat) : ∃ outcome records, registry.Search store name limit value outcome records := by
  have ofTable {ref : TableRef} {start : ClassId} (noClass : value.classId? = none)
      (table : registry.tableOfValue value = .ok ref)
      (carried : registry.classOfValue value = .ok start) :
      ∃ outcome records, registry.Search store name limit value outcome records := by
    rcases store.lacks_or_holds ref name with lacks | ⟨member, holds⟩
    · exact exists_search_of_goesOn ⟨noClass, ⟨ref, table, lacks⟩, carried⟩ limit
    · exact ⟨_, _, .own table holds⟩
  cases value with
  | ofClass id =>
    by_cases registered : registry.IsRegistered id
    · obtain ⟨ref, table⟩ := exists_membersOf registered
      rcases store.lacks_or_holds ref name with lacks | ⟨member, holds⟩
      · exact ⟨_, _, .classLacks ⟨ref, table, lacks⟩⟩
      · exact ⟨_, _, .own table holds⟩
    · exact ⟨_, _, .unknownClass registered⟩
  | plain object => exact ofTable rfl rfl rfl
  | method wrapped => exact ofTable rfl rfl rfl
  | unboundMethod wrapped => exact ofTable rfl rfl rfl

/-! ## What a look-up performs -/

theorem perform_lookup_of_error {cause : Error}
    (failed : registry.resolve store value name limit = .error cause) :
    (registry.lookup value name limit).perform store = (.error cause, store) := by
  simp [lookup, Effect.perform_bind, failed]

/-- A look-up answers the member that it found, and records it if it was inherited. -/
theorem perform_lookup_of_ok {resolution : Resolution}
    (found : registry.resolve store value name limit = .ok resolution) :
    (registry.lookup value name limit).perform store =
      (.ok resolution.value,
        { store with journal := store.journal ++ (resolution.records name).toArray }) := by
  cases resolution <;>
    simp [lookup, Effect.perform_bind, found, Resolution.value, Resolution.records]

theorem resolve_of_find?_eq_some {ref : TableRef} {member : Value}
    (table : registry.tableOfValue value = .ok ref)
    (found : (store.table ref).find? name = some member) (limit : Nat) :
    registry.resolve store value name limit = .ok (.own member) := by
  simp [resolve, table, found]

theorem resolve_of_goesOn (coherent : store.Coherent)
    (goesOn : registry.GoesOn store value name start) (limit : Nat) :
    registry.resolve store value name limit =
      registry.ancestors start limit >>= registry.firstDefiner store name := by
  obtain ⟨noClass, ⟨ref, table, lacks⟩, carried⟩ := goesOn
  have absent := coherent.find?_of_lacks lacks
  cases value with
  | ofClass id => cases noClass
  | plain object => simp [resolve, table, absent, carried]
  | method wrapped => simp [resolve, table, absent, carried]
  | unboundMethod wrapped => simp [resolve, table, absent, carried]

theorem firstDefiner_append (coherent : store.Coherent) {nearer : List ClassId}
    (lack : ∀ id ∈ nearer, registry.ClassLacks store id name) (further : List ClassId) :
    registry.firstDefiner store name (nearer ++ further) =
      registry.firstDefiner store name further := by
  induction nearer with
  | nil => rfl
  | cons first rest ih =>
    obtain ⟨⟨ref, table, lacks⟩, lackRest⟩ := List.forall_mem_cons.mp lack
    rw [List.cons_append, firstDefiner, table, ok_bind, coherent.find?_of_lacks lacks]
    exact ih lackRest

/-- A look-up performs what the search calls for. -/
theorem Search.perform_lookup (coherent : store.Coherent) {outcome : Except Error Value}
    {records : List LogRecord} (search : registry.Search store name limit value outcome records) :
    (registry.lookup value name limit).perform store =
      (outcome, { store with journal := store.journal ++ records.toArray }) := by
  cases search with
  | own table holds =>
    exact perform_lookup_of_ok (resolve_of_find?_eq_some table (coherent.find?_of_holds holds) limit)
  | @unknownClass id missing =>
    have failed : registry.resolve store (.ofClass id) name limit = .error (.unknownClass id) := by
      simp [resolve, tableOfValue, membersOf, recordOf_of_not_registered missing]
    rw [perform_lookup_of_error failed]
    simp
  | @classLacks id lacks =>
    obtain ⟨ref, table, lacks⟩ := lacks
    have failed : registry.resolve store (.ofClass id) name limit = .error (.notFound name) := by
      simp [resolve, tableOfValue, table, coherent.find?_of_lacks lacks]
    rw [perform_lookup_of_error failed]
    simp
  | @walkFails _ start cause goesOn walk =>
    have failed : registry.resolve store value name limit = .error cause := by
      rw [resolve_of_goesOn coherent goesOn, walk, error_bind]
    rw [perform_lookup_of_error failed]
    simp
  | @inherited _ member start owner nearer further goesOn walk lack holds =>
    obtain ⟨ref, table, holds⟩ := holds
    have found : registry.resolve store value name limit = .ok (.inherited owner member) := by
      rw [resolve_of_goesOn coherent goesOn, walk, ok_bind, firstDefiner_append coherent lack,
        firstDefiner, table, ok_bind, coherent.find?_of_holds holds]
      rfl
    exact perform_lookup_of_ok found
  | @missing _ start chain goesOn walk lack =>
    have failed : registry.resolve store value name limit = .error (.notFound name) := by
      have ended := firstDefiner_append coherent lack []
      rw [resolve_of_goesOn coherent goesOn, walk, ok_bind, ← List.append_nil chain, ended]
      rfl
    rw [perform_lookup_of_error failed]
    simp

/-- Only one way to go fits, with one outcome and one list of records. -/
theorem Search.unique (coherent : store.Coherent) {outcome outcome' : Except Error Value}
    {records records' : List LogRecord}
    (search : registry.Search store name limit value outcome records)
    (search' : registry.Search store name limit value outcome' records') :
    outcome = outcome' ∧ records = records' := by
  have performed := (search.perform_lookup coherent).symm.trans (search'.perform_lookup coherent)
  simpa only [Prod.mk.injEq, Store.mk.injEq, Array.append_right_inj, true_and, and_true,
    Array.mk.injEq] using performed

/-- A search that fails leaves no record. -/
theorem Search.records_of_error {cause : Error} {records : List LogRecord}
    (search : registry.Search store name limit value (.error cause) records) : records = [] := by
  cases search <;> rfl

/-- For every registry, value, name and limit the search goes in one of the six ways, a look-up
performs exactly that, and the record that it leaves for an inherited member is a trace which names
the member and the class that has it. The tables of every store that a run leads to are coherent. -/
theorem lookup_outcome (registry : Registry) (value : Value) (name : String) (limit : Nat)
    {store : Store} (coherent : store.Coherent) :
    (∃ outcome records, registry.Search store name limit value outcome records) ∧
    (∀ outcome records, registry.Search store name limit value outcome records ↔
      (registry.lookup value name limit).perform store =
        (outcome, { store with journal := store.journal ++ records.toArray })) ∧
    ∀ owner : ClassId, (LogRecord.resolved name owner).level = .trace ∧
      (LogRecord.resolved name owner).message =
        "resolved '" ++ name ++ "' on #" ++ owner.index.repr := by
  obtain ⟨outcome, records, search⟩ := registry.exists_search store value name limit
  refine ⟨⟨outcome, records, search⟩, fun outcome' records' => ?_, fun owner => ⟨rfl, ?_⟩⟩
  · refine ⟨fun search' => search'.perform_lookup coherent, fun performed => ?_⟩
    rw [search.perform_lookup coherent] at performed
    simp only [Prod.mk.injEq, Store.mk.injEq, Array.append_right_inj, true_and, and_true,
      Array.mk.injEq] at performed
    obtain ⟨rfl, rfl⟩ := performed
    exact search
  · have sign : "' on " ++ "#" = "' on #" := by simp
    calc "resolved '" ++ name ++ "' on " ++ ("#" ++ owner.index.repr)
        = "resolved '" ++ name ++ ("' on " ++ "#") ++ owner.index.repr := by
          simp only [String.append_assoc]
      _ = "resolved '" ++ name ++ "' on #" ++ owner.index.repr := by rw [sign]

/-- On a chain of three classes, of which the second and the third have the name, an instance gets
the member of the second, though it is hidden there, and the limit is just large enough. -/
theorem lookup_outcome_shadowed :
    let store : Store :=
      { Store.empty with
        tables := #[PropertyTable.empty.set publicTier "x" (.ofClass ⟨0⟩),
          PropertyTable.empty.set "hidden" "x" (.ofClass ⟨1⟩), .empty] }
    let registry : Registry :=
      ⟨#[⟨"A", .user, none, none, ⟨0⟩, ⟨2⟩⟩, ⟨"B", .user, none, some ⟨0⟩, ⟨1⟩, ⟨2⟩⟩,
        ⟨"C", .user, none, some ⟨1⟩, ⟨2⟩, ⟨2⟩⟩], {}⟩
    store.Coherent ∧
      (registry.lookup (.plain ⟨0, ⟨2⟩, ⟨2⟩, none⟩) "x" 3).perform store =
        (.ok (.ofClass ⟨1⟩), { store with journal := #[.resolved "x" ⟨1⟩] }) := by
  intro store registry
  have coherent : store.Coherent := by
    intro table member
    simp only [store, List.mem_toArray, List.mem_cons, List.not_mem_nil, or_false] at member
    rcases member with rfl | rfl | rfl
    · exact PropertyTable.coherent_set PropertyTable.coherent_empty _ _ _
    · exact PropertyTable.coherent_set PropertyTable.coherent_empty _ _ _
    · exact PropertyTable.coherent_empty
  have bare : (store.table ⟨2⟩).entries = #[] := rfl
  have ownLacks : store.Lacks ⟨2⟩ "x" := by
    intro entry member
    simp [bare] at member
  have hidden : store.Holds ⟨1⟩ "x" (.ofClass ⟨1⟩) :=
    ⟨⟨"x", "hidden", .ofClass ⟨1⟩⟩, Array.mem_of_getElem? (i := 0) rfl, rfl, rfl⟩
  have walk : registry.ancestors ⟨2⟩ 3 = .ok ([⟨2⟩] ++ ⟨1⟩ :: [⟨0⟩]) := rfl
  have search : registry.Search store "x" 3 (.plain ⟨0, ⟨2⟩, ⟨2⟩, none⟩) (.ok (.ofClass ⟨1⟩))
      [.resolved "x" ⟨1⟩] :=
    .inherited ⟨rfl, ⟨⟨2⟩, rfl, ownLacks⟩, rfl⟩ walk
      (List.forall_mem_singleton.mpr ⟨⟨2⟩, rfl, ownLacks⟩) ⟨⟨1⟩, rfl, hidden⟩
  exact ⟨coherent, ((lookup_outcome registry _ "x" 3 coherent).2.1 _ _).mp search⟩

end Registry

end ObjectModel
