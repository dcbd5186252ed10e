import ObjectModel.Proofs.Members.Dependence

/-! # What a write to a table does to look-ups

A change of one name in one table can only matter to a search for that name, and only if the search
comes to the table: the table is that of the value itself, or it belongs to a class on the chain and no
table before it has the name. Then a member that is set is found, at once and by every value that was
there before, and where a member is removed the search goes on behind the table. A class is searched no
further than its own table, so it does not see what its supers are given.
-/

namespace ObjectModel

/-- The change is to this name alone, and leaves this to be found under it. -/
inductive TableChange.Puts (name : String) : TableChange → Option Value → Prop
  | set (tier : String) (value : Value) : Puts name (.set tier name value) (some value)
  | remove : Puts name (.remove name) none

theorem PropertyTable.Coherent.find?_apply {table : PropertyTable} (coherent : table.Coherent)
    {name : String} {change : TableChange} {left : Option Value} (puts : change.Puts name left)
    (other : String) :
    (table.apply change).find? other = if other = name then left else table.find? other := by
  rw [find?, coherent.entryOf?_apply, find?, coherent.entryOf?_eq]
  cases puts with
  | set tier value =>
    rw [EntryList.apply, EntryList.entryOf?_set]
    split <;> rfl
  | remove =>
    rw [EntryList.apply, EntryList.entryOf?_remove]
    split <;> rfl

namespace Store

variable {store after : Store} {ref other : TableRef} {name : String} {member : Value}

theorem Coherent.shown_eq_none_iff (coherent : store.Coherent) :
    store.shown ref name = none ↔ store.Lacks ref name :=
  (coherent.table ref).find?_eq_none_iff

theorem Coherent.shown_eq_some_iff (coherent : store.Coherent) :
    store.shown ref name = some member ↔ store.Holds ref name member :=
  (coherent.table ref).find?_eq_some_iff

/-- The later store shows what the earlier one shows, but for one name in one table. -/
structure PutsAt (store : Store) (ref : TableRef) (name : String) (left : Option Value)
    (after : Store) : Prop where
  coherent : store.Coherent
  coherent' : after.Coherent
  shown : ∀ other key,
    after.shown other key = if other = ref ∧ key = name then left else store.shown other key

theorem Coherent.putsAt_write (coherent : store.Coherent) (there : ref.index < store.tables.size)
    (route : WriteRoute) {change : TableChange} {left : Option Value} (puts : change.Puts name left) :
    store.PutsAt ref name left ((Store.write ref route change).perform store).2 where
  coherent := coherent
  coherent' := coherent.write ref route change
  shown other key := by
    rw [Store.shown, Store.shown]
    by_cases here : other = ref
    · subst here
      rw [store.table_write there, if_pos rfl, (coherent.table other).find?_apply puts]
      simp only [true_and]
    · rw [table_write_of_ne here, if_neg fun both => here both.1]

namespace PutsAt

variable {left : Option Value} (puts : store.PutsAt ref name left after)
include puts

theorem shown_here : after.shown ref name = left := by
  rw [puts.shown, if_pos ⟨rfl, rfl⟩]

theorem shown_of_ne (apart : other ≠ ref) (key : String) :
    after.shown other key = store.shown other key := by
  rw [puts.shown, if_neg fun both => apart both.1]

theorem shown_of_name_ne {key : String} (apart : key ≠ name) :
    after.shown other key = store.shown other key := by
  rw [puts.shown, if_neg fun both => apart both.2]

theorem lacks_of_ne (apart : other ≠ ref) (lacks : store.Lacks other name) :
    after.Lacks other name := by
  rw [← puts.coherent'.shown_eq_none_iff, puts.shown_of_ne apart, puts.coherent.shown_eq_none_iff]
  exact lacks

theorem holds_of_ne (apart : other ≠ ref) (holds : store.Holds other name member) :
    after.Holds other name member := by
  rw [← puts.coherent'.shown_eq_some_iff, puts.shown_of_ne apart, puts.coherent.shown_eq_some_iff]
  exact holds

end PutsAt

end Store

namespace Registry

/-- A search for a name comes to the table behind a handle, and from there it would go on behind: through
the other classes of the chain, or to the failure that would end it. -/
inductive ComesTo (registry : Registry) (store : Store) (name : String) (limit : Nat) (ref : TableRef) :
    Value → (behind : Except Error (List ClassId)) → Prop
  /-- The table is that of a class, and behind it is nothing. -/
  | ofClass {id : ClassId} (table : registry.membersOf id = .ok ref) :
      ComesTo registry store name limit ref (.ofClass id) (.error (.notFound name))
  /-- The table is that of the value, and behind it are the classes of its walk, if the walk succeeds. -/
  | own {value : Value} {start : ClassId} (noClass : value.classId? = none)
      (table : registry.tableOfValue value = .ok ref) (carried : registry.classOfValue value = .ok start) :
      ComesTo registry store name limit ref value (registry.ancestors start limit)
  /-- The table is that of a class on the walk, and no table before it has the name. -/
  | inherited {value : Value} {start owner : ClassId} {nearer further : List ClassId}
      (goesOn : registry.GoesOn store value name start)
      (walk : registry.ancestors start limit = .ok (nearer ++ owner :: further))
      (table : registry.membersOf owner = .ok ref)
      (lack : ∀ id ∈ nearer, registry.ClassLacks store id name) :
      ComesTo registry store name limit ref value (.ok further)

/-- What is found behind a table: the member of the nearest class that has the name, or that there is
none, or the failure that ends the search. -/
def FoundBehind (registry : Registry) (store : Store) (name : String) :
    (behind : Except Error (List ClassId)) → (outcome : Except Error Value) → Prop
  | .error cause, outcome => outcome = .error cause
  | .ok ids, outcome =>
    (∃ nearer owner further member, ids = nearer ++ owner :: further ∧
      (∀ id ∈ nearer, registry.ClassLacks store id name) ∧
      registry.ClassHolds store owner name member ∧ outcome = .ok member) ∨
    (∀ id ∈ ids, registry.ClassLacks store id name) ∧ outcome = .error (.notFound name)

section Writing

variable {registry : Registry} {store after : Store} {ref : TableRef} {name : String} {limit : Nat}
  {value : Value} {left : Option Value}

/-! ## What stays as it is -/

/-- A search for another name goes as it went. -/
theorem lookedUp_of_name_ne (puts : store.PutsAt ref name left after) {other : String}
    (apart : other ≠ name) (value : Value) (limit : Nat) :
    registry.lookedUp after value other limit = registry.lookedUp store value other limit := by
  have seen (asked : Value) : registry.shownOn after other asked = registry.shownOn store other asked := by
    rw [shownOn, shownOn]
    cases registry.tableOfValue asked with
    | error cause => rfl
    | ok own => exact congrArg Except.ok (puts.shown_of_name_ne apart)
  have definers : registry.firstDefiner after other = registry.firstDefiner store other :=
    funext fun chain => firstDefiner_congr fun id _ => seen (.ofClass id)
  refine lookedUp_congr (resolve_congr_of (seen value) ?_)
  cases value <;> simp only [searchChain, definers]

section Unreached

variable (puts : store.PutsAt ref name left after)
  (unreached : ¬ ∃ behind, registry.ComesTo store name limit ref value behind)
include unreached

theorem own_ne_of_unreached {own : TableRef} (table : registry.tableOfValue value = .ok own) :
    own ≠ ref := by
  rintro rfl
  cases value with
  | ofClass id => exact unreached ⟨_, .ofClass table⟩
  | plain | method | unboundMethod => exact unreached ⟨_, .own rfl table rfl⟩

theorem members_ne_of_unreached {start owner : ClassId} {nearer further : List ClassId}
    {members : TableRef} (goesOn : registry.GoesOn store value name start)
    (walk : registry.ancestors start limit = .ok (nearer ++ owner :: further))
    (table : registry.membersOf owner = .ok members)
    (lack : ∀ id ∈ nearer, registry.ClassLacks store id name) : members ≠ ref := by
  rintro rfl
  exact unreached ⟨_, .inherited goesOn walk table lack⟩

include puts

theorem goesOn_of_unreached {start : ClassId} (goesOn : registry.GoesOn store value name start) :
    registry.GoesOn after value name start := by
  obtain ⟨noClass, ⟨own, table, lacks⟩, carried⟩ := goesOn
  have apart := own_ne_of_unreached unreached table
  exact ⟨noClass, ⟨own, table, puts.lacks_of_ne apart lacks⟩, carried⟩

theorem classLacks_of_unreached {start : ClassId} {nearer further : List ClassId}
    (goesOn : registry.GoesOn store value name start)
    (walk : registry.ancestors start limit = .ok (nearer ++ further))
    (lack : ∀ id ∈ nearer, registry.ClassLacks store id name) :
    ∀ id ∈ nearer, registry.ClassLacks after id name := by
  intro id member
  obtain ⟨members, table, lacks⟩ := lack id member
  obtain ⟨front, back, rfl⟩ := List.append_of_mem member
  rw [List.append_assoc, List.cons_append] at walk
  have lackFront (other : ClassId) (inFront : other ∈ front) :=
    lack other (List.mem_append_left (id :: back) inFront)
  have apart := members_ne_of_unreached unreached goesOn walk table lackFront
  exact ⟨members, table, puts.lacks_of_ne apart lacks⟩

/-- A search that does not come to the table goes as it went. -/
theorem Search.of_unreached {outcome : Except Error Value} {records : List LogRecord}
    (search : registry.Search store name limit value outcome records) :
    registry.Search after name limit value outcome records := by
  cases search with
  | own table holds =>
    exact .own table (puts.holds_of_ne (own_ne_of_unreached unreached table) holds)
  | unknownClass missing => exact .unknownClass missing
  | classLacks lacks =>
    obtain ⟨own, table, lacks⟩ := lacks
    have apart : own ≠ ref := own_ne_of_unreached unreached table
    exact .classLacks ⟨own, table, puts.lacks_of_ne apart lacks⟩
  | walkFails goesOn walk => exact .walkFails (goesOn_of_unreached puts unreached goesOn) walk
  | inherited goesOn walk lack holds =>
    obtain ⟨members, table, holds⟩ := holds
    have apart := members_ne_of_unreached unreached goesOn walk table lack
    exact .inherited (goesOn_of_unreached puts unreached goesOn) walk
      (classLacks_of_unreached puts unreached goesOn walk lack)
      ⟨members, table, puts.holds_of_ne apart holds⟩
  | @missing _ start chain goesOn walk lack =>
    have whole : registry.ancestors start limit = .ok (chain ++ []) := by rw [walk, List.append_nil]
    exact .missing (goesOn_of_unreached puts unreached goesOn) walk
      (classLacks_of_unreached puts unreached goesOn whole lack)

theorem lookedUp_of_unreached :
    registry.lookedUp after value name limit = registry.lookedUp store value name limit := by
  obtain ⟨outcome, records, search⟩ := registry.exists_search store value name limit
  rw [search.lookedUp_eq puts.coherent,
    (search.of_unreached puts unreached).lookedUp_eq puts.coherent']

end Unreached

/-! ## Where a search comes to the table -/

/-- Along the chain the member is found that was set, at the latest on the class to which the search
came before. -/
theorem exists_firstDefiner_of_set {member : Value} (puts : store.PutsAt ref name (some member) after)
    {nearer : List ClassId} (lack : ∀ id ∈ nearer, registry.ClassLacks store id name)
    {owner : ClassId} (table : registry.membersOf owner = .ok ref) (further : List ClassId) :
    ∃ found, registry.firstDefiner after name (nearer ++ owner :: further) =
      .ok (.inherited found member) := by
  induction nearer with
  | nil =>
    refine ⟨owner, ?_⟩
    rw [List.nil_append, firstDefiner_cons, shownOn, tableOfValue, table, map_ok, puts.shown_here]
    rfl
  | cons first rest ih =>
    obtain ⟨⟨members, tableFirst, lacks⟩, lackRest⟩ := List.forall_mem_cons.mp lack
    rw [List.cons_append, firstDefiner_cons, shownOn, tableOfValue, tableFirst, map_ok, ok_bind]
    by_cases here : members = ref
    · subst here
      rw [puts.shown_here]
      exact ⟨first, rfl⟩
    · rw [puts.shown_of_ne here, puts.coherent.shown_eq_none_iff.mpr lacks]
      exact ih lackRest

/-- A member that is set is found by every search that comes to the table. -/
theorem ComesTo.lookedUp_of_set {member : Value} {behind : Except Error (List ClassId)}
    (puts : store.PutsAt ref name (some member) after)
    (comes : registry.ComesTo store name limit ref value behind) :
    (registry.lookedUp after value name limit).1 = .ok member := by
  have inOwn (table : registry.tableOfValue value = .ok ref) :
      (registry.lookedUp after value name limit).1 = .ok member := by
    have holds := puts.coherent'.shown_eq_some_iff.mp puts.shown_here
    rw [(Search.own table holds).lookedUp_eq puts.coherent']
  cases comes with
  | ofClass table => exact inOwn table
  | own _ table => exact inOwn table
  | @inherited _ start owner nearer further goesOn walk table lack =>
    obtain ⟨noClass, ⟨own, ownTable, lacks⟩, carried⟩ := goesOn
    by_cases here : own = ref
    · exact inOwn (here ▸ ownTable)
    · have goesOn' : registry.GoesOn after value name start :=
        ⟨noClass, ⟨own, ownTable, puts.lacks_of_ne here lacks⟩, carried⟩
      obtain ⟨found, definer⟩ := exists_firstDefiner_of_set puts lack table further
      have resolved : registry.resolve after value name limit = .ok (.inherited found member) := by
        rw [resolve_of_goesOn puts.coherent' goesOn', walk, ok_bind, definer]
      rw [lookedUp_of_ok resolved]
      rfl

/-- A search that comes past some classes finds what is behind them. -/
theorem GoesOn.foundBehind (coherent : store.Coherent) {start : ClassId}
    (goesOn : registry.GoesOn store value name start) {nearer further : List ClassId}
    (walk : registry.ancestors start limit = .ok (nearer ++ further))
    (lack : ∀ id ∈ nearer, registry.ClassLacks store id name) :
    registry.FoundBehind store name (.ok further) (registry.lookedUp store value name limit).1 := by
  have registered (id : ClassId) (member : id ∈ further) : registry.IsRegistered id :=
    isRegistered_of_mem_ancestors walk (List.mem_append_right nearer member)
  rcases lack_or_nearest store name registered with
    all | ⟨between, owner, rest, member, rfl, lackBetween, holds⟩
  · have lackAll := List.forall_mem_append.mpr ⟨lack, all⟩
    rw [(Search.missing goesOn walk lackAll).lookedUp_eq coherent]
    exact .inr ⟨all, rfl⟩
  · have lackAll := List.forall_mem_append.mpr ⟨lack, lackBetween⟩
    rw [← List.append_assoc] at walk
    rw [(Search.inherited goesOn walk lackAll holds).lookedUp_eq coherent]
    exact .inl ⟨between, owner, rest, member, rfl, lackBetween, holds, rfl⟩

section Removed

variable (puts : store.PutsAt ref name none after)
include puts

/-- Where a name was taken out, no table has it that had it not before. -/
theorem lacks_of_removed {other : TableRef} (lacks : store.Lacks other name) :
    after.Lacks other name := by
  by_cases here : other = ref
  · subst here
    exact puts.coherent'.shown_eq_none_iff.mp puts.shown_here
  · exact puts.lacks_of_ne here lacks

theorem classLacks_of_removed {id : ClassId} (lacks : registry.ClassLacks store id name) :
    registry.ClassLacks after id name := by
  obtain ⟨members, table, lacks⟩ := lacks
  exact ⟨members, table, lacks_of_removed puts lacks⟩

/-- After a member is removed, a search that came to the table finds what is behind it. -/
theorem ComesTo.foundBehind_of_removed {behind : Except Error (List ClassId)}
    (comes : registry.ComesTo store name limit ref value behind) :
    registry.FoundBehind after name behind (registry.lookedUp after value name limit).1 := by
  have gone : after.Lacks ref name := puts.coherent'.shown_eq_none_iff.mp puts.shown_here
  cases comes with
  | ofClass table =>
    rw [(Search.classLacks ⟨ref, table, gone⟩).lookedUp_eq puts.coherent']
    rfl
  | @own _ start noClass table carried =>
    have goesOn : registry.GoesOn after value name start := ⟨noClass, ⟨ref, table, gone⟩, carried⟩
    cases walk : registry.ancestors start limit with
    | error cause =>
      rw [(Search.walkFails goesOn walk).lookedUp_eq puts.coherent']
      rfl
    | ok chain =>
      have whole : registry.ancestors start limit = .ok ([] ++ chain) := walk
      exact goesOn.foundBehind puts.coherent' whole (by simp)
  | @inherited _ start owner nearer further goesOn walk table lack =>
    obtain ⟨noClass, ⟨own, ownTable, lacks⟩, carried⟩ := goesOn
    have goesOn' : registry.GoesOn after value name start :=
      ⟨noClass, ⟨own, ownTable, lacks_of_removed puts lacks⟩, carried⟩
    rw [← List.singleton_append, ← List.append_assoc] at walk
    refine goesOn'.foundBehind puts.coherent' walk (List.forall_mem_append.mpr ⟨?_, ?_⟩)
    · intro id member
      exact classLacks_of_removed puts (lack id member)
    · exact List.forall_mem_singleton.mpr ⟨ref, table, gone⟩

end Removed

end Writing

/-! ## The effect of a write -/

/-- For every registry, limit and value, let a member be set in a table or removed from it, by whichever
way to the table. Look-ups of all other names answer as before and leave the same records, and so do
look-ups of this name unless the search comes to the table. Where it does, a member that was set is
found, and where the member was removed there is found what is behind the table. -/
theorem write_reaches_lookups (registry : Registry) (limit : Nat) (value : Value) (name : String)
    {store : Store} (coherent : store.Coherent) {ref : TableRef}
    (there : ref.index < store.tables.size) (route : WriteRoute) :
    let after (change : TableChange) := ((Store.write ref route change).perform store).2
    let outcome (change : TableChange) := (registry.lookedUp (after change) value name limit).1
    (∀ (change : TableChange) (left : Option Value), change.Puts name left →
      (∀ other, other ≠ name →
        registry.lookedUp (after change) value other limit =
          registry.lookedUp store value other limit) ∧
      ((¬ ∃ behind, registry.ComesTo store name limit ref value behind) →
        registry.lookedUp (after change) value name limit =
          registry.lookedUp store value name limit)) ∧
    ∀ behind, registry.ComesTo store name limit ref value behind →
      (∀ tier member, outcome (.set tier name member) = .ok member) ∧
      registry.FoundBehind (after (.remove name)) name behind (outcome (.remove name)) := by
  intro after outcome
  refine ⟨fun change left puts => ?_, fun behind comes => ⟨fun tier member => ?_, ?_⟩⟩
  · have putsAt := coherent.putsAt_write there route puts
    exact ⟨fun other apart => lookedUp_of_name_ne putsAt apart value limit,
      fun unreached => lookedUp_of_unreached putsAt unreached⟩
  · exact comes.lookedUp_of_set (coherent.putsAt_write there route (.set tier member))
  · exact comes.foundBehind_of_removed (coherent.putsAt_write there route .remove)

/-! ## A member that instances see live -/

namespace Live

def store : Store :=
  { Store.empty with tables := .replicate 5 .empty }

def registry : Registry :=
  ⟨#[⟨"Class", .metaclass, some ⟨0⟩, none, ⟨0⟩, ⟨1⟩⟩,
    ⟨"Point", .user, some ⟨0⟩, some ⟨0⟩, ⟨2⟩, ⟨3⟩⟩], {}⟩

def realm : Realm :=
  ⟨registry, ⟨⟨0⟩, ⟨0⟩, ⟨0⟩, ⟨0⟩, ⟨0⟩⟩, .standard, true⟩

/-- An instance that was made before the member is set. -/
def point : Value :=
  .plain ⟨0, ⟨1⟩, ⟨4⟩, none⟩

/-- A member is set on the root. -/
def after : Store :=
  ((realm.setProperty ⟨0⟩ publicTier "x" (.ofClass ⟨1⟩)).perform store).2

theorem coherent_store : store.Coherent := by
  intro table member
  rw [Array.eq_of_mem_replicate member]
  exact PropertyTable.coherent_empty

theorem lacks (ref : TableRef) : store.Lacks ref "x" := by
  have bare : store.table ref = .empty := by
    rw [Store.table, store, Array.getElem?_replicate]
    split <;> rfl
  intro entry member
  simp [bare, PropertyTable.empty] at member

end Live

open Live in
/-- The instance sees the member of the root, and its class does not. -/
theorem write_reaches_lookups_live :
    store.Coherent ∧ 0 < store.tables.size ∧
      (registry.lookedUp Live.after point "x" 2).1 = .ok (.ofClass ⟨1⟩) ∧
      registry.lookedUp Live.after (.ofClass ⟨1⟩) "x" 2 =
        registry.lookedUp store (.ofClass ⟨1⟩) "x" 2 := by
  have there : 0 < store.tables.size := by simp [store]
  have written : Live.after = ((Store.write ⟨0⟩ .members
      (.set publicTier "x" (.ofClass ⟨1⟩))).perform store).2 :=
    congrArg Prod.snd (Realm.perform_setProperty rfl publicTier "x" _ store)
  rw [written]
  refine ⟨coherent_store, there, ?_, ?_⟩
  · have walk : registry.ancestors ⟨1⟩ 2 = .ok ([⟨1⟩] ++ ⟨0⟩ :: []) := rfl
    have comes : registry.ComesTo store "x" 2 ⟨0⟩ point (.ok []) :=
      .inherited ⟨rfl, ⟨⟨4⟩, rfl, lacks _⟩, rfl⟩ walk rfl
        (List.forall_mem_singleton.mpr ⟨⟨2⟩, rfl, lacks _⟩)
    have effect := write_reaches_lookups registry 2 point "x" coherent_store there .members
    exact (effect.2 _ comes).1 publicTier (.ofClass ⟨1⟩)
  · have effect := write_reaches_lookups registry 2 (.ofClass ⟨1⟩) "x" coherent_store there .members
    refine (effect.1 _ _ (.set publicTier (.ofClass ⟨1⟩))).2 ?_
    rintro ⟨behind, comes⟩
    cases comes with
    | ofClass table =>
      have own : (Except.ok ⟨2⟩ : Except Error TableRef) = .ok ⟨0⟩ := table
      cases own
    | own noClass => cases noClass
    | inherited goesOn => cases goesOn.noClass

end Registry

end ObjectModel
