import ObjectModel.Proofs.Runs.Move

/-! # What a run keeps

Nothing is ever taken out of a world. Tables and objects are added behind those that are there,
contexts stay what they are, and the record of a class stays as it is, except that a pending link
can be bound. A table that is there changes only by the changes made through its handle, in their
order, and it can always be searched through its index.
-/

namespace ObjectModel

open Relation

/-! ## Positions in arrays -/

section Positions

variable {α : Type} {items : Array α} {position other : Nat} {item new : α}

/-- Where an item was replaced there is the new one, and elsewhere nothing changed. -/
theorem getElem?_modify_cases (present : (items.modify position fun _ => new)[other]? = some item) :
    position = other ∧ item = new ∨ items[other]? = some item := by
  rw [Array.getElem?_modify] at present
  split at present
  case isTrue same =>
    obtain ⟨_, _, rfl⟩ := Option.map_eq_some_iff.mp present
    exact .inl ⟨same, rfl⟩
  case isFalse => exact .inr present

theorem getElem?_modify_self (present : items[position]? = some item) (new : α) :
    (items.modify position fun _ => new)[position]? = some new := by
  rw [Array.getElem?_modify, if_pos rfl, present, Option.map_some]

/-- Where an item was added there is the new one, and elsewhere nothing changed. -/
theorem getElem?_push_cases (present : (items.push new)[position]? = some item) :
    position = items.size ∧ item = new ∨ items[position]? = some item := by
  rw [Array.getElem?_push] at present
  split at present
  case isTrue last => exact .inl ⟨last, (Option.some.inj present).symm⟩
  case isFalse => exact .inr present

theorem getElem?_push_of_eq_some (present : items[position]? = some item) (new : α) :
    (items.push new)[position]? = some item := by
  have bound : position < items.size := (Array.getElem?_eq_some_iff.mp present).1
  rw [Array.getElem?_push, if_neg (Nat.ne_of_lt bound), present]

end Positions

/-! ## Growth -/

/-- The record stayed as it was, or its pending link was bound. -/
def ClassRecord.GrowsTo (record later : ClassRecord) : Prop :=
  later = record ∨ ∃ link, record.bind link = .ok later

namespace ClassRecord.GrowsTo

variable {record middle later : ClassRecord}

/-- A record that is linked stays as it is. -/
theorem eq_of_link (grows : record.GrowsTo later) {link : ClassId} (linked : record.link = some link) :
    later = record := by
  rcases grows with same | ⟨bound, became⟩
  · exact same
  · simp [ClassRecord.bind, linked] at became

/-- Only the link of a record can change. -/
theorem eq_with_link (grows : record.GrowsTo later) : later = { record with link := later.link } := by
  rcases grows with rfl | ⟨link, became⟩
  · rfl
  · rw [ClassRecord.bind] at became
    split at became
    · cases became
      rfl
    · cases became

theorem members_eq (grows : record.GrowsTo later) : later.members = record.members := by
  rw [grows.eq_with_link]

theorem template_eq (grows : record.GrowsTo later) : later.template = record.template := by
  rw [grows.eq_with_link]

theorem refl (record : ClassRecord) : record.GrowsTo record :=
  .inl rfl

theorem trans (first : record.GrowsTo middle) (second : middle.GrowsTo later) :
    record.GrowsTo later := by
  rcases first with rfl | ⟨link, became⟩
  · exact second
  · have linked : middle.link = some link := by
      rw [ClassRecord.bind] at became
      split at became <;> cases became
      rfl
    exact .inr ⟨link, (second.eq_of_link linked).symm ▸ became⟩

end ClassRecord.GrowsTo

/-- Every table and every object of the store is still at its position. -/
structure Store.GrowsTo (store later : Store) : Prop where
  tables : store.tables.size ≤ later.tables.size
  objects : store.objects.toList <+: later.objects.toList

/-- The context is the same one, and every class in it is still at its position. -/
structure Context.GrowsTo (found later : Context) : Prop where
  same : later = found.withRegistry later.registry
  classes : ∀ {position : Nat} {record : ClassRecord},
    found.registry.classes[position]? = some record →
      ∃ after, later.registry.classes[position]? = some after ∧ record.GrowsTo after

/-- Whatever the world holds, the later world holds it too. -/
structure World.GrowsTo (world later : World) : Prop where
  store : world.store.GrowsTo later.store
  contexts : ∀ {context : Nat} {found : Context}, world.contexts[context]? = some found →
    ∃ after, later.contexts[context]? = some after ∧ found.GrowsTo after

theorem Store.GrowsTo.refl (store : Store) : store.GrowsTo store :=
  ⟨Nat.le_refl _, List.prefix_rfl⟩

theorem Store.GrowsTo.trans {store middle later : Store} (first : store.GrowsTo middle)
    (second : middle.GrowsTo later) : store.GrowsTo later :=
  ⟨Nat.le_trans first.tables second.tables, first.objects.trans second.objects⟩

theorem Store.GrowsTo.getElem?_objects {store later : Store} (grows : store.GrowsTo later)
    {identity : Nat} {object : Value} (present : store.objects[identity]? = some object) :
    later.objects[identity]? = some object := by
  obtain ⟨rest, appended⟩ := grows.objects
  have bound : identity < store.objects.size := (Array.getElem?_eq_some_iff.mp present).1
  rw [← Array.getElem?_toList, ← appended, List.getElem?_append_left (by simpa using bound),
    Array.getElem?_toList, present]

namespace Context

@[simp]
theorem registry_withRegistry (found : Context) (registry : Registry) :
    (found.withRegistry registry).registry = registry := by
  cases found <;> rfl

@[simp]
theorem withRegistry_withRegistry (found : Context) (first second : Registry) :
    (found.withRegistry first).withRegistry second = found.withRegistry second := by
  cases found <;> rfl

theorem withRegistry_registry (found : Context) : found.withRegistry found.registry = found := by
  cases found <;> rfl

namespace GrowsTo

theorem refl (found : Context) : found.GrowsTo found :=
  ⟨found.withRegistry_registry.symm, fun present => ⟨_, present, .refl _⟩⟩

theorem trans {found middle later : Context} (first : found.GrowsTo middle)
    (second : middle.GrowsTo later) : found.GrowsTo later where
  same := by rw [second.same, first.same]; simp
  classes := by
    intro position record present
    obtain ⟨between, present, grows⟩ := first.classes present
    obtain ⟨after, present, growsOn⟩ := second.classes present
    exact ⟨after, present, grows.trans growsOn⟩

theorem size_le {found later : Context} (grows : found.GrowsTo later) :
    found.registry.size ≤ later.registry.size := by
  refine Nat.le_of_not_lt fun shrunk => ?_
  obtain ⟨after, present, _⟩ := grows.classes (Array.getElem?_eq_getElem shrunk)
  exact Nat.lt_irrefl _ (Array.getElem?_eq_some_iff.mp present).1

/-- A context grows when a class is added to it. -/
theorem push (found : Context) (record : ClassRecord) :
    found.GrowsTo (found.withRegistry (found.registry.push record)) where
  same := by simp
  classes := by
    intro position record' present
    refine ⟨record', ?_, .refl _⟩
    rw [registry_withRegistry]
    exact getElem?_push_of_eq_some present _

/-- A context grows when a pending link is bound in it. -/
theorem bind {found : Context} {target link : ClassId} {registry : Registry}
    (bound : found.registry.bind target link = .ok registry) :
    found.GrowsTo (found.withRegistry registry) where
  same := by simp
  classes := by
    intro position record present
    rw [registry_withRegistry]
    obtain ⟨old, found, pending, rfl⟩ := Registry.bind_eq_ok_iff.mp bound
    rw [Registry.recordOf_eq_ok_iff] at found
    by_cases here : target.index = position
    · subst here
      obtain rfl : old = record := by simpa [found] using present
      refine ⟨{ old with link := some link }, by simp [Array.getElem?_modify, found], .inr ⟨link, ?_⟩⟩
      simp [ClassRecord.bind, pending]
    · exact ⟨record, by simp [Array.getElem?_modify, here, present], .refl _⟩

end GrowsTo

end Context

namespace World.GrowsTo

variable {world middle later : World}

theorem refl (world : World) : world.GrowsTo world :=
  ⟨.refl _, fun present => ⟨_, present, .refl _⟩⟩

theorem trans (first : world.GrowsTo middle) (second : middle.GrowsTo later) :
    world.GrowsTo later where
  store := first.store.trans second.store
  contexts := by
    intro context found present
    obtain ⟨between, present, grows⟩ := first.contexts present
    obtain ⟨after, present, growsOn⟩ := second.contexts present
    exact ⟨after, present, grows.trans growsOn⟩

/-- A world grows with its store as long as its contexts stay. -/
theorem of_store (store : world.store.GrowsTo later.store) (same : later.contexts = world.contexts) :
    world.GrowsTo later :=
  ⟨store, fun present => ⟨_, same ▸ present, .refl _⟩⟩

/-- A world grows with one of its contexts. -/
theorem modify (store : world.store.GrowsTo later.store) {context : Nat} {found replacement : Context}
    (present : world.contexts[context]? = some found) (grows : found.GrowsTo replacement)
    (contexts : later.contexts = world.contexts.modify context fun _ => replacement) :
    world.GrowsTo later where
  store := store
  contexts := by
    intro other there member
    by_cases here : context = other
    · subst here
      obtain rfl : found = there := by simpa [present] using member
      exact ⟨replacement, by simp [contexts, Array.getElem?_modify, present], grows⟩
    · exact ⟨there, by simp [contexts, Array.getElem?_modify, here, member], .refl _⟩

/-- A world grows when a context is added. -/
theorem push (store : world.store.GrowsTo later.store) {added : Context}
    (contexts : later.contexts = world.contexts.push added) : world.GrowsTo later where
  store := store
  contexts := by
    intro context found present
    refine ⟨found, ?_, .refl _⟩
    rw [contexts]
    exact getElem?_push_of_eq_some present added

end World.GrowsTo

/-- A realm stays a realm with the same builtin classes and settings. -/
theorem World.GrowsTo.exists_realm {world later : World} (grows : world.GrowsTo later) {context : Nat}
    {realm : Realm} (present : world.contexts[context]? = some (.realm realm)) :
    ∃ registry, later.contexts[context]? = some (.realm { realm with registry }) ∧
      Context.GrowsTo (.realm realm) (.realm { realm with registry }) := by
  obtain ⟨after, present, grown⟩ := grows.contexts present
  have same : after = .realm { realm with registry := after.registry } := grown.same
  rw [same] at present grown
  exact ⟨after.registry, present, grown⟩

/-! ## Moves only add -/

namespace Store.Move

variable {store later : Store}

/-- A move adds tables behind those that are there. -/
theorem tables (move : Move store later) : store.tables.toList <+: later.tables.toList := by
  cases move <;> simp

theorem objects (move : Move store later) : store.objects.toList <+: later.objects.toList := by
  cases move <;> simp

end Store.Move

theorem Store.size_le_of_prefix {store later : Store}
    (tables : store.tables.toList <+: later.tables.toList) :
    store.tables.size ≤ later.tables.size := by
  simpa using tables.length_le

namespace World.Move

variable {world later : World}

theorem tables (move : Move world later) :
    world.store.tables.toList <+: later.store.tables.toList := by
  cases move with
  | store move => exact move.tables
  | register | createClass => simp [Store.withTables, Realm.storeAfterCreating]
  | openRealm settings => simp [Realm.storeAfterBoot]
  | keep | bind | openBare => exact List.prefix_rfl

theorem objects (move : Move world later) :
    world.store.objects.toList <+: later.store.objects.toList := by
  cases move with
  | store move => exact move.objects
  | openRealm settings => simp [Realm.storeAfterBoot]
  | register | createClass | keep | bind | openBare => exact List.prefix_rfl

theorem grows (move : Move world later) : world.GrowsTo later := by
  have store : world.store.GrowsTo later.store :=
    ⟨Store.size_le_of_prefix move.tables, move.objects⟩
  cases move with
  | store | keep => exact .of_store store rfl
  | register present => exact .modify store present (Context.GrowsTo.push _ _) rfl
  | createClass present => exact .modify store present (Context.GrowsTo.push _ _) rfl
  | bind present bound => exact .modify store present (Context.GrowsTo.bind bound) rfl
  | openBare | openRealm => exact .push store rfl

end World.Move

namespace World

theorem grows_written (world : World) (ref : TableRef) (route : WriteRoute) (change : TableChange) :
    world.GrowsTo (world.written ref route change) :=
  .of_store ⟨by simp [written], by simp [written]⟩ rfl

/-- Along a run the world only grows. -/
theorem grows_run (world : World) (actions : List Action) : world.GrowsTo (world.run actions) :=
  run_preserves_of_move (fun move grows => grows.trans move.grows)
    (fun middle ref route change grows => grows.trans (middle.grows_written ref route change))
    (.refl world) actions

theorem grows_act (world : World) (action : Action) : world.GrowsTo (world.act action) :=
  world.grows_run [action]

end World

/-! ## Tables change only through their handles -/

theorem Store.table_write (store : Store) {ref : TableRef} (bound : ref.index < store.tables.size)
    (target : TableRef) (route : WriteRoute) (change : TableChange) :
    ((write target route change).perform store).2.table ref =
      if target = ref then (store.table ref).apply change else store.table ref := by
  by_cases same : target = ref
  · subst same
    simp [Store.table, Array.getElem?_modify, Array.getElem?_eq_getElem bound]
  · rw [if_neg same]
    exact table_write_of_ne (Ne.symm same) route change store

namespace World

theorem table_written (world : World) {ref : TableRef} (bound : ref.index < world.store.tables.size)
    (target : TableRef) (route : WriteRoute) (change : TableChange) :
    (world.written target route change).store.table ref =
      if target = ref then (world.store.table ref).apply change else world.store.table ref :=
  world.store.table_write bound target route change

/-- Where tables were only added, every table is as it was. -/
theorem table_of_prefix {world later : World}
    (tables : world.store.tables.toList <+: later.store.tables.toList) {ref : TableRef}
    (bound : ref.index < world.store.tables.size) :
    later.store.table ref = world.store.table ref := by
  have there := List.prefix_iff_getElem?.mp tables ref.index (by simpa using bound)
  simp only [Array.getElem?_toList, Array.getElem_toList] at there
  rw [Store.table, Store.table, there, Array.getElem?_eq_getElem bound]

theorem tables_of_quiet {world later : World} (moves : ReflTransGen Quiet world later) :
    world.store.tables.toList <+: later.store.tables.toList := by
  induction moves with
  | refl => exact List.prefix_rfl
  | tail _ last ih => exact ih.trans last.1.tables

end World

/-- The part of a change, made through some handle, that concerns the table behind one handle. -/
def TableRef.concerned (ref : TableRef) : Option (TableRef × TableChange) → List TableChange
  | some (target, change) => if target = ref then [change] else []
  | none => []

/-- The changes that an operation makes to the table behind a handle: one at most. -/
def Action.changesAt (action : Action) (world : World) (ref : TableRef) : List TableChange :=
  ref.concerned (action.change? world)

namespace World

/-- The changes that a run makes to the table behind a handle, in their order. -/
def changesAt (world : World) (ref : TableRef) : List Action → List TableChange
  | [] => []
  | action :: rest => action.changesAt world ref ++ (world.act action).changesAt ref rest

theorem table_act (world : World) (action : Action) {ref : TableRef}
    (bound : ref.index < world.store.tables.size) :
    (world.act action).store.table ref =
      (action.changesAt world ref).foldl PropertyTable.apply (world.store.table ref) := by
  have turn := action.act_turn world
  rw [Action.changesAt]
  generalize action.change? world = change?, world.act action = later at turn
  cases turn with
  | quiet moves => exact table_of_prefix (tables_of_quiet moves) bound
  | move one => exact table_of_prefix one.tables bound
  | change moves target route change =>
    have tables := tables_of_quiet moves
    rw [table_written _ (Nat.lt_of_lt_of_le bound (Store.size_le_of_prefix tables)),
      table_of_prefix tables bound]
    by_cases here : target = ref <;> simp [TableRef.concerned, here]

/-- After a run a table is what the changes through its handle made of it. -/
theorem table_run (world : World) {ref : TableRef} (bound : ref.index < world.store.tables.size)
    (actions : List Action) :
    (world.run actions).store.table ref =
      (world.changesAt ref actions).foldl PropertyTable.apply (world.store.table ref) := by
  induction actions generalizing world with
  | nil => rfl
  | cons action rest ih =>
    have bound' := Nat.lt_of_lt_of_le bound (world.grows_act action).store.tables
    rw [run_cons, ih (world.act action) bound', table_act world action bound, changesAt,
      List.foldl_append]

end World

/-! ## Coherent stores -/

theorem coherent_push {tables : Array PropertyTable} (coherent : ∀ table ∈ tables, table.Coherent)
    {added : PropertyTable} (coherentAdded : added.Coherent) :
    ∀ table ∈ tables.push added, table.Coherent := by
  intro table member
  rcases Array.mem_push.mp member with old | rfl
  · exact coherent table old
  · exact coherentAdded

theorem Store.Coherent.write {store : Store} (coherent : store.Coherent) (ref : TableRef)
    (route : WriteRoute) (change : TableChange) :
    ((Store.write ref route change).perform store).2.Coherent := by
  intro table member
  obtain ⟨position, bound, rfl⟩ := Array.mem_iff_getElem.mp member
  have bound' : position < store.tables.size := by simpa using bound
  have old := coherent store.tables[position] (Array.getElem_mem bound')
  simp only [Store.perform_write, Array.getElem_modify]
  split
  · exact PropertyTable.coherent_apply old change
  · exact old

namespace World

theorem Move.coherent {world later : World} (move : Move world later)
    (coherent : world.store.Coherent) : later.store.Coherent := by
  cases move with
  | store move =>
    cases move with
    | record | addMethod => exact coherent
    | addTable table coherentTable => exact coherent_push coherent (coherentTable coherent)
    | addPlain ofClass table payload coherentTable => exact coherent_push coherent coherentTable
  | register _ _ _ _ _ coherentMembers coherentTemplate =>
    exact coherent_push (coherent_push coherent coherentMembers) coherentTemplate
  | createClass =>
    exact coherent_push (coherent_push coherent (PropertyTable.coherent_inheritable _))
      PropertyTable.coherent_empty
  | openRealm settings =>
    intro table member
    simp only [Realm.storeAfterBoot, Array.mem_append, List.mem_toArray, List.mem_cons,
      List.mem_replicate] at member
    rcases member with old | rfl | ⟨_, rfl⟩
    · exact coherent table old
    · exact PropertyTable.coherent_set PropertyTable.coherent_empty _ _ _
    · exact PropertyTable.coherent_empty
  | keep | bind | openBare => exact coherent

theorem coherent_written {world : World} (coherent : world.store.Coherent) (ref : TableRef)
    (route : WriteRoute) (change : TableChange) :
    (world.written ref route change).store.Coherent :=
  coherent.write ref route change

/-- In every reachable world each table can be searched through its index. -/
theorem Reachable.coherent {world : World} (reachable : world.Reachable) : world.store.Coherent := by
  obtain ⟨actions, rfl⟩ := reachable
  refine run_preserves_of_move Move.coherent (fun _ ref route change coherent =>
    coherent_written coherent ref route change) ?_ actions
  intro table member
  simp [empty, Store.empty] at member

end World

end ObjectModel
