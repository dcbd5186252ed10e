import ObjectModel.Proofs.Runs.SideBySide

/-! # The order of entries decides nothing

A table can hold the same entries in many orders, and in each its index has other positions. Two worlds
are the same but for order if the tables behind each handle have the same entry under every name and
nothing else differs. Then whatever is asked of them is answered in the same way, with the same failures
and the same records, and they are the same but for order again. Only what lists the entries of a table
shows in which order they stand, and it shows the same entries in both worlds.
-/

namespace ObjectModel

/-! ## Tables with the same entries -/

namespace PropertyTable

/-- Both tables have the same entry under each name, or none. -/
def SameMap (table twin : PropertyTable) : Prop :=
  ∀ name, table.entryOf? name = twin.entryOf? name

/-- Two tables that can be searched through their indices have the same entry under each name. -/
structure Reordered (table twin : PropertyTable) : Prop where
  coherent : table.Coherent
  coherent' : twin.Coherent
  same : table.SameMap twin

theorem Coherent.reordered {table : PropertyTable} (coherent : table.Coherent) : table.Reordered table :=
  ⟨coherent, coherent, fun _ => rfl⟩

/-- Changes to different names can be made in either order. -/
theorem Coherent.set_comm {table : PropertyTable} (coherent : table.Coherent) {name name' : String}
    (apart : name ≠ name') (tier tier' : String) (value value' : Value) :
    ((table.set tier name value).set tier' name' value').Reordered
      ((table.set tier' name' value').set tier name value) where
  coherent := coherent_set (coherent_set coherent tier name value) tier' name' value'
  coherent' := coherent_set (coherent_set coherent tier' name' value') tier name value
  same other := by
    have first := coherent_set coherent tier name value
    have second := coherent_set coherent tier' name' value'
    rw [(coherent_set first tier' name' value').entryOf?_eq, toList_set first, toList_set coherent,
      (coherent_set second tier name value).entryOf?_eq, toList_set second, toList_set coherent]
    simp only [EntryList.entryOf?_set]
    by_cases here : other = name
    · simp [here, apart]
    · simp [here]

/-- The same entries in another order have the same entry under each name. -/
theorem Reordered.of_perm {table twin : PropertyTable} (coherent : table.Coherent)
    (coherent' : twin.Coherent) (perm : table.entries.toList.Perm twin.entries.toList) :
    table.Reordered twin where
  coherent := coherent
  coherent' := coherent'
  same name := by
    refine Option.ext fun entry => ?_
    rw [coherent.entryOf?_eq_some_iff, coherent'.entryOf?_eq_some_iff, ← Array.mem_toList_iff,
      ← Array.mem_toList_iff, perm.mem_iff]

namespace Reordered

variable {table twin : PropertyTable} (reordered : table.Reordered twin)
include reordered

theorem apply (change : TableChange) : (table.apply change).Reordered (twin.apply change) where
  coherent := coherent_apply reordered.coherent change
  coherent' := coherent_apply reordered.coherent' change
  same name := by
    have before (other : String) : EntryList.entryOf? table.entries.toList other =
        EntryList.entryOf? twin.entries.toList other := by
      rw [← reordered.coherent.entryOf?_eq, ← reordered.coherent'.entryOf?_eq, reordered.same]
    rw [reordered.coherent.entryOf?_apply, reordered.coherent'.entryOf?_apply]
    cases change with
    | set tier written value => simp only [EntryList.apply, EntryList.entryOf?_set, before]
    | setAll tier members => simp only [EntryList.apply, EntryList.entryOf?_setAll, before]
    | remove dropped => simp only [EntryList.apply, EntryList.entryOf?_remove, before]

/-- The entries are the same, in some order. -/
theorem perm : table.entries.toList.Perm twin.entries.toList := by
  have unique {table : PropertyTable} (coherent : table.Coherent) : table.entries.toList.Nodup :=
    .of_map _ coherent.nodup_names
  have member {table : PropertyTable} (coherent : table.Coherent) (entry : Entry) :
      entry ∈ table.entries.toList ↔ table.entryOf? entry.name = some entry := by
    rw [coherent.entryOf?_eq_some_iff, and_iff_left rfl, Array.mem_toList_iff]
  refine (List.perm_ext_iff_of_nodup (unique reordered.coherent) (unique reordered.coherent')).mpr
    fun entry => ?_
  rw [member reordered.coherent, member reordered.coherent', reordered.same]

theorem size_eq : table.size = twin.size := by
  simpa [size] using reordered.perm.length_eq

theorem contains_eq : table.contains = twin.contains := by
  funext name
  rw [Bool.eq_iff_iff, reordered.coherent.contains_iff, reordered.coherent'.contains_iff]
  exact (reordered.perm.map Entry.name).mem_iff

theorem inheritable : table.inheritable.Reordered twin.inheritable := by
  refine .of_perm (coherent_inheritable table) (coherent_inheritable twin) ?_
  rw [toList_inheritable reordered.coherent, toList_inheritable reordered.coherent']
  exact reordered.perm.filter _

theorem perm_entriesIn (tier : String) : (table.entriesIn tier).Perm (twin.entriesIn tier) :=
  (reordered.perm.filter _).map _

theorem perm_tiers : table.tiers.Perm twin.tiers := by
  refine (List.perm_ext_iff_of_nodup (nodup_eraseDups _) (nodup_eraseDups _)).mpr fun tier => ?_
  rw [List.mem_eraseDups, List.mem_eraseDups]
  exact (reordered.perm.map Entry.tier).mem_iff

end Reordered

end PropertyTable

/-! ## Worlds that are the same but for order -/

/-- The entries of a table stand in another order, and nothing else differs. -/
def entryOrder : Likeness where
  tables := PropertyTable.Reordered
  listings := List.Perm
  settings _ := Eq
  shared := 0
  tables_ofEntries entries := (PropertyTable.coherent_ofEntries entries).reordered
  tables_apply reordered := reordered.apply
  tables_inheritable reordered := reordered.inheritable
  size_eq reordered := reordered.size_eq
  entryOf?_eq reordered := funext reordered.same
  contains_eq reordered := reordered.contains_eq
  listings_entries reordered _ shown := reordered.perm.map shown
  listings_entriesIn reordered := reordered.perm_entriesIn
  listings_tiers reordered := reordered.perm_tiers
  settings_shared _ _ := rfl
  allowsEmptyNames_eq same := congrArg Settings.allowsEmptyNames same
  ancestors_eq same _ _ := by rw [same]

namespace World

/-- Corresponding tables have the same entry under each name, and nothing else differs in the two
worlds. What was recorded and shown in them so far is not looked at. -/
structure SameButOrder (world twin : World) : Prop where
  size : world.store.tables.size = twin.store.tables.size
  tables : ∀ ref, (world.store.table ref).SameMap (twin.store.table ref)
  objects : world.store.objects = twin.store.objects
  contexts : world.contexts = twin.contexts
  slots : world.slots = twin.slots
  heldTables : world.heldTables = twin.heldTables

section Similarity

variable {world twin : World}

theorem SameButOrder.alike (same : world.SameButOrder twin) (coherent : world.store.Coherent)
    (coherent' : twin.store.Coherent) (formed : world.RealmsWellFormed) :
    entryOrder.Alike world twin where
  store := {
    tables := by
      refine .of_size_eq same.size fun position table other found found' => ?_
      have tables := same.tables ⟨position⟩
      simp only [Store.table, found, found', Option.getD_some] at tables
      exact ⟨coherent table (Array.mem_of_getElem? found), coherent' other (Array.mem_of_getElem? found'),
        tables⟩
    objects := same.objects
    journal := .refl _ _
    writes := .refl _ _ }
  contexts := by
    simp only [← same.contexts]
    refine .refl fun context found present => ?_
    cases found with
    | bare registry => exact .bare registry
    | realm realm => exact .realm (.intro (formed present) rfl)
  shared := Nat.zero_le _
  slots := same.slots
  heldTables := same.heldTables
  displays := .nil

theorem SameButOrder.of_alike (alike : entryOrder.Alike world twin) : world.SameButOrder twin where
  size := alike.store.tables.size_eq
  tables ref := (alike.store.table ref).same
  objects := alike.store.objects
  contexts := by
    refine alike.contexts.eq fun alike => ?_
    cases alike with
    | bare registry => rfl
    | realm alike =>
      cases alike with
      | intro formed same =>
        cases same
        rfl
  slots := alike.slots
  heldTables := alike.heldTables

/-- Setting two names in the one order or in the other makes worlds that are the same but for order. -/
theorem Reachable.sameButOrder_of_sets (reachable : world.Reachable) (ref : TableRef)
    {name name' : String} (apart : name ≠ name') (tier tier' : String) (value value' : Value) :
    (world.run [.write ref (.set tier name value), .write ref (.set tier' name' value')]).SameButOrder
      (world.run [.write ref (.set tier' name' value'), .write ref (.set tier name value)]) where
  size := by simp [World.act, Action.effect]
  tables other := by
    by_cases here : other = ref
    · subst here
      simp only [run_cons, run_nil, World.act, Action.effect, perform_onStore, Store.perform_write,
        Store.table, Array.getElem?_modify, if_true, Option.map_map]
      cases found : world.store.tables[other.index]? with
      | none => exact fun _ => rfl
      | some table =>
        have coherent := reachable.coherent table (Array.mem_of_getElem? found)
        exact (coherent.set_comm apart tier tier' value value').same
    · intro name
      simp only [run_cons, run_nil, World.act, Action.effect, perform_onStore,
        Store.table_write_of_ne here]
  objects := rfl
  contexts := rfl
  slots := rfl
  heldTables := rfl

/-- Two worlds of some runs are the same but for the order of entries. Whatever is demanded of both, one
thing after the other, they stay so, and each demand is met with the same records and, unless it lists
the entries of a table, with the same outcome. Listed entries are the same in both worlds, in some
order, also where scripts show them. -/
theorem entry_order_decides_nothing (reachable : world.Reachable) (reachable' : twin.Reachable)
    (same : world.SameButOrder twin) (demands : List Demand) :
    (world.meetAll demands).SameButOrder (twin.meetAll demands) ∧
      ∀ demand : Demand,
        let record := ((world.meetAll demands).meet demand).1
        let other := ((twin.meetAll demands).meet demand).1
        record.journal = other.journal ∧
          (¬ demand.Lists → record.outcome = other.outcome) ∧
          OutcomesMatch entryOrder.Replies record.outcome other.outcome ∧
          List.Forall₂ entryOrder.Displays record.displays other.displays := by
  have alike := (same.alike reachable.coherent reachable'.coherent reachable.realmsWellFormed).meetAll
    demands
  refine ⟨.of_alike alike, fun demand => ?_⟩
  have records := alike.records demand
  exact ⟨records.journal, records.outcome_eq, records.outcome.mono (·.replies), records.displays⟩

end Similarity

/-! ## A root with two members -/

namespace TwoOrders

def opened : World :=
  empty.act (.openContext (.realm .standard))

def first : Action :=
  .write ⟨0⟩ (.set publicTier "x" (.ofClass ⟨1⟩))

def second : Action :=
  .write ⟨0⟩ (.set publicTier "y" (.ofClass ⟨2⟩))

/-- A class is created, which copies the members of the root. -/
def demands : List Demand :=
  [.perform 1 (.outer 0) (.realm (.createClass "A"))]

/-- A copied member is asked for. -/
def question : Demand :=
  .perform 1 (.outer 0) (.realm (.getProperty (.known ⟨5⟩) "y"))

/-- The members of the root stand in the order in which they were set. -/
theorem names_root {name name' : String} (new : name ≠ "create") (new' : name' ≠ "create")
    (apart : name ≠ name') (value value' : Value) :
    ((opened.run [.write ⟨0⟩ (.set publicTier name value),
      .write ⟨0⟩ (.set publicTier name' value')]).store.table ⟨0⟩).names = ["create", name, name'] := by
  have table : (opened.run [.write ⟨0⟩ (.set publicTier name value),
      .write ⟨0⟩ (.set publicTier name' value')]).store.table ⟨0⟩ =
      (((PropertyTable.empty.set publicTier "create" (Realm.startConstructor .empty)).set publicTier
        name value).set publicTier name' value') := rfl
  have started := PropertyTable.coherent_set PropertyTable.coherent_empty publicTier "create"
    (Realm.startConstructor .empty)
  have bare : PropertyTable.empty.names = [] := rfl
  rw [table, PropertyTable.names_set (PropertyTable.coherent_set started publicTier name value),
    PropertyTable.names_set started, PropertyTable.names_set PropertyTable.coherent_empty, bare]
  simp [new, new', apart.symm]

end TwoOrders

open TwoOrders in
/-- The members of the root stand in different orders, and what is asked of a copy has one answer. -/
theorem entry_order_decides_nothing_two :
    (opened.run [first, second]).SameButOrder (opened.run [second, first]) ∧
      ((opened.run [first, second]).store.table ⟨0⟩).names = ["create", "x", "y"] ∧
      ((opened.run [second, first]).store.table ⟨0⟩).names = ["create", "y", "x"] ∧
      (((opened.run [first, second]).meetAll demands).meet question).1.outcome =
        (((opened.run [second, first]).meetAll demands).meet question).1.outcome := by
  have reachable : opened.Reachable := ⟨[.openContext (.realm .standard)], rfl⟩
  have same : (opened.run [first, second]).SameButOrder (opened.run [second, first]) :=
    reachable.sameButOrder_of_sets ⟨0⟩ (by decide) publicTier publicTier _ _
  obtain ⟨_, meets⟩ :=
    entry_order_decides_nothing (reachable.run _) (reachable.run _) same demands
  obtain ⟨_, outcome, _⟩ := meets question
  exact ⟨same, names_root (by decide) (by decide) (by decide) _ _,
    names_root (by decide) (by decide) (by decide) _ _, outcome id⟩

end World

end ObjectModel
