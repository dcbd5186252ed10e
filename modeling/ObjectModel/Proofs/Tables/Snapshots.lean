import ObjectModel.Proofs.Runs.Growth

/-! # Snapshots of tables

A snapshot is a new table of the public entries of another one. It is built by setting the public
members one after the other, so it has an index of its own, and it is the public part of its source:
same entries, same order. Taking a snapshot and changing a table can be exchanged, because a change at
one name moves nothing else. Only a name that comes into the public tier from another one shows which
was done first: in the source it keeps its position, and in the snapshot it comes last.
-/

namespace ObjectModel

/-! ## The public part of a list -/

namespace EntryList

variable {entries : EntryList} {name : String}

theorem publicPart_publicPart (entries : EntryList) : entries.publicPart.publicPart = entries.publicPart := by
  simp [publicPart]

theorem publicPart_remove (entries : EntryList) (name : String) :
    (entries.remove name).publicPart = entries.publicPart.remove name :=
  List.filter_comm _ _ entries

theorem without_publicPart (entries : EntryList) (names : List String) :
    entries.publicPart.without names = (entries.without names).publicPart :=
  List.filter_comm _ _ entries

/-- A name that is public already, or new, stands in the public part where it stands in the list. -/
theorem publicPart_set (stays : ∀ entry ∈ entries, entry.name = name → entry.tier = publicTier)
    (value : Value) :
    (entries.set publicTier name value).publicPart = entries.publicPart.set publicTier name value := by
  induction entries with
  | nil => simp [set, publicPart]
  | cons entry rest ih =>
    obtain ⟨first, later⟩ := List.forall_mem_cons.mp stays
    have rest' := ih later
    simp only [publicPart] at rest'
    by_cases here : entry.name = name
    · simp [set, publicPart, here, first here]
    · by_cases visible : entry.tier = publicTier
      · simp [set, publicPart, here, visible, rest']
      · simp [set, publicPart, here, visible, rest']

/-- A name that is set in another tier is not in the public part, whether it was there or not. -/
theorem publicPart_set_of_ne {tier : String} (hidden : tier ≠ publicTier)
    (unique : entries.names.Nodup) (value : Value) :
    (entries.set tier name value).publicPart = entries.publicPart.remove name := by
  rw [← publicPart_remove]
  induction entries with
  | nil => simp [set, remove, publicPart, hidden]
  | cons entry rest ih =>
    simp only [names, List.map_cons, List.nodup_cons] at unique
    by_cases here : entry.name = name
    · -- the name does not occur a second time
      have gone : remove rest name = rest := remove_of_notMem (here ▸ unique.1)
      have replaced : set tier name value (entry :: rest) = { entry with tier, value } :: rest :=
        if_pos here
      have dropped : remove (entry :: rest) name = rest := by simpa [remove, here] using gone
      rw [replaced, dropped]
      simp [publicPart, hidden]
    · have rest' := ih unique.2
      simp only [publicPart, remove] at rest'
      simp [set, remove, publicPart, here, List.filter_cons, rest']

/-- In the public part a name has its entry if that is public, and else none. -/
theorem entryOf?_publicPart (unique : entries.names.Nodup) (name : String) :
    entries.publicPart.entryOf? name = (entries.entryOf? name).filter (·.tier = publicTier) := by
  induction entries with
  | nil => rfl
  | cons entry rest ih =>
    simp only [names, List.map_cons, List.nodup_cons] at unique
    have rest' := ih unique.2
    simp only [publicPart, entryOf?] at rest'
    by_cases here : entry.name = name
    · subst here
      have absent : rest.find? (·.name = entry.name) = none :=
        List.find?_eq_none.mpr fun other member same =>
          unique.1 (List.mem_map.mpr ⟨other, member, by simpa using same⟩)
      rw [absent] at rest'
      by_cases visible : entry.tier = publicTier
      · simp [publicPart, entryOf?, visible, Option.filter]
      · rw [publicPart, List.filter_cons_of_neg (by simpa using visible), entryOf?, rest']
        simp [entryOf?, visible, Option.filter]
    · by_cases visible : entry.tier = publicTier
      · simp [publicPart, entryOf?, here, visible, rest']
      · simp [publicPart, entryOf?, here, visible, rest']

end EntryList

/-! ## Snapshots and changes -/

namespace PropertyTable

section Changes

variable {table twin : PropertyTable}

/-- The entries decide the index, so tables with the same entries are equal. -/
theorem Coherent.ext (coherent : table.Coherent) (coherent' : twin.Coherent)
    (same : table.entries.toList = twin.entries.toList) : table = twin := by
  have entries : table.entries = twin.entries := Array.toList_inj.mp same
  have index : table.index = twin.index := by
    refine Std.ExtTreeMap.ext_getElem? fun name => Option.ext fun position => ?_
    rw [coherent name position, coherent' name position, names, names, same]
  cases table
  cases twin
  simp_all

variable (coherent : table.Coherent) (name : String)
include coherent

theorem Coherent.inheritable_inheritable : table.inheritable.inheritable = table.inheritable := by
  have copy := coherent_inheritable table
  refine (coherent_inheritable _).ext copy ?_
  rw [toList_inheritable copy, toList_inheritable coherent, EntryList.publicPart_publicPart]

theorem Coherent.inheritable_remove :
    (table.remove name).2.inheritable = (table.inheritable.remove name).2 := by
  have copy := coherent_inheritable table
  refine (coherent_inheritable _).ext (coherent_remove copy name) ?_
  rw [toList_inheritable (coherent_remove coherent name), toList_remove coherent, toList_remove copy,
    toList_inheritable coherent, EntryList.publicPart_remove]

theorem Coherent.inheritable_set_of_ne {tier : String} (hidden : tier ≠ publicTier) (value : Value) :
    (table.set tier name value).inheritable = (table.inheritable.remove name).2 := by
  have copy := coherent_inheritable table
  refine (coherent_inheritable _).ext (coherent_remove copy name) ?_
  rw [toList_inheritable (coherent_set coherent tier name value), toList_set coherent,
    toList_remove copy, toList_inheritable coherent,
    EntryList.publicPart_set_of_ne hidden coherent.nodup_names]

/-- Setting a name in the public tier can be exchanged with the snapshot, unless the name comes from
another tier. -/
theorem Coherent.inheritable_set
    (stays : ∀ tier, table.tierOf? name = some tier → tier = publicTier) (value : Value) :
    (table.set publicTier name value).inheritable =
      table.inheritable.set publicTier name value := by
  have copy := coherent_inheritable table
  have visible : ∀ entry ∈ table.entries.toList, entry.name = name → entry.tier = publicTier := by
    intro entry member named
    have found := coherent.entryOf?_eq_some_iff.mpr ⟨Array.mem_toList_iff.mp member, named⟩
    exact stays entry.tier (by rw [tierOf?, found, Option.map_some])
  refine (coherent_inheritable _).ext (coherent_set copy publicTier name value) ?_
  rw [toList_inheritable (coherent_set coherent publicTier name value), toList_set coherent,
    toList_set copy, toList_inheritable coherent, EntryList.publicPart_set visible]

/-- Wherever the name comes from, both ways give every name the same entry. -/
theorem Coherent.entryOf?_inheritable_set (value : Value) (other : String) :
    (table.set publicTier name value).inheritable.entryOf? other =
      (table.inheritable.set publicTier name value).entryOf? other := by
  have copy := coherent_inheritable table
  have changed := coherent_set coherent publicTier name value
  have unique : (EntryList.set publicTier name value table.entries.toList).names.Nodup := by
    rw [← toList_set coherent]
    exact changed.nodup_names
  rw [(coherent_inheritable _).entryOf?_eq, toList_inheritable changed, toList_set coherent,
    EntryList.entryOf?_publicPart unique, EntryList.entryOf?_set,
    (coherent_set copy publicTier name value).entryOf?_eq, toList_set copy,
    toList_inheritable coherent, EntryList.entryOf?_set,
    EntryList.entryOf?_publicPart coherent.nodup_names]
  by_cases same : other = name
  · simp [same, Option.filter]
  · simp [same]

/-- Wherever the name comes from, all other names stand in the same order. -/
theorem Coherent.without_inheritable_set (value : Value) :
    EntryList.without (table.set publicTier name value).inheritable.entries.toList [name] =
      EntryList.without (table.inheritable.set publicTier name value).entries.toList [name] := by
  have copy := coherent_inheritable table
  have written : name ∈ [name] := List.mem_singleton.mpr rfl
  rw [toList_inheritable (coherent_set coherent publicTier name value), toList_set coherent,
    EntryList.without_publicPart, EntryList.without_set written, ← EntryList.without_publicPart,
    toList_set copy, EntryList.without_set written, toList_inheritable coherent]

end Changes

/-- How the snapshot of a table is related to the table, and to the snapshot of the table after a
change. -/
structure SnapshotLaws (table : PropertyTable) : Prop where
  contents : table.inheritable.entries.toList =
    table.entries.toList.filter fun entry => entry.tier = publicTier
  sound : table.inheritable.IndexSound
  idempotent : table.inheritable.inheritable = table.inheritable
  remove : ∀ name, (table.remove name).2.inheritable = (table.inheritable.remove name).2
  set : ∀ name value, (∀ tier, table.tierOf? name = some tier → tier = publicTier) →
    (table.set publicTier name value).inheritable = table.inheritable.set publicTier name value
  /-- A name that comes from another tier has the same entry both ways, as all others have. -/
  setMap : ∀ name value other,
    (table.set publicTier name value).inheritable.entryOf? other =
      (table.inheritable.set publicTier name value).entryOf? other
  /-- The entries of all names but this one are the same both ways, in the same order. -/
  setOrder : ∀ name value,
    EntryList.without (table.set publicTier name value).inheritable.entries.toList [name] =
      EntryList.without (table.inheritable.set publicTier name value).entries.toList [name]
  setHidden : ∀ tier name value, tier ≠ publicTier →
    (table.set tier name value).inheritable = (table.inheritable.remove name).2

theorem Coherent.snapshotLaws {table : PropertyTable} (coherent : table.Coherent) :
    table.SnapshotLaws where
  contents := toList_inheritable coherent
  sound := (coherent_inheritable table).indexSound
  idempotent := coherent.inheritable_inheritable
  remove name := coherent.inheritable_remove name
  set name value stays := coherent.inheritable_set name stays value
  setMap name value other := coherent.entryOf?_inheritable_set name value other
  setOrder name value := coherent.without_inheritable_set name value
  setHidden _ name value hidden := coherent.inheritable_set_of_ne name hidden value

/-- The snapshot of every table, whatever its history, is a sound table of the public entries in their
order. A snapshot of it changes nothing more, and snapshots can be exchanged with removals and with
changes to the tier of a name. Where a table is behind a handle after some run, taking its snapshot
leaves all tables as they are and writes one trace, which counts the entries of the snapshot and those
of the table. -/
theorem snapshots_commute :
    (∀ history : List TableStep, (history.foldl follow empty).SnapshotLaws) ∧
    ∀ (actions : List Action) (ref : TableRef),
      let store := (World.empty.run actions).store
      let copy := (store.table ref).inheritable
      let told := LogRecord.snapshot copy.size (store.table ref).size
      (store.table ref).SnapshotLaws ∧
      (Store.snapshot ref).perform store =
        (.ok copy, { store with journal := store.journal.push told }) ∧
      told.level = .trace ∧
      told.message = "inheritable snapshot: " ++ copy.entries.size.repr ++ " of " ++
        (store.table ref).entries.size.repr ++ " entries" := by
  refine ⟨fun history => (coherent_history history).snapshotLaws, fun actions ref => ?_⟩
  intro store copy told
  have reachable : (World.empty.run actions).Reachable := ⟨actions, rfl⟩
  exact ⟨(reachable.coherent.table ref).snapshotLaws, Store.perform_snapshot ref store, rfl, rfl⟩

/-! ## A name that becomes public -/

namespace Published

/-- A hidden name stands before a public one. -/
def history : List TableStep :=
  [.change (.set "hidden" "first" (.ofClass ⟨0⟩)), .change (.set publicTier "second" (.ofClass ⟨1⟩))]

def table : PropertyTable :=
  history.foldl follow empty

end Published

open Published in
/-- A name that becomes public keeps its position in the table and comes last in the snapshot, so the
order tells which was done first, but nothing else does. Where a public name is set once more, even the
order does not tell. -/
theorem snapshots_commute_published :
    (table.set publicTier "first" (.ofClass ⟨2⟩)).inheritable.names = ["first", "second"] ∧
      (table.inheritable.set publicTier "first" (.ofClass ⟨2⟩)).names = ["second", "first"] ∧
      (∀ other, (table.set publicTier "first" (.ofClass ⟨2⟩)).inheritable.entryOf? other =
        (table.inheritable.set publicTier "first" (.ofClass ⟨2⟩)).entryOf? other) ∧
      table.tierOf? "second" = some publicTier ∧
      (table.set publicTier "second" (.ofClass ⟨2⟩)).inheritable =
        table.inheritable.set publicTier "second" (.ofClass ⟨2⟩) := by
  have coherent : table.Coherent := coherent_history history
  have copy : table.inheritable.Coherent := coherent_inheritable table
  have entries : table.entries.toList =
      [⟨"first", "hidden", .ofClass ⟨0⟩⟩, ⟨"second", publicTier, .ofClass ⟨1⟩⟩] := by
    rw [table, toList_history coherent_empty history]
    simp [history, EntryList.follow, EntryList.apply, EntryList.set, empty]
  have laws : table.SnapshotLaws := snapshots_commute.1 history
  have tier : table.tierOf? "second" = some publicTier := by
    rw [coherent.answersAs.tierOf, entries]
    simp [EntryList.tierOf?, EntryList.entryOf?]
  refine ⟨?_, ?_, laws.setMap "first" _, tier, laws.set "second" _ fun other held => ?_⟩
  · rw [names, toList_inheritable (coherent_set coherent publicTier _ _), toList_set coherent, entries]
    simp [EntryList.set, EntryList.publicPart]
  · rw [names, toList_set copy, toList_inheritable coherent, entries]
    simp [EntryList.set, EntryList.publicPart, publicTier]
  · rw [tier] at held
    exact (Option.some.inj held).symm

end PropertyTable

end ObjectModel
