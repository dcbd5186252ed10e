import ObjectModel.Proofs.Runs.Growth
import Mathlib.Algebra.BigOperators.Group.List.Lemmas
import Mathlib.Algebra.GroupWithZero.Nat

/-! # Tiers divide a table

A table does not store its tiers. They are read off the entries, which carry one tier each, so an entry
that moves to another tier keeps its position, and a tier is gone when its last entry is. What is read
off is a division all the same: every name is listed in the one tier that it is stored under, the tiers
in use are those that list something, and together they list every entry once. The entries of a tier
stand in the order of the table, and the tiers in the order of their first entries.
-/

namespace ObjectModel

/-- The occurrences of all different items together are as many as the items. -/
theorem sum_count_eraseDups {α : Type} [DecidableEq α] (items : List α) :
    (items.eraseDups.map fun item => items.count item).sum = items.length := by
  have same : items.eraseDups.Perm items.dedup :=
    (List.perm_ext_iff_of_nodup (nodup_eraseDups items) items.nodup_dedup).mpr fun item => by
      rw [List.mem_eraseDups, List.mem_dedup]
  calc (items.eraseDups.map fun item => items.count item).sum
      = (items.dedup.map fun item => items.count item).sum := (same.map _).sum_eq
    _ = items.length := List.sum_map_count_dedup_eq_length items

/-! ## The entries of a tier -/

namespace PropertyTable

/-- The place, in the order of the names, of the first name that is stored under a tier. Where there is
none it is the number of the names. -/
def firstPlace (table : PropertyTable) (tier : String) : Nat :=
  table.names.findIdx fun name => table.tierOf? name = some tier

/-- How the tiers of a table divide its entries. -/
structure DividedByTiers (table : PropertyTable) : Prop where
  distinct : table.tiers.Nodup
  mem_iff : ∀ tier, tier ∈ table.tiers ↔ table.entriesIn tier ≠ []
  /-- Exactly the names of the table are stored under a tier. -/
  named : ∀ name, name ∈ table.names ↔ ∃ tier, table.tierOf? name = some tier
  /-- A name is listed in the tier that it is stored under, and there once, and in no other. -/
  once : ∀ name tier, ((table.entriesIn tier).map Prod.fst).count name =
    if table.tierOf? name = some tier then 1 else 0
  /-- It is listed with its value. -/
  valued : ∀ name tier value, (name, value) ∈ table.entriesIn tier ↔
    table.tierOf? name = some tier ∧ table.find? name = some value
  total : (table.tiers.map fun tier => (table.entriesIn tier).length).sum = table.size
  inOrder : ∀ tier, ((table.entriesIn tier).map Prod.fst).Sublist table.names
  byFirst : table.tiers.Pairwise fun earlier later => table.firstPlace earlier < table.firstPlace later

section Entries

variable {table : PropertyTable}

theorem length_entriesIn (table : PropertyTable) (tier : String) :
    (table.entriesIn tier).length = (table.entries.toList.map Entry.tier).count tier := by
  rw [entriesIn, List.length_map, List.count_eq_countP, List.countP_map,
    List.countP_eq_length_filter]
  rfl

theorem mem_tiers_iff (table : PropertyTable) (tier : String) :
    tier ∈ table.tiers ↔ table.entriesIn tier ≠ [] := by
  rw [tiers, List.mem_eraseDups, ← List.count_pos_iff, ← length_entriesIn, List.length_pos_iff]

namespace Coherent

variable (coherent : table.Coherent)
include coherent

/-- An entry is stored under its own tier. -/
theorem tierOf?_eq_some_iff {name tier : String} :
    table.tierOf? name = some tier ↔ ∃ entry ∈ table.entries, entry.name = name ∧ entry.tier = tier := by
  simp only [tierOf?, Option.map_eq_some_iff, coherent.entryOf?_eq_some_iff, and_assoc]

theorem tierOf?_name {entry : Entry} (member : entry ∈ table.entries) :
    table.tierOf? entry.name = some entry.tier :=
  coherent.tierOf?_eq_some_iff.mpr ⟨entry, member, rfl, rfl⟩

theorem mem_names_iff {name : String} :
    name ∈ table.names ↔ ∃ tier, table.tierOf? name = some tier := by
  simp only [names, List.mem_map, Array.mem_toList_iff, coherent.tierOf?_eq_some_iff]
  constructor
  · rintro ⟨entry, member, named⟩
    exact ⟨entry.tier, entry, member, named, rfl⟩
  · rintro ⟨_, entry, member, named, _⟩
    exact ⟨entry, member, named⟩

/-- Selecting entries by their tiers is selecting names by the tiers that they are stored under. -/
theorem names_entriesIn (tier : String) :
    (table.entriesIn tier).map Prod.fst =
      table.names.filter fun name => table.tierOf? name = some tier := by
  rw [entriesIn, List.map_map, names, List.filter_map]
  refine congrArg (List.map Entry.name) (List.filter_congr fun entry member => ?_)
  simp [coherent.tierOf?_name (Array.mem_toList_iff.mp member)]

theorem count_entriesIn (name tier : String) :
    ((table.entriesIn tier).map Prod.fst).count name =
      if table.tierOf? name = some tier then 1 else 0 := by
  rw [coherent.names_entriesIn]
  split
  next stored =>
    have present : name ∈ table.names := coherent.mem_names_iff.mpr ⟨tier, stored⟩
    rw [List.count_filter (by simpa using stored), List.count_eq_one_of_mem coherent.nodup_names present]
  next elsewhere =>
    refine List.count_eq_zero.mpr fun member => elsewhere ?_
    simpa using (List.mem_filter.mp member).2

theorem mem_entriesIn_iff {name tier : String} {value : Value} :
    (name, value) ∈ table.entriesIn tier ↔
      table.tierOf? name = some tier ∧ table.find? name = some value := by
  have listed : (name, value) ∈ table.entriesIn tier ↔
      ∃ entry, table.entryOf? name = some entry ∧ entry.tier = tier ∧ entry.value = value := by
    simp only [entriesIn, List.mem_map, List.mem_filter, Array.mem_toList_iff, decide_eq_true_eq,
      Prod.mk.injEq, coherent.entryOf?_eq_some_iff]
    exact exists_congr fun entry => by tauto
  rw [listed, tierOf?, find?]
  cases table.entryOf? name <;> simp

/-- The first name of a tier stands where its first entry stands. -/
theorem firstPlace_eq (tier : String) :
    table.firstPlace tier = (table.entries.toList.map Entry.tier).idxOf tier := by
  have stored : table.names.map table.tierOf? = (table.entries.toList.map Entry.tier).map some := by
    rw [names, List.map_map, List.map_map]
    exact List.map_congr_left fun entry member =>
      coherent.tierOf?_name (Array.mem_toList_iff.mp member)
  calc table.firstPlace tier
      = (table.names.map table.tierOf?).findIdx (· = some tier) := by rw [List.findIdx_map]; rfl
    _ = ((table.entries.toList.map Entry.tier).map some).findIdx (· = some tier) := by rw [stored]
    _ = (table.entries.toList.map Entry.tier).findIdx (· = tier) := by
      rw [List.findIdx_map]
      simp only [Function.comp_def, Option.some.injEq]
    _ = (table.entries.toList.map Entry.tier).idxOf tier := rfl

theorem pairwise_firstPlace :
    table.tiers.Pairwise fun earlier later => table.firstPlace earlier < table.firstPlace later := by
  simp only [coherent.firstPlace_eq]
  exact pairwise_idxOf_eraseDups (table.entries.toList.map Entry.tier)

theorem dividedByTiers : table.DividedByTiers where
  distinct := nodup_eraseDups _
  mem_iff := table.mem_tiers_iff
  named _ := coherent.mem_names_iff
  once := coherent.count_entriesIn
  valued _ _ _ := coherent.mem_entriesIn_iff
  total := by
    simp only [length_entriesIn, tiers]
    rw [sum_count_eraseDups, List.length_map, Array.length_toList, size]
  inOrder tier := by
    rw [coherent.names_entriesIn]
    exact List.filter_sublist
  byFirst := coherent.pairwise_firstPlace

end Coherent

end Entries

/-- The tiers divide every table, whatever its history: any changes, with any words for tiers, and copies
of the whole table or of its public entries in between. They divide the table behind every handle after
every run. -/
theorem tiers_divide_table :
    (∀ history : List TableStep, (history.foldl follow empty).DividedByTiers) ∧
    ∀ (actions : List Action) (ref : TableRef),
      ((World.empty.run actions).store.table ref).DividedByTiers := by
  refine ⟨fun history => (coherent_history history).dividedByTiers, fun actions ref => ?_⟩
  have reachable : (World.empty.run actions).Reachable := ⟨actions, rfl⟩
  exact (reachable.coherent.table ref).dividedByTiers

/-- A name that moves to a tier without a word brings that tier in front, and keeps its own position. -/
example :
    let both := (empty.set publicTier "x" (.ofClass ⟨1⟩)).set publicTier "y" (.ofClass ⟨2⟩)
    let moved := both.set "" "x" (.ofClass ⟨3⟩)
    moved.names = both.names ∧ both.tiers = [publicTier] ∧ moved.tiers = ["", publicTier] :=
  ⟨rfl, rfl, rfl⟩

end PropertyTable

end ObjectModel
