import ObjectModel.Proofs.Tables.EntryList
import Mathlib.Data.List.InsertIdx

/-! # Property tables refine plain lists

A property table finds entries through its index, while a plain list is searched from its front.
A coherent table has every name of its entries in the index, at the one position where it stands,
and nothing else. Every operation keeps that, so along every history of a table its entries are the
plain list that the same history makes, and whatever is asked of either has the same answer.
-/

namespace ObjectModel

namespace PropertyTable

/-- The index maps exactly the names, and each to its position. -/
def Coherent (table : PropertyTable) : Prop :=
  ∀ (name : String) (position : Nat),
    table.index[name]? = some position ↔ table.names[position]? = some name

theorem coherent_empty : Coherent empty := by
  intro name position
  simp [empty, names]

namespace Coherent

variable {table : PropertyTable}

theorem nodup_names (coherent : table.Coherent) : table.names.Nodup := by
  refine List.nodup_iff_getElem?_ne_getElem?.mpr fun first second before bound same => ?_
  obtain ⟨name, present⟩ : ∃ name, table.names[second]? = some name :=
    ⟨_, List.getElem?_eq_getElem bound⟩
  have found := (coherent name second).mpr present
  rw [(coherent name first).mpr (same.trans present), Option.some.injEq] at found
  omega

theorem index_eq_none_iff (coherent : table.Coherent) {name : String} :
    table.index[name]? = none ↔ name ∉ table.names := by
  rw [Option.eq_none_iff_forall_ne_some, List.mem_iff_getElem?, not_exists]
  exact forall_congr' fun position => not_congr (coherent name position)

theorem position_lt (coherent : table.Coherent) {name : String} {position : Nat}
    (found : table.index[name]? = some position) : position < table.entries.size := by
  obtain ⟨bound, _⟩ := List.getElem?_eq_some_iff.mp ((coherent name position).mp found)
  simpa [names] using bound

/-- Reading through the index finds the first entry of the name. -/
theorem entryOf?_eq (coherent : table.Coherent) (name : String) :
    table.entryOf? name = EntryList.entryOf? table.entries.toList name := by
  cases found : table.index[name]? with
  | none =>
    have absent := coherent.index_eq_none_iff.mp found
    simp only [entryOf?, found, Option.bind_none, EntryList.entryOf?]
    refine (List.find?_eq_none.mpr fun entry member same => absent ?_).symm
    exact List.mem_map.mpr ⟨entry, member, by simpa using same⟩
  | some position =>
    have atPosition := (coherent name position).mp found
    rw [names, List.getElem?_map] at atPosition
    obtain ⟨entry, present, rfl⟩ := Option.map_eq_some_iff.mp atPosition
    have bound := coherent.position_lt found
    have inArray : table.entries[position]? = some entry := by simpa using present
    simp only [entryOf?, found, Option.bind_some, inArray, EntryList.entryOf?]
    symm
    rw [List.find?_eq_some_iff_getElem]
    refine ⟨by simp, position, by simpa using bound, ?_, fun earlier before => ?_⟩
    · exact (List.getElem?_eq_some_iff.mp present).2
    · -- an earlier entry of the same name would give the name two positions
      have distinct := List.nodup_iff_getElem?_ne_getElem?.mp coherent.nodup_names earlier position
        before (by simpa [names] using bound)
      simp only [names, List.getElem?_map, present] at distinct
      rw [List.getElem?_eq_getElem (by simpa using Nat.lt_trans before bound)] at distinct
      simpa using distinct

/-- The entry of a name is the one entry that has it. -/
theorem entryOf?_eq_some_iff (coherent : table.Coherent) {name : String} {entry : Entry} :
    table.entryOf? name = some entry ↔ entry ∈ table.entries ∧ entry.name = name := by
  constructor
  · intro found
    obtain ⟨position, indexed, present⟩ := Option.bind_eq_some_iff.mp found
    have named := (coherent name position).mp indexed
    refine ⟨Array.mem_of_getElem? present, ?_⟩
    simpa [names, present] using named
  · rintro ⟨member, rfl⟩
    obtain ⟨position, present⟩ := Array.getElem?_of_mem member
    have indexed := (coherent entry.name position).mpr (by simp [names, present])
    rw [entryOf?, indexed, Option.bind_some, present]

theorem find?_eq_some_iff (coherent : table.Coherent) {name : String} {value : Value} :
    table.find? name = some value ↔ ∃ entry ∈ table.entries, entry.name = name ∧ entry.value = value := by
  simp only [find?, Option.map_eq_some_iff, coherent.entryOf?_eq_some_iff, and_assoc]

theorem find?_eq_none_iff (coherent : table.Coherent) {name : String} :
    table.find? name = none ↔ ∀ entry ∈ table.entries, entry.name ≠ name := by
  rw [find?, Option.map_eq_none_iff, Option.eq_none_iff_forall_ne_some]
  simp only [ne_eq, coherent.entryOf?_eq_some_iff, not_and]

theorem contains_iff (coherent : table.Coherent) (name : String) :
    table.contains name = true ↔ name ∈ table.names := by
  rw [contains, Std.ExtTreeMap.contains_eq_isSome_getElem?, Option.isSome_iff_ne_none, ne_eq,
    coherent.index_eq_none_iff, not_not]

/-- The index and the entries have the same number of elements. -/
theorem size_index (coherent : table.Coherent) : table.index.size = table.entries.size := by
  have same : table.index.keys.Perm table.names := by
    refine (List.perm_ext_iff_of_nodup Std.ExtTreeMap.nodup_keys coherent.nodup_names).mpr ?_
    intro name
    rw [Std.ExtTreeMap.mem_keys, ← Std.ExtTreeMap.contains_iff_mem]
    exact coherent.contains_iff name
  rw [← Std.ExtTreeMap.length_keys, same.length_eq, names, List.length_map, Array.length_toList]

end Coherent

/-! ## Setting -/

variable {table : PropertyTable}

theorem toList_set (coherent : table.Coherent) (tier name : String) (value : Value) :
    (table.set tier name value).entries.toList =
      EntryList.set tier name value table.entries.toList := by
  cases found : table.index[name]? with
  | none =>
    have absent := coherent.index_eq_none_iff.mp found
    simp only [set, found, Array.toList_push, EntryList.set_of_notMem absent]
  | some position =>
    have present := (coherent name position).mp found
    simp only [set, found, Array.toList_modify,
      EntryList.set_of_getElem? coherent.nodup_names present]

theorem names_set (coherent : table.Coherent) (tier name : String) (value : Value) :
    (table.set tier name value).names =
      if name ∈ table.names then table.names else table.names ++ [name] := by
  rw [names, toList_set coherent]
  exact EntryList.names_set _ tier name value

theorem coherent_set (coherent : table.Coherent) (tier name : String) (value : Value) :
    (table.set tier name value).Coherent := by
  intro other position
  rw [names_set coherent]
  cases found : table.index[name]? with
  | none =>
    have absent := coherent.index_eq_none_iff.mp found
    have length : table.names.length = table.entries.size := by simp [names]
    simp only [set, found, absent, ↓reduceIte, Std.ExtTreeMap.getElem?_insert, Std.compare_eq_iff_eq]
    by_cases same : name = other
    · subst same
      have missing : table.names[position]? ≠ some name := fun at' => absent (List.mem_of_getElem? at')
      grind
    · have known := coherent other position
      grind
  | some position =>
    have present : name ∈ table.names := List.mem_of_getElem? ((coherent name position).mp found)
    simp only [set, found, present, ↓reduceIte]
    exact coherent other _

theorem coherent_setAll (coherent : table.Coherent) (tier : String)
    (members : List (String × Value)) : (table.setAll tier members).Coherent := by
  induction members generalizing table with
  | nil => exact coherent
  | cons member rest ih => exact ih (coherent_set coherent tier member.1 member.2)

theorem toList_setAll (coherent : table.Coherent) (tier : String)
    (members : List (String × Value)) :
    (table.setAll tier members).entries.toList =
      EntryList.setAll table.entries.toList tier members := by
  induction members generalizing table with
  | nil => rfl
  | cons member rest ih =>
    have rest' := ih (coherent_set coherent tier member.1 member.2)
    rwa [toList_set coherent] at rest'

/-! ## Removing -/

/-- The repair moves the positions of the given names, once each, and no others. -/
theorem getElem?_shiftBack {later : List Entry} (unique : (later.map Entry.name).Nodup)
    (index : Std.ExtTreeMap String Nat) (name : String) :
    (shiftBack index later)[name]? =
      if name ∈ later.map Entry.name then index[name]?.map (· - 1) else index[name]? := by
  induction later generalizing index with
  | nil => rfl
  | cons entry rest ih =>
    simp only [List.map_cons, List.nodup_cons] at unique
    change (shiftBack _ rest)[name]? = _
    rw [ih unique.2]
    cases found : index[entry.name]? <;> by_cases same : name = entry.name <;>
      simp_all [Std.ExtTreeMap.getElem?_insert, Ne.symm]

/-- The names behind a position, as the repair of a removal meets them. -/
theorem names_behind (table : PropertyTable) (position : Nat) :
    ((table.entries.eraseIdxIfInBounds position).toList.drop position).map Entry.name =
      table.names.drop (position + 1) := by
  rw [Array.toList_eraseIdxIfInBounds, names, ← List.map_drop]
  congr 1
  refine List.ext_getElem? fun offset => ?_
  have past : ¬ position + offset < position := by omega
  rw [List.getElem?_drop, List.getElem?_drop, List.getElem?_eraseIdx, if_neg past,
    Nat.add_right_comm]

theorem Coherent.nodup_names_behind (coherent : table.Coherent) (position : Nat) :
    (((table.entries.eraseIdxIfInBounds position).toList.drop position).map Entry.name).Nodup := by
  rw [names_behind]
  exact coherent.nodup_names.sublist (List.drop_sublist _ _)

/-- A name stands behind a position when its own position is larger. -/
theorem Coherent.mem_names_behind_iff (coherent : table.Coherent) (position : Nat) {name : String}
    {own : Nat} (found : table.index[name]? = some own) :
    name ∈ ((table.entries.eraseIdxIfInBounds position).toList.drop position).map Entry.name ↔
      position < own := by
  rw [names_behind, List.mem_iff_getElem?]
  simp only [List.getElem?_drop, ← coherent name, found, Option.some.injEq]
  exact ⟨fun ⟨offset, at'⟩ => by omega, fun behind => ⟨own - (position + 1), by omega⟩⟩

theorem toList_remove (coherent : table.Coherent) (name : String) :
    (table.remove name).2.entries.toList = EntryList.remove table.entries.toList name := by
  cases found : table.index[name]? with
  | none =>
    have absent := coherent.index_eq_none_iff.mp found
    simp only [remove, found, EntryList.remove_of_notMem absent]
  | some position =>
    have present := (coherent name position).mp found
    simp only [remove, found, Array.toList_eraseIdxIfInBounds,
      EntryList.remove_of_getElem? coherent.nodup_names present]

theorem names_remove (coherent : table.Coherent) (name : String) :
    (table.remove name).2.names = table.names.filter (· ≠ name) := by
  rw [names, toList_remove coherent]
  exact EntryList.names_remove _ name

theorem coherent_remove (coherent : table.Coherent) (name : String) :
    (table.remove name).2.Coherent := by
  cases found : table.index[name]? with
  | none => simpa only [remove, found] using coherent
  | some position =>
    intro other place
    have names' : (table.remove name).2.names = table.names.eraseIdx position := by
      simp only [remove, found, names, Array.toList_eraseIdxIfInBounds, List.eraseIdx_map]
    rw [names', List.getElem?_eraseIdx]
    simp only [remove, found, getElem?_shiftBack (coherent.nodup_names_behind position),
      Std.ExtTreeMap.getElem?_erase, Std.compare_eq_iff_eq]
    -- both sides are decided by the position that the other name had before
    have here := coherent other place
    have next := coherent other (place + 1)
    cases known : table.index[other]? with
    | none => grind
    | some own =>
      have behind := coherent.mem_names_behind_iff position known
      by_cases same : name = other
      · subst same
        grind
      · have apart : own ≠ position := by
          rintro rfl
          have one := (coherent other own).mp known
          rw [(coherent name own).mp found] at one
          exact same (Option.some.inj one)
        grind

/-- When the repair of a removal comes to a name, the position it finds there is not zero. -/
theorem Coherent.shiftBack_pos (coherent : table.Coherent) {name : String} {position : Nat}
    (found : table.index[name]? = some position) {earlier later : List Entry} {entry : Entry}
    (behind : (table.entries.eraseIdxIfInBounds position).toList.drop position =
      earlier ++ entry :: later) :
    ∃ stored, (shiftBack (table.index.erase name) earlier)[entry.name]? = some stored ∧
      0 < stored := by
  have unique := coherent.nodup_names_behind position
  have member : entry.name ∈
      ((table.entries.eraseIdxIfInBounds position).toList.drop position).map Entry.name := by
    rw [behind]
    exact List.mem_map_of_mem (by simp)
  rw [behind, List.map_append, List.map_cons, List.nodup_append] at unique
  have new : entry.name ∉ earlier.map Entry.name :=
    fun present => unique.2.2 _ present _ List.mem_cons_self rfl
  have inNames : entry.name ∈ table.names := by
    rw [names_behind] at member
    exact List.mem_of_mem_drop member
  obtain ⟨own, present⟩ := List.mem_iff_getElem?.mp inNames
  have known := (coherent entry.name own).mpr present
  have larger := (coherent.mem_names_behind_iff position known).mp member
  have apart : name ≠ entry.name := by
    rintro same
    rw [same, known, Option.some.injEq] at found
    omega
  refine ⟨own, ?_, by omega⟩
  rw [getElem?_shiftBack unique.1, if_neg new, Std.ExtTreeMap.getElem?_erase,
    if_neg (by simpa using apart), known]

/-- What a removal answers is what a search for the name would have answered. -/
theorem remove_fst (table : PropertyTable) (name : String) :
    (table.remove name).1 = table.find? name := by
  cases found : table.index[name]? <;> simp [remove, find?, entryOf?, found]

/-! ## Copying the public entries -/

theorem toList_inheritable (coherent : table.Coherent) :
    table.inheritable.entries.toList = EntryList.publicPart table.entries.toList := by
  rw [inheritable, toList_setAll coherent_empty]
  exact EntryList.setAll_entriesIn coherent.nodup_names

theorem coherent_inheritable (table : PropertyTable) : table.inheritable.Coherent :=
  coherent_setAll coherent_empty _ _

theorem coherent_ofEntries (entries : List Entry) : (ofEntries entries).Coherent :=
  List.foldlRecOn entries _ coherent_empty fun _ coherent _ _ => coherent_set coherent _ _ _

theorem coherent_apply (coherent : table.Coherent) (change : TableChange) :
    (table.apply change).Coherent := by
  cases change with
  | set tier name value => exact coherent_set coherent tier name value
  | setAll tier members => exact coherent_setAll coherent tier members
  | remove name => exact coherent_remove coherent name

theorem toList_apply (coherent : table.Coherent) (change : TableChange) :
    (table.apply change).entries.toList = EntryList.apply table.entries.toList change := by
  cases change with
  | set tier name value => exact toList_set coherent tier name value
  | setAll tier members => exact toList_setAll coherent tier members
  | remove name => exact toList_remove coherent name

theorem Coherent.entryOf?_apply (coherent : table.Coherent) (change : TableChange) (name : String) :
    (table.apply change).entryOf? name =
      EntryList.entryOf? (EntryList.apply table.entries.toList change) name := by
  rw [(coherent_apply coherent change).entryOf?_eq, toList_apply coherent]

end PropertyTable

/-! ## Histories -/

/-- One step in the history of a table: a change, or going on with a copy. -/
inductive TableStep where
  | change (change : TableChange)
  /-- Go on with a copy of the whole table. -/
  | copy
  /-- Go on with a copy of the public entries. -/
  | snapshot

/-- The table after one step of its history. -/
def PropertyTable.follow (table : PropertyTable) : TableStep → PropertyTable
  | .change change => table.apply change
  | .copy => table
  | .snapshot => table.inheritable

/-- The plain list after the same step. -/
def EntryList.follow (entries : EntryList) : TableStep → EntryList
  | .change change => entries.apply change
  | .copy => entries
  | .snapshot => entries.publicPart

namespace PropertyTable

theorem coherent_follow {table : PropertyTable} (coherent : table.Coherent) (step : TableStep) :
    (table.follow step).Coherent := by
  cases step with
  | change change => exact coherent_apply coherent change
  | copy => exact coherent
  | snapshot => exact coherent_inheritable table

theorem toList_follow {table : PropertyTable} (coherent : table.Coherent) (step : TableStep) :
    (table.follow step).entries.toList = EntryList.follow table.entries.toList step := by
  cases step with
  | change change => exact toList_apply coherent change
  | copy => rfl
  | snapshot => exact toList_inheritable coherent

theorem coherent_history (history : List TableStep) : (history.foldl follow empty).Coherent :=
  List.foldlRecOn history _ coherent_empty fun _ coherent step _ => coherent_follow coherent step

theorem toList_history {table : PropertyTable} (coherent : table.Coherent)
    (history : List TableStep) :
    (history.foldl follow table).entries.toList =
      history.foldl EntryList.follow table.entries.toList := by
  induction history generalizing table with
  | nil => rfl
  | cons step rest ih =>
    rw [List.foldl_cons, ih (coherent_follow coherent step), toList_follow coherent,
      List.foldl_cons]

/-- Changes in a row make of the entries what they make of the plain list. -/
theorem toList_changes {table : PropertyTable} (coherent : table.Coherent)
    (changes : List TableChange) :
    (changes.foldl apply table).entries.toList =
      changes.foldl EntryList.apply table.entries.toList := by
  have history := toList_history coherent (changes.map .change)
  rwa [List.foldl_map, List.foldl_map] at history

/-- What makes it safe to work through the index: it maps exactly the names of the entries, each to
the position of the only entry of that name; a position that it gives is the position of an entry;
and no position that a removal moves to the front is already there. -/
structure IndexSound (table : PropertyTable) : Prop where
  position_iff : ∀ (name : String) (position : Nat), table.index[name]? = some position ↔
    ∃ entry, table.entries[position]? = some entry ∧ entry.name = name
  unique : table.names.Nodup
  sizes : table.index.size = table.entries.size
  inBounds : ∀ (name : String) (position : Nat), table.index[name]? = some position →
    position < table.entries.size
  decrement : ∀ (name : String) (position : Nat) (earlier later : List Entry) (entry : Entry),
    table.index[name]? = some position →
    (table.entries.eraseIdxIfInBounds position).toList.drop position = earlier ++ entry :: later →
    ∃ stored, (shiftBack (table.index.erase name) earlier)[entry.name]? = some stored ∧ 0 < stored

/-- Whatever is asked of the table has the answer that the plain list gives. -/
structure AnswersAs (table : PropertyTable) (entries : EntryList) : Prop where
  find : ∀ name, table.find? name = entries.find? name
  get : ∀ name, table.get name = entries.get name
  contains : ∀ name, table.contains name = true ↔ name ∈ entries.names
  tierOf : ∀ name, table.tierOf? name = entries.tierOf? name
  removed : ∀ name, (table.remove name).1 = entries.find? name
  names : table.names = entries.names
  entriesIn : ∀ tier, table.entriesIn tier = entries.entriesIn tier
  tiers : table.tiers = entries.tiers
  size : table.size = entries.length
  isEmpty : table.isEmpty = entries.isEmpty

theorem Coherent.indexSound {table : PropertyTable} (coherent : table.Coherent) :
    table.IndexSound where
  position_iff name position := by
    rw [coherent name position, names, List.getElem?_map, Option.map_eq_some_iff,
      Array.getElem?_toList]
  unique := coherent.nodup_names
  sizes := coherent.size_index
  inBounds _ _ found := coherent.position_lt found
  decrement _ _ _ _ _ found behind := coherent.shiftBack_pos found behind

theorem Coherent.answersAs {table : PropertyTable} (coherent : table.Coherent) :
    table.AnswersAs table.entries.toList := by
  have find (name : String) : table.find? name = EntryList.find? table.entries.toList name := by
    rw [find?, coherent.entryOf?_eq, EntryList.find?]
  exact {
    find
    get := fun name => by
      rw [get, find, EntryList.get]
      cases EntryList.find? table.entries.toList name <;> rfl
    contains := coherent.contains_iff
    tierOf := fun name => by rw [tierOf?, coherent.entryOf?_eq, EntryList.tierOf?]
    removed := fun name => by rw [remove_fst, find]
    names := rfl
    entriesIn := fun _ => rfl
    tiers := rfl
    size := rfl
    isEmpty := by rw [isEmpty, Array.isEmpty_toList] }

/-- Along every history the table stays sound, its entries are the plain list that the same history
makes, and it answers as that list. Setting several members places each new name where it first
occurs among them and gives each name the value that comes last. -/
theorem history_refines_entryList (history : List TableStep) :
    let table := history.foldl follow empty
    let entries := history.foldl EntryList.follow []
    table.IndexSound ∧ table.entries.toList = entries ∧ table.AnswersAs entries ∧
      ∀ (tier : String) (members : List (String × Value)),
        let after := table.setAll tier members
        after.names = entries.names ++
          ((members.map Prod.fst).filter (· ∉ entries.names)).eraseDups ∧
        ∀ name, after.entryOf? name =
          match members.reverse.find? (·.1 = name) with
          | some member => some { name, tier, value := member.2 }
          | none => entries.entryOf? name := by
  intro table entries
  have coherent : table.Coherent := coherent_history history
  have same : table.entries.toList = entries := toList_history coherent_empty history
  refine ⟨coherent.indexSound, same, same ▸ coherent.answersAs, fun tier members => ?_⟩
  have after := toList_setAll coherent tier members
  rw [same] at after
  refine ⟨?_, fun name => ?_⟩
  · rw [names, after]
    exact EntryList.names_setAll entries tier members
  · rw [(coherent_setAll coherent tier members).entryOf?_eq, after]
    exact EntryList.entryOf?_setAll entries tier name members

end PropertyTable

end ObjectModel
