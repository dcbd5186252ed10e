import ObjectModel.PropertyTable
import Mathlib.Data.List.Induction
import Mathlib.Data.List.Nodup

/-! # Property tables as plain lists

A list of entries, without any index, is the plain reading of a property table. The operations here
go through the list from its front. They say what the operations on tables mean, and the facts below
are those on which the comparison of the two rests.
-/

namespace ObjectModel

/-! ## Dropping repetitions -/

section Repetitions

variable {α : Type} [DecidableEq α]

/-- What is left when repetitions are dropped stands in the order of the first occurrences. -/
theorem pairwise_idxOf_eraseDups (items : List α) :
    items.eraseDups.Pairwise fun earlier later => items.idxOf earlier < items.idxOf later := by
  -- from the back: an item is added at the end, and it is kept if it did not occur before
  induction items using List.reverseRecOn with
  | nil => exact .nil
  | append_singleton front last ih =>
    have inFront : front.eraseDups.Pairwise fun earlier later =>
        (front ++ [last]).idxOf earlier < (front ++ [last]).idxOf later := by
      refine ih.imp_of_mem fun {earlier later} member member' before => ?_
      rwa [List.idxOf_append_of_mem (List.mem_eraseDups.mp member),
        List.idxOf_append_of_mem (List.mem_eraseDups.mp member')]
    rw [List.eraseDups_append]
    by_cases old : last ∈ front
    · have dropped : [last].removeAll front = [] := by simp [List.removeAll, old]
      rw [dropped, List.eraseDups_nil, List.append_nil]
      exact inFront
    · have kept : ([last].removeAll front).eraseDups = [last] := by
        simp [List.removeAll, old, List.eraseDups_cons]
      rw [kept, List.pairwise_append]
      refine ⟨inFront, List.pairwise_singleton _ _, fun earlier member other isLast => ?_⟩
      have there : earlier ∈ front := List.mem_eraseDups.mp member
      obtain rfl : other = last := List.mem_singleton.mp isLast
      rw [List.idxOf_append_of_mem there, List.idxOf_append_of_notMem old]
      exact Nat.lt_add_right _ (List.idxOf_lt_length_iff.mpr there)

/-- Dropping repetitions leaves none. -/
theorem nodup_eraseDups (items : List α) : items.eraseDups.Nodup :=
  (pairwise_idxOf_eraseDups items).imp fun before same =>
    Nat.ne_of_lt before (congrArg items.idxOf same)

end Repetitions

/-! ## Lists of entries -/

/-- Entries in order and nothing else. -/
abbrev EntryList : Type :=
  List Entry

/-- The names that a change writes. -/
def TableChange.names : TableChange → List String
  | .set _ name _ => [name]
  | .setAll _ members => members.map Prod.fst
  | .remove name => [name]

namespace EntryList

/-- The names in order. -/
def names (entries : EntryList) : List String :=
  entries.map Entry.name

/-- The first entry of a name. -/
def entryOf? (entries : EntryList) (name : String) : Option Entry :=
  entries.find? (·.name = name)

/-- The value of a name, whatever its tier. -/
def find? (entries : EntryList) (name : String) : Option Value :=
  (entries.entryOf? name).map Entry.value

/-- The value of a name, or the failure that names it. -/
def get (entries : EntryList) (name : String) : Except Error Value :=
  (entries.find? name).elim (.error (.notFound name)) .ok

/-- The tier of a name. -/
def tierOf? (entries : EntryList) (name : String) : Option String :=
  (entries.entryOf? name).map Entry.tier

/-- The names and values of one tier in order. -/
def entriesIn (entries : EntryList) (tier : String) : List (String × Value) :=
  (entries.filter (·.tier = tier)).map fun entry => (entry.name, entry.value)

/-- The tiers in use, each once, in the order of their first entries. -/
def tiers (entries : EntryList) : List String :=
  (entries.map Entry.tier).eraseDups

/-- Replace the tier and the value of a name where it stands, or append the name. -/
def set (tier name : String) (value : Value) : EntryList → EntryList
  | [] => [{ name, tier, value }]
  | entry :: rest =>
    if entry.name = name then { entry with tier, value } :: rest
    else entry :: set tier name value rest

/-- Set several members of one tier, from left to right. -/
def setAll (entries : EntryList) (tier : String) (members : List (String × Value)) : EntryList :=
  members.foldl (fun entries (name, value) => entries.set tier name value) entries

/-- Drop a name, and keep the order of the rest. -/
def remove (entries : EntryList) (name : String) : EntryList :=
  entries.filter (·.name ≠ name)

/-- The public entries in order. -/
def publicPart (entries : EntryList) : EntryList :=
  entries.filter (·.tier = publicTier)

/-- The list after a change. -/
def apply (entries : EntryList) : TableChange → EntryList
  | .set tier name value => entries.set tier name value
  | .setAll tier members => entries.setAll tier members
  | .remove name => entries.remove name

/-- The entries of all names but some. -/
def without (entries : EntryList) (names : List String) : EntryList :=
  entries.filter (·.name ∉ names)

/-! ## Setting one name -/

theorem names_set (entries : EntryList) (tier name : String) (value : Value) :
    (entries.set tier name value).names =
      if name ∈ entries.names then entries.names else entries.names ++ [name] := by
  induction entries with
  | nil => rfl
  | cons entry rest ih =>
    by_cases here : entry.name = name
    · simp [set, names, here]
    · have apart : name ≠ entry.name := Ne.symm here
      simp only [names] at ih
      simp only [set, here, ↓reduceIte, names, List.map_cons, ih, List.mem_cons, apart, false_or]
      by_cases later : name ∈ rest.map Entry.name <;> simp [later]

/-- Setting a name decides what is found under it, and nothing about other names. -/
theorem entryOf?_set (entries : EntryList) (tier name other : String) (value : Value) :
    (entries.set tier name value).entryOf? other =
      if other = name then some { name, tier, value } else entries.entryOf? other := by
  induction entries with
  | nil =>
    by_cases same : other = name
    · simp [set, entryOf?, same]
    · simp [set, entryOf?, same, Ne.symm same]
  | cons entry rest ih =>
    simp only [entryOf?] at ih
    by_cases here : entry.name = name <;> by_cases same : other = name <;>
      by_cases there : entry.name = other <;> simp_all [set, entryOf?]

/-- A name that is new comes last. -/
theorem set_of_notMem {entries : EntryList} {name : String} (absent : name ∉ entries.names)
    (tier : String) (value : Value) :
    entries.set tier name value = entries ++ [⟨name, tier, value⟩] := by
  induction entries with
  | nil => rfl
  | cons entry rest ih =>
    simp only [names, List.map_cons, List.mem_cons, not_or] at absent
    simp only [set, Ne.symm absent.1, ↓reduceIte, List.cons_append, ih absent.2]

/-- A name that is present is replaced at its position. -/
theorem set_of_getElem? {entries : EntryList} {name : String} {position : Nat}
    (unique : entries.names.Nodup) (present : entries.names[position]? = some name)
    (tier : String) (value : Value) :
    entries.set tier name value = entries.modify position fun entry => { entry with tier, value } := by
  induction entries generalizing position with
  | nil => simp [names] at present
  | cons entry rest ih =>
    simp only [names, List.map_cons, List.nodup_cons] at unique
    cases position with
    | zero =>
      have here : entry.name = name := by simpa [names] using present
      simp [set, here]
    | succ position =>
      have present : (names rest)[position]? = some name := by simpa [names] using present
      have apart : entry.name ≠ name := by
        rintro rfl
        exact unique.1 (List.mem_of_getElem? present)
      simp [set, apart, ih unique.2 present]

/-! ## Setting several names -/

/-- Of repeated names the first occurrence gives the position. -/
theorem names_setAll (entries : EntryList) (tier : String) (members : List (String × Value)) :
    (entries.setAll tier members).names =
      entries.names ++ ((members.map Prod.fst).filter (· ∉ entries.names)).eraseDups := by
  induction members generalizing entries with
  | nil => simp [setAll]
  | cons member rest ih =>
    have unfolded : entries.setAll tier (member :: rest) =
      (entries.set tier member.1 member.2).setAll tier rest := rfl
    rw [unfolded, ih, names_set]
    by_cases present : member.1 ∈ entries.names
    · simp [present]
    · simp only [present, ↓reduceIte, List.map_cons, List.filter_cons, decide_not, Bool.not_false,
        decide_false, List.eraseDups_cons, List.append_assoc, List.cons_append, List.nil_append,
        List.filter_filter]
      congr 3
      apply List.filter_congr
      intro other _
      by_cases same : other = member.1 <;> simp [same]

/-- Of repeated names the last occurrence gives the value, and names that do not occur keep theirs. -/
theorem entryOf?_setAll (entries : EntryList) (tier name : String) (members : List (String × Value)) :
    (entries.setAll tier members).entryOf? name =
      match members.reverse.find? (·.1 = name) with
      | some member => some { name, tier, value := member.2 }
      | none => entries.entryOf? name := by
  induction members generalizing entries with
  | nil => rfl
  | cons member rest ih =>
    have unfolded : entries.setAll tier (member :: rest) =
      (entries.set tier member.1 member.2).setAll tier rest := rfl
    rw [unfolded, ih, entryOf?_set, List.reverse_cons, List.find?_append]
    cases later : rest.reverse.find? (·.1 = name) with
    | some found => rfl
    | none =>
      by_cases same : name = member.1
      · simp [same]
      · simp [same, Ne.symm same]

/-- Members whose names are new and distinct are appended as they stand. -/
theorem setAll_of_disjoint {entries : EntryList} {members : List (String × Value)}
    (distinct : (members.map Prod.fst).Nodup)
    (fresh : ∀ member ∈ members, member.1 ∉ entries.names) (tier : String) :
    entries.setAll tier members =
      entries ++ members.map fun member => ⟨member.1, tier, member.2⟩ := by
  induction members generalizing entries with
  | nil => simp [setAll]
  | cons member rest ih =>
    have absent := fresh member List.mem_cons_self
    simp only [List.map_cons, List.nodup_cons, List.mem_map, not_exists, not_and] at distinct
    have step : entries.set tier member.1 member.2 = entries ++ [⟨member.1, tier, member.2⟩] :=
      set_of_notMem absent tier member.2
    have fresh' : ∀ other ∈ rest, other.1 ∉ (entries.set tier member.1 member.2).names := by
      intro other present
      rw [names_set, if_neg absent, List.mem_append, List.mem_singleton, not_or]
      exact ⟨fresh other (List.mem_cons_of_mem _ present), distinct.1 other present⟩
    calc entries.setAll tier (member :: rest)
        = (entries.set tier member.1 member.2).setAll tier rest := rfl
      _ = (entries.set tier member.1 member.2) ++ _ := ih distinct.2 fresh'
      _ = _ := by rw [step, List.append_assoc]; rfl

/-! ## Removing a name -/

theorem names_remove (entries : EntryList) (name : String) :
    (entries.remove name).names = entries.names.filter (· ≠ name) := by
  simp only [names, remove, List.filter_map, Function.comp_def]

theorem entryOf?_remove (entries : EntryList) (name other : String) :
    (entries.remove name).entryOf? other = if other = name then none else entries.entryOf? other := by
  by_cases same : other = name
  · subst same
    simp [remove, entryOf?]
  · rw [if_neg same, remove, entryOf?, List.find?_filter, entryOf?]
    refine congrArg (List.find? · entries) (funext fun entry => ?_)
    by_cases here : entry.name = other
    · simp [here, same]
    · simp [here]

theorem remove_of_notMem {entries : EntryList} {name : String} (absent : name ∉ entries.names) :
    entries.remove name = entries := by
  refine List.filter_eq_self.mpr fun entry member => ?_
  have apart : entry.name ≠ name := fun same => absent (same ▸ List.mem_map_of_mem member)
  simpa using apart

/-- Where names are unique, dropping a name erases one position. -/
theorem remove_of_getElem? {entries : EntryList} {name : String} {position : Nat}
    (unique : entries.names.Nodup) (present : entries.names[position]? = some name) :
    entries.remove name = entries.eraseIdx position := by
  induction entries generalizing position with
  | nil => simp [names] at present
  | cons entry rest ih =>
    simp only [names, List.map_cons, List.nodup_cons] at unique
    cases position with
    | zero =>
      obtain rfl : entry.name = name := by simpa [names] using present
      have gone : remove rest entry.name = rest := remove_of_notMem unique.1
      simpa [remove] using gone
    | succ position =>
      have present : (names rest)[position]? = some name := by simpa [names] using present
      have apart : entry.name ≠ name := by
        rintro rfl
        exact unique.1 (List.mem_of_getElem? present)
      simpa [remove, apart] using ih unique.2 present

/-! ## What a change leaves alone -/

section Without

variable {names : List String}

theorem without_set {name : String} (written : name ∈ names) (entries : EntryList) (tier : String)
    (value : Value) : (entries.set tier name value).without names = entries.without names := by
  induction entries with
  | nil => simp [set, without, written]
  | cons entry rest ih =>
    by_cases here : entry.name = name
    · simp [set, without, here, written]
    · simp only [without] at ih
      simp only [set, here, ↓reduceIte, without, List.filter_cons, ih]

theorem without_setAll {members : List (String × Value)} (written : ∀ member ∈ members, member.1 ∈ names)
    (entries : EntryList) (tier : String) :
    (entries.setAll tier members).without names = entries.without names := by
  induction members generalizing entries with
  | nil => rfl
  | cons member rest ih =>
    obtain ⟨here, later⟩ := List.forall_mem_cons.mp written
    calc (entries.setAll tier (member :: rest)).without names
        = ((entries.set tier member.1 member.2).setAll tier rest).without names := rfl
      _ = (entries.set tier member.1 member.2).without names := ih later _
      _ = entries.without names := without_set here entries tier member.2

theorem without_remove {name : String} (written : name ∈ names) (entries : EntryList) :
    (entries.remove name).without names = entries.without names := by
  rw [remove, without, List.filter_filter, without]
  refine List.filter_congr fun entry _ => ?_
  by_cases kept : entry.name ∈ names
  · simp [kept]
  · have apart : entry.name ≠ name := fun same => kept (same ▸ written)
    simp [kept, apart]

/-- A change leaves the entries of all other names as they are, and in the same order. -/
theorem without_apply {change : TableChange} (written : change.names ⊆ names) (entries : EntryList) :
    (entries.apply change).without names = entries.without names := by
  cases change with
  | set tier name value => exact without_set (written (List.mem_singleton.mpr rfl)) entries tier value
  | setAll tier members =>
    exact without_setAll (fun member there => written (List.mem_map_of_mem there)) entries tier
  | remove name => exact without_remove (written (List.mem_singleton.mpr rfl)) entries

theorem without_changes {changes : List TableChange}
    (written : ∀ change ∈ changes, change.names ⊆ names) (entries : EntryList) :
    (changes.foldl apply entries).without names = entries.without names := by
  induction changes generalizing entries with
  | nil => rfl
  | cons change rest ih =>
    obtain ⟨first, later⟩ := List.forall_mem_cons.mp written
    rw [List.foldl_cons, ih later, without_apply first]

end Without

/-! ## The public part -/

theorem nodup_names_publicPart {entries : EntryList} (unique : entries.names.Nodup) :
    entries.publicPart.names.Nodup :=
  unique.sublist (List.filter_sublist.map _)

/-- The public members, set one after the other in an empty list, are the public part. -/
theorem setAll_entriesIn {entries : EntryList} (unique : entries.names.Nodup) :
    setAll [] publicTier (entries.entriesIn publicTier) = entries.publicPart := by
  have distinct : ((entries.entriesIn publicTier).map Prod.fst).Nodup := by
    rw [entriesIn, List.map_map]
    exact nodup_names_publicPart unique
  rw [setAll_of_disjoint distinct (by simp [names]), List.nil_append, entriesIn, List.map_map]
  refine (List.map_congr_left fun entry member => ?_).trans (List.map_id _)
  have tier : entry.tier = publicTier := by simpa using (List.mem_filter.mp member).2
  simp only [Function.comp_apply, ← tier, id_eq]

end EntryList

end ObjectModel
