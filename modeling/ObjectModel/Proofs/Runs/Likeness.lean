import ObjectModel.Proofs.Members.Links
import ObjectModel.Proofs.Realms.Shape
import ObjectModel.Proofs.Runs.Pairs

/-! # Worlds that are alike

A likeness says in what two worlds may differ: which tables count as alike, which lists of entries, and
which settings of the realms at one position. Two worlds are alike if nothing else is different in them,
and what was recorded in them since an earlier moment is the same. What operations read of a table or
of the settings must not tell alike ones apart, and what they make of alike tables must be alike again;
then nothing that acts on worlds tells alike worlds apart.
-/

namespace ObjectModel

open Effect

/-! ## Arrays side by side -/

section Arrays

variable {α : Type}

/-- The arrays hold related items at the same positions. -/
def InStep (related : (position : Nat) → α → α → Prop) (items twins : Array α) : Prop :=
  ∀ position : Nat, Option.Rel (related position) items[position]? twins[position]?

namespace InStep

variable {related : Nat → α → α → Prop} {items twins : Array α}

protected theorem refl
    (same : ∀ (position : Nat) (item : α), items[position]? = some item → related position item item) :
    InStep related items items := by
  intro position
  cases found : items[position]? with
  | none => exact .none
  | some item => exact .some (same position item found)

theorem size_eq (inStep : InStep related items twins) : items.size = twins.size := by
  have bound (position : Nat) : items.size ≤ position ↔ twins.size ≤ position := by
    have both (item twin : Option α) (rel : Option.Rel (related position) item twin) :
        item = none ↔ twin = none := by
      cases rel <;> simp
    simpa using both _ _ (inStep position)
  exact Nat.le_antisymm ((bound _).mpr (Nat.le_refl _)) ((bound _).mp (Nat.le_refl _))

theorem of_size_eq (size : items.size = twins.size)
    (same : ∀ (position : Nat) (item twin : α), items[position]? = some item →
      twins[position]? = some twin → related position item twin) : InStep related items twins := by
  intro position
  by_cases bound : position < items.size
  · have bound' : position < twins.size := size ▸ bound
    have found := Array.getElem?_eq_getElem bound
    have found' := Array.getElem?_eq_getElem bound'
    rw [found, found']
    exact .some (same position _ _ found found')
  · rw [Array.getElem?_eq_none (Nat.not_lt.mp bound),
      Array.getElem?_eq_none (size ▸ Nat.not_lt.mp bound)]
    exact .none

/-- Items that are related only if they are equal make equal arrays. -/
theorem eq (inStep : InStep related items twins)
    (equal : ∀ {position : Nat} {item twin : α}, related position item twin → item = twin) :
    items = twins := by
  have same {position : Nat} {item twin : Option α} (rel : Option.Rel (related position) item twin) :
      item = twin := by
    cases rel with
    | some both => rw [equal both]
    | none => rfl
  exact Array.ext_getElem? fun position => same (inStep position)

theorem push (inStep : InStep related items twins) {item twin : α}
    (last : related items.size item twin) : InStep related (items.push item) (twins.push twin) := by
  intro position
  rw [Array.getElem?_push, Array.getElem?_push, ← inStep.size_eq]
  split
  next here =>
    rw [here]
    exact .some last
  next => exact inStep position

theorem modify (inStep : InStep related items twins) (target : Nat) {change twinChange : α → α}
    (keeps : ∀ {item twin}, related target item twin → related target (change item) (twinChange twin)) :
    InStep related (items.modify target change) (twins.modify target twinChange) := by
  have mapped (item twin : Option α) (rel : Option.Rel (related target) item twin) :
      Option.Rel (related target) (item.map change) (twin.map twinChange) := by
    cases rel with
    | some before => exact .some (keeps before)
    | none => exact .none
  intro position
  rw [Array.getElem?_modify, Array.getElem?_modify]
  split
  next here =>
    subst here
    exact mapped _ _ (inStep target)
  next => exact inStep position

end InStep

/-- The same items came in behind two arrays since they were as given. -/
def SameSince (start twinStart items twins : Array α) : Prop :=
  ∃ added, items.toList = start.toList ++ added ∧ twins.toList = twinStart.toList ++ added

theorem SameSince.refl (start twinStart : Array α) : SameSince start twinStart start twinStart :=
  ⟨[], by simp, by simp⟩

theorem SameSince.push {start twinStart items twins : Array α}
    (same : SameSince start twinStart items twins) (item : α) :
    SameSince start twinStart (items.push item) (twins.push item) := by
  obtain ⟨added, grown, twinGrown⟩ := same
  exact ⟨added ++ [item], by simp [grown], by simp [twinGrown]⟩

theorem SameSince.append {start twinStart items twins : Array α}
    (same : SameSince start twinStart items twins) (more : List α) :
    SameSince start twinStart (items ++ more.toArray) (twins ++ more.toArray) := by
  obtain ⟨added, grown, twinGrown⟩ := same
  exact ⟨added ++ more, by simp [grown], by simp [twinGrown]⟩

end Arrays

/-! ## Likenesses -/

/-- What may differ in two worlds, and why no operation sees it. -/
structure Likeness where
  tables : PropertyTable → PropertyTable → Prop
  /-- Lists of what stands in alike tables. -/
  listings : {α : Type} → List α → List α → Prop
  settings : (context : Nat) → Settings → Settings → Prop
  /-- Realms from this position on are opened with the same settings. -/
  shared : Nat
  tables_ofEntries (entries : List Entry) : tables (.ofEntries entries) (.ofEntries entries)
  tables_apply {table twin : PropertyTable} (alike : tables table twin) (change : TableChange) :
    tables (table.apply change) (twin.apply change)
  tables_inheritable {table twin : PropertyTable} (alike : tables table twin) :
    tables table.inheritable twin.inheritable
  size_eq {table twin : PropertyTable} (alike : tables table twin) : table.size = twin.size
  entryOf?_eq {table twin : PropertyTable} (alike : tables table twin) :
    table.entryOf? = twin.entryOf?
  contains_eq {table twin : PropertyTable} (alike : tables table twin) :
    table.contains = twin.contains
  listings_entries {table twin : PropertyTable} (alike : tables table twin) {α : Type}
    (shown : Entry → α) :
    listings (table.entries.toList.map shown) (twin.entries.toList.map shown)
  listings_entriesIn {table twin : PropertyTable} (alike : tables table twin) (tier : String) :
    listings (table.entriesIn tier) (twin.entriesIn tier)
  listings_tiers {table twin : PropertyTable} (alike : tables table twin) :
    listings table.tiers twin.tiers
  settings_shared {context : Nat} (late : shared ≤ context) (own : Settings) :
    settings context own own
  allowsEmptyNames_eq {context : Nat} {own other : Settings} (alike : settings context own other) :
    own.allowsEmptyNames = other.allowsEmptyNames
  ancestors_eq {context : Nat} {realm : Realm} {other : Settings}
    (alike : settings context realm.settings other) (formed : realm.WellFormed) (start : ClassId) :
    realm.registry.ancestors start realm.settings.walkLimit =
      realm.registry.ancestors start other.walkLimit

namespace Likeness

variable (like : Likeness)

theorem tables_empty : like.tables .empty .empty :=
  like.tables_ofEntries []

theorem find?_eq {table twin : PropertyTable} (alike : like.tables table twin) :
    table.find? = twin.find? := by
  funext name
  rw [PropertyTable.find?, PropertyTable.find?, like.entryOf?_eq alike]

theorem get_eq {table twin : PropertyTable} (alike : like.tables table twin) :
    table.get = twin.get := by
  funext name
  rw [PropertyTable.get, PropertyTable.get, like.find?_eq alike]

theorem isEmpty_eq {table twin : PropertyTable} (alike : like.tables table twin) :
    table.isEmpty = twin.isEmpty := by
  have size : table.entries.size = twin.entries.size := like.size_eq alike
  rw [PropertyTable.isEmpty, PropertyTable.isEmpty, Bool.eq_iff_iff, Array.isEmpty_iff_size_eq_zero,
    Array.isEmpty_iff_size_eq_zero, size]

/-! ## What is alike -/

/-- The tables are alike, the objects are the same, and so is what was recorded since the start. -/
structure Stores (start twinStart store twin : Store) : Prop where
  tables : InStep (fun _ => like.tables) store.tables twin.tables
  objects : store.objects = twin.objects
  journal : SameSince start.journal twinStart.journal store.journal twin.journal
  writes : SameSince start.writes twinStart.writes store.writes twin.writes

/-- The realms differ in their settings alone. -/
inductive Realms (context : Nat) (realm : Realm) : Realm → Prop where
  | intro {settings : Settings} (formed : realm.WellFormed)
      (alike : like.settings context realm.settings settings) :
      Realms context realm { realm with settings }

inductive Contexts (context : Nat) : Context → Context → Prop where
  | bare (registry : Registry) : Contexts context (.bare registry) (.bare registry)
  | realm {realm twin : Realm} (alike : like.Realms context realm twin) :
      Contexts context (.realm realm) (.realm twin)

/-- The same is seen of two tables but for how it is listed. -/
structure Contents (contents twin : TableContents Value TableRef) : Prop where
  table : contents.table = twin.table
  size : contents.size = twin.size
  isEmpty : contents.isEmpty = twin.isEmpty
  tiers : like.listings contents.tiers twin.tiers
  entries : like.listings contents.entries twin.entries

/-- The replies are the same but for how they list the entries of a table. -/
inductive Replies : WorldReply → WorldReply → Prop where
  | same (reply : WorldReply) : Replies reply reply
  | entries {members twins : List (String × Value)} (alike : like.listings members twins) :
      Replies (.entries members) (.entries twins)
  | contents {contents twin : TableContents Value TableRef} (alike : like.Contents contents twin) :
      Replies (.contents contents) (.contents twin)

inductive Displays : Display Value TableRef → Display Value TableRef → Prop where
  | note (note : Note Value) : Displays (.note note) (.note note)
  | reply {reply twin : WorldReply} (alike : like.Replies reply twin) :
      Displays (.reply reply) (.reply twin)

/-- The worlds are the same but for what may differ in their tables, settings and listings. -/
structure Worlds (start twinStart : Store) (world twin : World) : Prop where
  store : like.Stores start twinStart world.store twin.store
  contexts : InStep like.Contexts world.contexts twin.contexts
  shared : like.shared ≤ world.contexts.size
  slots : world.slots = twin.slots
  heldTables : world.heldTables = twin.heldTables
  displays : List.Forall₂ like.Displays world.displays.toList twin.displays.toList

variable {like} {start twinStart : Store}

theorem Replies.value?_eq {reply twin : WorldReply} (alike : like.Replies reply twin) :
    reply.value? = twin.value? := by
  cases alike <;> rfl

theorem Displays.refl (shown : Display Value TableRef) : like.Displays shown shown := by
  cases shown with
  | note note => exact .note note
  | reply reply => exact .reply (.same reply)

theorem Stores.table {store twin : Store} (alike : like.Stores start twinStart store twin)
    (ref : TableRef) : like.tables (store.table ref) (twin.table ref) := by
  have behind (table twin : Option PropertyTable) (rel : Option.Rel like.tables table twin) :
      like.tables (table.getD .empty) (twin.getD .empty) := by
    cases rel with
    | some tables => exact tables
    | none => exact like.tables_empty
  exact behind _ _ (alike.tables ref.index)

theorem Stores.contents {store twin : Store} (alike : like.Stores start twinStart store twin)
    (ref : TableRef) : like.Contents (store.contents ref) (twin.contents ref) where
  table := rfl
  size := like.size_eq (alike.table ref)
  isEmpty := like.isEmpty_eq (alike.table ref)
  tiers := like.listings_tiers (alike.table ref)
  entries := like.listings_entries (alike.table ref) _

theorem Stores.withTables {store twin : Store} (alike : like.Stores start twinStart store twin)
    {members members' template template' : PropertyTable} (alikeMembers : like.tables members members')
    (alikeTemplate : like.tables template template') (events : List LogRecord) :
    like.Stores start twinStart (store.withTables members template events)
      (twin.withTables members' template' events) where
  tables := (alike.tables.push alikeMembers).push alikeTemplate
  objects := alike.objects
  journal := alike.journal.append events
  writes := alike.writes

end Likeness

section StoreEffects

variable {like : Likeness} {start twinStart : Store}

/-! ## Effects on stores -/

namespace Store

theorem addTable_agrees {table twin : PropertyTable} (alike : like.tables table twin) :
    (addTable table).Agrees (like.Stores start twinStart) Eq (addTable twin) :=
  fun _ _ stores =>
    ⟨.ok (by rw [stores.tables.size_eq]), { stores with tables := stores.tables.push alike }⟩

theorem write_respects (ref : TableRef) (route : WriteRoute) (change : TableChange) :
    (write ref route change).Respects (like.Stores start twinStart) :=
  fun _ _ stores => ⟨.ok rfl, { stores with
    tables := stores.tables.modify ref.index fun alike => like.tables_apply alike change
    writes := stores.writes.push _ }⟩

theorem record_respects (event : LogRecord) :
    (record event).Respects (like.Stores start twinStart) :=
  fun _ _ stores => ⟨.ok rfl, { stores with journal := stores.journal.push event }⟩

theorem snapshot_agrees (ref : TableRef) :
    (snapshot ref).Agrees (like.Stores start twinStart) like.tables (snapshot ref) := by
  intro store other stores
  have copies := like.tables_inheritable (stores.table ref)
  refine ⟨.ok copies, { stores with journal := ?_ }⟩
  rw [perform_snapshot, perform_snapshot, like.size_eq copies, like.size_eq (stores.table ref)]
  exact stores.journal.push _

theorem addObject_respects (object : Nat → Value) :
    (addObject object).Respects (like.Stores start twinStart) := by
  intro store other stores
  refine ⟨.ok (by rw [stores.objects]), { stores with objects := ?_ }⟩
  rw [perform_addObject, perform_addObject, stores.objects]

theorem removeMember_respects (ref : TableRef) (name : String) :
    (removeMember ref name).Respects (like.Stores start twinStart) := by
  refine Agrees.get.bind fun store other stores => ?_
  have removed : ((store.table ref).remove name).1 = ((other.table ref).remove name).1 := by
    rw [PropertyTable.remove_fst, PropertyTable.remove_fst, like.find?_eq (stores.table ref)]
  exact (write_respects ref .handle (.remove name)).bind_same fun _ => .pure removed

theorem addPlain_agrees (ofClass : ClassId) {table twin : PropertyTable}
    (alike : like.tables table twin) (payload : Option Primitive) :
    (addPlain ofClass table payload).Agrees (like.Stores start twinStart) Eq
      (addPlain ofClass twin payload) :=
  (addTable_agrees alike).bind_same fun _ => addObject_respects _

theorem addMethod_respects (convention : Convention) (ofClass : ClassId) (table : TableRef)
    (callable : Callable) :
    (addMethod convention ofClass table callable).Respects (like.Stores start twinStart) :=
  addObject_respects _

end Store

theorem ClassRecord.pending_respects (name : String) (kind : ClassKind) :
    (pending name kind).Respects (like.Stores start twinStart) :=
  (Store.addTable_agrees like.tables_empty).bind_same fun _ =>
    (Store.addTable_agrees like.tables_empty).bind_same fun _ => .pure rfl

theorem ClassRecord.linked_agrees (name : String) (kind : ClassKind) (link : ClassId)
    (super : Option ClassId) {members members' template template' : PropertyTable}
    (alike : like.tables members members') (alikeTemplate : like.tables template template') :
    (linked name kind link super members template).Agrees (like.Stores start twinStart) Eq
      (linked name kind link super members' template') :=
  (Store.addTable_agrees alike).bind_same fun _ =>
    (Store.addTable_agrees alikeTemplate).bind_same fun _ => .pure rfl

namespace Registry

theorem register_respects (registry : Registry) (record : ClassRecord) :
    (registry.register record).Respects (like.Stores start twinStart) :=
  (Store.record_respects _).bind_same fun _ => .pure rfl

theorem lookup_agrees (registry : Registry) (value : Value) (name : String) {limit twinLimit : Nat}
    (chains : ∀ first, registry.ancestors first limit = registry.ancestors first twinLimit) :
    (registry.lookup value name limit).Agrees (like.Stores start twinStart) Eq
      (registry.lookup value name twinLimit) := by
  refine Agrees.get.bind fun store other stores => ?_
  have shown : store.shown = other.shown := by
    funext ref name
    rw [Store.shown, Store.shown, like.find?_eq (stores.table ref)]
  rw [resolve_congr (fun id => by rw [shown]) shown chains value name]
  refine (Respects.ofOutcome _).bind_same fun resolution => ?_
  cases resolution with
  | own member => exact .pure rfl
  | inherited owner member => exact (Store.record_respects _).bind_same fun _ => .pure rfl

end Registry

end StoreEffects

end ObjectModel
