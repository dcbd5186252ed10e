import ObjectModel.Proofs.Realms.Origin

/-! # The metadata of methods

The methods that a realm makes have no table of their own. They all have the table of the class that
wraps them, one for methods and another for unbound methods, and a class keeps its table for good. So
it does not matter through which method a member is set, or whether it is set on the class: all methods
of the convention and the class tell the same, those that were made before and those that are made
later, and the methods of the other convention notice nothing. A look-up on a method finds the same
again, because the class that it goes on with has the table that was searched already.
-/

namespace ObjectModel

/-! ## Looking up on a method -/

/-- A look-up on a method that the realm made tells what stands in its table and leaves no record,
whatever the limit of the realm is. -/
theorem Realm.Wraps.perform_lookup {realm : Realm} {store : Store} {convention : Convention}
    {wrapped : Method} (wraps : realm.Wraps convention wrapped) (formed : realm.WellFormed)
    (coherent : store.Coherent) (name : String) :
    (realm.lookup (convention.wrap wrapped) name).perform store =
      ((store.table wrapped.table).get name, store) := by
  have table : realm.registry.tableOfValue (convention.wrap wrapped) = .ok wrapped.table := by
    cases convention <;> rfl
  have unrecorded : { store with journal := store.journal ++ ([] : List LogRecord).toArray } = store := by
    simp
  rcases store.lacks_or_holds wrapped.table name with lacks | ⟨member, holds⟩
  · -- the search goes on with the class, which stands alone and has the same table
    have goesOn : realm.registry.GoesOn store (convention.wrap wrapped) name
        (realm.builtins.wrapper convention) := by
      refine ⟨?_, ⟨wrapped.table, table, lacks⟩, ?_⟩
      · cases convention <;> rfl
      · rw [← wraps.ofClass]
        cases convention <;> rfl
    obtain ⟨record, found, notUser⟩ := formed.exists_wrapper convention
    have long := (realm.length_lineage_le_walkLimit_iff (realm.builtins.wrapper convention)
      record.kind).mpr fun user => absurd user notUser
    have walk := formed.ancestors_eq found realm.settings.walkLimit
    rw [if_pos long, realm.lineage_of_ne_user _ notUser] at walk
    have search : realm.registry.Search store name realm.settings.walkLimit
        (convention.wrap wrapped) (.error (.notFound name)) [] :=
      .missing goesOn walk (List.forall_mem_singleton.mpr ⟨wrapped.table, wraps.shares, lacks⟩)
    rw [Realm.lookup, search.perform_lookup coherent, unrecorded, PropertyTable.get,
      coherent.find?_of_lacks lacks]
  · have search : realm.registry.Search store name realm.settings.walkLimit
        (convention.wrap wrapped) (.ok member) [] := .own table holds
    rw [Realm.lookup, search.perform_lookup coherent, unrecorded, PropertyTable.get,
      coherent.find?_of_holds holds]

/-! ## What the methods of a convention tell -/

/-- Whatever is read of the metadata of a convention in a realm is what a plain list gives: by name
from the class that wraps the code, through the table of every method that the realm handed out, and
by a look-up on such a method. Nothing of it leaves a record. -/
structure Realm.Reports (realm : Realm) (world : World) (context : Nat) (convention : Convention)
    (entries : EntryList) : Prop where
  property : ∀ name, (realm.getProperty (realm.builtins.wrapper convention) name).perform world.store =
    (entries.get name, world.store)
  contents : ∀ wrapped, world.HandedOut context (convention.wrap wrapped) →
    (world.store.table wrapped.table).entries.toList = entries
  table : ∀ wrapped, world.HandedOut context (convention.wrap wrapped) →
    (world.store.table wrapped.table).AnswersAs entries
  member : ∀ wrapped name, world.HandedOut context (convention.wrap wrapped) →
    (realm.lookup (convention.wrap wrapped) name).perform world.store = (entries.get name, world.store)

namespace World

variable {world : World} {context : Nat} {realm : Realm} {convention : Convention}

/-- An operation changes the metadata of a convention: through the handle that a method has, or by
setting a property of the class that wraps the code. -/
inductive Annotates (world : World) (context : Nat) (realm : Realm) (convention : Convention) :
    TableChange → Action → Prop where
  | handle {wrapped : Method} (handed : world.HandedOut context (convention.wrap wrapped))
      (change : TableChange) : Annotates world context realm convention change (.write wrapped.table change)
  | property (tier name : String) (value : Value) :
      Annotates world context realm convention (.set tier name value)
        (.setProperty context (realm.builtins.wrapper convention) tier name value)

/-- A method that a realm handed out has the table of the class that wraps it. -/
theorem HandedOut.shares {wrapped : Method} (handed : world.HandedOut context (convention.wrap wrapped))
    (present : world.contexts[context]? = some (.realm realm)) {ref : TableRef}
    (members : realm.registry.membersOf (realm.builtins.wrapper convention) = .ok ref) :
    wrapped.table = ref := by
  have wraps := Realm.knows_wrap.mp (handed.knows present)
  exact Except.ok.inj (wraps.shares.symm.trans members)

theorem Reachable.reports (reachable : world.Reachable)
    (present : world.contexts[context]? = some (.realm realm)) {ref : TableRef}
    (members : realm.registry.membersOf (realm.builtins.wrapper convention) = .ok ref) :
    realm.Reports world context convention (world.store.table ref).entries.toList := by
  have answers := (reachable.coherent.table ref).answersAs
  refine ⟨fun name => ?_, fun wrapped handed => ?_, fun wrapped handed => ?_,
    fun wrapped name handed => ?_⟩
  · rw [Realm.perform_getProperty members, answers.get]
  · rw [handed.shares present members]
  · rw [handed.shares present members]
    exact answers
  · have wraps := Realm.knows_wrap.mp (handed.knows present)
    rw [wraps.perform_lookup (reachable.realmsWellFormed present) reachable.coherent,
      handed.shares present members, answers.get]

/-- Changing the metadata of a convention is one change to the table of its wrapper class. -/
theorem Annotates.change?_eq {change : TableChange} {action : Action}
    (annotates : world.Annotates context realm convention change action)
    (present : world.contexts[context]? = some (.realm realm)) {ref : TableRef}
    (members : realm.registry.membersOf (realm.builtins.wrapper convention) = .ok ref) :
    action.change? world = some (ref, change) := by
  cases annotates with
  | handle handed change => rw [Action.change?, handed.shares present members]
  | property tier name value =>
    simp [Action.change?, throughMembers?, realm?_eq_some_iff.mpr present, members, Except.toOption]

/-- The two classes that wrap code have different tables. -/
theorem Reachable.metadata_ne (reachable : world.Reachable)
    (present : world.contexts[context]? = some (.realm realm)) {metadata : Convention → TableRef}
    (members : ∀ convention,
      realm.registry.membersOf (realm.builtins.wrapper convention) = .ok (metadata convention))
    {other : Convention} (apart : other ≠ convention) : metadata other ≠ metadata convention := by
  intro same
  have has (convention : Convention) := (tableOf?_members_iff present).mpr (members convention)
  have one := reachable.tablesOwned.unique (has other) (same ▸ has convention)
  rw [(reachable.realmsWellFormed present).builtins] at one
  cases other <;> cases convention <;> first | exact apart rfl | cases one

/-- After every run each convention has one table in a realm, which is the same at every later point
of every run, and the two tables are different. All methods of the convention that the realm handed
out so far have it, however long ago they were made and wherever they were copied since, and so has
the class that wraps them. They all tell what the changes to the table made of it, and look-ups on
them leave no record. A change through any of the methods or to the class is told by all of them from
then on, and what the methods of the other convention tell stays as it is. -/
theorem metadata_shared (actions : List Action) {context : Nat} {realm : Realm}
    (present : (empty.run actions).contexts[context]? = some (.realm realm)) :
    let world := empty.run actions
    ∃ metadata : Convention → TableRef, metadata .method ≠ metadata .unboundMethod ∧
      ∀ later : List Action,
        let current := world.run later
        let entries (convention : Convention) : EntryList :=
          (world.changesAt (metadata convention) later).foldl EntryList.apply
            (world.store.table (metadata convention)).entries.toList
        ∃ whole, current.contexts[context]? = some (.realm whole) ∧
          (∀ convention,
            whole.registry.membersOf (whole.builtins.wrapper convention) =
              .ok (metadata convention) ∧
            (∀ wrapped, current.HandedOut context (convention.wrap wrapped) →
              wrapped.table = metadata convention) ∧
            whole.Reports current context convention (entries convention)) ∧
          ∀ convention change action, current.Annotates context whole convention change action →
            ∃ after, (current.act action).contexts[context]? = some (.realm after) ∧
              after.Reports (current.act action) context convention
                ((entries convention).apply change) ∧
              ∀ other, other ≠ convention →
                after.Reports (current.act action) context other (entries other) := by
  intro world
  have reachable : world.Reachable := ⟨actions, rfl⟩
  have formed := reachable.realmsWellFormed present
  have exists_metadata (convention : Convention) :
      ∃ ref, realm.registry.membersOf (realm.builtins.wrapper convention) = .ok ref := by
    obtain ⟨record, found, _⟩ := formed.exists_wrapper convention
    exact Registry.exists_membersOf (Registry.isRegistered_iff.mpr ⟨record, found⟩)
  choose metadata members using exists_metadata
  refine ⟨metadata, reachable.metadata_ne present members (by decide), fun later => ?_⟩
  intro current entries
  have reachable' : current.Reachable := reachable.run later
  have has (convention : Convention) := (tableOf?_members_iff present).mpr (members convention)
  have has' (convention : Convention) := (world.grows_run later).tableOf? (has convention)
  have contents (convention : Convention) :
      (current.store.table (metadata convention)).entries.toList = entries convention :=
    reachable.entries_run (has convention) later
  obtain ⟨registry, present', _⟩ := (world.grows_run later).exists_realm present
  have members' (convention : Convention) := (tableOf?_members_iff present').mp (has' convention)
  refine ⟨{ realm with registry }, present', fun convention => ⟨members' convention,
    fun wrapped handed => handed.shares present' (members' convention), ?_⟩, ?_⟩
  · rw [← contents]
    exact reachable'.reports present' (members' convention)
  · intro convention change action annotates
    obtain ⟨registry', present'', _⟩ := (current.grows_act action).exists_realm present'
    have reports (other : Convention) :=
      (reachable'.act action).reports present''
        ((tableOf?_members_iff present'').mp ((current.grows_act action).tableOf? (has' other)))
    have changed := annotates.change?_eq present' (members' convention)
    have contents' (other : Convention) :
        ((current.act action).store.table (metadata other)).entries.toList =
          ((metadata other).concerned (some (metadata convention, change))).foldl EntryList.apply
            (entries other) := by
      rw [← contents, ← changed, ← Action.changesAt]
      simpa [changesAt] using reachable'.entries_run (has' other) [action]
    refine ⟨_, present'', ?_, fun other apart => ?_⟩
    · simpa [contents', TableRef.concerned] using reports convention
    · have differ := reachable.metadata_ne present members apart.symm
      simpa [contents', TableRef.concerned, differ] using reports other

/-! ## A note on the constructor -/

namespace Noted

def settings : Settings :=
  { Settings.standard with depthLimit := 0 }

def opening : Action :=
  .openContext (.realm settings)

/-- A realm is opened, and a method and an unbound method are made in it. -/
def actions : List Action :=
  [opening, .newMethod 0 .method .create, .newMethod 0 .unboundMethod .create]

def home : Realm :=
  Realm.started settings 0

def constructor : Method :=
  ⟨0, ⟨1⟩, ⟨2⟩, .create⟩

def helper : Method :=
  ⟨1, ⟨1⟩, ⟨2⟩, .create⟩

def handler : Method :=
  ⟨2, ⟨2⟩, ⟨4⟩, .create⟩

def note : TableChange :=
  .set "hidden" "doc" (.ofClass ⟨0⟩)

theorem handedOut_constructor : (empty.run actions).HandedOut 0 (Convention.method.wrap constructor) := by
  have present : (empty.act opening).contexts[0]? = some (.realm home) := rfl
  have reads := congrArg Prod.fst (perform_getProperty_openRealm empty settings)
  exact ⟨[], empty.act opening, [.newMethod 0 .method .create, .newMethod 0 .unboundMethod .create],
    .installed rfl rfl present reads, (run_append empty [opening] _).symm⟩

theorem handedOut_helper : (empty.run actions).HandedOut 0 (Convention.method.wrap helper) := by
  have present : (empty.run [opening]).contexts[0]? = some (.realm home) := rfl
  exact ⟨[opening], empty.run [opening, .newMethod 0 .method .create],
    [.newMethod 0 .unboundMethod .create], .made present (.method .method .create) rfl,
    (run_append empty [opening, .newMethod 0 .method .create] _).symm⟩

theorem handedOut_handler :
    (empty.run actions).HandedOut 0 (Convention.unboundMethod.wrap handler) := by
  have present : (empty.run [opening, .newMethod 0 .method .create]).contexts[0]? =
      some (.realm home) := rfl
  exact ⟨[opening, .newMethod 0 .method .create], empty.run actions, [],
    .made present (.method .unboundMethod .create) rfl, rfl⟩

end Noted

open Noted in
/-- What is noted on the constructor is told by a method that was made in the same realm, but not by
an unbound method, though no walk may visit a class. -/
theorem metadata_shared_note :
    let after := (empty.run actions).act (.write constructor.table note)
    after.contexts[0]? = some (.realm home) ∧
      (home.lookup (.method helper) "doc").perform after.store = (.ok (.ofClass ⟨0⟩), after.store) ∧
      (home.lookup (.unboundMethod handler) "doc").perform after.store =
        (.error (.notFound "doc"), after.store) := by
  intro after
  have present : (empty.run actions).contexts[0]? = some (.realm home) := rfl
  have present' : after.contexts[0]? = some (.realm home) := rfl
  obtain ⟨metadata, _, always⟩ := metadata_shared actions present
  obtain ⟨whole, there, shared, noted⟩ := always []
  simp only [run_nil] at there shared noted
  cases present.symm.trans there
  have ofMethod : metadata .method = ⟨2⟩ := (Except.ok.inj (shared .method).1).symm
  have ofUnbound : metadata .unboundMethod = ⟨4⟩ := (Except.ok.inj (shared .unboundMethod).1).symm
  obtain ⟨_, there', tells, spared⟩ :=
    noted .method note _ (.handle handedOut_constructor note)
  cases present'.symm.trans there'
  have own := tells.member helper "doc" (handedOut_helper.run [.write constructor.table note])
  have other := (spared .unboundMethod (by decide)).member handler "doc"
    (handedOut_handler.run [.write constructor.table note])
  have bare : ((empty.run actions).store.table ⟨2⟩).entries.toList = [] := rfl
  have bare' : ((empty.run actions).store.table ⟨4⟩).entries.toList = [] := rfl
  simp only [changesAt, List.foldl_nil, ofMethod, bare] at own
  simp only [changesAt, List.foldl_nil, ofUnbound, bare'] at other
  exact ⟨present', own, other⟩

end World

end ObjectModel
