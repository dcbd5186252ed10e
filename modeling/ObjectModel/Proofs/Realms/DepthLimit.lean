import ObjectModel.Proofs.Realms.Walks
import ObjectModel.Proofs.Runs.SideBySide

/-! # Where the depth limit matters

A chain of supers in a realm has one class or two. So a walk tells two limits apart only if one of them
allows for two classes and the other does not, and walks are all that the limit of a realm is for. Two
realms that are built with limits on the same side of that threshold do the same in every run: what is
asked of them has the same answers and leaves the same records, and in the end their worlds differ in
nothing but the limit that is stored.
-/

namespace ObjectModel

/-- Both limits leave room for one class in a walk, or both leave room for two. -/
def SameSide (left right : Nat) : Prop :=
  (left ≤ 1 ∧ right ≤ 1) ∨ (2 ≤ left ∧ 2 ≤ right)

/-- A class that is not registered has no chain. -/
theorem Registry.ancestors_of_not_registered {registry : Registry} {start : ClassId}
    (missing : ¬ registry.IsRegistered start) {limit : Nat} (room : 1 ≤ limit) :
    registry.ancestors start limit = .error (.unknownClass start) := by
  obtain ⟨below, rfl⟩ := Nat.exists_eq_add_of_le' room
  simp [ancestors, walk, walkFrom, superOf_of_not_registered missing, Walk.stop]

/-- Walks in a realm do not tell limits on the same side apart. -/
theorem Realm.WellFormed.ancestors_sameSide {realm : Realm} (formed : realm.WellFormed) {depth : Nat}
    (sameSide : SameSide realm.settings.depthLimit depth) (start : ClassId) :
    realm.registry.ancestors start realm.settings.walkLimit =
      realm.registry.ancestors start { realm.settings with depthLimit := depth }.walkLimit := by
  simp only [Settings.walkLimit]
  rcases sameSide with ⟨left, right⟩ | ⟨left, right⟩
  · rw [Nat.max_eq_right left, Nat.max_eq_right right]
  · by_cases registered : realm.registry.IsRegistered start
    · obtain ⟨record, found⟩ := Registry.isRegistered_iff.mp registered
      have short : (realm.lineage start record.kind).length ≤ 2 := by
        cases record.kind <;> simp [lineage]
      rw [formed.ancestors_eq found, formed.ancestors_eq found, if_pos (by omega), if_pos (by omega)]
    · rw [Registry.ancestors_of_not_registered registered (by omega),
        Registry.ancestors_of_not_registered registered (by omega)]

/-! ## Worlds with another limit -/

/-- The context, where the realm stores this limit instead of its own. -/
def Context.withDepth (depth : Nat) : Context → Context
  | .bare classes => .bare classes
  | .realm whole => .realm { whole with settings := { whole.settings with depthLimit := depth } }

/-- The world, where the realm at a position stores this limit instead of its own. -/
def World.withDepth (world : World) (context depth : Nat) : World :=
  { world with contexts := world.contexts.modify context (Context.withDepth depth) }

/-- The realm at a position stores another limit on the same side, and nothing else differs. -/
def depthLikeness (context depth : Nat) : Likeness where
  tables := Eq
  listings := Eq
  settings position own other :=
    (position = context ∧ SameSide own.depthLimit depth ∧ other = { own with depthLimit := depth }) ∨
      (position ≠ context ∧ other = own)
  shared := context + 1
  tables_ofEntries _ := rfl
  tables_apply same change := congrArg (·.apply change) same
  tables_inheritable same := congrArg PropertyTable.inheritable same
  size_eq same := congrArg PropertyTable.size same
  entryOf?_eq same := congrArg PropertyTable.entryOf? same
  contains_eq same := congrArg PropertyTable.contains same
  listings_entries same _ shown := congrArg (·.entries.toList.map shown) same
  listings_entriesIn same tier := congrArg (·.entriesIn tier) same
  listings_tiers same := congrArg PropertyTable.tiers same
  settings_shared late _ := .inr ⟨by omega, rfl⟩
  allowsEmptyNames_eq alike := by
    rcases alike with ⟨_, _, rfl⟩ | ⟨_, rfl⟩ <;> rfl
  ancestors_eq alike formed start := by
    rcases alike with ⟨_, sameSide, rfl⟩ | ⟨_, rfl⟩
    · exact formed.ancestors_sameSide sameSide start
    · rfl

section Exactness

variable {context depth : Nat} {start : Store} {world twin : World}

theorem toList_eq_of_sameSince {α : Type} {start items twins : Array α}
    (same : SameSince start start items twins) : items = twins := by
  obtain ⟨added, grown, twinGrown⟩ := same
  exact Array.toList_inj.mp (grown.trans twinGrown.symm)

theorem depthLikeness_replies_eq {reply other : WorldReply}
    (alike : (depthLikeness context depth).Replies reply other) : reply = other := by
  cases alike with
  | same => rfl
  | entries members => exact congrArg Reply.entries members
  | @contents contents twin shown =>
    cases contents
    cases twin
    obtain ⟨rfl, rfl, rfl, rfl, rfl⟩ := shown
    rfl

theorem depthLikeness_displays_eq {shown other : Display Value TableRef}
    (alike : (depthLikeness context depth).Displays shown other) : shown = other := by
  cases alike with
  | note => rfl
  | reply replies => exact congrArg Display.reply (depthLikeness_replies_eq replies)

theorem depthLikeness_displayed_eq {shown other : List (Display Value TableRef)}
    (alike : List.Forall₂ (depthLikeness context depth).Displays shown other) : shown = other :=
  List.forall₂_eq_eq_eq ▸ alike.imp fun _ _ => depthLikeness_displays_eq

theorem depthLikeness_stores_eq {store twin : Store}
    (stores : (depthLikeness context depth).Stores start start store twin) : twin = store := by
  have tables := stores.tables.eq id
  have journal := toList_eq_of_sameSince stores.journal
  have writes := toList_eq_of_sameSince stores.writes
  have objects := stores.objects
  cases store
  cases twin
  cases tables
  cases journal
  cases writes
  cases objects
  rfl

theorem depthLikeness_contexts_eq
    (inStep : InStep (depthLikeness context depth).Contexts world.contexts twin.contexts) :
    twin.contexts = world.contexts.modify context (Context.withDepth depth) := by
  refine Array.ext_getElem? fun position => ?_
  have related (found other : Option Context)
      (rel : Option.Rel ((depthLikeness context depth).Contexts position) found other) :
      other = if context = position then found.map (Context.withDepth depth) else found := by
    cases rel with
    | none => simp
    | some alike =>
      cases alike with
      | bare registry => simp [Context.withDepth]
      | realm alike =>
        cases alike with
        | intro _ settings =>
          rcases settings with ⟨rfl, _, rfl⟩ | ⟨apart, rfl⟩
          · simp [Context.withDepth]
          · rw [if_neg (Ne.symm apart)]
  rw [Array.getElem?_modify]
  exact related _ _ (inStep position)

theorem depthLikeness_worlds_eq (worlds : (depthLikeness context depth).Worlds start start world twin) :
    twin = world.withDepth context depth := by
  have store := depthLikeness_stores_eq worlds.store
  have contexts := depthLikeness_contexts_eq worlds.contexts
  have displays := Array.toList_inj.mp (depthLikeness_displayed_eq worlds.displays)
  have slots := worlds.slots
  have heldTables := worlds.heldTables
  cases twin
  cases store
  cases contexts
  cases displays
  cases slots
  cases heldTables
  rfl

theorem depthLikeness_records_eq {lists : Prop} {record other : StepRecord}
    (records : (depthLikeness context depth).Records lists record other) : record = other := by
  have outcomes : record.outcome = other.outcome :=
    (records.outcome.mono fun answers => depthLikeness_replies_eq answers.replies).eq
  cases record
  cases other
  congr
  · exact depthLikeness_displayed_eq records.displays
  · exact records.journal

/-- Storing another limit on the same side makes an alike world. -/
theorem depthLikeness_withDepth (formed : world.RealmsWellFormed) {realm : Realm}
    (present : world.contexts[context]? = some (.realm realm))
    (sameSide : SameSide realm.settings.depthLimit depth) :
    (depthLikeness context depth).Worlds world.store world.store world
      (world.withDepth context depth) where
  store := {
    tables := .refl fun _ _ _ => rfl
    objects := rfl
    journal := .refl _ _
    writes := .refl _ _ }
  contexts position := by
    rw [World.withDepth, Array.getElem?_modify]
    split
    next here =>
      subst here
      rw [present]
      exact .some (.realm (.intro (formed present) (.inl ⟨rfl, sameSide, rfl⟩)))
    next apart =>
      cases found : world.contexts[position]? with
      | none => exact .none
      | some other =>
        refine .some ?_
        cases other with
        | bare registry => exact .bare registry
        | realm other => exact .realm (.intro (formed found) (.inr ⟨Ne.symm apart, rfl⟩))
  shared := (Array.getElem?_eq_some_iff.mp present).1
  slots := rfl
  heldTables := rfl
  displays := List.forall₂_same.mpr fun shown _ => .refl shown

end Exactness

namespace World

/-- A realm that is built with another limit stores another limit, and that is all. -/
theorem openRealm_eq_withDepth (world : World) (settings : Settings) (left right : Nat) :
    world.act (.openContext (.realm { settings with depthLimit := right })) =
      (world.act (.openContext (.realm { settings with depthLimit := left }))).withDepth
        world.contexts.size right := by
  rw [act_openRealm, act_openRealm, withDepth]
  congr 1
  refine Array.ext_getElem? fun position => ?_
  rw [Array.getElem?_modify, Array.getElem?_push, Array.getElem?_push]
  split
  next last => simp [last, Realm.started, Realm.startRecords, Context.withDepth]
  next earlier => rw [if_neg (Ne.symm earlier)]

/-- Two realms are built after the same run with settings that differ in the depth limit alone, and both
limits are on the same side of two. Whatever is demanded of both worlds from then on, each demand is met
with the same outcome, the same records and the same displays, and the worlds differ in the stored limit
alone. -/
theorem depth_limit_matters_at_two (earlier : List Action) (settings : Settings) {left right : Nat}
    (sameSide : SameSide left right) (demands : List Demand) :
    let context := (empty.run earlier).contexts.size
    let opened (depth : Nat) :=
      (empty.run earlier).act (.openContext (.realm { settings with depthLimit := depth }))
    let last := (opened left).meetAll demands
    let twin := (opened right).meetAll demands
    twin = last.withDepth context right ∧
      ∀ demand, (twin.meet demand).1 = (last.meet demand).1 := by
  intro context opened last twin
  have reachable : (opened left).Reachable := Reachable.act ⟨earlier, rfl⟩ _
  have start := depthLikeness_withDepth reachable.realmsWellFormed
    (getElem?_openRealm (empty.run earlier) { settings with depthLimit := left }) sameSide
  have after := start.meetAll demands
  rw [← openRealm_eq_withDepth] at after
  exact ⟨depthLikeness_worlds_eq after,
    fun demand => (depthLikeness_records_eq (after.alike.records demand)).symm⟩

/-! ## Limits below the threshold -/

namespace Threshold

/-- A realm whose walks may visit so many classes. -/
def opened (depth : Nat) : World :=
  empty.act (.openContext (.realm { Settings.standard with depthLimit := depth }))

/-- A class is created. -/
def demands : List Demand :=
  [.perform 1 (.outer 0) (.realm (.createClass "A"))]

/-- The supers of the new class are asked for. -/
def question : Demand :=
  .perform 1 (.outer 0) (.chain (.ancestors (.known ⟨5⟩) none))

end Threshold

open Threshold in
/-- A walk under a limit of zero fails like one under a limit of one, and reports the same limit. -/
theorem depth_limit_matters_at_two_zero :
    SameSide 0 1 ∧
      (opened 1).meetAll demands = ((opened 0).meetAll demands).withDepth 0 1 ∧
      (((opened 0).meetAll demands).meet question).1.outcome = .error (.hierarchyTooDeep ⟨5⟩ 1) ∧
      (((opened 1).meetAll demands).meet question).1.outcome = .error (.hierarchyTooDeep ⟨5⟩ 1) := by
  have sameSide : SameSide 0 1 := .inl ⟨by decide, by decide⟩
  obtain ⟨worlds, records⟩ := depth_limit_matters_at_two [] Settings.standard sameSide demands
  have refused : (((opened 0).meetAll demands).meet question).1.outcome =
      .error (.hierarchyTooDeep ⟨5⟩ 1) := rfl
  exact ⟨sameSide, worlds, refused, (congrArg StepRecord.outcome (records question)).trans refused⟩

end World

end ObjectModel
