import ObjectModel.Proofs.Classes.NameIndex
import ObjectModel.Proofs.Classes.Routes
import ObjectModel.Proofs.Runs.Demands

/-! # Which names are refused

A realm refuses the empty name if its settings ask for that, and no other name is ever refused. The
name is checked where the class is made and against the settings of the realm that makes it, so no way
to a class goes around the check: neither a constructor that was lent by a realm with other settings
nor code that runs deep inside a call.
-/

namespace ObjectModel

/-! ## What the constructor takes for a name -/

/-- What the constructor makes of its arguments. The first of them names the class if it carries a
text, and otherwise its kind is reported; what follows it is not looked at. -/
inductive Realm.ReadsName : List Value → Except Error String → Prop where
  | missing : ReadsName [] (.error (.argument "create expects a class name"))
  | text {object : PlainInstance} {name : String} (carries : object.payload = some (.text name))
      (further : List Value) : ReadsName (.plain object :: further) (.ok name)
  | integer {object : PlainInstance} {content : Int64}
      (carries : object.payload = some (.integer content)) (further : List Value) :
      ReadsName (.plain object :: further) (.error (.typeMismatch "String" "instance"))
  | bare {object : PlainInstance} (carries : object.payload = none) (further : List Value) :
      ReadsName (.plain object :: further) (.error (.typeMismatch "String" "instance"))
  | ofClass (id : ClassId) (further : List Value) :
      ReadsName (.ofClass id :: further) (.error (.typeMismatch "String" "class"))
  | method (wrapped : Method) (further : List Value) :
      ReadsName (.method wrapped :: further) (.error (.typeMismatch "String" "method"))
  | unboundMethod (wrapped : Method) (further : List Value) :
      ReadsName (.unboundMethod wrapped :: further)
        (.error (.typeMismatch "String" "unbound method"))

theorem Realm.ReadsName.constructorName_eq {arguments : List Value} {outcome : Except Error String}
    (reads : ReadsName arguments outcome) : constructorName arguments = outcome := by
  cases reads with
  | text carries | integer carries | bare carries =>
    simp [constructorName, Value.text?, Value.payload?, Value.kindName, carries]
  | missing | ofClass | method | unboundMethod => rfl

/-- Every list of arguments is one of these. -/
theorem Realm.exists_readsName : ∀ arguments : List Value, ∃ outcome, ReadsName arguments outcome
  | [] => ⟨_, .missing⟩
  | .ofClass id :: further => ⟨_, .ofClass id further⟩
  | .method wrapped :: further => ⟨_, .method wrapped further⟩
  | .unboundMethod wrapped :: further => ⟨_, .unboundMethod wrapped further⟩
  | .plain object :: further => by
    rcases carries : object.payload with _ | content | content
    · exact ⟨_, .bare carries further⟩
    · exact ⟨_, .text carries further⟩
    · exact ⟨_, .integer carries further⟩

/-! ## User classes have names -/

/-- No user class of the registry is without a name. -/
def Registry.UsersNamed (registry : Registry) : Prop :=
  ∀ (id : ClassId) (record : ClassRecord), registry.recordOf id = .ok record →
    record.kind = .user → record.name ≠ ""

namespace Registry.UsersNamed

variable {registry : Registry}

theorem push (named : registry.UsersNamed) {record : ClassRecord} (accepted : record.name ≠ "") :
    (registry.push record).UsersNamed := by
  intro id other registered user
  rw [recordOf_eq_ok_iff] at registered
  rcases getElem?_push_cases registered with ⟨_, rfl⟩ | old
  · exact accepted
  · exact named id other (recordOf_eq_ok_iff.mpr old) user

theorem bind {bound : Registry} {target link : ClassId} (named : registry.UsersNamed)
    (binds : registry.bind target link = .ok bound) : bound.UsersNamed := by
  obtain ⟨record, found, _, rfl⟩ := bind_eq_ok_iff.mp binds
  intro id other registered user
  rw [recordOf_eq_ok_iff] at registered
  rcases getElem?_modify_cases registered with ⟨_, rfl⟩ | old
  · exact named target record found user
  · exact named id other (recordOf_eq_ok_iff.mpr old) user

end Registry.UsersNamed

/-- Where a class must have a name, all user classes have one. -/
theorem Realm.lasts_usersNamed :
    Lasts fun realm => realm.settings.allowsEmptyNames = false → realm.registry.UsersNamed where
  started settings first _ _ _ registered user :=
    absurd user (World.kind_ne_user_of_started registered)
  push named _ _ accepted strict := by
    refine (named strict).push fun nameless => ?_
    rw [accepted nameless] at strict
    cases strict
  bind named _ _ _ bound strict := (named strict).bind bound

/-! ## The check -/

namespace World

/-- What comes of it when the realm in a context, which has these settings, is asked for a class.
`given` are the identifiers that were given to its classes before. -/
structure ChecksNames (world : World) (context : Nat) (settings : Settings) (given : List ClassId) :
    Prop where
  refuses_iff : ∀ name,
    (∃ cause later, (createClass context name).perform world = (.error cause, later)) ↔
      name = "" ∧ settings.allowsEmptyNames = false
  refused : ∀ {name cause later},
    (createClass context name).perform world = (.error cause, later) →
      cause = .argument "class name must not be empty" ∧ later = world
  created : ∀ {name id later}, (createClass context name).perform world = (.ok id, later) →
    id ∉ given ∧ ∃ realm record, later.contexts[context]? = some (.realm realm) ∧
      realm.registry.recordOf id = .ok record ∧ record.name = name ∧ record.kind = .user
  /-- The constructor fails with what is wrong with its arguments, at every depth. -/
  misused : ∀ {arguments cause}, Realm.ReadsName arguments (.error cause) → ∀ depth receiver,
    (Invocation.run depth context ⟨.create, receiver, arguments⟩).perform world =
      (.error cause, world)
  /-- The constructor does what asking by name does. -/
  constructs : ∀ {arguments name}, Realm.ReadsName arguments (.ok name) → ∀ depth receiver,
    (Invocation.run depth context ⟨.create, receiver, arguments⟩).perform world =
      (Value.ofClass <$> createClass context name).perform world

theorem Reachable.checksNames {world : World} {context : Nat} {realm : Realm} (reachable : world.Reachable)
    (present : world.contexts[context]? = some (.realm realm)) :
    world.ChecksNames context realm.settings (world.idsAt context) := by
  have formed := reachable.realmsWellFormed present
  obtain ⟨root, found, _⟩ := formed.exists_root
  have performed := perform_createClass formed found present
  refine { refuses_iff := ?_, refused := ?_, created := ?_, misused := ?_, constructs := ?_ }
  · intro name
    rw [performed]
    by_cases refused : name = "" ∧ realm.settings.allowsEmptyNames = false
    · rw [if_pos refused]
      exact ⟨fun _ => refused, fun _ => ⟨_, _, rfl⟩⟩
    · rw [if_neg refused]
      refine ⟨?_, fun nameless => absurd nameless refused⟩
      rintro ⟨cause, later, failed⟩
      cases failed
  · intro name cause later failed
    rw [performed] at failed
    split at failed <;> cases failed
    exact ⟨rfl, rfl⟩
  · intro name id later created
    rw [performed] at created
    split at created <;> cases created
    refine ⟨fun given => ?_, _, realm.recordFor world.store name,
      getElem?_modify_self present _, ?_, rfl, rfl⟩
    · rw [idsAt_of_present present] at given
      simp [Context.registry, Registry.ids, Registry.nextId] at given
    · rw [Registry.recordOf_eq_ok_iff]
      exact Array.getElem?_push_size
  · intro arguments cause reads depth receiver
    rw [Invocation.run_construct, construct, reads.constructorName_eq]
    rfl
  · intro arguments name reads depth receiver
    rw [Invocation.run_construct, construct, reads.constructorName_eq]
    rfl

/-- Whatever happened before and after a realm was opened, it refuses the empty name exactly if its
settings ask for that, and accepts every other name each time with an identifier that was not given
before. The constructor reads the name from its first argument and then does the same. If the empty
name is refused, then whatever is demanded anywhere, with all nested calls, no user class of the realm
is without a name. -/
theorem names_validated (earlier later : List Action) (settings : Settings) :
    let actions := earlier ++ .openContext (.realm settings) :: later
    let context := (empty.run earlier).contexts.size
    let world := empty.run actions
    world.ChecksNames context settings (empty.idsGiven context actions) ∧
    (∀ arguments, ∃ outcome, Realm.ReadsName arguments outcome) ∧
    ∀ demands : List Demand, ∃ realm,
      (world.meetAll demands).contexts[context]? = some (.realm realm) ∧
      (settings.allowsEmptyNames = false → realm.registry.UsersNamed) := by
  intro actions context world
  have reachable : world.Reachable := ⟨actions, rfl⟩
  have opened := getElem?_openRealm (empty.run earlier) settings
  have split : world = ((empty.run earlier).act (.openContext (.realm settings))).run later := by
    simp only [world, actions, run_append, run_cons]
  obtain ⟨registry, present, _⟩ := (grows_run _ later).exists_realm opened
  rw [← split] at present
  have given : world.idsAt context = empty.idsGiven context actions := by
    have none' : empty.idsAt context = [] := rfl
    rw [idsAt_run, none', List.nil_append]
  refine ⟨given ▸ reachable.checksNames present, Realm.exists_readsName, fun demands => ?_⟩
  obtain ⟨further, ran⟩ := world.exists_run_meetAll demands
  obtain ⟨registry', present', _⟩ := (world.grows_run further).exists_realm present
  rw [ran] at present'
  have reachable' : (world.meetAll demands).Reachable := ran ▸ reachable.run further
  exact ⟨_, present', reachable'.realm_of_lasts Realm.lasts_usersNamed present'⟩

/-! ## A constructor of a realm that accepts every name -/

namespace Strict

/-- The constructor of the first realm, which accepts every name. -/
def lent : Value :=
  Realm.startConstructor .empty

def nameless : PlainInstance :=
  ⟨2, ⟨3⟩, ⟨22⟩, some (.text "")⟩

def slots : Std.ExtTreeMap String Value :=
  Std.ExtTreeMap.empty.insert "lent" lent

/-- The second realm gets the constructor of the first and a class with a name that is taken. -/
def later : List Action :=
  [.setProperty 1 ⟨0⟩ publicTier "create" lent, .createClass 1 "Integer", .keep slots {} #[]]

def world : World :=
  empty.run ([.openContext (.realm .standard)] ++ .openContext (.realm .strict) :: later)

/-- The lent constructor is called in the second realm by code that runs there, and invoked on its
root. -/
def demands : List Demand :=
  let call := Operation.call .callable (.slot "lent") [.text ""] none
  [.perform 1 (.outer 1) (.defineMethod .method (.known ⟨0⟩) "calls" [⟨call, none, true⟩]),
    .perform 1 (.outer 1) (.invoke (.ofClass (.known ⟨0⟩)) [] "calls"),
    .perform 1 (.outer 1) (.invoke (.ofClass (.known ⟨0⟩)) [.text ""] "create")]

end Strict

open Strict in
/-- The second realm refuses the empty name also from the lent constructor, accepts the taken name
once more, and has no user class without a name in the end. -/
theorem names_validated_lent :
    let refusal := Error.argument "class name must not be empty"
    (createClass 1 "").perform world = (.error refusal, world) ∧
      (Invocation.run 0 1 ⟨.create, none, [.plain nameless]⟩).perform world =
        (.error refusal, world) ∧
      (∃ id later, (createClass 1 "Integer").perform world = (.ok id, later)) ∧
      ∃ realm, (world.meetAll demands).contexts[1]? = some (.realm realm) ∧
        realm.registry.UsersNamed := by
  intro refusal
  have second : (empty.run [.openContext (.realm .standard)]).contexts.size = 1 := rfl
  obtain ⟨checks, _, named⟩ := names_validated [.openContext (.realm .standard)] later .strict
  rw [second] at checks named
  change world.ChecksNames 1 .strict _ at checks
  have refused : (createClass 1 "").perform world = (.error refusal, world) := by
    obtain ⟨cause, after, failed⟩ := (checks.refuses_iff "").mpr ⟨rfl, rfl⟩
    obtain ⟨rfl, rfl⟩ := checks.refused failed
    exact failed
  have lentRefused := checks.constructs (.text (show nameless.payload = some (.text "") from rfl) []) 0 none
  refine ⟨refused, ?_, ?_, ?_⟩
  · rw [Effect.perform_map] at lentRefused
    exact lentRefused.trans (by rw [refused]; rfl)
  · rcases outcome : (createClass 1 "Integer").perform world with ⟨cause | id, after⟩
    · have empty := ((checks.refuses_iff "Integer").mp ⟨cause, after, outcome⟩).1
      simp at empty
    · exact ⟨id, after, rfl⟩
  · obtain ⟨realm, present, users⟩ := named demands
    exact ⟨realm, present, users rfl⟩

end World

end ObjectModel
