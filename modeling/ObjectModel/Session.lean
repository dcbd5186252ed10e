import ObjectModel.Script.Run

/-! # Sessions and their transcripts

A session opens its contexts in order and then takes its steps. The steps share one world, so a
value that one of them stored can be used by every later one, in whichever context it runs. A step
that fails does not end the session, and what it changed before it failed stays.

A transcript tells what a session showed: a report for each context that was opened and one for each
step. In a report objects and tables go by numbers. An object is given the next number when it is
first shown, a table when its contents are first shown, and both keep their numbers to the end of
the session. What the scripts of a step show comes before the reply of the step; their own replies
take numbers as they are shown, but only their notes are reported.
-/

namespace ObjectModel

/-! ## Reports -/

/-- What is shown of a realm that was opened. -/
structure RealmReport where
  builtins : Builtins
  settings : Settings
  bootstrapped : Bool

/-- What opening a context showed. A bare registry shows nothing of itself. -/
structure OpeningReport where
  outcome : Except Error (Option RealmReport)
  journal : List LogRecord

/-- What a step did: what its scripts showed, in order, and how it ended. -/
structure StepRecord where
  displays : List (Display Value TableRef)
  outcome : Except Error (Reply Value TableRef)
  journal : List LogRecord

/-- A value as it is shown: an object goes by its number. -/
inductive ShownValue where
  | ofClass (id : ClassId)
  | plain (number : Nat) (classId : ClassId) (payload : Option Primitive)
  | method (number : Nat) (classId : ClassId)
  | unboundMethod (number : Nat) (classId : ClassId)
deriving DecidableEq, Repr, Inhabited

/-- What is reported of a step. -/
structure StepReport where
  notes : List (Note ShownValue)
  outcome : Except Error (Reply ShownValue Nat)
  journal : List LogRecord

/-- What a session showed from its beginning to its end. -/
structure Transcript where
  openings : List OpeningReport
  steps : List StepReport

/-- The objects and the tables that were shown so far, in the order of their numbers. -/
structure Numbering where
  objects : Array Nat
  tables : Array TableRef

namespace Numbering

/-- The numbering before anything was shown. -/
def empty : Numbering :=
  ⟨#[], #[]⟩

/-- The number of the object with an identity. -/
def ofObject (identity : Nat) : StateM Numbering Nat := do
  let numbering ← get
  match numbering.objects.idxOf? identity with
  | some number => return number
  | none =>
    set { numbering with objects := numbering.objects.push identity }
    return numbering.objects.size

/-- The number of a table. -/
def ofTable (ref : TableRef) : StateM Numbering Nat := do
  let numbering ← get
  match numbering.tables.idxOf? ref with
  | some number => return number
  | none =>
    set { numbering with tables := numbering.tables.push ref }
    return numbering.tables.size

/-- Show a value. -/
def ofValue : Value → StateM Numbering ShownValue
  | .ofClass id => return .ofClass id
  | .plain object => return .plain (← ofObject object.identity) object.classId object.payload
  | .method wrapped => return .method (← ofObject wrapped.identity) wrapped.classId
  | .unboundMethod wrapped => return .unboundMethod (← ofObject wrapped.identity) wrapped.classId

/-- Show what can be seen of a table, its entries in order. -/
def ofContents (contents : TableContents Value TableRef) :
    StateM Numbering (TableContents ShownValue Nat) :=
  return { contents with
    table := ← ofTable contents.table
    entries := ← contents.entries.mapM fun (name, tier, value) =>
      return (name, tier, ← ofValue value) }

/-- Show a reply. -/
def ofReply : Reply Value TableRef → StateM Numbering (Reply ShownValue Nat)
  | .nothing => return .nothing
  | .value value => return .value (← ofValue value)
  | .flag holds => return .flag holds
  | .text content => return .text content
  | .identifier id => return .identifier id
  | .identifiers ids => return .identifiers ids
  | .comparison left right equal order => return .comparison left right equal order
  | .inspection inspection =>
    return .inspection { inspection with value := ← ofValue inspection.value }
  | .entries members =>
    return .entries (← members.mapM fun (name, value) => return (name, ← ofValue value))
  | .contents contents => return .contents (← ofContents contents)
  | .summary summary => return .summary summary
  | .registry summary => return .registry summary
  | .broken message => return .broken message

/-- Show a note: the receiver of a call comes before its arguments. -/
def ofNote : Note Value → StateM Numbering (Note ShownValue)
  | .call receiver arguments => return .call (← receiver.mapM ofValue) (← arguments.mapM ofValue)
  | .value value => return .value (← ofValue value)

/-- Show what scripts showed, and report the notes among it. -/
def ofDisplays : List (Display Value TableRef) → StateM Numbering (List (Note ShownValue))
  | [] => return []
  | .note note :: rest => return (← ofNote note) :: (← ofDisplays rest)
  | .reply reply :: rest => do
    let _ ← ofReply reply
    ofDisplays rest

/-- Show what a step did: what its scripts showed, then its own reply. -/
def ofStep (record : StepRecord) : StateM Numbering StepReport := do
  let notes ← ofDisplays record.displays
  match record.outcome with
  | .ok reply => return { notes, outcome := .ok (← ofReply reply), journal := record.journal }
  | .error cause => return { notes, outcome := .error cause, journal := record.journal }

end Numbering

/-! ## Opening contexts and taking steps -/

/-- How deep the calls of scripts may nest. -/
def callDepthLimit : Nat :=
  64

/-- What a context is opened as. -/
inductive ContextPlan where
  | bare
  | realm (settings : Settings)

/-- A command and the context that it runs in. -/
structure Step where
  context : Nat
  command : Command Operation

/-- The contexts that a session opens and the steps that it takes. -/
structure Session where
  contexts : List ContextPlan
  steps : List Step

namespace World

/-- Open a context behind those that are open. -/
def openContext : ContextPlan → Effect World (Option RealmReport)
  | .bare => do
    addContext (.bare .empty)
    return none
  | .realm settings => do
    let realm ← onStore (Realm.boot settings)
    addContext (.realm realm)
    return some
      { builtins := realm.builtins
        settings := realm.settings
        bootstrapped := realm.bootstrapped }

/-- The records that a world has and an earlier one had not. -/
def journalSince (earlier later : World) : List LogRecord :=
  later.store.journal.toList.drop earlier.store.journal.size

/-- Open a context: what that showed, and the world it left. -/
def opening (world : World) (plan : ContextPlan) : OpeningReport × World :=
  let (outcome, after) := (openContext plan).perform world
  (⟨outcome, journalSince world after⟩, after)

/-- Take a step: what it did, and the world it left. -/
def step (world : World) (step : Step) : StepRecord × World :=
  let (outcome, after) :=
    (step.command.runOutside callDepthLimit step.context).perform { world with displays := #[] }
  (⟨after.displays.toList, outcome, journalSince world after⟩, after)

end World

/-- Let each item of a list act on a state in turn, and collect what they answer. -/
def collect {σ α β : Type} (act : σ → α → β × σ) : (state : σ) → (items : List α) → List β × σ
  | state, [] => ([], state)
  | state, item :: rest =>
    let (answer, next) := act state item
    let (answers, last) := collect act next rest
    (answer :: answers, last)

namespace Session

/-- What opening the contexts showed, what each step did, and the world that is left. -/
def run (session : Session) : List OpeningReport × List StepRecord × World :=
  let (openings, opened) := collect World.opening .empty session.contexts
  let (steps, last) := collect World.step opened session.steps
  (openings, steps, last)

/-- What a session shows. -/
def transcript (session : Session) : Transcript :=
  let (openings, steps, _) := session.run
  ⟨openings, ((steps.mapM Numbering.ofStep).run .empty).1⟩

end Session

end ObjectModel
