import ObjectModel.Proofs.Runs.Outcomes
import Mathlib.Data.List.DropRight

/-! # Reading the journal

The message of a registration puts the name of the class in quotes and writes behind it what else there
is to tell. A name may hold anything, quotes and whole messages included, but behind the name stands no
quote any more. So the last quote of the message ends the name, and the message is read without doubt.
-/

namespace ObjectModel

namespace LogRecord

/-- How the message of a registration begins. -/
def opening : String :=
  "registered class '"

/-- A single quote. -/
def quote : Char :=
  Char.ofNat 39

/-- What follows the identifier in the message of a registration. -/
def kindSuffix (kind : ClassKind) : List Char :=
  (" (" ++ kind.text ++ ")").toList

/-- Read what stands behind the name: an identifier and a kind. -/
def readTail? (tail : List Char) : Option (ClassId × ClassKind) := do
  let rest ← tail.dropPrefix? " as #".toList
  let index := Nat.ofDigitChars 10 (rest.takeWhile Char.isDigit) 0
  let kind ← [.metaclass, .builtin, .user].find? fun kind : ClassKind =>
    rest.dropWhile Char.isDigit = kindSuffix kind
  return (⟨index⟩, kind)

/-- Read the message of a registration: the name, the identifier and the kind of the class. -/
def readRegistration? (message : String) : Option (String × ClassId × ClassKind) := do
  let rest ← message.toList.dropPrefix? opening.toList
  let (id, kind) ← readTail? (rest.rtakeWhile (· ≠ quote))
  return (String.ofList (rest.rdropWhile (· ≠ quote)).dropLast, id, kind)

/-- What stands behind the name of a class in the message of its registration. -/
def tail (id : ClassId) (kind : ClassKind) : List Char :=
  (" as #" ++ id.index.repr ++ " (" ++ kind.text ++ ")").toList

theorem tail_eq (id : ClassId) (kind : ClassKind) :
    tail id kind = " as #".toList ++ (Nat.toDigits 10 id.index ++ kindSuffix kind) := by
  have digits : id.index.repr.toList = Nat.toDigits 10 id.index := by
    rw [Nat.repr_eq_ofList_toDigits, String.toList_ofList]
  simp only [tail, kindSuffix, String.toList_append, digits, List.append_assoc]

theorem toList_message_registered (name : String) (id : ClassId) (kind : ClassKind) :
    (registered name id kind).message.toList =
      opening.toList ++ (name.toList ++ quote :: tail id kind) := by
  have worded : (registered name id kind).message =
      opening ++ name ++ "' as " ++ ("#" ++ id.index.repr) ++ " (" ++ kind.text ++ ")" := rfl
  rw [worded]
  simp [tail, quote]

theorem isDigit_of_mem_toDigits (index : Nat) :
    ∀ digit ∈ Nat.toDigits 10 index, digit.isDigit = true :=
  fun _ => Nat.isDigit_of_mem_toDigits (by decide) (by decide)

theorem readTail?_tail (id : ClassId) (kind : ClassKind) : readTail? (tail id kind) = some (id, kind) := by
  have cut : (tail id kind).dropPrefix? " as #".toList =
      some (Nat.toDigits 10 id.index ++ kindSuffix kind) :=
    List.dropPrefix?_eq_some_iff.mpr ⟨_, tail_eq id kind, beq_self_eq_true _⟩
  have noDigit : (kindSuffix kind).takeWhile Char.isDigit = [] ∧
      (kindSuffix kind).dropWhile Char.isDigit = kindSuffix kind := by
    cases kind <;> decide
  have kinds : [ClassKind.metaclass, .builtin, .user].find? (kindSuffix kind = kindSuffix ·) =
      some kind := by
    cases kind <;> decide
  simp only [readTail?, cut, Option.bind_eq_bind, Option.bind_some,
    List.takeWhile_append_of_pos (isDigit_of_mem_toDigits id.index),
    List.dropWhile_append_of_pos (isDigit_of_mem_toDigits id.index), noDigit, List.append_nil, kinds,
    Nat.ofDigitChars_ten_toDigits]
  rfl

theorem quote_notMem_tail (id : ClassId) (kind : ClassKind) : quote ∉ tail id kind := by
  have suffix : quote ∉ kindSuffix kind := by
    cases kind <;> decide
  have digits : quote ∉ Nat.toDigits 10 id.index := by
    intro member
    exact absurd (isDigit_of_mem_toDigits id.index quote member) (by decide)
  have words : quote ∉ " as #".toList := by simp [quote]
  rw [tail_eq, List.mem_append, List.mem_append]
  rintro (inWords | inDigits | inSuffix)
  · exact words inWords
  · exact digits inDigits
  · exact suffix inSuffix

/-- Whatever the name, the message of a registration is read as what it tells. -/
theorem readRegistration?_message (name : String) (id : ClassId) (kind : ClassKind) :
    readRegistration? (registered name id kind).message = some (name, id, kind) := by
  have cut : (registered name id kind).message.toList.dropPrefix? opening.toList =
      some (name.toList ++ quote :: tail id kind) :=
    List.dropPrefix?_eq_some_iff.mpr ⟨_, toList_message_registered name id kind, beq_self_eq_true _⟩
  have behind : ∀ letter ∈ (tail id kind).reverse, decide (letter ≠ quote) = true := by
    intro letter member
    refine decide_eq_true fun same => quote_notMem_tail id kind ?_
    rwa [← same, ← List.mem_reverse]
  have lastQuote : (name.toList ++ quote :: tail id kind).rdropWhile (· ≠ quote) =
      name.toList ++ [quote] := by
    rw [List.rdropWhile, List.reverse_append, List.reverse_cons, List.append_assoc,
      List.dropWhile_append_of_pos behind]
    simp
  have afterQuote : (name.toList ++ quote :: tail id kind).rtakeWhile (· ≠ quote) = tail id kind := by
    rw [List.rtakeWhile, List.reverse_append, List.reverse_cons, List.append_assoc,
      List.takeWhile_append_of_pos behind]
    simp
  simp only [readRegistration?, cut, Option.bind_eq_bind, Option.bind_some, lastQuote, afterQuote,
    readTail?_tail, List.dropLast_concat, String.ofList_toList]
  rfl

/-! ## The registrations that a journal tells of -/

/-- The registration that a record tells of, if it tells of one. -/
def registration? : LogRecord → Option (String × ClassId × ClassKind)
  | registered name id kind => some (name, id, kind)
  | _ => none

/-- Whether a line, with its level and its message, is at the level of the classes and begins like the
message of a registration. -/
def tellsRegistration (line : String × String) : Bool :=
  line.1 = LogLevel.debug.text && opening.toList.isPrefixOf line.2.toList

/-- The lines of registrations can be told by their level and their beginning. -/
theorem tellsRegistration_line (record : LogRecord) :
    tellsRegistration (record.level.text, record.message) = record.registration?.isSome := by
  have apart : LogLevel.trace.text ≠ LogLevel.debug.text := by decide
  cases record with
  | snapshot kept total | resolved name id =>
    simp [tellsRegistration, registration?, level, apart]
  | registered name id kind =>
    simp [tellsRegistration, registration?, level, toList_message_registered]
  | rootBound name =>
    have worded : (rootBound name).message = "bootstrap: '" ++ name ++ "' bound as its own class" := rfl
    simp [tellsRegistration, registration?, worded, opening, List.isPrefixOf]
  | bootstrapComplete classCount =>
    have worded : (bootstrapComplete classCount).message =
        "bootstrap complete: " ++ classCount.repr ++ " classes" := rfl
    simp [tellsRegistration, registration?, worded, opening, List.isPrefixOf]
  | created name id =>
    have worded : (created name id).message = "created class '" ++ name ++ "' as " ++ id.text := rfl
    simp [tellsRegistration, registration?, worded, opening, List.isPrefixOf]

/-- The registrations that the lines of a journal tell of, each line read by itself. -/
def registrationsTold (lines : List (String × String)) : List (Option (String × ClassId × ClassKind)) :=
  (lines.filter tellsRegistration).map fun line => readRegistration? line.2

/-- Whoever keeps a journal reads off it what was registered, whatever the names of the classes are. -/
theorem registrationsTold_journalLines (reader : LogLevel) (records : List LogRecord) :
    registrationsTold (journalLines reader records) = (records.filterMap registration?).map some := by
  induction records with
  | nil => rfl
  | cons record rest ih =>
    have tells := tellsRegistration_line record
    simp only [registrationsTold, journalLines] at ih
    simp only [registrationsTold, journalLines, List.filter_cons, List.filterMap_cons]
    cases record with
    | registered name id kind =>
      have kept : (registered name id kind).level.isKeptBy reader = true := by
        cases reader <;> rfl
      simp only [kept, if_true, List.map_cons, List.filter_cons, tells, registration?,
        Option.isSome_some, readRegistration?_message, ih]
    | _ =>
      simp only [registration?, Option.isSome_none] at tells
      split
      next => simp only [List.map_cons, List.filter_cons, tells, Bool.false_eq_true, if_false, ih, registration?]
      next => exact ih

end LogRecord

end ObjectModel
