import ObjectModel.Proofs.Runs.Leads

/-! # Pairs of runs

To compare what happens in two states, one effect is performed on each. Two effects agree along a
relation if from related states they fail for the same cause or give related answers, and leave related
states in both cases. Effects that are built from parts in the same way agree where their parts agree,
so two runs of a program are compared by going through the program once.
-/

namespace ObjectModel

variable {σ τ α β γ δ : Type}

/-- Two outcomes are failures for the same cause, or their answers are related. -/
inductive OutcomesMatch (answers : α → β → Prop) : Except Error α → Except Error β → Prop where
  | ok {answer : α} {other : β} (related : answers answer other) :
      OutcomesMatch answers (.ok answer) (.ok other)
  | error (cause : Error) : OutcomesMatch answers (.error cause) (.error cause)

namespace OutcomesMatch

theorem refl {answers : α → α → Prop} (same : ∀ answer, answers answer answer)
    (outcome : Except Error α) : OutcomesMatch answers outcome outcome := by
  cases outcome with
  | error cause => exact .error cause
  | ok answer => exact .ok (same answer)

theorem mono {answers weaker : α → β → Prop} {outcome : Except Error α} {other : Except Error β}
    (matched : OutcomesMatch answers outcome other)
    (weakens : ∀ {answer other}, answers answer other → weaker answer other) :
    OutcomesMatch weaker outcome other := by
  cases matched with
  | ok related => exact .ok (weakens related)
  | error cause => exact .error cause

theorem eq {outcome other : Except Error α} (matched : OutcomesMatch Eq outcome other) :
    outcome = other := by
  cases matched with
  | ok related => rw [related]
  | error cause => rfl

end OutcomesMatch

namespace Effect

/-- From related states the effects have matching outcomes and leave related states. -/
def Agrees (states : σ → σ → Prop) (answers : α → β → Prop) (effect : Effect σ α)
    (twin : Effect σ β) : Prop :=
  ∀ state other, states state other →
    OutcomesMatch answers (effect.perform state).1 (twin.perform other).1 ∧
      states (effect.perform state).2 (twin.perform other).2

/-- Related states make no difference to the effect. -/
abbrev Respects (states : σ → σ → Prop) (effect : Effect σ α) : Prop :=
  effect.Agrees states Eq effect

variable {states : σ → σ → Prop} {answers : α → β → Prop} {effect : Effect σ α} {twin : Effect σ β}

namespace Agrees

protected theorem pure {answer : α} {other : β} (related : answers answer other) :
    (pure answer : Effect σ α).Agrees states answers (pure other) :=
  fun _ _ alike => ⟨.ok related, alike⟩

protected theorem throw (cause : Error) :
    (throw cause : Effect σ α).Agrees states answers (throw cause : Effect σ β) :=
  fun _ _ alike => ⟨.error cause, alike⟩

protected theorem get : (get : Effect σ σ).Agrees states states get :=
  fun _ _ alike => ⟨.ok alike, alike⟩

protected theorem bind {last : γ → δ → Prop} {next : α → Effect σ γ} {twinNext : β → Effect σ δ}
    (agrees : effect.Agrees states answers twin)
    (agreesNext : ∀ answer other, answers answer other →
      (next answer).Agrees states last (twinNext other)) :
    (effect >>= next).Agrees states last (twin >>= twinNext) := by
  intro state other alike
  obtain ⟨matched, after⟩ := agrees state other alike
  rw [perform_bind, perform_bind]
  rcases left : effect.perform state with ⟨outcome, middle⟩
  rcases right : twin.perform other with ⟨twinOutcome, twinMiddle⟩
  rw [left, right] at matched after
  cases matched with
  | ok related => exact agreesNext _ _ related _ _ after
  | error cause => exact ⟨.error cause, after⟩

/-- Behind equal answers both sides go on with the same one. -/
theorem bind_same {last : γ → δ → Prop} {twin : Effect σ α} {next : α → Effect σ γ}
    {twinNext : α → Effect σ δ} (agrees : effect.Agrees states Eq twin)
    (agreesNext : ∀ answer, (next answer).Agrees states last (twinNext answer)) :
    (effect >>= next).Agrees states last (twin >>= twinNext) :=
  agrees.bind fun answer _ same => same ▸ agreesNext answer

/-- Two effects that are one operation together, and what follows on their answer. -/
theorem bind_bind {answers : δ → δ → Prop} {effect twin : Effect σ α} {next twinNext : α → Effect σ γ}
    {last twinLast : γ → Effect σ δ}
    (agreesBoth : (effect >>= next).Agrees states Eq (twin >>= twinNext))
    (agreesLast : ∀ answer, (last answer).Agrees states answers (twinLast answer)) :
    (effect >>= fun answer => next answer >>= last).Agrees states answers
      (twin >>= fun answer => twinNext answer >>= twinLast) := by
  rw [← bind_assoc, ← bind_assoc]
  exact agreesBoth.bind_same agreesLast

theorem mono {weaker : α → β → Prop} (agrees : effect.Agrees states answers twin)
    (weakens : ∀ {answer other}, answers answer other → weaker answer other) :
    effect.Agrees states weaker twin :=
  fun _ _ alike => ⟨(agrees _ _ alike).1.mono weakens, (agrees _ _ alike).2⟩

protected theorem attempt (agrees : effect.Agrees states answers twin) :
    effect.attempt.Agrees states (OutcomesMatch answers) twin.attempt :=
  fun _ _ alike => ⟨.ok (agrees _ _ alike).1, (agrees _ _ alike).2⟩

protected theorem ignore (agrees : effect.Agrees states answers twin) :
    effect.ignore.Agrees states Eq twin.ignore := by
  intro state other alike
  obtain ⟨matched, after⟩ := agrees state other alike
  refine ⟨?_, by simpa only [perform_ignore] using after⟩
  simp only [Effect.ignore, perform_map]
  generalize (effect.perform state).1 = outcome at matched
  generalize (twin.perform other).1 = twinOutcome at matched
  cases matched with
  | ok related => exact .ok rfl
  | error cause => exact .error cause

end Agrees

namespace Respects

protected theorem ofOutcome (outcome : Except Error α) :
    (Effect.ofOutcome outcome : Effect σ α).Respects states :=
  fun _ _ alike => ⟨.refl (fun _ => rfl) outcome, alike⟩

protected theorem mapM {ι : Type} {act : ι → Effect σ α} (respects : ∀ item, (act item).Respects states)
    (items : List ι) : (items.mapM act).Respects states := by
  induction items with
  | nil => exact .pure rfl
  | cons item rest ih =>
    rw [List.mapM_cons]
    exact (respects item).bind_same fun _ => ih.bind_same fun _ => .pure rfl

end Respects

end Effect

end ObjectModel
