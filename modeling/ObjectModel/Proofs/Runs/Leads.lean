import ObjectModel.Effect
import Mathlib.Control.Basic
import Mathlib.Logic.Relation

/-! # Effects as chains of steps

An effect leads along a step relation when it changes every state by a chain of such steps, also
where it fails. Effects that are built from parts lead where their parts lead, so a step relation is
compared with a program by going through the program once.
-/

namespace ObjectModel.Effect

open Relation

variable {σ τ α β γ : Type}

/-- An effect whose answer is not looked at. -/
def ignore (effect : Effect σ α) : Effect σ Unit :=
  (fun _ => ()) <$> effect

@[simp]
theorem perform_ignore (effect : Effect σ α) (state : σ) :
    (effect.ignore.perform state).2 = (effect.perform state).2 := by
  simp [ignore]

/-- Not looking at the answer of the last effect is not looking at the answer of the whole. -/
theorem bind_ignore (first : Effect σ α) (next : α → Effect σ β) :
    (first >>= fun answer => (next answer).ignore) = (first >>= next).ignore :=
  (map_bind _ first next).symm

/-- The effect changes every state by a chain of steps. -/
def Leads (step : σ → σ → Prop) (effect : Effect σ α) : Prop :=
  ∀ state, ReflTransGen step state (effect.perform state).2

namespace Leads

variable {step : σ → σ → Prop} {first : Effect σ α} {next : α → Effect σ β}

theorem of_unchanged {effect : Effect σ α}
    (unchanged : ∀ state, (effect.perform state).2 = state) : effect.Leads step := by
  intro state
  rw [unchanged]

theorem of_step {effect : Effect σ α} (one : ∀ state, step state (effect.perform state).2) :
    effect.Leads step :=
  fun state => .single (one state)

/-- A chain of steps is a chain of steps of any wider kind. -/
protected theorem mono {wider : σ → σ → Prop} {effect : Effect σ α} (leads : effect.Leads step)
    (widens : ∀ state after, step state after → wider state after) : effect.Leads wider :=
  fun state => ReflTransGen.mono widens _ _ (leads state)

protected theorem pure (answer : α) : (pure answer : Effect σ α).Leads step :=
  of_unchanged fun _ => rfl

protected theorem throw (cause : Error) : (throw cause : Effect σ α).Leads step :=
  of_unchanged fun _ => rfl

protected theorem get : (get : Effect σ σ).Leads step :=
  of_unchanged fun _ => rfl

protected theorem ofOutcome (outcome : Except Error α) :
    (Effect.ofOutcome outcome : Effect σ α).Leads step :=
  of_unchanged fun _ => rfl

protected theorem bind (leads : first.Leads step)
    (leadsNext : ∀ answer, (next answer).Leads step) : (first >>= next).Leads step := by
  intro state
  have start := leads state
  rw [perform_bind]
  rcases outcome : first.perform state with ⟨cause | answer, middle⟩
  · simpa only [outcome] using start
  · rw [outcome] at start
    exact start.trans (leadsNext answer middle)

/-- Two effects that are one operation together, and what follows on their answer. -/
theorem bind_bind {last : β → Effect σ γ} (leadsBoth : (first >>= next).Leads step)
    (leadsLast : ∀ answer, (last answer).Leads step) :
    (first >>= fun answer => next answer >>= last).Leads step := by
  rw [← bind_assoc]
  exact leadsBoth.bind leadsLast

protected theorem ignore {effect : Effect σ α} (leads : effect.Leads step) :
    effect.ignore.Leads step := by
  intro state
  rw [perform_ignore]
  exact leads state

protected theorem attempt {effect : Effect σ α} (leads : effect.Leads step) :
    effect.attempt.Leads step :=
  leads

protected theorem mapM {ι : Type} {act : ι → Effect σ α}
    (leads : ∀ item, (act item).Leads step) (items : List ι) : (items.mapM act).Leads step := by
  induction items with
  | nil => exact .pure []
  | cons item rest ih =>
    rw [List.mapM_cons]
    exact (leads item).bind fun _ => ih.bind fun _ => .pure _

end Leads

end ObjectModel.Effect
