import ObjectModel.Basic

/-! # Effects

An effect runs on a state and answers a result or the cause of a failure, together with the state
it leaves. A failing effect keeps what it changed before it failed: nothing is rolled back.
-/

namespace ObjectModel

/-- A computation on states of type `σ` that may fail and whose changes outlive its failure. -/
abbrev Effect (σ : Type) : Type → Type :=
  ExceptT Error (StateM σ)

namespace Effect

variable {σ τ α β : Type}

/-- Perform an effect on a state: its outcome, and the state it leaves. -/
def perform (effect : Effect σ α) (state : σ) : Except Error α × σ :=
  StateT.run (ExceptT.run effect) state

/-- Turn a failure into an answer, so that the next effect can look at it. -/
def attempt (effect : Effect σ α) : Effect σ (Except Error α) :=
  ExceptT.mk fun state =>
    let (outcome, after) := effect.perform state
    (.ok outcome, after)

/-- Answer or fail as a result that is already known. -/
def ofOutcome (outcome : Except Error α) : Effect σ α :=
  ExceptT.mk fun state => (outcome, state)

/-- Perform an effect on one part of a larger state. -/
def within (part : τ → σ) (replace : σ → τ → τ) (effect : Effect σ α) : Effect τ α :=
  ExceptT.mk fun state =>
    let (outcome, after) := effect.perform (part state)
    (outcome, replace after state)

/-! ## What each way of building an effect performs -/

@[simp]
theorem perform_pure (answer : α) (state : σ) :
    (pure answer : Effect σ α).perform state = (.ok answer, state) :=
  rfl

@[simp]
theorem perform_throw (cause : Error) (state : σ) :
    (throw cause : Effect σ α).perform state = (.error cause, state) :=
  rfl

@[simp]
theorem perform_get (state : σ) : (get : Effect σ σ).perform state = (.ok state, state) :=
  rfl

@[simp]
theorem perform_set (after state : σ) : (set after : Effect σ Unit).perform state = (.ok (), after) :=
  rfl

@[simp]
theorem perform_modify (change : σ → σ) (state : σ) :
    (modify change : Effect σ Unit).perform state = (.ok (), change state) :=
  rfl

/-- The second effect runs on what the first left, and only if the first answered. -/
theorem perform_bind (first : Effect σ α) (next : α → Effect σ β) (state : σ) :
    (first >>= next).perform state =
      match first.perform state with
      | (.ok answer, middle) => (next answer).perform middle
      | (.error cause, middle) => (.error cause, middle) := by
  simp only [perform, ExceptT.run_bind, StateT.run_bind]
  rcases first.run.run state with ⟨_ | _, _⟩ <;> rfl

@[simp]
theorem perform_map (change : α → β) (effect : Effect σ α) (state : σ) :
    (change <$> effect).perform state =
      ((effect.perform state).1.map change, (effect.perform state).2) := by
  simp only [perform, ExceptT.run_map, StateT.run_map]
  rcases effect.run.run state with ⟨_ | _, _⟩ <;> rfl

@[simp]
theorem perform_attempt (effect : Effect σ α) (state : σ) :
    effect.attempt.perform state = (.ok (effect.perform state).1, (effect.perform state).2) :=
  rfl

@[simp]
theorem perform_ofOutcome (outcome : Except Error α) (state : σ) :
    (ofOutcome outcome : Effect σ α).perform state = (outcome, state) :=
  rfl

@[simp]
theorem perform_within (part : τ → σ) (replace : σ → τ → τ) (effect : Effect σ α) (state : τ) :
    (effect.within part replace).perform state =
      ((effect.perform (part state)).1, replace (effect.perform (part state)).2 state) :=
  rfl

end Effect

end ObjectModel
