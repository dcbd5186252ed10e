import ObjectModel.Proofs.Runs.Scripts

/-! # Demands

A demand is a public operation, or an operation as scripts write it with all that the code it calls
does. Runs of demands are runs with nested calls: whatever meets a demand acts in the context in which
the demand is made, so each run of demands is also a run of public operations there.
-/

namespace ObjectModel

open Relation

/-- What is asked of a world: a public operation with its operands at hand, or an operation as scripts
write it, in a frame and with `depth` levels for the scripts that it calls. -/
inductive Demand where
  | act (action : Action)
  | perform (depth : Nat) (frame : Frame) (operation : Operation)

namespace Demand

/-- What a demand does. Of a public operation no more is heard than whether it failed. -/
def effect : Demand → Effect World WorldReply
  | act action => do
    action.effect
    return .nothing
  | perform depth frame operation => operation.perform (Invocation.run depth frame.context) frame

/-- The demand is made in a context, or it concerns none. -/
def MadeIn (context : Nat) : Demand → Prop
  | act action => action.ActsIn context
  | perform _ frame _ => frame.context = context

variable {context : Nat}

theorem effect_runsIn {demand : Demand} (made : demand.MadeIn context) :
    demand.effect.RunsIn context := by
  cases demand with
  | act action =>
    exact (Effect.RunsIn.of_act action made fun _ => rfl).bind fun _ => .pure _
  | perform depth frame operation =>
    cases made
    exact operation.perform_runsIn frame (Invocation.run_runsIn depth)

end Demand

namespace World

/-- Meet a demand: what that showed, and the world it left. -/
def meet (world : World) (demand : Demand) : StepRecord × World :=
  let (outcome, after) := demand.effect.perform { world with displays := #[] }
  (⟨after.displays.toList, outcome, journalSince world after⟩, after)

/-- The world after some demands were met, one after the other. -/
def meetAll (world : World) (demands : List Demand) : World :=
  demands.foldl (fun world demand => (world.meet demand).2) world

variable {context : Nat} {demand : Demand} {demands : List Demand}

/-- What was shown before is put away, and then operations in the context follow. -/
theorem acts_meet (world : World) (made : demand.MadeIn context) :
    ReflTransGen (Acts context) world (world.meet demand).2 :=
  .head ⟨.keep world.slots world.heldTables #[], trivial, rfl⟩
    (Demand.effect_runsIn made { world with displays := #[] })

theorem acts_meetAll (world : World) (made : ∀ demand ∈ demands, demand.MadeIn context) :
    ReflTransGen (Acts context) world (world.meetAll demands) := by
  induction demands generalizing world with
  | nil => exact .refl
  | cons demand rest ih =>
    have later : ∀ other ∈ rest, other.MadeIn context :=
      fun other member => made other (List.mem_cons_of_mem _ member)
    exact (world.acts_meet (made demand List.mem_cons_self)).trans (ih _ later)

/-- Demands are met by public operations, in whatever contexts they are made. -/
theorem exists_run_meetAll (world : World) (demands : List Demand) :
    ∃ actions, world.run actions = world.meetAll demands := by
  induction demands generalizing world with
  | nil => exact ⟨[], rfl⟩
  | cons demand rest ih =>
    have first : ∃ actions, world.run actions = (world.meet demand).2 := by
      cases demand with
      | act action =>
        refine ⟨[.keep world.slots world.heldTables #[], action], ?_⟩
        simp only [run_cons, run_nil, meet, Demand.effect, bind_pure_comp, Effect.perform_map]
        rfl
      | perform depth frame operation =>
        have made : (Demand.perform depth frame operation).MadeIn frame.context :=
          show frame.context = frame.context from rfl
        obtain ⟨actions, _, ran⟩ := exists_run_of_acts (world.acts_meet made)
        exact ⟨actions, ran⟩
    obtain ⟨actions, ran⟩ := first
    obtain ⟨later, ranLater⟩ := ih (world.meet demand).2
    exact ⟨actions ++ later, by rw [run_append, ran, ranLater]; rfl⟩

theorem Reachable.meetAll {world : World} (reachable : world.Reachable)
    (made : ∀ demand ∈ demands, demand.MadeIn context) : (world.meetAll demands).Reachable := by
  obtain ⟨actions, _, ran⟩ := exists_run_of_acts (world.acts_meetAll made)
  rw [← ran]
  exact reachable.run actions

end World

end ObjectModel
