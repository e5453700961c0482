/-
This file gives the states that a machine reaches, each with the events that have led to it.
-/

import Mathlib.Tactic.Common

namespace IgwP4.Structures

variable {State Event : Type}

/-- The machine reaches a state by these events, the newest first. -/
inductive Reaches (step : State → Event → Option State) (start : State) : List Event → State → Prop
  | start : Reaches step start [] start
  | step {past : List Event} {s s' : State} {event : Event} (before : Reaches step start past s)
      (stepped : step s event = some s') : Reaches step start (event :: past) s'

namespace Reaches

variable {step : State → Event → Option State} {start : State}

/-- What holds of the start and is kept by every step holds of every state and its history. -/
theorem invariant {P : List Event → State → Prop} (first : P [] start)
    (keeps : ∀ past s event s', P past s → step s event = some s' → P (event :: past) s') {past : List Event}
    {s : State} (reached : Reaches step start past s) : P past s := by
  induction reached with
  | start => exact first
  | step _ stepped ih => exact keeps _ _ _ _ ih stepped

/-- The states that the machine reaches are those that it computes. -/
theorem iff_foldr {past : List Event} {s : State} : Reaches step start past s ↔
    past.foldr (fun event before => before.bind (step · event)) (some start) = some s := by
  constructor
  · intro reached
    induction reached with
    | start => rfl
    | step _ stepped ih => rw [List.foldr_cons, ih, Option.bind_some, stepped]
  · intro computed
    induction past generalizing s with
    | nil => exact Option.some.inj computed ▸ .start
    | cons event past ih =>
        obtain ⟨before, earlier, stepped⟩ := Option.bind_eq_some_iff.mp computed
        exact .step (ih earlier) stepped

end Reaches

end IgwP4.Structures
