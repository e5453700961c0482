/-
This file gives detectors that remember the last value that counted and log a value that differs from it.
-/

import Mathlib.Data.List.Destutter

namespace IgwP4.Structures

/-- The list starts with the value before it. -/
theorem destutter'_starts {Value : Type} (differs : Value → Value → Prop) [DecidableRel differs] (last : Value)
    (values : List Value) :
    values.destutter' differs last = last :: (values.destutter' differs last).tail := by
  induction values with
  | nil => rfl
  | cons value rest ih =>
      by_cases other : differs last value
      · rw [List.destutter'_cons_pos _ other, List.tail_cons]
      · rw [List.destutter'_cons_neg _ other]
        exact ih

variable {Value : Type} [DecidableEq Value] (counts : Value → Prop) [DecidablePred counts]

/-- The value that is remembered behind a value, and what is logged of it -/
def observe (last value : Value) : Value × List Value :=
  if counts value ∧ value ≠ last then (value, [value]) else (last, [])

/-- What is logged of the values of a run -/
def changeLog (last : Value) : List Value → List Value
  | [] => []
  | value :: rest => (observe counts last value).2 ++ changeLog (observe counts last value).1 rest

/-- The log holds the changes of the values that count, and each change once. -/
theorem changeLog_eq (last : Value) (values : List Value) :
    changeLog counts last values = ((values.filter counts).destutter' (· ≠ ·) last).tail := by
  induction values generalizing last with
  | nil => rfl
  | cons value rest ih =>
      rw [changeLog, observe]
      by_cases counted : counts value
      · rw [List.filter_cons_of_pos (by simpa using counted)]
        by_cases differs : value ≠ last
        · rw [if_pos ⟨counted, differs⟩, List.destutter'_cons_pos _ differs.symm, List.tail_cons, ih,
            destutter'_starts _ value]
          rfl
        · rw [if_neg fun both => differs both.2, List.destutter'_cons_neg _ fun other => differs other.symm]
          exact ih last
      · rw [if_neg fun both => counted both.1, List.filter_cons_of_neg (by simpa using counted)]
        exact ih last

end IgwP4.Structures
