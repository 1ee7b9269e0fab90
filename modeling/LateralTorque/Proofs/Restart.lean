import Mathlib

/-!
# Components that can be reset

Some parts of the controller take a sample at a time and can be reset.  Where a reset puts such a
part back at its start, its state is what the samples since the last reset have made of the start.

* `Operation` — what is done with such a part, `Operation.recent` — what has not been reset yet;
* `foldl_apply_eq` — nothing but the recent samples counts.

The part is given by its start and by what a sample does to it, and is otherwise any; the saturation
monitor and the derivative term of the PID controller are two.
-/

set_option autoImplicit false

namespace LateralTorque

/-- What is done with a component that takes samples of type `β`: it takes a sample, or is reset. -/
inductive Operation (β : Type) where
  | take (sample : β)
  | reset

namespace Operation

variable {σ β : Type}

/-- A component after an operation. -/
def apply (take : σ → β → σ) (reset : σ → σ) (s : σ) : Operation β → σ
  | .take sample => take s sample
  | .reset => reset s

/-- The samples of a list of operations since the last reset, or since the start if there is none. -/
def recent (operations : List (Operation β)) : List β :=
  operations.foldl (apply (fun samples sample => samples ++ [sample]) fun _ => []) []

@[simp] theorem recent_concat_take (operations : List (Operation β)) (sample : β) :
    recent (operations ++ [.take sample]) = recent operations ++ [sample] := by
  simp [recent, apply]

@[simp] theorem recent_concat_reset (operations : List (Operation β)) :
    recent (operations ++ [.reset]) = [] := by
  simp [recent, apply]

/-- Where a sample moves nothing that a reset does not put back, no list of samples does. -/
theorem reset_foldl {take : σ → β → σ} {reset : σ → σ}
    (hforgets : ∀ s sample, reset (take s sample) = reset s) (s : σ) (samples : List β) :
    reset (samples.foldl take s) = reset s := by
  induction samples generalizing s with
  | nil => rfl
  | cons sample later ih => exact (ih (take s sample)).trans (hforgets s sample)

/-- **A reset forgets.**  A component that every reset puts back at its start is, after any
operations, where the samples since the last reset take it from there. -/
theorem foldl_apply_eq {take : σ → β → σ} {reset : σ → σ} {start : σ}
    (hforgets : ∀ s sample, reset (take s sample) = reset s) (hstart : reset start = start)
    (operations : List (Operation β)) :
    operations.foldl (apply take reset) start = (recent operations).foldl take start := by
  induction operations using List.reverseRecOn with
  | nil => rfl
  | append_singleton before operation ih =>
    rw [List.foldl_append, ih]
    cases operation with
    | take sample =>
      rw [recent_concat_take, List.foldl_append]
      rfl
    | reset =>
      rw [recent_concat_reset]
      exact (reset_foldl hforgets start _).trans hstart

end Operation

end LateralTorque
