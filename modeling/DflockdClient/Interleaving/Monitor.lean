import Mathlib.Data.List.Basic
import Mathlib.Data.List.Induction

/-! Monitors: automata that read a trace and stop at the first event that is out of order. -/

namespace Interleaving

structure Monitor (State Event : Type) where
  start : State
  step : State → Event → Option State

namespace Monitor

variable {State Event : Type} (monitor : Monitor State Event)

/-- The state behind a trace, and `none` if some event was out of order. -/
def after (trace : List Event) : Option State :=
  trace.foldl (fun state event => state.bind (monitor.step · event)) (some monitor.start)

@[simp] theorem after_nil : monitor.after [] = some monitor.start := rfl

@[simp] theorem after_snoc (trace : List Event) (event : Event) :
    monitor.after (trace ++ [event]) = (monitor.after trace).bind (monitor.step · event) := by
  simp [after]

variable {monitor}

theorem after_snoc_some {trace : List Event} {event : Event} {final : State} :
    monitor.after (trace ++ [event]) = some final ↔
      ∃ state, monitor.after trace = some state ∧ monitor.step state event = some final := by
  rw [after_snoc, Option.bind_eq_some_iff]

theorem after_induction (fact : List Event → State → Prop) (start : fact [] monitor.start)
    (step : ∀ trace state event next, fact trace state → monitor.step state event = some next →
      fact (trace ++ [event]) next) {trace : List Event} {final : State}
    (accepted : monitor.after trace = some final) : fact trace final := by
  induction trace using List.reverseRecOn generalizing final with
  | nil =>
      cases accepted
      exact start
  | append_singleton trace event ih =>
      obtain ⟨state, before, moved⟩ := after_snoc_some.mp accepted
      exact step trace state event final (ih before) moved

theorem after_append {first later : List Event} {final : State}
    (accepted : monitor.after (first ++ later) = some final) :
    ∃ state, monitor.after first = some state := by
  induction later using List.reverseRecOn generalizing final with
  | nil => exact ⟨final, by simpa using accepted⟩
  | append_singleton later event ih =>
      rw [← List.append_assoc] at accepted
      obtain ⟨state, before, _⟩ := after_snoc_some.mp accepted
      exact ih before

end Monitor

end Interleaving
