import DflockdClient.Interleaving.Discipline
import DflockdClient.Interleaving.RelyGuarantee
import DflockdClient.Interleaving.Sequential

/-!
A preemptive thread with the state to itself. While the others leave the state
alone, what the thread does by itself is what it does among them.
-/

namespace Interleaving

variable {Op : Type} {Res : Op → Type} {Err : Type} {Tid : Type} {Val : Tid → Type}
  {State Choice : Type} {α : Type}

variable (machine : Machine Op Res Err Tid Val State Choice) (contract : Contract Op Tid State Choice)

/-- While the state is the thread's own, no other thread changes it, and operations of a kind keep
it so. -/
structure Exclusive (thread : Tid) (kind : Op → Prop) (mine : State → Prop) : Prop where
  pauses : ∀ op, machine.yields op = true
  others : ∀ other, other ≠ thread → ∀ before after, contract.invariant before →
    contract.guarantee other before after → mine before → after = before
  keeps : ∀ op choice state result after, kind op → contract.invariant state → mine state →
    machine.exec thread op choice state = some (result, after) →
    contract.guarantee thread state after ∧ contract.invariant after ∧ mine after

variable {machine contract} {thread : Tid} {kind : Op → Prop} {mine : State → Prop}

theorem Exclusive.environment (exclusive : Exclusive machine contract thread kind mine)
    {before after : State} (known : mine before)
    (moves : contract.Environment thread before after) : after = before := by
  induction moves with
  | refl => rfl
  | tail _ move ih =>
      obtain ⟨other, different, within, inv, _⟩ := move
      subst ih
      exact exclusive.others other different _ _ inv within known

theorem Exclusive.stable (exclusive : Exclusive machine contract thread kind mine)
    {fact : State → Prop} : contract.Stable thread fun state => mine state ∧ fact state := by
  intro other different before after inv _ within known
  rw [exclusive.others other different before after inv within known.1]
  exact known

variable {pre : State → Prop} {program : Program Op Res Err α} {post : α → State → Prop}
  {raised : Err → State → Prop}

/-- A program that has the state to itself ends as it does when nobody else is there. -/
theorem Exclusive.triple (exclusive : Exclusive machine contract thread kind mine)
    (uses : program.Uses kind)
    (known : ∀ state, mine state → pre state → wlp machine thread program post raised state) :
    Triple machine contract thread (fun state => mine state ∧ pre state) program
      (fun value state => mine state ∧ post value state)
      (fun error state => mine state ∧ raised error state) := by
  intro origin state within kept ⟨own, ready⟩
  have runs := known state own ready
  clear known ready
  induction program generalizing origin state with
  | ret value => exact ⟨within, kept, own, runs⟩
  | raise error => exact ⟨within, kept, own, runs⟩
  | act op next ih =>
      rw [wp_pause (exclusive.pauses op)]
      refine ⟨within, kept, ?_⟩
      intro moved moves choice result after _ executed
      cases exclusive.environment own moves
      obtain ⟨within', kept', own'⟩ :=
        exclusive.keeps op choice _ result after uses.1 kept own executed
      exact ih result (uses.2 result) _ after within' kept' own'
        (runs choice result after executed)

theorem Triple.uses {fact : State → Prop} (uses : program.Uses kind)
    (each : ∀ op, kind op → Triple machine contract thread fact (Program.perform op)
      (fun _ => fact) fun _ => fact) :
    Triple machine contract thread fact program (fun _ => fact) (fun _ => fact) := by
  induction program with
  | ret value => exact .ret fun _ _ known => known
  | raise error => exact .raise fun _ _ known => known
  | act op next ih => exact (each op uses.1).bind fun result => ih result (uses.2 result)

end Interleaving
