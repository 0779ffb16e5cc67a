import DflockdClient.Interleaving.Machine

/-! Weakest preconditions of programs that run without a pause. -/

namespace Interleaving

variable {Op : Type} {Res : Op → Type} {Err : Type} {Tid : Type} {Val : Tid → Type}
  {State Choice : Type} {α β : Type}

variable (machine : Machine Op Res Err Tid Val State Choice)

/-- Whatever is chosen, the program ends with the postcondition if it ends. -/
def wlp (thread : Tid) (program : Program Op Res Err α) (post : α → State → Prop)
    (raised : Err → State → Prop) (state : State) : Prop :=
  match program with
  | .ret value => post value state
  | .raise error => raised error state
  | .act op next => ∀ choice result after, machine.exec thread op choice state = some (result, after) →
      wlp thread (next result) post raised after

variable {machine} {thread : Tid} {post post' : α → State → Prop} {raised raised' : Err → State → Prop}
  {state : State}

@[simp] theorem wlp_ret {value : α} :
    wlp machine thread (.ret value) post raised = post value := rfl

@[simp] theorem wlp_raise {error : Err} :
    wlp machine thread (.raise error) post raised = raised error := rfl

@[simp] theorem wlp_bind {program : Program Op Res Err α} {rest : α → Program Op Res Err β}
    {post : β → State → Prop} :
    wlp machine thread (program >>= rest) post raised =
      wlp machine thread program (fun value => wlp machine thread (rest value) post raised)
        raised := by
  induction program with
  | ret value => rfl
  | raise error => rfl
  | act op next ih =>
      funext state
      simp only [Program.act_bind, wlp, ih]

@[simp] theorem wlp_handle {program : Program Op Res Err α} {handler : Err → Program Op Res Err α} :
    wlp machine thread (program.handle handler) post raised =
      wlp machine thread program post
        (fun error => wlp machine thread (handler error) post raised) := by
  induction program with
  | ret value => rfl
  | raise error => rfl
  | act op next ih =>
      funext state
      simp only [Program.act_handle, wlp, ih]

@[simp] theorem wlp_ensure {program : Program Op Res Err α} {cleanup : Program Op Res Err Unit} :
    wlp machine thread (program.ensure cleanup) post raised =
      wlp machine thread program
        (fun value => wlp machine thread cleanup (fun _ => post value) raised)
        (fun error => wlp machine thread cleanup (fun _ => raised error) raised) := by
  simp only [Program.ensure, Program.pure_eq, wlp_bind, wlp_handle, wlp_ret, wlp_raise]

@[simp] theorem wlp_discard {program : Program Op Res Err α} {post : Unit → State → Prop} :
    wlp machine thread (discard program) post raised =
      wlp machine thread program (fun _ => post ()) raised := wlp_bind

@[simp] theorem wlp_orRaise {outcome : Except Err α} :
    wlp machine thread (Program.orRaise outcome) post raised =
      match outcome with
      | .ok value => post value
      | .error error => raised error := by
  cases outcome <;> rfl

/-- Only what operations do matters, not where a thread pauses. -/
theorem wlp_exec {other : Machine Op Res Err Tid Val State Choice}
    (same : other.exec = machine.exec) {program : Program Op Res Err α} :
    wlp other thread program post raised = wlp machine thread program post raised := by
  induction program with
  | ret value => rfl
  | raise error => rfl
  | act op next ih =>
      funext state
      simp only [wlp, ih, same]

theorem wlp_certain {op : Op} {post : Res op → State → Prop} {result : Res op} {after : State}
    (certain : ∀ choice, machine.exec thread op choice state = some (result, after))
    (known : post result after) :
    wlp machine thread (Program.perform op) post raised state := by
  intro choice found final executed
  rw [certain] at executed
  cases executed
  exact known

theorem wlp_mono {program : Program Op Res Err α}
    (known : wlp machine thread program post raised state)
    (weaker : ∀ value state, post value state → post' value state)
    (weakerRaised : ∀ error state, raised error state → raised' error state) :
    wlp machine thread program post' raised' state := by
  induction program generalizing state with
  | ret value => exact weaker value state known
  | raise error => exact weakerRaised error state known
  | act op next ih =>
      intro choice result after executed
      exact ih result (known choice result after executed)

theorem wlp_segment {program last : Program Op Res Err α} {final : State}
    (running : ∀ op, machine.yields op = false)
    (known : wlp machine thread program post raised state)
    (segment : machine.Segment thread program state last final) :
    (∃ value, last = .ret value ∧ post value final) ∨
      ∃ error, last = .raise error ∧ raised error final := by
  induction segment with
  | ret => exact .inl ⟨_, rfl, known⟩
  | raise => exact .inr ⟨_, rfl, known⟩
  | pause yielding => simp [running] at yielding
  | act _ executed _ ih => exact ih (known _ _ _ executed)

section Against

variable (machine) in
/-- With these choices the program ends, and with the postcondition. -/
def against (thread : Tid) (choose : Op → Choice) (program : Program Op Res Err α)
    (post : α → State → Prop) (raised : Err → State → Prop) (state : State) : Prop :=
  match program with
  | .ret value => post value state
  | .raise error => raised error state
  | .act op next => ∃ result after, machine.exec thread op (choose op) state = some (result, after) ∧
      against thread choose (next result) post raised after

variable {choose : Op → Choice}

@[simp] theorem against_ret {value : α} :
    against machine thread choose (.ret value) post raised = post value := rfl

@[simp] theorem against_raise {error : Err} :
    against machine thread choose (.raise error) post raised = raised error := rfl

@[simp] theorem against_bind {program : Program Op Res Err α} {rest : α → Program Op Res Err β}
    {post : β → State → Prop} :
    against machine thread choose (program >>= rest) post raised =
      against machine thread choose program
        (fun value => against machine thread choose (rest value) post raised) raised := by
  induction program with
  | ret value => rfl
  | raise error => rfl
  | act op next ih =>
      funext state
      simp only [Program.act_bind, against, ih]

@[simp] theorem against_handle {program : Program Op Res Err α}
    {handler : Err → Program Op Res Err α} :
    against machine thread choose (program.handle handler) post raised =
      against machine thread choose program post
        (fun error => against machine thread choose (handler error) post raised) := by
  induction program with
  | ret value => rfl
  | raise error => rfl
  | act op next ih =>
      funext state
      simp only [Program.act_handle, against, ih]

@[simp] theorem against_ensure {program : Program Op Res Err α}
    {cleanup : Program Op Res Err Unit} :
    against machine thread choose (program.ensure cleanup) post raised =
      against machine thread choose program
        (fun value => against machine thread choose cleanup (fun _ => post value) raised)
        (fun error => against machine thread choose cleanup (fun _ => raised error) raised) := by
  simp only [Program.ensure, Program.pure_eq, against_bind, against_handle, against_ret,
    against_raise]

@[simp] theorem against_discard {program : Program Op Res Err α} {post : Unit → State → Prop} :
    against machine thread choose (discard program) post raised =
      against machine thread choose program (fun _ => post ()) raised := against_bind

@[simp] theorem against_orRaise {outcome : Except Err α} :
    against machine thread choose (Program.orRaise outcome) post raised =
      match outcome with
      | .ok value => post value
      | .error error => raised error := by
  cases outcome <;> rfl

theorem against_perform {op : Op} {post : Res op → State → Prop} {result : Res op} {after : State}
    (executed : machine.exec thread op (choose op) state = some (result, after))
    (known : post result after) :
    against machine thread choose (Program.perform op) post raised state :=
  ⟨result, after, executed, known⟩

theorem against_mono {program : Program Op Res Err α}
    (known : against machine thread choose program post raised state)
    (weaker : ∀ value state, post value state → post' value state)
    (weakerRaised : ∀ error state, raised error state → raised' error state) :
    against machine thread choose program post' raised' state := by
  induction program generalizing state with
  | ret value => exact weaker value state known
  | raise error => exact weakerRaised error state known
  | act op next ih =>
      obtain ⟨result, after, executed, rest⟩ := known
      exact ⟨result, after, executed, ih result rest⟩

end Against

section Solo

variable (solo : Machine Op Res Err Tid Val State Unit)

def Machine.runAlone (thread : Tid) (program : Program Op Res Err α) (state : State) :
    Option (Except Err α × State) :=
  match program with
  | .ret value => some (.ok value, state)
  | .raise error => some (.error error, state)
  | .act op next => (solo.exec thread op () state).bind fun (result, after) =>
      Machine.runAlone thread (next result) after

def Machine.rounds (thread : Tid) (next : α → Option (Program Op Res Err α)) (count : Nat)
    (value : α) (state : State) : Option (Except Err α × State) :=
  match count with
  | 0 => some (.ok value, state)
  | count + 1 =>
      match next value with
      | none => some (.ok value, state)
      | some program => (solo.runAlone thread program state).bind fun (outcome, after) =>
          match outcome with
          | .ok value => Machine.rounds thread next count value after
          | .error error => some (.error error, after)

variable {solo}

theorem against.runs {program : Program Op Res Err α}
    (known : against solo thread (fun _ => ()) program post raised state) :
    ∃ outcome final, solo.runAlone thread program state = some (outcome, final) ∧
      match outcome with
      | .ok value => post value final
      | .error error => raised error final := by
  induction program generalizing state with
  | ret value => exact ⟨.ok value, state, rfl, known⟩
  | raise error => exact ⟨.error error, state, rfl, known⟩
  | act op next ih =>
      obtain ⟨result, after, executed, rest⟩ := known
      obtain ⟨outcome, final, ran, ends⟩ := ih result rest
      exact ⟨outcome, final, by simp [Machine.runAlone, executed, ran], ends⟩

theorem Machine.rounds_invariant {next : α → Option (Program Op Res Err α)}
    {inv : Nat → α → State → Prop}
    (round : ∀ count value state program, inv count value state → next value = some program →
      against solo thread (fun _ => ()) program (inv (count + 1)) (fun _ _ => False) state)
    (stops : ∀ count value state, inv count value state → next value = none →
      inv (count + 1) value state)
    (count done : Nat) {value : α} {state : State} (known : inv done value state) :
    ∃ last final, solo.rounds thread next count value state = some (.ok last, final) ∧
      inv (done + count) last final := by
  induction count generalizing done value state with
  | zero => exact ⟨value, state, rfl, known⟩
  | succ count ih =>
      have total : done + 1 + count = done + (count + 1) := by omega
      cases found : next value with
      | none =>
          have idle : ∀ count, inv (done + count) value state := by
            intro count
            induction count with
            | zero => exact known
            | succ count kept => exact stops (done + count) value state kept found
          exact ⟨value, state, by simp [Machine.rounds, found], idle (count + 1)⟩
      | some program =>
          obtain ⟨outcome, after, ran, ends⟩ := (round done value state program known found).runs
          cases outcome with
          | error error => exact ends.elim
          | ok value =>
              obtain ⟨last, final, rest, kept⟩ := ih (done + 1) ends
              exact ⟨last, final, by simp [Machine.rounds, found, ran, rest], total ▸ kept⟩

end Solo

/-! Runs in which every step is a whole program -/

variable [DecidableEq Tid]

theorem Machine.Step.ends {config next : Config Op Res Err Tid Val State} {choice : Choice}
    {outcome : Except Err (Val thread)} (running : ∀ op, machine.yields op = false)
    (idle : (config.program thread).outcome = some outcome)
    (step : machine.Step config thread choice next) :
    ∃ program, machine.start thread outcome choice = some program ∧
      (∀ post raised, wlp machine thread program post raised config.shared →
        (∃ value, next.program thread = .ret value ∧ post value next.shared) ∨
          ∃ error, next.program thread = .raise error ∧ raised error next.shared) ∧
      ∀ other, other ≠ thread → next.program other = config.program other := by
  cases step with
  | act programEq =>
      rw [programEq] at idle
      cases idle
  | start found started segment =>
      rw [found] at idle
      cases idle
      refine ⟨_, started, ?_, fun other different => Function.update_of_ne different _ _⟩
      intro post raised known
      simp only [Function.update_self]
      exact wlp_segment running known segment

/-- Between two steps: what holds of the state, and what each thread may rely on, given how its
last program has ended. -/
structure AtRest (inv : State → Prop) (promise : (thread : Tid) → Except Err (Val thread) →
    State → Prop) (config : Config Op Res Err Tid Val State) : Prop where
  inv : inv config.shared
  promised : ∀ thread, ∃ outcome, (config.program thread).outcome = some outcome ∧
    promise thread outcome config.shared

variable {inv : State → Prop} {promise : (thread : Tid) → Except Err (Val thread) → State → Prop}

def Leaves (inv : State → Prop) (promise : (thread : Tid) → Except Err (Val thread) →
    State → Prop) (thread : Tid) (before after : State) : Prop :=
  inv after ∧ ∀ other, other ≠ thread → ∀ outcome, promise other outcome before →
    promise other outcome after

theorem AtRest.step (running : ∀ op, machine.yields op = false)
    (programs : ∀ thread outcome choice program state,
      machine.start thread outcome choice = some program → inv state →
      promise thread outcome state → wlp machine thread program
        (fun value after => Leaves inv promise thread state after ∧
          promise thread (.ok value) after)
        (fun error after => Leaves inv promise thread state after ∧
          promise thread (.error error) after) state)
    {config next : Config Op Res Err Tid Val State} {choice : Choice}
    (known : AtRest inv promise config) (step : machine.Step config thread choice next) :
    AtRest inv promise next := by
  obtain ⟨outcome, ended, promised⟩ := known.promised thread
  obtain ⟨program, started, ends, others⟩ := step.ends running ended
  have left : Leaves inv promise thread config.shared next.shared ∧
      ∃ outcome, (next.program thread).outcome = some outcome ∧
        promise thread outcome next.shared := by
    rcases ends _ _ (programs thread outcome choice program _ started known.inv promised) with
      ⟨value, programEq, left, promised⟩ | ⟨error, programEq, left, promised⟩
    · exact ⟨left, .ok value, by rw [programEq]; rfl, promised⟩
    · exact ⟨left, .error error, by rw [programEq]; rfl, promised⟩
  refine ⟨left.1.1, fun other => ?_⟩
  by_cases same : other = thread
  · subst same
    exact left.2
  · obtain ⟨outcome, ended, promised⟩ := known.promised other
    exact ⟨outcome, by rw [others other same]; exact ended,
      left.1.2 other same outcome promised⟩

theorem AtRest.reachable (running : ∀ op, machine.yields op = false)
    (programs : ∀ thread outcome choice program state,
      machine.start thread outcome choice = some program → inv state →
      promise thread outcome state → wlp machine thread program
        (fun value after => Leaves inv promise thread state after ∧
          promise thread (.ok value) after)
        (fun error after => Leaves inv promise thread state after ∧
          promise thread (.error error) after) state)
    {allow : Config Op Res Err Tid Val State → Tid → Choice → Prop}
    {initial config : Config Op Res Err Tid Val State} (known : AtRest inv promise initial)
    (reached : machine.Reachable allow initial config) : AtRest inv promise config := by
  induction reached with
  | initial => exact known
  | step _ _ step ih => exact ih.step running programs step

end Interleaving
