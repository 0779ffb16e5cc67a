import Mathlib.Logic.Function.Basic
import DflockdClient.Interleaving.Program

/-!
Any number of threads over one shared state. A thread gives way to the others
exactly before the operations that `yields` marks: all of them for preemptive
threads, the awaits for coroutines, none when each program runs as one step.
-/

namespace Interleaving

/-- What the operations do. A `Choice` settles what the environment decides: the
result of an operation, or which program an idle thread runs next. -/
structure Machine (Op : Type) (Res : Op → Type) (Err : Type) (Tid : Type) (Val : Tid → Type)
    (State Choice : Type) where
  exec : Tid → (op : Op) → Choice → State → Option (Res op × State)
  yields : Op → Bool
  start : (thread : Tid) → Except Err (Val thread) → Choice →
    Option (Program Op Res Err (Val thread))

structure Config (Op : Type) (Res : Op → Type) (Err : Type) (Tid : Type) (Val : Tid → Type)
    (State : Type) where
  shared : State
  program : (thread : Tid) → Program Op Res Err (Val thread)

variable {Op : Type} {Res : Op → Type} {Err : Type} {Tid : Type} {Val : Tid → Type}
  {State Choice : Type} {α : Type}

namespace Machine

variable (machine : Machine Op Res Err Tid Val State Choice)

/-- A thread's run up to the next point at which another thread may move. -/
inductive Segment (thread : Tid) :
    Program Op Res Err α → State → Program Op Res Err α → State → Prop
  | ret {value state} : Segment thread (.ret value) state (.ret value) state
  | raise {error state} : Segment thread (.raise error) state (.raise error) state
  | pause {op next state} : machine.yields op = true →
      Segment thread (.act op next) state (.act op next) state
  | act {op next choice state result middle program final} : machine.yields op = false →
      machine.exec thread op choice state = some (result, middle) →
      Segment thread (next result) middle program final →
      Segment thread (.act op next) state program final

variable {machine} in
theorem Segment.preemptive {thread : Tid} {program last : Program Op Res Err α}
    {state final : State} (yielding : ∀ op, machine.yields op = true)
    (segment : machine.Segment thread program state last final) :
    last = program ∧ final = state := by
  cases segment with
  | ret | raise | pause => exact ⟨rfl, rfl⟩
  | act running => simp [yielding] at running

variable {machine} in
theorem Segment.here {thread : Tid} {program : Program Op Res Err α} {state : State}
    (yielding : ∀ op, machine.yields op = true) :
    machine.Segment thread program state program state := by
  cases program with
  | ret value => exact .ret
  | raise error => exact .raise
  | act op next => exact .pause (yielding op)

variable [DecidableEq Tid]

inductive Step (config : Config Op Res Err Tid Val State) (thread : Tid) (choice : Choice) :
    Config Op Res Err Tid Val State → Prop
  | act {op next result middle program final} :
      config.program thread = .act op next →
      machine.exec thread op choice config.shared = some (result, middle) →
      machine.Segment thread (next result) middle program final →
      Step config thread choice ⟨final, Function.update config.program thread program⟩
  | start {outcome first program final} :
      (config.program thread).outcome = some outcome →
      machine.start thread outcome choice = some first →
      machine.Segment thread first config.shared program final →
      Step config thread choice ⟨final, Function.update config.program thread program⟩

/-- The configurations of the runs all of whose steps are allowed. -/
inductive Reachable (allow : Config Op Res Err Tid Val State → Tid → Choice → Prop)
    (initial : Config Op Res Err Tid Val State) : Config Op Res Err Tid Val State → Prop
  | initial : Reachable allow initial initial
  | step {config thread choice next} : Reachable allow initial config →
      allow config thread choice → machine.Step config thread choice next →
      Reachable allow initial next

theorem Reachable.mono {machine : Machine Op Res Err Tid Val State Choice}
    {allow more : Config Op Res Err Tid Val State → Tid → Choice → Prop}
    {initial config : Config Op Res Err Tid Val State}
    (weaker : ∀ config thread choice, allow config thread choice → more config thread choice)
    (reached : machine.Reachable allow initial config) :
    machine.Reachable more initial config := by
  induction reached with
  | initial => exact .initial
  | step _ allowed step ih => exact .step ih (weaker _ _ _ allowed) step

/-! Executable runs, for schedules given in full. -/

variable [Inhabited Choice]

/-- Runs a thread to its next pause. The operations in between take the given choices, and the
default one when these are used up. -/
def settle (thread : Tid) (program : Program Op Res Err α) (choices : List Choice)
    (state : State) : Option (Program Op Res Err α × State) :=
  match program with
  | .ret value => some (.ret value, state)
  | .raise error => some (.raise error, state)
  | .act op next =>
      if machine.yields op then some (.act op next, state)
      else match machine.exec thread op (choices.headD default) state with
        | some (result, middle) => settle thread (next result) choices.tail middle
        | none => none

omit [DecidableEq Tid] in
theorem settle_segment {thread : Tid} {program last : Program Op Res Err α}
    {choices : List Choice} {state final : State}
    (settled : machine.settle thread program choices state = some (last, final)) :
    machine.Segment thread program state last final := by
  induction program generalizing choices state with
  | ret value =>
      simp only [settle, Option.some.injEq, Prod.mk.injEq] at settled
      obtain ⟨rfl, rfl⟩ := settled
      exact .ret
  | raise error =>
      simp only [settle, Option.some.injEq, Prod.mk.injEq] at settled
      obtain ⟨rfl, rfl⟩ := settled
      exact .raise
  | act op next ih =>
      simp only [settle] at settled
      split at settled
      · rename_i pausing
        simp only [Option.some.injEq, Prod.mk.injEq] at settled
        obtain ⟨rfl, rfl⟩ := settled
        exact .pause pausing
      · rename_i running
        split at settled
        · rename_i result middle executed
          exact .act (by simpa using running) executed (ih result settled)
        · simp at settled

def runStep (config : Config Op Res Err Tid Val State) (thread : Tid) (choices : List Choice) :
    Option (Config Op Res Err Tid Val State) :=
  match config.program thread with
  | .act op next =>
      match machine.exec thread op (choices.headD default) config.shared with
      | some (result, middle) =>
          (machine.settle thread (next result) choices.tail middle).map fun (program, final) =>
            ⟨final, Function.update config.program thread program⟩
      | none => none
  | .ret value =>
      match machine.start thread (.ok value) (choices.headD default) with
      | some first =>
          (machine.settle thread first choices.tail config.shared).map fun (program, final) =>
            ⟨final, Function.update config.program thread program⟩
      | none => none
  | .raise error =>
      match machine.start thread (.error error) (choices.headD default) with
      | some first =>
          (machine.settle thread first choices.tail config.shared).map fun (program, final) =>
            ⟨final, Function.update config.program thread program⟩
      | none => none

theorem runStep_step {config next : Config Op Res Err Tid Val State} {thread : Tid}
    {choices : List Choice} (ran : machine.runStep config thread choices = some next) :
    machine.Step config thread (choices.headD default) next := by
  simp only [runStep] at ran
  split at ran
  · rename_i op rest programEq
    split at ran
    · rename_i result middle executed
      simp only [Option.map_eq_some_iff] at ran
      obtain ⟨⟨program, final⟩, settled, rfl⟩ := ran
      exact .act programEq executed (machine.settle_segment settled)
    · simp at ran
  · rename_i value programEq
    split at ran
    · rename_i first started
      simp only [Option.map_eq_some_iff] at ran
      obtain ⟨⟨program, final⟩, settled, rfl⟩ := ran
      exact .start (by rw [programEq]; rfl) started (machine.settle_segment settled)
    · simp at ran
  · rename_i error programEq
    split at ran
    · rename_i first started
      simp only [Option.map_eq_some_iff] at ran
      obtain ⟨⟨program, final⟩, settled, rfl⟩ := ran
      exact .start (by rw [programEq]; rfl) started (machine.settle_segment settled)
    · simp at ran

def run (config : Config Op Res Err Tid Val State) (schedule : List (Tid × List Choice)) :
    Option (Config Op Res Err Tid Val State) :=
  match schedule with
  | [] => some config
  | (thread, choices) :: rest => (machine.runStep config thread choices).bind fun next =>
      run next rest

theorem run_reachable {allow : Config Op Res Err Tid Val State → Tid → Choice → Prop}
    {initial config final : Config Op Res Err Tid Val State}
    {schedule : List (Tid × List Choice)}
    (allowed : ∀ move ∈ schedule, ∀ config, allow config move.1 (move.2.headD default))
    (reached : machine.Reachable allow initial config)
    (ran : machine.run config schedule = some final) :
    machine.Reachable allow initial final := by
  induction schedule generalizing config with
  | nil =>
      simp only [run, Option.some.injEq] at ran
      exact ran ▸ reached
  | cons move rest ih =>
      obtain ⟨thread, choices⟩ := move
      simp only [run, Option.bind_eq_some_iff] at ran
      obtain ⟨next, stepped, ran⟩ := ran
      refine ih (fun move member => allowed move (List.mem_cons_of_mem _ member)) ?_ ran
      exact .step reached (allowed _ List.mem_cons_self config) (machine.runStep_step stepped)

theorem runStep_other {config next : Config Op Res Err Tid Val State} {thread other : Tid}
    {choices : List Choice} (ran : machine.runStep config thread choices = some next)
    (different : other ≠ thread) : next.program other = config.program other := by
  have step := machine.runStep_step ran
  cases step with
  | act => exact Function.update_of_ne different _ _
  | start => exact Function.update_of_ne different _ _

theorem run_other {config final : Config Op Res Err Tid Val State} {other : Tid}
    {schedule : List (Tid × List Choice)} (ran : machine.run config schedule = some final)
    (absent : ∀ move ∈ schedule, other ≠ move.1) :
    final.program other = config.program other := by
  induction schedule generalizing config with
  | nil =>
      simp only [run, Option.some.injEq] at ran
      rw [ran]
  | cons move rest ih =>
      obtain ⟨thread, choices⟩ := move
      simp only [run, Option.bind_eq_some_iff] at ran
      obtain ⟨next, stepped, ran⟩ := ran
      rw [ih ran fun move member => absent move (List.mem_cons_of_mem _ member)]
      exact machine.runStep_other stepped (absent _ List.mem_cons_self)

/-- A step of a thread, after which it goes on by the default choice as far as it gets, or up to an
operation. -/
structure Turn (Op Tid Choice : Type) where
  thread : Tid
  choice : Choice
  upTo : Op → Bool := fun _ => false

def advance (thread : Tid) (upTo : Op → Bool) (fuel : Nat)
    (config : Config Op Res Err Tid Val State) :
    List (Tid × List Choice) × Config Op Res Err Tid Val State :=
  match fuel with
  | 0 => ([], config)
  | fuel + 1 =>
      match config.program thread with
      | .act op _ =>
          if upTo op then ([], config)
          else match machine.runStep config thread [] with
            | some next =>
                let (later, last) := advance thread upTo fuel next
                ((thread, []) :: later, last)
            | none => ([], config)
      | _ => ([], config)

def schedule (config : Config Op Res Err Tid Val State) (turns : List (Turn Op Tid Choice)) :
    List (Tid × List Choice) :=
  match turns with
  | [] => []
  | turn :: rest =>
      match machine.runStep config turn.thread [turn.choice] with
      | some next =>
          let (steps, last) := machine.advance turn.thread turn.upTo 99 next
          (turn.thread, [turn.choice]) :: steps ++ schedule last rest
      | none => [(turn.thread, [turn.choice])]

theorem advance_thread {thread : Tid} {upTo : Op → Bool} {fuel : Nat}
    {config : Config Op Res Err Tid Val State} :
    ∀ move ∈ (machine.advance thread upTo fuel config).1, move.1 = thread := by
  induction fuel generalizing config with
  | zero =>
      intro move member
      simp [advance] at member
  | succ fuel ih =>
      intro move member
      simp only [advance] at member
      split at member
      · split at member
        · simp at member
        · split at member
          · rcases List.mem_cons.mp member with rfl | later
            · rfl
            · exact ih move later
          · simp at member
      · simp at member

theorem schedule_thread {config : Config Op Res Err Tid Val State}
    {turns : List (Turn Op Tid Choice)} :
    ∀ move ∈ machine.schedule config turns, ∃ turn ∈ turns, turn.thread = move.1 := by
  induction turns generalizing config with
  | nil =>
      intro move member
      simp [schedule] at member
  | cons turn rest ih =>
      intro move member
      simp only [schedule] at member
      split at member
      · rcases List.mem_append.mp member with first | later
        · refine ⟨turn, List.mem_cons_self, ?_⟩
          rcases List.mem_cons.mp first with rfl | steps
          · rfl
          · exact (machine.advance_thread move steps).symm
        · obtain ⟨other, listed, same⟩ := ih move later
          exact ⟨other, List.mem_cons_of_mem _ listed, same⟩
      · rw [List.mem_singleton] at member
        exact ⟨turn, List.mem_cons_self, by rw [member]⟩

theorem schedule_other {config final : Config Op Res Err Tid Val State}
    {turns : List (Turn Op Tid Choice)} {other : Tid}
    (absent : ∀ turn ∈ turns, turn.thread ≠ other)
    (ran : machine.run config (machine.schedule config turns) = some final) :
    final.program other = config.program other := by
  refine machine.run_other ran fun move member same => ?_
  obtain ⟨turn, listed, named⟩ := machine.schedule_thread move member
  exact absent turn listed (named.trans same.symm)

variable (allow : Config Op Res Err Tid Val State → Tid → Choice → Prop)
  (initial : Config Op Res Err Tid Val State) (schedule : List (Tid × List Choice))

theorem exists_run
    (allowed : ∀ move ∈ schedule, ∀ config, allow config move.1 (move.2.headD default))
    (test : Config Op Res Err Tid Val State → Bool)
    (ran : (machine.run initial schedule).map test = some true) :
    ∃ config, machine.Reachable allow initial config ∧ test config = true := by
  simp only [Option.map_eq_some_iff] at ran
  obtain ⟨config, ran, passed⟩ := ran
  exact ⟨config, machine.run_reachable allowed .initial ran, passed⟩

def checks (check : Config Op Res Err Tid Val State → Tid → Choice → Bool)
    (config : Config Op Res Err Tid Val State) (schedule : List (Tid × List Choice)) : Bool :=
  match schedule with
  | [] => true
  | (thread, choices) :: rest => check config thread (choices.headD default) &&
      match machine.runStep config thread choices with
      | some next => checks check next rest
      | none => false

theorem checks_reachable {check : Config Op Res Err Tid Val State → Tid → Choice → Bool}
    {initial config final : Config Op Res Err Tid Val State}
    {schedule : List (Tid × List Choice)} (checked : machine.checks check config schedule = true)
    (reached : machine.Reachable (fun config thread choice => check config thread choice) initial
      config)
    (ran : machine.run config schedule = some final) :
    machine.Reachable (fun config thread choice => check config thread choice) initial final := by
  induction schedule generalizing config with
  | nil =>
      simp only [run, Option.some.injEq] at ran
      exact ran ▸ reached
  | cons move rest ih =>
      obtain ⟨thread, choices⟩ := move
      simp only [run, Option.bind_eq_some_iff] at ran
      obtain ⟨next, stepped, ran⟩ := ran
      simp only [checks, stepped, Bool.and_eq_true] at checked
      exact ih checked.2 (.step reached checked.1 (machine.runStep_step stepped)) ran

theorem exists_checked_run (check : Config Op Res Err Tid Val State → Tid → Choice → Bool)
    (test : Config Op Res Err Tid Val State → Bool)
    (checked : machine.checks check initial schedule = true)
    (ran : (machine.run initial schedule).map test = some true) :
    ∃ config, machine.Reachable (fun config thread choice => check config thread choice) initial
      config ∧ test config = true := by
  simp only [Option.map_eq_some_iff] at ran
  obtain ⟨config, ran, passed⟩ := ran
  exact ⟨config, machine.checks_reachable checked .initial ran, passed⟩

theorem exists_run_step
    (allowed : ∀ move ∈ schedule, ∀ config, allow config move.1 (move.2.headD default))
    (thread : Tid) (choices : List Choice)
    (test : Config Op Res Err Tid Val State → Config Op Res Err Tid Val State → Bool)
    (ran : (machine.run initial schedule).bind (fun config =>
      (machine.runStep config thread choices).map (test config)) = some true) :
    ∃ config next, machine.Reachable allow initial config ∧
      machine.Step config thread (choices.headD default) next ∧ test config next = true := by
  simp only [Option.bind_eq_some_iff, Option.map_eq_some_iff] at ran
  obtain ⟨config, ran, next, stepped, passed⟩ := ran
  exact ⟨config, next, machine.run_reachable allowed .initial ran, machine.runStep_step stepped,
    passed⟩

end Machine

end Interleaving
