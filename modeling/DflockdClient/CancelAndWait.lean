import DflockdClient.Errors
import DflockdClient.Interleaving.Machine

/-!
`_cancel_and_wait` of `_async.py`: how an operation stops the renewal task, among
others that cancel the operation itself. A step is a step of an asyncio task, from
one suspension to the next.
-/

namespace DflockdClient.Async

open Interleaving

/-- `_cancel_and_wait(task)`, given `caller.cancelling()`, `task.cancel()` and
`await asyncio.shield(task)`. A coroutine runs in a task, so that `caller` is never `None`. -/
def cancelAndWait {Op : Type} {Res : Op → Type} (cancelling : Program Op Res PyError Nat)
    (cancel shield : Program Op Res PyError Unit) : Program Op Res PyError Unit := do
  let cancelCount ← cancelling
  cancel
  shield.handle fun error =>
    if error.cls = .cancelledError then do
      if (← cancelling) > cancelCount then throw error else pure ()
    else if error.isException then pure ()
    else throw error

def cancelled : PyError := ⟨.cancelledError, []⟩

namespace Stopping

inductive Thread
  | caller
  | task
  | other (id : Nat)
  deriving DecidableEq

/-- What asyncio knows of the caller and of the task. A request to cancel the caller is counted
when it is made and stays undelivered until the caller's next suspension. -/
structure Tasks where
  cancelling : Nat := 0
  undelivered : Bool := false
  outcome : Option (Except PyError Unit) := none
  taskCancelling : Nat := 0

inductive Op
  | cancelling | cancelTask | taskOutcome | awaitOuter
  | finish | cancelCaller

abbrev Op.Res (op : Op) : Type :=
  match op with
  | .cancelling => Nat
  | .taskOutcome => Option (Except PyError Unit)
  | .awaitOuter => Except PyError Unit
  | _ => Unit

inductive Choice
  | go
  | ends (outcome : Except PyError Unit)

instance : Inhabited Choice := ⟨.go⟩

def exec (op : Op) (choice : Choice) (tasks : Tasks) : Option (op.Res × Tasks) :=
  match op with
  | .cancelling => some (tasks.cancelling, tasks)
  | .cancelTask => some ((), { tasks with
      taskCancelling :=
        if tasks.outcome.isNone then tasks.taskCancelling + 1 else tasks.taskCancelling })
  | .taskOutcome => some (tasks.outcome, tasks)
  -- Cancelling the caller cancels the outer future of `shield`; the task goes on.
  | .awaitOuter =>
      if tasks.undelivered then some (.error cancelled, { tasks with undelivered := false })
      else tasks.outcome.map fun outcome => (outcome, tasks)
  | .finish =>
      match choice with
      | .ends outcome =>
          if tasks.outcome.isNone then some ((), { tasks with outcome := some outcome }) else none
      | .go => none
  | .cancelCaller =>
      some ((), { tasks with cancelling := tasks.cancelling + 1, undelivered := true })

def perform (op : Op) : Program Op Op.Res PyError op.Res := Program.perform op

def shield : Program Op Op.Res PyError Unit := do
  match ← perform .taskOutcome with
  | some outcome => Program.orRaise outcome
  | none => perform .awaitOuter >>= Program.orRaise

abbrev Val (thread : Thread) : Type :=
  match thread with
  | .caller => Bool
  | _ => Unit

def stop : Program Op Op.Res PyError Bool := do
  cancelAndWait (perform .cancelling) (perform .cancelTask) shield
  pure true

def start (thread : Thread) (outcome : Except PyError (Val thread)) :
    Option (Program Op Op.Res PyError (Val thread)) :=
  match thread with
  | .caller =>
      match outcome with
      | .ok false => some stop
      | _ => none
  | .task => some (perform .finish)
  | .other _ => some (perform .cancelCaller)

def machine : Machine Op Op.Res PyError Thread Val Tasks Choice where
  exec := fun _ => exec
  yields := fun op => match op with
    | .awaitOuter => true
    | _ => false
  start := fun thread outcome _ => start thread outcome

abbrev Config := Interleaving.Config Op Op.Res PyError Thread Val Tasks

def idle (thread : Thread) : Program Op Op.Res PyError (Val thread) :=
  match thread with
  | .caller => .ret false
  | .task => .ret ()
  | .other _ => .ret ()

def entering (tasks : Tasks) : Config := ⟨tasks, idle⟩

def allow (config : Config) (thread : Thread) (_ : Choice) : Prop :=
  thread = .caller ∨ (config.program .caller).outcome = none

/-- A normal return finds the task finished, and a request that is undelivered at entry or that
arrives later ends in a `CancelledError`. -/
structure Kept (entry final : Tasks) (outcome : Except PyError Bool) : Prop where
  finished : outcome = .ok true → final.outcome.isSome = true
  raised : entry.undelivered = true ∨ entry.cancelling < final.cancelling →
    ∃ error, outcome = .error error ∧ error.cls = .cancelledError

/-- In every order of steps from an entry. -/
def KeepsCancellation (entry : Tasks) : Prop :=
  ∀ config outcome, machine.Reachable allow (entering entry) config →
    (config.program .caller).outcome = some outcome → outcome ≠ .ok false →
    Kept entry config.shared outcome

def resumed (cancelCount : Nat) (outcome : Except PyError Unit) :
    Program Op Op.Res PyError Bool :=
  match outcome with
  | .ok () => .ret true
  | .error error =>
      if error.cls = .cancelledError then .act .cancelling fun count =>
        if count > cancelCount then .raise error else .ret true
      else if error.isException then .ret true
      else .raise error

theorem after_shield (cancelCount : Nat) (outcome : Except PyError Unit) :
    ((Program.orRaise outcome).handle fun error =>
      if error.cls = .cancelledError then do
        if (← perform .cancelling) > cancelCount then throw error else pure ()
      else if error.isException then pure ()
      else throw error) >>= (fun _ => pure true) = resumed cancelCount outcome := by
  cases outcome with
  | ok value => rfl
  | error error =>
      by_cases cancellation : error.cls = .cancelledError
      · simp only [Program.orRaise, Program.raise_handle, resumed, if_pos cancellation]
        refine congrArg (Program.act Op.cancelling) (funext fun count => ?_)
        by_cases more : count > cancelCount
        · simp [Program.bind, more]
        · simp [Program.bind, more]
      · simp only [Program.orRaise, Program.raise_handle, resumed, if_neg cancellation]
        by_cases ordinary : error.isException = true
        · simp [ordinary]
        · simp [ordinary]

theorem stop_eq : stop = .act .cancelling fun cancelCount => .act .cancelTask fun _ =>
    .act .taskOutcome fun outcome => match outcome with
      | some outcome => resumed cancelCount outcome
      | none => .act .awaitOuter (resumed cancelCount) := by
  refine congrArg (Program.act Op.cancelling) (funext fun cancelCount => ?_)
  refine congrArg (Program.act Op.cancelTask) (funext fun _ => ?_)
  refine congrArg (Program.act Op.taskOutcome) (funext fun outcome => ?_)
  cases outcome with
  | some outcome => exact after_shield cancelCount outcome
  | none => exact congrArg (Program.act Op.awaitOuter) (funext (after_shield cancelCount))

variable {entry : Tasks} {config next : Config} {thread : Thread} {choice : Choice}

structure Waiting (entry : Tasks) (config : Config) : Prop where
  program : config.program .caller = .act .awaitOuter (resumed entry.cancelling)
  counted : entry.cancelling ≤ config.shared.cancelling
  undelivered : config.shared.undelivered = true ↔ entry.cancelling < config.shared.cancelling

def Ended (entry : Tasks) (config : Config) : Prop :=
  ∃ outcome, (config.program .caller).outcome = some outcome ∧ outcome ≠ .ok false ∧
    Kept entry config.shared outcome

def OthersIdle (config : Config) : Prop :=
  ∀ thread, thread ≠ .caller → ∃ outcome, (config.program thread).outcome = some outcome

theorem resumed_ends {outcome : Except PyError Unit} {tasks final : Tasks}
    {program : Program Op Op.Res PyError Bool} (quiet : entry.undelivered = false)
    (requested : entry.cancelling < tasks.cancelling → outcome = .error cancelled)
    (finished : tasks.outcome.isSome = true ∨ entry.cancelling < tasks.cancelling)
    (segment : machine.Segment .caller (resumed entry.cancelling outcome) tasks program final) :
    ∃ ending, program.outcome = some ending ∧ ending ≠ .ok false ∧ Kept entry final ending := by
  have returns : ¬entry.cancelling < tasks.cancelling → Kept entry tasks (.ok true) := by
    intro unchanged
    refine ⟨fun _ => finished.resolve_right unchanged, fun request => ?_⟩
    simp [quiet, unchanged] at request
  cases outcome with
  | ok value =>
      have unchanged : ¬entry.cancelling < tasks.cancelling := fun more => nomatch requested more
      cases segment
      exact ⟨.ok true, rfl, nofun, returns unchanged⟩
  | error error =>
      by_cases cancellation : error.cls = .cancelledError
      · simp only [resumed, if_pos cancellation] at segment
        cases segment with
        | pause yielding => cases yielding
        | act _ executed segment =>
            cases executed
            by_cases more : tasks.cancelling > entry.cancelling
            · simp only [if_pos more] at segment
              cases segment
              exact ⟨.error error, rfl, nofun, nofun, fun _ => ⟨error, rfl, cancellation⟩⟩
            · simp only [if_neg more] at segment
              cases segment
              exact ⟨.ok true, rfl, nofun, returns more⟩
      · have unchanged : ¬entry.cancelling < tasks.cancelling := by
          intro more
          cases requested more
          exact cancellation rfl
        simp only [resumed, if_neg cancellation] at segment
        by_cases ordinary : error.isException = true
        · rw [if_pos ordinary] at segment
          cases segment
          exact ⟨.ok true, rfl, nofun, returns unchanged⟩
        · rw [if_neg ordinary] at segment
          cases segment
          exact ⟨.error error, rfl, nofun, nofun, fun request => by simp [quiet, unchanged] at request⟩

theorem stop_segment {final : Tasks} {program : Program Op Op.Res PyError Bool}
    (quiet : entry.undelivered = false)
    (segment : machine.Segment .caller stop entry program final) :
    (program = .act .awaitOuter (resumed entry.cancelling) ∧
      final.cancelling = entry.cancelling ∧ final.undelivered = false) ∨
    ∃ ending, program.outcome = some ending ∧ ending ≠ .ok false ∧ Kept entry final ending := by
  rw [stop_eq] at segment
  cases segment with
  | pause yielding => cases yielding
  | act _ executed segment =>
    cases executed
    cases segment with
    | pause yielding => cases yielding
    | act _ executed segment =>
      cases executed
      cases segment with
      | pause yielding => cases yielding
      | act _ executed segment =>
        cases executed
        cases known : entry.outcome with
        | some outcome =>
            simp only [known] at segment
            refine .inr (resumed_ends quiet ?_ ?_ segment)
            · simp
            · simp
        | none =>
            simp only [known] at segment
            cases segment with
            | pause => exact .inl ⟨rfl, rfl, quiet⟩
            | act running => cases running

structure Sound (entry : Tasks) (config : Config) : Prop where
  caller : config.program .caller = .ret false ∧ config.shared = entry ∨
    Waiting entry config ∨ Ended entry config
  others : OthersIdle config

theorem OthersIdle.update {shared : Tasks} (idle : OthersIdle config)
    {program : Program Op Op.Res PyError (Val thread)}
    (ended : thread ≠ .caller → ∃ outcome, program.outcome = some outcome) :
    OthersIdle ⟨shared, Function.update config.program thread program⟩ := by
  intro other different
  by_cases same : other = thread
  · subst same
    simpa using ended different
  · simpa [Function.update_of_ne same] using idle other different

theorem other_segment {final : Tasks} (different : thread ≠ .caller)
    {first program : Program Op Op.Res PyError (Val thread)} {tasks : Tasks}
    {outcome : Except PyError (Val thread)} (started : start thread outcome = some first)
    (segment : machine.Segment thread first tasks program final) :
    (∃ ending, program.outcome = some ending) ∧
      (final.cancelling = tasks.cancelling ∧ final.undelivered = tasks.undelivered ∨
        final.cancelling = tasks.cancelling + 1 ∧ final.undelivered = true) := by
  cases thread with
  | caller => exact absurd rfl different
  | task =>
      cases started
      cases segment with
      | pause yielding => cases yielding
      | act _ executed segment =>
          cases segment
          refine ⟨⟨_, rfl⟩, .inl ?_⟩
          simp only [machine, exec] at executed
          split at executed
          · split at executed
            · cases executed
              exact ⟨rfl, rfl⟩
            · cases executed
          · cases executed
  | other id =>
      cases started
      cases segment with
      | pause yielding => cases yielding
      | act _ executed segment =>
          cases executed
          cases segment
          exact ⟨⟨_, rfl⟩, .inr ⟨rfl, rfl⟩⟩

theorem Waiting.resumes {result : Op.awaitOuter.Res} {middle final : Tasks}
    {program : Program Op Op.Res PyError Bool} (waiting : Waiting entry config)
    (quiet : entry.undelivered = false)
    (executed : exec .awaitOuter choice config.shared = some (result, middle))
    (segment : machine.Segment .caller (resumed entry.cancelling result) middle program final) :
    ∃ ending, program.outcome = some ending ∧ ending ≠ .ok false ∧ Kept entry final ending := by
  simp only [exec] at executed
  by_cases requested : config.shared.undelivered = true
  · rw [if_pos requested] at executed
    cases executed
    have more := waiting.undelivered.mp requested
    refine resumed_ends quiet ?_ ?_ segment
    · exact fun _ => rfl
    · exact .inr more
  · rw [if_neg requested] at executed
    simp only [Option.map_eq_some_iff] at executed
    obtain ⟨outcome, finished, same⟩ := executed
    cases same
    have unchanged : ¬entry.cancelling < config.shared.cancelling :=
      fun more => requested (waiting.undelivered.mpr more)
    refine resumed_ends quiet ?_ ?_ segment
    · exact fun more => absurd more unchanged
    · exact .inl (by simp [finished])

theorem Sound.act {op : Op} {rest : op.Res → Program Op Op.Res PyError (Val thread)}
    {result : op.Res} {middle final : Tasks} {program : Program Op Op.Res PyError (Val thread)}
    (quiet : entry.undelivered = false) (sound : Sound entry config)
    (programEq : config.program thread = .act op rest)
    (executed : exec op choice config.shared = some (result, middle))
    (segment : machine.Segment thread (rest result) middle program final) :
    Sound entry ⟨final, Function.update config.program thread program⟩ := by
  by_cases mine : thread = .caller
  · subst mine
    refine ⟨.inr (.inr ?_), sound.others.update (fun other => absurd rfl other)⟩
    simp only [Ended, Function.update_self]
    rcases sound.caller with ⟨outside, _⟩ | waiting | ⟨_, ended, _⟩
    · rw [outside] at programEq
      cases programEq
    · rw [waiting.program] at programEq
      cases programEq
      exact waiting.resumes quiet executed segment
    · rw [programEq] at ended
      cases ended
  · obtain ⟨outcome, ended⟩ := sound.others thread mine
    rw [programEq] at ended
    cases ended

theorem start_caller {outcome : Except PyError Bool} {first : Program Op Op.Res PyError Bool}
    (started : start .caller outcome = some first) : outcome = .ok false ∧ first = stop := by
  match outcome, started with
  | .ok false, rfl => exact ⟨rfl, rfl⟩

theorem Sound.enter {outcome : Except PyError Bool} {first program : Program Op Op.Res PyError Bool}
    {final : Tasks} (quiet : entry.undelivered = false) (sound : Sound entry config)
    (found : (config.program .caller).outcome = some outcome)
    (started : start .caller outcome = some first)
    (segment : machine.Segment .caller first config.shared program final) :
    Sound entry ⟨final, Function.update config.program .caller program⟩ := by
  refine ⟨.inr ?_, sound.others.update (fun other => absurd rfl other)⟩
  obtain ⟨rfl, rfl⟩ := start_caller started
  rcases sound.caller with ⟨outside, same⟩ | waiting | ⟨ending, ended, entered, _⟩
  · rw [same] at segment
    rcases stop_segment quiet segment with ⟨suspended, counted, unrequested⟩ | ended
    · refine .inl ⟨by simp [suspended], counted.ge, ?_⟩
      simp [unrequested, counted]
    · exact .inr (by simpa [Ended] using ended)
  · rw [waiting.program] at found
    cases found
  · rw [ended] at found
    cases found
    exact absurd rfl entered

theorem Sound.other {outcome : Except PyError (Val thread)}
    {first program : Program Op Op.Res PyError (Val thread)} {final : Tasks}
    (sound : Sound entry config) (different : thread ≠ .caller)
    (inside : (config.program .caller).outcome = none)
    (started : start thread outcome = some first)
    (segment : machine.Segment thread first config.shared program final) :
    Sound entry ⟨final, Function.update config.program thread program⟩ := by
  obtain ⟨ended, changed⟩ := other_segment different started segment
  refine ⟨?_, sound.others.update (fun _ => ended)⟩
  have kept : Function.update config.program thread program .caller = config.program .caller :=
    Function.update_of_ne (Ne.symm different) _ _
  rcases sound.caller with ⟨outside, _⟩ | waiting | ⟨ending, stopped, _⟩
  · rw [outside] at inside
    cases inside
  · have counted := waiting.counted
    have undelivered := waiting.undelivered
    refine .inr (.inl ⟨kept.trans waiting.program, ?_, ?_⟩)
    · show entry.cancelling ≤ final.cancelling
      omega
    · show final.undelivered = true ↔ entry.cancelling < final.cancelling
      rcases changed with ⟨same, unchanged⟩ | ⟨more, requested⟩
      · rw [same, unchanged]
        exact undelivered
      · rw [more]
        exact iff_of_true requested (by omega)
  · rw [stopped] at inside
    cases inside

theorem Sound.step (quiet : entry.undelivered = false) (sound : Sound entry config)
    (allowed : allow config thread choice) (step : machine.Step config thread choice next) :
    Sound entry next := by
  cases step with
  | act programEq executed segment => exact sound.act quiet programEq executed segment
  | start found started segment =>
      by_cases mine : thread = .caller
      · subst mine
        exact sound.enter quiet found started segment
      · exact sound.other mine (allowed.resolve_left mine) started segment

theorem reachable_sound (quiet : entry.undelivered = false)
    (reached : machine.Reachable allow (entering entry) config) : Sound entry config := by
  induction reached with
  | initial =>
      refine ⟨.inl ⟨rfl, rfl⟩, fun thread different => ?_⟩
      cases thread with
      | caller => exact absurd rfl different
      | task => exact ⟨_, rfl⟩
      | other id => exact ⟨_, rfl⟩
  | step _ allowed step ih => exact ih.step quiet allowed step

/-! An undelivered request -/

theorem resumed_swallows (tasks : Tasks) (outcome : Except PyError Unit) :
    ∃ program ending, machine.Segment .caller (resumed tasks.cancelling outcome) tasks program tasks ∧
      program.outcome = some ending ∧ ending ≠ .ok false ∧
      ∀ error, ending = .error error → error.cls ≠ .cancelledError := by
  cases outcome with
  | ok value => exact ⟨.ret true, .ok true, .ret, rfl, nofun, nofun⟩
  | error error =>
      by_cases cancellation : error.cls = .cancelledError
      · refine ⟨.ret true, .ok true, ?_, rfl, nofun, nofun⟩
        simp only [resumed, if_pos cancellation]
        have executed : machine.exec .caller .cancelling .go tasks = some (tasks.cancelling, tasks) :=
          rfl
        refine .act rfl executed ?_
        simp only [gt_iff_lt, Nat.lt_irrefl, if_false]
        exact .ret
      · simp only [resumed, if_neg cancellation]
        by_cases ordinary : error.isException = true
        · rw [if_pos ordinary]
          exact ⟨.ret true, .ok true, .ret, rfl, nofun, nofun⟩
        · rw [if_neg ordinary]
          refine ⟨.raise error, .error error, .raise, rfl, nofun, ?_⟩
          rintro _ ⟨⟩
          exact cancellation

def Tasks.asked (tasks : Tasks) : Tasks := { tasks with
  taskCancelling :=
    if tasks.outcome.isNone then tasks.taskCancelling + 1 else tasks.taskCancelling }

theorem stop_enters {last : Program Op Op.Res PyError Bool} {final : Tasks}
    (segment : machine.Segment .caller (match entry.outcome with
      | some outcome => resumed entry.cancelling outcome
      | none => .act .awaitOuter (resumed entry.cancelling)) entry.asked last final) :
    machine.Reachable allow (entering entry)
      ⟨final, Function.update idle .caller last⟩ := by
  have started : machine.start .caller (.ok false) .go = some stop := rfl
  refine .step .initial (.inl rfl) (.start rfl started ?_)
  rw [stop_eq]
  have counted : machine.exec .caller .cancelling .go entry = some (entry.cancelling, entry) := rfl
  have asked : machine.exec .caller .cancelTask .go entry = some ((), entry.asked) := rfl
  have found : machine.exec .caller .taskOutcome .go entry.asked =
      some (entry.outcome, entry.asked) := rfl
  exact .act rfl counted (.act rfl asked (.act rfl found segment))

theorem undelivered_lost (pending : entry.undelivered = true) : ¬KeepsCancellation entry := by
  intro keeps
  have lost : ∀ config ending, machine.Reachable allow (entering entry) config →
      (config.program .caller).outcome = some ending → ending ≠ .ok false →
      (∀ error, ending = .error error → error.cls ≠ .cancelledError) → False := by
    intro config ending reached ended entered other
    obtain ⟨error, raised, cancellation⟩ :=
      (keeps config ending reached ended entered).raised (.inl pending)
    exact other error raised cancellation
  cases known : entry.outcome with
  | some outcome =>
      obtain ⟨program, ending, segment, ended, entered, other⟩ :=
        resumed_swallows entry.asked outcome
      exact lost _ ending (stop_enters (by rw [known]; exact segment))
        (by simpa using ended) entered other
  | none =>
      obtain ⟨program, ending, segment, ended, entered, other⟩ :=
        resumed_swallows { entry.asked with undelivered := false } (.error cancelled)
      have suspended := @stop_enters entry (.act .awaitOuter (resumed entry.cancelling)) entry.asked
        (by rw [known]; exact .pause rfl)
      have delivered : machine.exec .caller .awaitOuter .go entry.asked =
          some (.error cancelled, { entry.asked with undelivered := false }) := by
        simp [machine, exec, Tasks.asked, pending]
      exact lost _ ending (.step suspended (.inl rfl) (.act (by simp [Tasks.asked]) delivered segment))
        (by simpa using ended) entered other

/-- `_cancel_and_wait` keeps every request of its caller, and leaves no running task, in every
order of steps, exactly when no request is undelivered at its entry. -/
theorem stop_keeps_cancellation : KeepsCancellation entry ↔ entry.undelivered = false := by
  constructor
  · intro keeps
    by_contra pending
    exact undelivered_lost (by simpa using pending) keeps
  · intro quiet config outcome reached ended entered
    rcases (reachable_sound quiet reached).caller with ⟨outside, _⟩ | waiting | ⟨ending, stopped, _, kept⟩
    · rw [outside] at ended
      cases ended
      exact absurd rfl entered
    · rw [waiting.program] at ended
      cases ended
    · rw [stopped] at ended
      cases ended
      exact kept

def interrupted : Tasks := { cancelling := 1, undelivered := true }

/-- The caller returns normally, the request is used up and the task is still running. -/
theorem interrupted_lost : ∃ config, machine.Reachable allow (entering interrupted) config ∧
    (config.program .caller).outcome = some (.ok true) ∧ config.shared.undelivered = false ∧
    config.shared.outcome = none := by
  obtain ⟨config, reached, passed⟩ := machine.exists_run allow (entering interrupted)
    [(.caller, []), (.caller, [])] (fun move member config => .inl (by
      simp only [List.mem_cons, List.not_mem_nil, or_false, or_self] at member
      rw [member]))
    (fun config => (match (config.program .caller).outcome with
      | some (.ok value) => value
      | _ => false) && !config.shared.undelivered && config.shared.outcome.isNone)
    (by decide +kernel)
  simp only [Bool.and_eq_true, Bool.not_eq_true', Option.isNone_iff_eq_none] at passed
  obtain ⟨⟨returned, used⟩, running⟩ := passed
  refine ⟨config, reached, ?_, used, running⟩
  split at returned
  · rename_i ended
    rw [ended, returned]
  · cases returned

end Stopping

end DflockdClient.Async
