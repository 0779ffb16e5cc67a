import DflockdClient.AsyncLocks
import DflockdClient.AsyncRuns

/-!
No operation gets stuck: from every state that a run reaches, whatever was
cancelled or failed before, an operation in progress can be completed without a new
one, on a network on which everything fails.
-/

namespace DflockdClient.Async.Locks

open Interleaving
open Shared (Reached demoParams turns turnTo acquiring locksIo suspend_cases
  suspendExchange_cases)

variable {params : Params} {thread : Thread} {choice : Choice}

def control (world : World) :
    (Option Thread × Option Thread) × (Option Nat × Nat) ×
      (Nat → Option (Except PyError Unit)) × (Thread → Nat) × (Thread → Bool) :=
  ((world.stateLock, world.ioLock), (world.renewTask, world.workers), world.outcome,
    world.cancelling, world.undelivered)

/-- What a task has is what the world says it has; and a renewal task that was cancelled has that
ahead of it, or behind it. -/
structure Owns (world : World) (thread : Thread) (own : Held) : Prop where
  state : world.stateLock = some thread ↔ own.state = true
  taken : own.state = true → ∃ id, thread = .caller id
  io : world.ioLock = some thread ↔ own.io = true
  inside : own.io = true → own.state = true ∨
    ∃ worker, thread = .worker worker ∧ worker < world.workers
  known : ∀ task, own.known = some task → task < world.workers
  asked : ∀ task, own.asked = some task → task < world.workers ∧
    (0 < world.cancelling (.worker task) ∨ world.outcome task ≠ none)
  begun : ∀ worker, thread = .worker worker → own.stage ≠ .fresh → worker < world.workers
  ended : ∀ worker, thread = .worker worker → own.stage = .ended → world.outcome worker ≠ none
  doomed : ∀ worker, thread = .worker worker → 0 < world.cancelling (.worker worker) →
    world.undelivered (.worker worker) = true ∨ own.stage = .dying ∨ own.stage = .ended

structure Agrees (world : World) (held : Thread → Held) : Prop where
  owns : ∀ thread, Owns world thread (held thread)
  task : ∀ task, world.renewTask = some task → task < world.workers

theorem Agrees.of_same {before after : World} {held : Thread → Held} (agrees : Agrees before held)
    (same : control after = control before) : Agrees after held := by
  simp only [control, Prod.mk.injEq] at same
  obtain ⟨⟨stateLock, ioLock⟩, ⟨renewTask, workers⟩, outcome, cancelling, undelivered⟩ := same
  refine ⟨fun thread => ?_, ?_⟩
  · have owns := agrees.owns thread
    constructor
    · rw [stateLock]
      exact owns.state
    · exact owns.taken
    · rw [ioLock]
      exact owns.io
    · rw [workers]
      exact owns.inside
    · rw [workers]
      exact owns.known
    · rw [workers, cancelling, outcome]
      exact owns.asked
    · rw [workers]
      exact owns.begun
    · rw [outcome]
      exact owns.ended
    · rw [cancelling, undelivered]
      exact owns.doomed
  · rw [renewTask, workers]
    exact agrees.task

section Moves

variable {before after : World} {held : Thread → Held} {me other : Thread} {new : Held}

structure Grows (me : Thread) (before after : World) : Prop where
  state : ∀ other, other ≠ me → (after.stateLock = some other ↔ before.stateLock = some other)
  io : ∀ other, other ≠ me → (after.ioLock = some other ↔ before.ioLock = some other)
  workers : before.workers ≤ after.workers
  outcome : ∀ task, before.outcome task ≠ none → after.outcome task ≠ none
  cancelling : ∀ task, before.cancelling (.worker task) ≤ after.cancelling (.worker task)
  undelivered : ∀ task, Thread.worker task ≠ me →
    after.cancelling (.worker task) = before.cancelling (.worker task) ∧
      after.undelivered (.worker task) = before.undelivered (.worker task) ∨
    after.undelivered (.worker task) = true

theorem Grows.refl : Grows me before before :=
  ⟨fun _ _ => Iff.rfl, fun _ _ => Iff.rfl, Nat.le_refl _, fun _ => id, fun _ => Nat.le_refl _,
    fun _ _ => .inl ⟨rfl, rfl⟩⟩

theorem Grows.asked (grows : Grows me before after) {own : Held} (owns : Owns before other own)
    {task : Nat} (found : own.asked = some task) : task < after.workers ∧
      (0 < after.cancelling (.worker task) ∨ after.outcome task ≠ none) := by
  obtain ⟨made, cancelled | ended⟩ := owns.asked task found
  · exact ⟨Nat.lt_of_lt_of_le made grows.workers,
      .inl (Nat.lt_of_lt_of_le cancelled (grows.cancelling task))⟩
  · exact ⟨Nat.lt_of_lt_of_le made grows.workers, .inr (grows.outcome task ended)⟩

theorem Grows.inside (grows : Grows me before after) {own : Held} (owns : Owns before other own)
    (locked : own.io = true) :
    own.state = true ∨ ∃ worker, other = .worker worker ∧ worker < after.workers := by
  rcases owns.inside locked with state | ⟨worker, same, made⟩
  · exact .inl state
  · exact .inr ⟨worker, same, Nat.lt_of_lt_of_le made grows.workers⟩

theorem Agrees.grows (agrees : Agrees before held) (grows : Grows me before after)
    (own : Owns after me new) (task : ∀ task, after.renewTask = some task → task < after.workers) :
    Agrees after (Function.update held me new) := by
  refine ⟨fun other => ?_, task⟩
  by_cases same : other = me
  · subst same
    simpa using own
  · rw [Function.update_of_ne same]
    have owns := agrees.owns other
    constructor
    · exact (grows.state other same).trans owns.state
    · exact owns.taken
    · exact (grows.io other same).trans owns.io
    · exact grows.inside owns
    · exact fun task found => Nat.lt_of_lt_of_le (owns.known task found) grows.workers
    · exact fun task => grows.asked owns
    · exact fun worker mine begun => Nat.lt_of_lt_of_le (owns.begun worker mine begun) grows.workers
    · exact fun worker mine ended => grows.outcome worker (owns.ended worker mine ended)
    · rintro worker rfl cancelled
      rcases grows.undelivered worker same with ⟨counted, pending⟩ | pending
      · rw [counted] at cancelled
        rw [pending]
        exact owns.doomed worker rfl cancelled
      · exact .inl pending

variable {id : Nat}

theorem Agrees.deliver (agrees : Agrees before held) :
    Agrees (before.deliver (.caller id)) held := by
  have grows : Grows (.caller id) before (before.deliver (.caller id)) :=
    { (Grows.refl : Grows (.caller id) before before) with
      undelivered := fun task _ => .inl ⟨rfl, by simp [World.deliver]⟩ }
  have owns := agrees.owns (.caller id)
  have same : Function.update held (.caller id) (held (.caller id)) = held := by simp
  rw [← same]
  refine agrees.grows grows ?_ agrees.task
  exact { owns with
    doomed := by simp }

theorem exec_plain {op : Op} {result : op.Res} {world after : World}
    (plain : untied op = true ∨ ∃ task, op = .awaitOuter task)
    (executed : exec thread op choice world = some (result, after)) :
    control after = control world ∨ control after = control (world.deliver thread) := by
  cases op with
  | dial host port =>
      rcases suspend_cases executed with ⟨_, _, rfl⟩ | ⟨_, resumed⟩
      · exact .inr rfl
      · split at resumed
        · split at resumed
          · cases resumed
            exact .inl rfl
          · cases resumed
        · cases resumed
          exact .inl rfl
  | waitClosed conn =>
      rcases suspend_cases executed with ⟨_, _, rfl⟩ | ⟨_, resumed⟩
      · exact .inr rfl
      · split at resumed
        · split at resumed
          · cases resumed
            exact .inl rfl
          · cases resumed
        · cases resumed
          exact .inl rfl
  | drain conn cmd =>
      rcases suspendExchange_cases executed with ⟨_, _, rfl⟩ | ⟨_, resumed⟩
      · exact .inr rfl
      · split at resumed
        · split at resumed
          · cases resumed
            exact .inl rfl
          · cases resumed
        · cases resumed
          exact .inl rfl
  | readLine conn cmd =>
      rcases suspendExchange_cases executed with ⟨_, _, rfl⟩ | ⟨_, resumed⟩
      · exact .inr rfl
      · split at resumed
        · cases resumed
          exact .inl rfl
        · split at resumed
          · cases resumed
            exact .inl rfl
          · cases resumed
        · cases resumed
  | awaitOuter task =>
      rcases suspend_cases executed with ⟨_, _, rfl⟩ | ⟨_, resumed⟩
      · exact .inr rfl
      · simp only [Option.map_eq_some_iff] at resumed
        obtain ⟨outcome, _, same⟩ := resumed
        cases same
        exact .inl rfl
  | write conn request =>
      cases executed
      by_cases closed : world.closedConn conn = true
      · exact .inl (by simp [closed])
      · exact .inl (by simp [closed, control, World.log])
  | getConn | setConn | getToken | setToken | getLease | setLease | getClosed | setClosed
  | cancelling | taskOutcome | closeNowait =>
      cases executed
      exact .inl rfl
  | _ => rcases plain with plain | ⟨task, same⟩ <;> contradiction

theorem Agrees.lockState (agrees : Agrees before held) (free : before.stateLock = none)
    (nothing : held (.caller id) = {}) :
    Agrees { before with stateLock := some (.caller id) }
      (Function.update held (.caller id) { state := true }) := by
  have owns := agrees.owns (.caller id)
  rw [nothing] at owns
  have io : before.ioLock ≠ some (.caller id) := by simpa using owns.io
  refine agrees.grows ?_ ?_ agrees.task
  · exact { (Grows.refl : Grows (.caller id) before before) with
      state := fun other different => by simp [free, Ne.symm different] }
  · constructor <;> simp [io]

theorem Agrees.unlockState (agrees : Agrees before held)
    (mine : (held (.caller id)).state = true) (free : (held (.caller id)).io = false) :
    Agrees { before with stateLock := none } (Function.update held (.caller id) {}) := by
  have owns := agrees.owns (.caller id)
  have io : before.ioLock ≠ some (.caller id) := by simpa [free] using owns.io
  have locked := owns.state.mpr mine
  refine agrees.grows ?_ ?_ agrees.task
  · exact { (Grows.refl : Grows (.caller id) before before) with
      state := fun other different => by simp [locked, Ne.symm different] }
  · constructor <;> simp [io]

theorem Agrees.lockIo (agrees : Agrees before held) (free : before.ioLock = none)
    (entitled : (held me).state = true ∨ ∃ worker, me = .worker worker ∧ worker < before.workers) :
    Agrees { before with ioLock := some me }
      (Function.update held me { held me with io := true }) := by
  refine agrees.grows ?_ ?_ agrees.task
  · exact { (Grows.refl : Grows me before before) with
      io := fun other different => by simp [free, Ne.symm different] }
  · exact { agrees.owns me with io := by simp, inside := fun _ => entitled }

theorem Agrees.unlockIo (agrees : Agrees before held) (locked : (held me).io = true) :
    Agrees { before with ioLock := none }
      (Function.update held me { held me with io := false }) := by
  have mine := (agrees.owns me).io.mpr locked
  refine agrees.grows ?_ ?_ agrees.task
  · exact { (Grows.refl : Grows me before before) with
      io := fun other different => by simp [mine, Ne.symm different] }
  · exact { agrees.owns me with io := by simp, inside := by simp }

theorem Agrees.createTask (agrees : Agrees before held) :
    Agrees { before with workers := before.workers + 1 }
      (Function.update held (.caller id)
        { held (.caller id) with known := some before.workers }) := by
  have owns := agrees.owns (.caller id)
  have grows : Grows (.caller id) before { before with workers := before.workers + 1 } :=
    { (Grows.refl : Grows (.caller id) before before) with workers := Nat.le_succ _ }
  have inside := fun locked => grows.inside owns locked
  refine agrees.grows grows ?_ fun task found => Nat.lt_succ_of_lt (agrees.task task found)
  exact { owns with
    inside := inside
    known := by
      rintro task ⟨⟩
      exact Nat.lt_succ_self _
    asked := fun task => grows.asked owns
    begun := by simp }

theorem Agrees.cancelTask (agrees : Agrees before held) {task : Nat}
    (known : (held (.caller id)).known = some task) :
    Agrees (if (before.outcome task).isNone then before.request (.worker task) else before)
      (Function.update held (.caller id) { held (.caller id) with asked := some task }) := by
  have owns := agrees.owns (.caller id)
  have made := owns.known task known
  by_cases alive : before.outcome task = none
  · have grows : Grows (.caller id) before (before.request (.worker task)) :=
      { (Grows.refl : Grows (.caller id) before before) with
        cancelling := fun other => by
          by_cases same : other = task
          · simp [same, World.request]
          · simp [World.request, Function.update_of_ne, same]
        undelivered := fun other _ => by
          by_cases same : other = task
          · exact .inr (by simp [same, World.request])
          · exact .inl (by simp [World.request, Function.update_of_ne, same]) }
    rw [if_pos (by simp [alive])]
    refine agrees.grows grows ?_ agrees.task
    exact { owns with
      asked := by
        rintro other ⟨⟩
        exact ⟨made, .inl (by simp [World.request])⟩
      doomed := by simp }
  · rw [if_neg (by simpa using alive)]
    refine agrees.grows .refl ?_ agrees.task
    exact { owns with
      asked := by
        rintro other ⟨⟩
        exact ⟨made, .inr alive⟩ }

theorem caller_executes {op : Op} {result : op.Res} (agrees : Agrees before held)
    (allowed : callerRules.allowed (held (.caller id)) op)
    (executed : exec (.caller id) op choice before = some (result, after)) :
    Agrees after (Function.update held (.caller id)
      (callerRules.after (held (.caller id)) op result)) := by
  have owns := agrees.owns (.caller id)
  have stands {world : World} (still : Agrees world held)
      (kept : callerRules.after (held (.caller id)) op result = held (.caller id)) :
      Agrees world (Function.update held (.caller id)
        (callerRules.after (held (.caller id)) op result)) := by
    rw [kept, Function.update_eq_self]
    exact still
  have plain (free : untied op = true ∨ ∃ task, op = .awaitOuter task)
      (kept : callerRules.after (held (.caller id)) op result = held (.caller id)) :
      Agrees after (Function.update held (.caller id)
        (callerRules.after (held (.caller id)) op result)) := by
    rcases exec_plain free executed with same | told
    · exact stands (agrees.of_same same) kept
    · exact stands (agrees.deliver.of_same told) kept
  cases op with
  | lockState =>
      have nothing : held (.caller id) = {} := allowed
      rcases suspend_cases executed with ⟨_, rfl, rfl⟩ | ⟨_, resumed⟩
      · refine stands agrees.deliver ?_
        rw [nothing]
        rfl
      · split at resumed
        · rename_i free
          cases resumed
          rw [nothing]
          exact agrees.lockState free nothing
        · cases resumed
  | unlockState =>
      cases executed
      exact agrees.unlockState allowed.1 allowed.2
  | lockIo =>
      rcases suspend_cases executed with ⟨_, rfl, rfl⟩ | ⟨_, resumed⟩
      · refine stands agrees.deliver ?_
        have free : (held (.caller id)).io = false := allowed.2
        simp only [callerRules, taken, ← free]
      · split at resumed
        · rename_i free
          cases resumed
          exact agrees.lockIo free (.inl allowed.1)
        · cases resumed
  | unlockIo =>
      cases executed
      exact agrees.unlockIo allowed.2
  | getRenewTask =>
      cases executed
      exact agrees.grows .refl { owns with known := agrees.task } agrees.task
  | setRenewTask task =>
      cases executed
      have named (number : Nat) (same : task = some number) : number < before.workers :=
        owns.known number ((allowed.2 number same).trans same)
      exact agrees.grows { (Grows.refl : Grows (.caller id) before before) with }
        { owns with } named
  | createTask =>
      cases executed
      exact agrees.createTask
  | cancelTask task =>
      cases executed
      exact agrees.cancelTask allowed.2
  | awaitOuter task => exact plain (.inr ⟨task, rfl⟩) rfl
  | beginTask | endTask | sleep | cancelCaller => exact allowed.elim
  | _ => exact plain (.inl rfl) rfl

variable {worker : Nat}

theorem Agrees.told (agrees : Agrees before held)
    (same : control after = control (before.deliver (.worker worker)))
    (made : worker < before.workers) (dies : new = { held (.worker worker) with stage := .dying }) :
    Agrees after (Function.update held (.worker worker) new) := by
  refine Agrees.of_same ?_ same
  have owns := agrees.owns (.worker worker)
  have grows : Grows (.worker worker) before (before.deliver (.worker worker)) :=
    { (Grows.refl : Grows (.worker worker) before before) with
      undelivered := fun task different =>
        .inl ⟨rfl, by simp [World.deliver, Function.update_of_ne different]⟩ }
  refine agrees.grows grows ?_ agrees.task
  subst dies
  exact { owns with
    begun := by
      rintro number ⟨⟩ _
      exact made
    ended := by simp
    doomed := fun _ _ _ => .inr (.inl rfl) }

theorem exec_drain {conn : Nat} {cmd : Str} {result : Except PyError Unit}
    (executed : exec thread (.drain conn cmd) choice before = some (result, after)) :
    result = .error cancelled ∧ control after = control (before.deliver thread) ∨
      (∀ error, result = .error error → error.isException = true) ∧
        control after = control before := by
  rcases suspendExchange_cases executed with ⟨_, rfl, rfl⟩ | ⟨_, resumed⟩
  · exact .inl ⟨rfl, rfl⟩
  · split at resumed
    · split at resumed
      · rename_i ordinary
        cases resumed
        exact .inr ⟨by simpa using ordinary, rfl⟩
      · cases resumed
    · cases resumed
      exact .inr ⟨by simp, rfl⟩

theorem exec_readLine {conn : Nat} {cmd : Str} {result : Except PyError Str}
    (executed : exec thread (.readLine conn cmd) choice before = some (result, after)) :
    result = .error cancelled ∧ control after = control (before.deliver thread) ∨
      (∀ error, result = .error error → error.isException = true) ∧
        control after = control before := by
  rcases suspendExchange_cases executed with ⟨_, rfl, rfl⟩ | ⟨_, resumed⟩
  · exact .inl ⟨rfl, rfl⟩
  · split at resumed
    · cases resumed
      exact .inr ⟨by simp, rfl⟩
    · split at resumed
      · rename_i ordinary
        cases resumed
        exact .inr ⟨by simpa using ordinary, rfl⟩
      · cases resumed
    · cases resumed

theorem told_ordinary {α : Type} {own : Held} {result : Except PyError α}
    (ordinary : ∀ error, result = .error error → error.isException = true) :
    Locks.told own result = own := by
  cases result with
  | ok value => rfl
  | error error =>
      refine if_neg ?_
      rintro rfl
      cases ordinary cancelled rfl

theorem Agrees.begins (agrees : Agrees before held) (nothing : held (.worker worker) = {})
    (made : worker < before.workers) (calm : before.undelivered (.worker worker) = false) :
    Agrees (before.deliver (.worker worker))
      (Function.update held (.worker worker) { stage := .running }) := by
  have owns := agrees.owns (.worker worker)
  have same : before.deliver (.worker worker) = before := by simp [World.deliver, ← calm]
  rw [nothing] at owns
  rw [same]
  refine agrees.grows .refl ?_ agrees.task
  refine { owns with begun := ?_, ended := by simp, doomed := ?_ }
  · rintro number ⟨⟩ _
    exact made
  · rintro number ⟨⟩ cancelled
    rcases owns.doomed worker rfl cancelled with pending | never | never
    · exact .inl pending
    · cases never
    · cases never

theorem Agrees.endTask (agrees : Agrees before held) {outcome : Except PyError Unit}
    (made : worker < before.workers) :
    Agrees { before with outcome := Function.update before.outcome worker (some outcome) }
      (Function.update held (.worker worker) { held (.worker worker) with stage := .ended }) := by
  have owns := agrees.owns (.worker worker)
  have grows : Grows (.worker worker) before
      { before with outcome := Function.update before.outcome worker (some outcome) } :=
    { (Grows.refl : Grows (.worker worker) before before) with
      outcome := fun task ended => by
        by_cases same : task = worker
        · simp [same]
        · simpa [Function.update_of_ne same] using ended }
  refine agrees.grows grows ?_ agrees.task
  refine { owns with asked := fun task => grows.asked owns, begun := ?_, ended := ?_, doomed := ?_ }
  · rintro number ⟨⟩ _
    exact made
  · rintro number ⟨⟩ _
    simp
  · exact fun _ _ _ => .inr (.inr rfl)

theorem worker_executes {op : Op} {result : op.Res} (agrees : Agrees before held)
    (allowed : workerRules.allowed (held (.worker worker)) op)
    (executed : exec (.worker worker) op choice before = some (result, after)) :
    workerRules.returns (held (.worker worker)) op result ∧
      Agrees after (Function.update held (.worker worker)
        (workerRules.after (held (.worker worker)) op result)) := by
  have owns := agrees.owns (.worker worker)
  have made (alive : (held (.worker worker)).stage = .running ∨
      (held (.worker worker)).stage = .dying) : worker < before.workers :=
    owns.begun worker rfl (by rcases alive with alive | alive <;> simp [alive])
  have stands (same : control after = control before) {new : Held}
      (kept : new = held (.worker worker)) :
      Agrees after (Function.update held (.worker worker) new) := by
    rw [kept, Function.update_eq_self]
    exact agrees.of_same same
  cases op with
  | lockIo =>
      have free : (held (.worker worker)).io = false := allowed.1
      have running := made (.inl allowed.2)
      rcases suspend_cases executed with ⟨_, rfl, rfl⟩ | ⟨_, resumed⟩
      · refine ⟨by simp [workerRules], agrees.told rfl running ?_⟩
        simp only [workerRules, Locks.told, taken, ← free, if_true]
      · split at resumed
        · rename_i opened
          cases resumed
          exact ⟨by simp [workerRules], agrees.lockIo opened (.inr ⟨worker, rfl, running⟩)⟩
        · cases resumed
  | unlockIo =>
      cases executed
      exact ⟨trivial, agrees.unlockIo allowed⟩
  | beginTask =>
      have nothing : held (.worker worker) = {} := allowed
      simp only [exec] at executed
      split at executed
      · rename_i made
        cases executed
        refine ⟨trivial, ?_⟩
        cases calm : before.undelivered (.worker worker) with
        | true => exact agrees.told rfl made (by simp [workerRules, nothing])
        | false => simpa [workerRules, nothing] using agrees.begins nothing made calm
      · cases executed
  | endTask outcome =>
      cases executed
      exact ⟨trivial, agrees.endTask (made allowed.2)⟩
  | drain conn cmd =>
      rcases exec_drain executed with ⟨rfl, same⟩ | ⟨ordinary, same⟩
      · exact ⟨fun error failed => .inl (by cases failed; rfl),
          agrees.told same (made (.inl allowed)) rfl⟩
      · exact ⟨fun error failed => .inr (ordinary error failed),
          stands same (told_ordinary ordinary)⟩
  | readLine conn cmd =>
      rcases exec_readLine executed with ⟨rfl, same⟩ | ⟨ordinary, same⟩
      · exact ⟨fun error failed => .inl (by cases failed; rfl),
          agrees.told same (made (.inl allowed)) rfl⟩
      · exact ⟨fun error failed => .inr (ordinary error failed),
          stands same (told_ordinary ordinary)⟩
  | sleep interval =>
      rcases suspend_cases executed with ⟨_, rfl, rfl⟩ | ⟨_, resumed⟩
      · exact ⟨by simp [workerRules], agrees.told rfl (made (.inl allowed)) rfl⟩
      · split at resumed
        · cases resumed
          exact ⟨by simp [workerRules], stands rfl rfl⟩
        · cases resumed
  | write conn request =>
      cases executed
      refine ⟨trivial, stands ?_ rfl⟩
      by_cases closed : before.closedConn conn = true
      · simp [closed]
      · simp [closed, control, World.log]
  | lockState | unlockState | setRenewTask | createTask | cancelTask | awaitOuter | cancelCaller
  | dial | waitClosed => exact allowed.elim
  | _ =>
      cases executed
      exact ⟨trivial, stands rfl rfl⟩

theorem other_executes {op : Op} {result : op.Res} (agrees : Agrees before held)
    (allowed : ∃ target, op = .cancelCaller target)
    (executed : exec (.other id) op choice before = some (result, after)) :
    Agrees after (Function.update held (.other id) (held (.other id))) := by
  obtain ⟨target, rfl⟩ := allowed
  cases executed
  have grows : Grows (.other id) before (before.request (.caller target)) :=
    { (Grows.refl : Grows (.other id) before before) with
      cancelling := fun task => by simp [World.request]
      undelivered := fun task _ => .inl (by simp [World.request]) }
  have owns := agrees.owns (.other id)
  refine agrees.grows grows ?_ agrees.task
  exact { owns with
    asked := fun task => grows.asked owns
    doomed := by simp }

end Moves

theorem exec_workers {op : Op} {result : op.Res} {before after : World}
    (executed : exec thread op choice before = some (result, after)) :
    before.workers ≤ after.workers := by
  have same : before.workers ≤ before.workers := Nat.le_refl _
  cases op with
  | createTask =>
      cases executed
      exact Nat.le_succ _
  | cancelTask task =>
      cases executed
      split
      · exact same
      · exact same
  | write conn request =>
      cases executed
      split
      · exact same
      · exact same
  | beginTask | endTask =>
      simp only [exec] at executed
      repeat' split at executed
      all_goals
        cases executed
        try exact same
  | awaitOuter task =>
      rcases suspend_cases executed with ⟨_, _, rfl⟩ | ⟨_, resumed⟩
      · exact same
      · simp only [Option.map_eq_some_iff] at resumed
        obtain ⟨_, _, ended⟩ := resumed
        cases ended
        exact same
  | lockState | lockIo | dial | waitClosed | sleep =>
      rcases suspend_cases executed with ⟨_, _, rfl⟩ | ⟨_, resumed⟩
      · exact same
      · repeat' split at resumed
        all_goals
          cases resumed
          try exact same
  | drain | readLine =>
      rcases suspendExchange_cases executed with ⟨_, _, rfl⟩ | ⟨_, resumed⟩
      · exact same
      · repeat' split at resumed
        all_goals
          cases resumed
          try exact same
  | _ =>
      cases executed
      exact same

/-- A renewal task is made before it can run. -/
def Made (thread : Thread) (world : World) : Prop :=
  match thread with
  | .worker worker => worker < world.workers
  | _ => True

theorem governed : Governed (machine params) rules Left Agrees Made where
  executes := by
    intro world held thread op choice result after agrees allowed executed
    cases thread with
    | caller id => exact ⟨trivial, caller_executes agrees allowed executed⟩
    | worker worker => exact worker_executes agrees allowed executed
    | other id => exact ⟨trivial, other_executes agrees allowed executed⟩
  starts := by
    intro thread outcome choice program held left started
    cases thread with
    | caller id =>
        cases choice with
        | call call =>
            cases started
            have nothing : held = {} := left
            rw [nothing]
            exact program_obeys call
        | _ => cases started
    | worker worker =>
        cases outcome with
        | error error => cases started
        | ok state =>
            cases state with
            | fresh =>
                cases started
                have nothing : held = {} := left
                rw [nothing]
                exact renewLoop_obeys
            | sleeping interval =>
                cases started
                have running : held = { stage := .running } := left
                rw [running]
                exact renewRound_obeys
            | done => cases started
    | other id =>
        cases choice with
        | cancel target =>
            cases started
            exact ⟨⟨target, rfl⟩, fun _ _ => left⟩
        | _ => cases started
  stays := by
    intro world thread op choice result after made executed
    cases thread with
    | worker worker => exact Nat.lt_of_lt_of_le made (exec_workers executed)
    | caller id => trivial
    | other id => trivial
  running := by
    intro world held thread op agrees made allowed running
    cases op with
    | beginTask =>
        cases thread with
        | worker worker => exact ⟨.go, _, _, if_pos made⟩
        | caller id => exact allowed.elim
        | other id => exact absurd allowed.choose_spec (by simp)
    | endTask outcome =>
        cases thread with
        | worker worker => exact ⟨.go, _, _, rfl⟩
        | caller id => exact allowed.elim
        | other id => exact absurd allowed.choose_spec (by simp)
    | lockState | lockIo | awaitOuter | waitClosed | drain | sleep | dial | readLine =>
        cases running
    | _ => exact ⟨.go, _, _, rfl⟩

/-! Patient runs -/

/-- What the environment may choose from now on: no call, no cancellation, and a network on which
everything fails. -/
def patiently (op : Op) (choice : Choice) : Prop :=
  match op with
  | .dial _ _ | .waitClosed _ | .drain _ _ | .readLine _ _ =>
      ∃ error, choice = .fail error ∧ error.isException = true
  | .sleep _ => choice = .expire
  | _ => choice = .go

abbrev Running := Config Op Op.Res PyError Thread Val World

def Patient (config : Running) (thread : Thread) (choice : Choice) : Prop :=
  match config.program thread with
  | .act op _ => patiently op choice
  | _ => choice = .go

variable (params) in
abbrev Patiently (config final : Running) : Prop :=
  (machine params).Reachable Patient config final

abbrev Orderly (config : Running) (held : Thread → Held) : Prop :=
  Disciplined rules Left Agrees config held

inductive Blocked (world : World) (thread : Thread) : Op → Prop
  | lockState {owner} : world.stateLock = some owner → Blocked world thread .lockState
  | lockIo {owner} : world.ioLock = some owner → world.undelivered thread = false →
      Blocked world thread .lockIo
  | awaitOuter {task} : world.outcome task = none → Blocked world thread (.awaitOuter task)
  | beginTask : ¬ Made thread world → Blocked world thread .beginTask

theorem blocked_or (world : World) {own : Held} {op : Op}
    (allowed : (rules thread).allowed own op) :
    Blocked world thread op ∨
      ∃ choice, patiently op choice ∧ (exec thread op choice world).isSome = true := by
  have ordinary : (runtimeError []).isException = true := rfl
  cases op with
  | lockState =>
      cases locked : world.stateLock with
      | some owner => exact .inl (.lockState locked)
      | none =>
          refine .inr ⟨.go, rfl, ?_⟩
          simp only [exec, suspend, locked]
          split <;> rfl
  | lockIo =>
      cases calm : world.undelivered thread with
      | true => exact .inr ⟨.go, rfl, by simp [exec, suspend, calm]⟩
      | false =>
          cases locked : world.ioLock with
          | some owner => exact .inl (.lockIo locked calm)
          | none => exact .inr ⟨.go, rfl, by simp [exec, suspend, calm, locked]⟩
  | awaitOuter task =>
      cases ended : world.outcome task with
      | none => exact .inl (.awaitOuter ended)
      | some outcome =>
          refine .inr ⟨.go, rfl, ?_⟩
          simp only [exec, suspend, ended]
          split <;> rfl
  | beginTask =>
      cases thread with
      | worker worker =>
          by_cases made : worker < world.workers
          · exact .inr ⟨.go, rfl, by simp [exec, made]⟩
          · exact .inl (.beginTask made)
      | caller id => exact allowed.elim
      | other id => exact absurd allowed.choose_spec (by simp)
  | endTask outcome =>
      cases thread with
      | worker worker => exact .inr ⟨.go, rfl, rfl⟩
      | caller id => exact allowed.elim
      | other id => exact absurd allowed.choose_spec (by simp)
  | dial host port =>
      refine .inr ⟨.fail _, ⟨_, rfl, ordinary⟩, ?_⟩
      simp only [exec, suspend, Choice.inner, ordinary]
      split <;> rfl
  | waitClosed conn =>
      refine .inr ⟨.fail _, ⟨_, rfl, ordinary⟩, ?_⟩
      simp only [exec, suspend, Choice.inner, ordinary]
      split <;> rfl
  | drain conn cmd =>
      refine .inr ⟨.fail _, ⟨_, rfl, ordinary⟩, ?_⟩
      simp only [exec, suspendExchange, Choice.inner, ordinary]
      split <;> rfl
  | readLine conn cmd =>
      refine .inr ⟨.fail _, ⟨_, rfl, ordinary⟩, ?_⟩
      simp only [exec, suspendExchange, Choice.inner, ordinary]
      split <;> rfl
  | sleep interval =>
      refine .inr ⟨.expire, rfl, ?_⟩
      simp only [exec, suspend]
      split <;> rfl
  | _ => exact .inr ⟨.go, rfl, rfl⟩

variable {config : Running} {held : Thread → Held}

theorem Orderly.allowed {op : Op} {rest : op.Res → Py (Val thread)} (orderly : Orderly config held)
    (programEq : config.program thread = .act op rest) :
    (rules thread).allowed (held thread) op := by
  have keeps := orderly.keeps thread
  rw [programEq] at keeps
  exact keeps.1

variable (params) in
theorem Orderly.advance {op : Op} {rest : op.Res → Py (Val thread)}
    (orderly : Orderly config held) (programEq : config.program thread = .act op rest)
    (made : Made thread config.shared)
    (enabled : ∃ choice, patiently op choice ∧
      (exec thread op choice config.shared).isSome = true) :
    ∃ final own result, Patiently params config final ∧
      Orderly final (Function.update held thread own) ∧
      (rest result).Leads (final.program thread) ∧
      ∀ other, other ≠ thread → final.program other = config.program other := by
  obtain ⟨choice, patient, executes⟩ := enabled
  obtain ⟨⟨result, after⟩, executed⟩ := Option.isSome_iff_exists.mp executes
  have performs : (machine params).exec thread op choice config.shared =
      some (result, after) := executed
  obtain ⟨final, own, step, kept, leads, others⟩ := governed.act orderly made programEq performs
  refine ⟨final, own, result, .step .initial ?_ step, kept, leads, others⟩
  simp only [Patient, programEq, patient]

structure Aside (config final : Running) (before after : Thread → Held) : Prop where
  program : ∀ id, final.program (.caller id) = config.program (.caller id)
  held : ∀ id, after (.caller id) = before (.caller id)

theorem Aside.refl : Aside config config held held :=
  ⟨fun _ => rfl, fun _ => rfl⟩

theorem Aside.trans {middle final : Running} {between after : Thread → Held}
    (first : Aside config middle held between) (second : Aside middle final between after) :
    Aside config final held after :=
  ⟨fun id => (second.program id).trans (first.program id),
    fun id => (second.held id).trans (first.held id)⟩

theorem Aside.worker {final : Running} {worker : Nat} {own : Held}
    (others : ∀ other, other ≠ .worker worker → final.program other = config.program other) :
    Aside config final held (Function.update held (.worker worker) own) :=
  ⟨fun id => others _ (by simp), fun id => by simp⟩

theorem Left.io {outcome : Except PyError (Val thread)} {own : Held}
    (left : Left thread outcome own) : own.io = false := by
  cases thread with
  | caller id =>
      have nothing : own = {} := left
      rw [nothing]
  | other id =>
      have nothing : own = {} := left
      rw [nothing]
  | worker worker =>
      cases outcome with
      | error error =>
          have ended : own = { stage := .ended } := left
          rw [ended]
      | ok state =>
          cases state with
          | fresh =>
              have nothing : own = {} := left
              rw [nothing]
          | sleeping interval =>
              have running : own = { stage := .running } := left
              rw [running]
          | done =>
              have ended : own = { stage := .ended } := left
              rw [ended]

theorem Orderly.ioEnabled (orderly : Orderly config held) {worker : Nat} {op : Op}
    {rest : op.Res → Py WorkerState} (inside : (held (.worker worker)).io = true)
    (programEq : config.program (.worker worker) = .act op rest) :
    ∃ choice, patiently op choice ∧
      (exec (.worker worker) op choice config.shared).isSome = true := by
  have allowed : (rules (.worker worker)).allowed (held (.worker worker)) op :=
    orderly.allowed programEq
  rcases blocked_or config.shared allowed with blocked | enabled
  · have out : (held (.worker worker)).io = false := by
      cases blocked with
      | lockState | awaitOuter => exact allowed.elim
      | lockIo => exact allowed.1
      | beginTask =>
          have nothing : held (.worker worker) = {} := allowed
          rw [nothing]
    rw [inside] at out
    cases out
  · exact enabled

variable (params) in
theorem Orderly.freeIo (orderly : Orderly config held) {worker : Nat}
    (locked : config.shared.ioLock = some (.worker worker)) :
    ∃ final after, Patiently params config final ∧ Orderly final after ∧
      Aside config final held after ∧ final.shared.ioLock = none := by
  let reaches (lock : Option Thread) (middle : Running) : Prop :=
    ∃ after, Orderly middle after ∧ Aside config middle held after ∧ middle.shared.ioLock = lock
  have driven : ∃ final, Patiently params config final ∧ reaches none final := by
    refine Machine.drive (.worker worker) (reaches (some (.worker worker))) (reaches none) ?_ ?_
      config ⟨held, orderly, .refl, locked⟩
    · rintro middle ⟨after, kept, _, locked⟩ ended
      obtain ⟨outcome, ended⟩ := Option.ne_none_iff_exists'.mp ended
      have free := ((kept.keeps _).promised ended).io
      rw [(kept.agrees.owns _).io.mp locked] at free
      cases free
    · rintro middle op rest ⟨after, kept, aside, locked⟩ programEq
      have agrees := kept.agrees
      have inside := (agrees.owns _).io.mp locked
      have made : Made (.worker worker) middle.shared := by
        rcases (agrees.owns _).inside inside with state | ⟨_, ⟨⟩, made⟩
        · obtain ⟨_, never⟩ := (agrees.owns _).taken state
          cases never
        · exact made
      obtain ⟨final, own, result, steps, kept, leads, others⟩ :=
        kept.advance params programEq made (kept.ioEnabled inside programEq)
      have aside : Aside config final held (Function.update after (.worker worker) own) :=
        aside.trans (.worker others)
      refine ⟨final, steps, ?_⟩
      cases lock : final.shared.ioLock with
      | none => exact .inl ⟨_, kept, aside, lock⟩
      | some owner =>
          have owned := (kept.agrees.owns owner).io.mp lock
          by_cases mine : owner = .worker worker
          · subst mine
            exact .inr ⟨⟨_, kept, aside, lock⟩, result, leads⟩
          · rw [Function.update_of_ne mine] at owned
            have earlier := (agrees.owns owner).io.mpr owned
            rw [locked] at earlier
            exact absurd (Option.some.inj earlier).symm mine
  obtain ⟨final, steps, after, kept, aside, freed⟩ := driven
  exact ⟨final, after, steps, kept, aside, freed⟩

theorem Orderly.askedEnabled (orderly : Orderly config held) {task : Nat} {op : Op}
    {rest : op.Res → Py WorkerState} (made : task < config.shared.workers)
    (cancelled : 0 < config.shared.cancelling (.worker task))
    (programEq : config.program (.worker task) = .act op rest) :
    ∃ choice, patiently op choice ∧
      (exec (.worker task) op choice config.shared).isSome = true := by
  have allowed : (rules (.worker task)).allowed (held (.worker task)) op :=
    orderly.allowed programEq
  rcases blocked_or config.shared allowed with blocked | enabled
  · cases blocked with
    | lockState | awaitOuter => exact allowed.elim
    | beginTask unmade => exact absurd made unmade
    | lockIo locked calm =>
        have running : (held (.worker task)).stage = .running := allowed.2
        rcases (orderly.agrees.owns _).doomed task rfl cancelled with pending | dying | ended
        · rw [calm] at pending
          cases pending
        · rw [running] at dying
          cases dying
        · rw [running] at ended
          cases ended
  · exact enabled

theorem endTask_segment {worker : Nat} {world : World} {outcome : Except PyError Unit} :
    (machine params).Segment (.worker worker)
      (perform (.endTask outcome) >>= fun _ => pure WorkerState.done) world (.ret .done)
      { world with outcome := Function.update world.outcome worker (some outcome) } := by
  have ends : (machine params).exec (.worker worker) (.endTask outcome) .go world =
      some ((), { world with outcome := Function.update world.outcome worker (some outcome) }) :=
    rfl
  exact .act rfl ends .ret

variable (params) in
theorem Orderly.begins (orderly : Orderly config held) {worker : Nat}
    (idle : config.program (.worker worker) = .ret .fresh)
    (made : worker < config.shared.workers)
    (pending : config.shared.undelivered (.worker worker) = true) :
    ∃ final after, Patiently params config final ∧ Orderly final after ∧
      Aside config final held after ∧ final.shared.outcome worker ≠ none := by
  have found : (machine params).exec (.worker worker) .beginTask .go config.shared =
      some (true, config.shared.deliver (.worker worker)) := by
    simp [machine, exec, made, pending]
  have step : (machine params).Step config (.worker worker) .go
      ⟨{ config.shared.deliver (.worker worker) with
          outcome := Function.update config.shared.outcome worker (some (.error cancelled)) },
        Function.update config.program (.worker worker) (.ret .done)⟩ :=
    .start (by rw [idle]; rfl) rfl (.act rfl found endTask_segment)
  obtain ⟨own, kept⟩ := governed.step orderly step
  refine ⟨_, _, .step .initial ?_ step, kept, ⟨by simp, by simp⟩, by simp⟩
  simp only [Patient, idle]

variable (params) in
theorem Orderly.wakes (orderly : Orderly config held) {worker : Nat} {interval : Rat}
    (idle : config.program (.worker worker) = .ret (.sleeping interval))
    (pending : config.shared.undelivered (.worker worker) = true) :
    ∃ final after, Patiently params config final ∧ Orderly final after ∧
      Aside config final held after ∧ final.shared.outcome worker ≠ none := by
  have sleeps : (machine params).Step config (.worker worker) .go
      ⟨config.shared,
        Function.update config.program (.worker worker) (renewRound params interval)⟩ :=
    .start (by rw [idle]; rfl) rfl (.pause rfl)
  obtain ⟨asleep, kept⟩ := governed.step orderly sleeps
  have told : exec (.worker worker) (.sleep interval) .expire config.shared =
      some (.error cancelled, config.shared.deliver (.worker worker)) := by
    simp [exec, suspend, pending]
  have step : (machine params).Step
      ⟨config.shared, Function.update config.program (.worker worker) (renewRound params interval)⟩
      (.worker worker) .expire
      ⟨{ config.shared.deliver (.worker worker) with
          outcome := Function.update config.shared.outcome worker (some (.ok ())) },
        Function.update (Function.update config.program (.worker worker)
          (renewRound params interval)) (.worker worker) (.ret .done)⟩ :=
    .act (Function.update_self _ _ _) told endTask_segment
  obtain ⟨own, kept⟩ := governed.step kept step
  refine ⟨_, _, .step (.step .initial ?_ sleeps) ?_ step, kept, ⟨by simp, by simp⟩, by simp⟩
  · simp only [Patient, idle]
  · simp only [Patient, Function.update_self]
    rfl

theorem Orderly.asked (orderly : Orderly config held) {id task : Nat}
    (asked : (held (.caller id)).asked = some task)
    (alive : config.shared.outcome task = none) :
    task < config.shared.workers ∧ 0 < config.shared.cancelling (.worker task) := by
  obtain ⟨made, cancelled | ended⟩ := (orderly.agrees.owns (.caller id)).asked task asked
  · exact ⟨made, cancelled⟩
  · exact absurd alive ended

variable (params) in
theorem Orderly.restWorker (orderly : Orderly config held) {id task : Nat}
    (asked : (held (.caller id)).asked = some task) :
    ∃ final after, Patiently params config final ∧ Orderly final after ∧
      Aside config final held after ∧ (final.shared.outcome task ≠ none ∨
        (final.program (.worker task)).outcome ≠ none) := by
  let good (middle : Running) : Prop :=
    ∃ after, Orderly middle after ∧ Aside config middle held after
  let goal (middle : Running) : Prop :=
    good middle ∧ (middle.shared.outcome task ≠ none ∨
      (middle.program (.worker task)).outcome ≠ none)
  have driven : ∃ final, Patiently params config final ∧ goal final := by
    refine Machine.drive (.worker task) good goal (fun middle known ended => ⟨known, .inr ended⟩)
      ?_ config ⟨held, orderly, .refl⟩
    rintro middle op rest ⟨after, kept, aside⟩ programEq
    by_cases alive : middle.shared.outcome task = none
    · have still : (after (.caller id)).asked = some task := aside.held id ▸ asked
      obtain ⟨made, cancelled⟩ := kept.asked still alive
      obtain ⟨final, own, result, steps, kept, leads, others⟩ :=
        kept.advance params programEq made (kept.askedEnabled made cancelled programEq)
      exact ⟨final, steps, .inr ⟨⟨_, kept, aside.trans (.worker others)⟩, result, leads⟩⟩
    · exact ⟨middle, .initial, .inl ⟨⟨after, kept, aside⟩, .inl alive⟩⟩
  obtain ⟨final, steps, ⟨after, kept, aside⟩, ended⟩ := driven
  exact ⟨final, after, steps, kept, aside, ended⟩

variable (params) in
theorem Orderly.endWorker (orderly : Orderly config held) {id task : Nat}
    (asked : (held (.caller id)).asked = some task) :
    ∃ final after, Patiently params config final ∧ Orderly final after ∧
      Aside config final held after ∧ final.shared.outcome task ≠ none := by
  obtain ⟨middle, between, first, kept, aside, resting⟩ := orderly.restWorker params asked
  by_cases alive : middle.shared.outcome task = none
  · have still : (between (.caller id)).asked = some task := aside.held id ▸ asked
    obtain ⟨made, cancelled⟩ := kept.asked still alive
    have owns := kept.agrees.owns (.worker task)
    have onwards (known : ∃ final after, Patiently params middle final ∧ Orderly final after ∧
        Aside middle final between after ∧ final.shared.outcome task ≠ none) :
        ∃ final after, Patiently params config final ∧ Orderly final after ∧
          Aside config final held after ∧ final.shared.outcome task ≠ none := by
      obtain ⟨final, after, second, kept, further, ended⟩ := known
      exact ⟨final, after, first.trans second, kept, aside.trans further, ended⟩
    cases idle : middle.program (.worker task) with
    | act op rest =>
        rcases resting with ended | ended
        · exact absurd alive ended
        · rw [idle] at ended
          exact absurd rfl ended
    | raise error =>
        have left := (kept.keeps (.worker task)).promised (by rw [idle]; rfl)
        have gone : between (.worker task) = { stage := .ended } := left
        exact absurd alive (owns.ended task rfl (by rw [gone]))
    | ret state =>
        have left := (kept.keeps (.worker task)).promised (by rw [idle]; rfl)
        cases state with
        | fresh =>
            have nothing : between (.worker task) = {} := left
            refine onwards (kept.begins params idle made ?_)
            simpa [nothing] using owns.doomed task rfl cancelled
        | sleeping interval =>
            have running : between (.worker task) = { stage := .running } := left
            refine onwards (kept.wakes params idle ?_)
            simpa [running] using owns.doomed task rfl cancelled
        | done =>
            have gone : between (.worker task) = { stage := .ended } := left
            exact absurd alive (owns.ended task rfl (by rw [gone]))
  · exact ⟨middle, between, first, kept, aside, alive⟩

theorem Agrees.alone {world : World} {me other : Thread} (agrees : Agrees world held)
    (mine : (held me).state = true) (different : other ≠ me) : (held other).state = false := by
  by_contra taken
  have first := (agrees.owns me).state.mpr mine
  have second := (agrees.owns other).state.mpr (by simpa using taken)
  rw [first] at second
  exact different (Option.some.inj second).symm

theorem Orderly.ioOwner (orderly : Orderly config held) {id : Nat} {owner : Thread}
    (mine : (held (.caller id)).state = true) (free : (held (.caller id)).io = false)
    (locked : config.shared.ioLock = some owner) : ∃ worker, owner = .worker worker := by
  have agrees := orderly.agrees
  have inside := (agrees.owns owner).io.mp locked
  rcases (agrees.owns owner).inside inside with state | ⟨worker, same, _⟩
  · by_cases same : owner = .caller id
    · rw [same, free] at inside
      cases inside
    · rw [agrees.alone mine same] at state
      cases state
  · exact ⟨worker, same⟩

variable (params) in
/-- What holds up a caller in the state lock can be made to give way. -/
theorem Orderly.giveWay (orderly : Orderly config held) {id : Nat} {op : Op}
    {rest : op.Res → Py (Val (.caller id))} (mine : (held (.caller id)).state = true)
    (programEq : config.program (.caller id) = .act op rest) :
    ∃ ready after, Patiently params config ready ∧ Orderly ready after ∧
      Aside config ready held after ∧ ∃ choice, patiently op choice ∧
        (exec (.caller id) op choice ready.shared).isSome = true := by
  have allowed : (rules (.caller id)).allowed (held (.caller id)) op := orderly.allowed programEq
  rcases blocked_or config.shared allowed with blocked | enabled
  · cases blocked with
    | lockState =>
        have nothing : held (.caller id) = {} := allowed
        rw [nothing] at mine
        cases mine
    | beginTask => exact allowed.elim
    | lockIo locked =>
        obtain ⟨worker, rfl⟩ := orderly.ioOwner mine allowed.2 locked
        obtain ⟨ready, after, steps, kept, aside, freed⟩ := orderly.freeIo params locked
        refine ⟨ready, after, steps, kept, aside, .go, rfl, ?_⟩
        simp only [exec, suspend, freed]
        split <;> rfl
    | awaitOuter =>
        rename_i task _
        obtain ⟨ready, after, steps, kept, aside, ended⟩ := orderly.endWorker params allowed.2
        obtain ⟨outcome, ended⟩ := Option.ne_none_iff_exists'.mp ended
        refine ⟨ready, after, steps, kept, aside, .go, rfl, ?_⟩
        simp only [exec, suspend, ended]
        split <;> rfl
  · exact ⟨config, held, .initial, orderly, .refl, enabled⟩

variable (params) in
theorem Orderly.proceed (orderly : Orderly config held) {id : Nat} {op : Op}
    {rest : op.Res → Py (Val (.caller id))} (mine : (held (.caller id)).state = true)
    (programEq : config.program (.caller id) = .act op rest) :
    ∃ final after result, Patiently params config final ∧ Orderly final after ∧
      (rest result).Leads (final.program (.caller id)) ∧
      (∀ other, other ≠ id → final.program (.caller other) = config.program (.caller other)) ∧
      ∀ other, other ≠ .caller id → (after other).state = false := by
  obtain ⟨ready, between, steps, kept, aside, enabled⟩ := orderly.giveWay params mine programEq
  have still : ready.program (.caller id) = .act op rest := (aside.program id).trans programEq
  have inside : (between (.caller id)).state = true := aside.held id ▸ mine
  have agrees := kept.agrees
  obtain ⟨final, own, result, last, kept, leads, others⟩ :=
    kept.advance params still trivial enabled
  refine ⟨final, _, result, steps.trans last, kept, leads, ?_, ?_⟩
  · intro other different
    exact (others _ (by simpa using different)).trans (aside.program other)
  · intro other different
    rw [Function.update_of_ne different]
    exact agrees.alone inside different

variable (params) in
theorem Orderly.freeState (orderly : Orderly config held) {id : Nat}
    (mine : (held (.caller id)).state = true) :
    ∃ final after, Patiently params config final ∧ Orderly final after ∧
      final.shared.stateLock = none ∧
      ∀ other, other ≠ id → final.program (.caller other) = config.program (.caller other) := by
  let good (middle : Running) : Prop := ∃ after, Orderly middle after ∧
    (after (.caller id)).state = true ∧
    ∀ other, other ≠ id → middle.program (.caller other) = config.program (.caller other)
  let goal (middle : Running) : Prop := ∃ after, Orderly middle after ∧
    middle.shared.stateLock = none ∧
    ∀ other, other ≠ id → middle.program (.caller other) = config.program (.caller other)
  have driven : ∃ final, Patiently params config final ∧ goal final := by
    refine Machine.drive (.caller id) good goal ?_ ?_ config ⟨held, orderly, mine, fun _ _ => rfl⟩
    · rintro middle ⟨after, kept, mine, _⟩ ended
      obtain ⟨outcome, ended⟩ := Option.ne_none_iff_exists'.mp ended
      have nothing : after (.caller id) = {} := (kept.keeps _).promised ended
      rw [nothing] at mine
      cases mine
    · rintro middle op rest ⟨after, kept, mine, others⟩ programEq
      obtain ⟨final, last, result, steps, kept, leads, same, outside⟩ :=
        kept.proceed params mine programEq
      have others (other : Nat) (different : other ≠ id) :
          final.program (.caller other) = config.program (.caller other) :=
        (same other different).trans (others other different)
      refine ⟨final, steps, ?_⟩
      by_cases still : (last (.caller id)).state = true
      · exact .inr ⟨⟨last, kept, still, others⟩, result, leads⟩
      · refine .inl ⟨last, kept, ?_, others⟩
        rw [Option.eq_none_iff_forall_ne_some]
        intro owner locked
        have inside := (kept.agrees.owns owner).state.mp locked
        by_cases same : owner = .caller id
        · exact still (same ▸ inside)
        · rw [outside owner same] at inside
          cases inside
  obtain ⟨final, steps, after, kept, freed, others⟩ := driven
  exact ⟨final, after, steps, kept, freed, others⟩

theorem initial_orderly : Orderly initial fun _ => {} where
  agrees :=
    { owns := fun thread => by constructor <;> simp [initial]
      task := by simp [initial] }
  keeps := by
    intro thread
    cases thread with
    | caller id => rfl
    | worker worker => rfl
    | other id => rfl

/-- No operation gets stuck. Whatever was cancelled or failed before, an operation in progress can
be completed without another one, on a network that fails from now on. -/
theorem operations_complete (reached : Reached params config) (id : Nat) :
    ∃ final, (machine params).Reachable Patient config final ∧
      (final.program (.caller id)).outcome ≠ none := by
  obtain ⟨held, orderly⟩ := governed.reachable initial_orderly reached
  let good (middle : Running) : Prop := ∃ after, Orderly middle after
  let goal (middle : Running) : Prop := (middle.program (.caller id)).outcome ≠ none
  refine Machine.drive (.caller id) good goal (fun _ _ ended => ended) ?_ config ⟨held, orderly⟩
  rintro middle op rest ⟨after, kept⟩ programEq
  by_cases mine : (after (.caller id)).state = true
  · obtain ⟨final, last, result, steps, kept, leads, _⟩ := kept.proceed params mine programEq
    exact ⟨final, steps, .inr ⟨⟨last, kept⟩, result, leads⟩⟩
  · have allowed : (rules (.caller id)).allowed (after (.caller id)) op := kept.allowed programEq
    -- Outside the state lock a caller can only be held up by another one that has it.
    have ready : ∃ ready between, Patiently params middle ready ∧ Orderly ready between ∧
        ready.program (.caller id) = .act op rest ∧ ∃ choice, patiently op choice ∧
          (exec (.caller id) op choice ready.shared).isSome = true := by
      rcases blocked_or middle.shared allowed with blocked | enabled
      · cases blocked with
        | lockIo => exact absurd allowed.1 mine
        | awaitOuter => exact absurd allowed.1 mine
        | beginTask => exact allowed.elim
        | lockState locked =>
            rename_i owner
            have inside := (kept.agrees.owns owner).state.mp locked
            obtain ⟨other, rfl⟩ := (kept.agrees.owns owner).taken inside
            obtain ⟨ready, between, steps, kept, freed, others⟩ := kept.freeState params inside
            have different : id ≠ other := fun same => mine (same ▸ inside)
            refine ⟨ready, between, steps, kept, (others id different).trans programEq, .go, rfl,
              ?_⟩
            simp only [exec, suspend, freed]
            split <;> rfl
      · exact ⟨middle, after, .initial, kept, programEq, enabled⟩
    obtain ⟨ready, between, steps, kept, programEq, enabled⟩ := ready
    obtain ⟨final, own, result, last, kept, leads, _⟩ :=
      kept.advance params programEq trivial enabled
    exact ⟨final, steps.trans last, .inr ⟨⟨_, kept⟩, result, leads⟩⟩

/-- A release waits in the I/O lock for a renewal task that waits for that lock, and a close waits
for the release. -/
theorem operations_complete_demo : ∃ config, Reached demoParams config ∧
    config.shared.stateLock = some (.caller 0) ∧ config.shared.ioLock = some (.caller 0) ∧
    config.shared.outcome 0 = none ∧ (config.program (.worker 0)).outcome = none ∧
    (config.program (.caller 1)).outcome = none ∧
    ∃ final, (machine demoParams).Reachable Patient config final ∧
      (final.program (.caller 1)).outcome ≠ none := by
  obtain ⟨config, reached, passed⟩ := (machine demoParams).exists_run (fun _ _ _ => True) initial
    ((machine demoParams).schedule initial
      (acquiring 0 (str "ok t 33") ++ turns (.worker 0) [.go, .go] ++
        [turnTo (.worker 0) .expire locksIo] ++
        turns (.caller 0) [.call .release] ++ turns (.caller 1) [.call .close]))
    (fun _ _ _ => trivial)
    (fun config => config.shared.stateLock == some (.caller 0) &&
      config.shared.ioLock == some (.caller 0) && (config.shared.outcome 0).isNone &&
      (config.program (.worker 0)).outcome.isNone && (config.program (.caller 1)).outcome.isNone)
    (by decide +kernel)
  simp only [Bool.and_eq_true, beq_iff_eq, Option.isNone_iff_eq_none] at passed
  obtain ⟨⟨⟨⟨locked, inside⟩, alive⟩, queued⟩, waiting⟩ := passed
  exact ⟨config, reached, locked, inside, alive, queued, waiting, operations_complete reached 1⟩

end DflockdClient.Async.Locks
