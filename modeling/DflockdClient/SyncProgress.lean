import DflockdClient.SyncLocks
import DflockdClient.SyncRuns

/-!
No call gets stuck: from every state that a run reaches, whatever failed before, a
call in progress can be completed without a new call, against a network on which
every exchange fails, and with joins that wait for their thread.
-/

namespace DflockdClient.Sync.Locks

open Interleaving

variable {faults : Faults} {params : Params} {thread : Thread} {choice : Choice}

def control (world : World) :
    (Option Thread × Option Thread) × (Nat × (Nat → Bool) × Bool) ×
      Nat × (Nat → Nat) × (Nat → Bool) × (Nat → Bool) :=
  ((world.stateLock, world.ioLock), (world.stopEvent, world.eventSet, world.closed),
    world.workers, world.workerEvent, world.started, world.alive)

/-- What a thread has is what the world says it has. -/
structure Owns (world : World) (thread : Thread) (own : Held) : Prop where
  state : world.stateLock = some thread ↔ own.state = true
  taken : own.state = true → ∃ id, thread = .caller id
  io : world.ioLock = some thread ↔ own.io = true
  inside : own.io = true → own.state = true ∨ ∃ worker, thread = .worker worker
  outside : own.state = false → own.event = none ∧ own.closing = false ∧ own.stopped = false ∧
    own.reopened = false ∧ own.made = none
  event : ∀ event, own.event = some event → event = world.stopEvent
  stopped : own.stopped = true → world.eventSet world.stopEvent = true
  reopened : own.reopened = true → world.closed = false
  made : ∀ worker, own.made = some worker → worker < world.workers ∧ world.started worker = false
  begun : ∀ worker, thread = .worker worker → ∀ event, own.begun = some event →
    world.started worker = true ∧ world.workerEvent worker = event
  ended : ∀ worker, thread = .worker worker → own.ended = true →
    world.started worker = true ∧ world.alive worker = false

structure Agrees (world : World) (held : Thread → Held) : Prop where
  owns : ∀ thread, Owns world thread (held thread)
  closed : world.closed = true → (∀ thread, (held thread).closing = false) →
    world.eventSet world.stopEvent = true
  past : ∀ event, event < world.stopEvent → world.eventSet event = true
  workerPast : ∀ worker, worker < world.workers → world.workerEvent worker ≤ world.stopEvent
  startedMade : ∀ worker, world.started worker = true → worker < world.workers

theorem Agrees.of_same {before after : World} {held : Thread → Held} (agrees : Agrees before held)
    (same : control after = control before) : Agrees after held := by
  simp only [control, Prod.mk.injEq] at same
  obtain ⟨⟨stateLock, ioLock⟩, ⟨stopEvent, eventSet, closed⟩, workers, workerEvent, started,
    alive⟩ := same
  refine ⟨fun thread => ?_, ?_, ?_, ?_, ?_⟩
  · have owns := agrees.owns thread
    constructor
    · rw [stateLock]
      exact owns.state
    · exact owns.taken
    · rw [ioLock]
      exact owns.io
    · exact owns.inside
    · exact owns.outside
    · rw [stopEvent]
      exact owns.event
    · rw [stopEvent, eventSet]
      exact owns.stopped
    · rw [closed]
      exact owns.reopened
    · rw [workers, started]
      exact owns.made
    · rw [started, workerEvent]
      exact owns.begun
    · rw [started, alive]
      exact owns.ended
  · rw [closed, stopEvent, eventSet]
    exact agrees.closed
  · rw [stopEvent, eventSet]
    exact agrees.past
  · rw [stopEvent, workers, workerEvent]
    exact agrees.workerPast
  · rw [started, workers]
    exact agrees.startedMade

theorem exec_plain {op : Op} {result : op.Res} {world after : World}
    (plain : untied op = true ∨ op = .getClosed ∨ op = .getStopEvent)
    (executed : exec faults thread op choice world = some (result, after)) :
    control after = control world := by
  cases op <;> simp only [exec] at executed <;> try (rcases plain with h | h | h <;> cases h)
  all_goals
    repeat' split at executed
    all_goals
      cases executed
      try rfl

section Moves

variable {before after : World} {held : Thread → Held} {me other : Thread} {new : Held}

theorem Agrees.alone (agrees : Agrees before held) (mine : (held me).state = true)
    (different : other ≠ me) : (held other).state = false := by
  by_contra taken
  have first := (agrees.owns me).state.mpr mine
  have second := (agrees.owns other).state.mpr (by simpa using taken)
  rw [first] at second
  exact different (Option.some.inj second).symm

theorem Owns.bystander {own : Held} (owns : Owns before other own) (outside : own.state = false)
    (state : after.stateLock ≠ some other)
    (io : after.ioLock = some other ↔ before.ioLock = some other)
    (threads : ∀ worker, other = .worker worker → before.started worker = true →
      after.started worker = true ∧ after.workerEvent worker = before.workerEvent worker ∧
        after.alive worker = before.alive worker) :
    Owns after other own := by
  obtain ⟨event, closing, stopped, reopened, made⟩ := owns.outside outside
  constructor
  · simp [state, outside]
  · exact owns.taken
  · exact io.trans owns.io
  · exact owns.inside
  · exact owns.outside
  · simp [event]
  · simp [stopped]
  · simp [reopened]
  · simp [made]
  · intro worker same event found
    obtain ⟨started, eventEq⟩ := owns.begun worker same event found
    obtain ⟨stays, sameEvent, _⟩ := threads worker same started
    exact ⟨stays, sameEvent.trans eventEq⟩
  · intro worker same found
    obtain ⟨started, dead⟩ := owns.ended worker same found
    obtain ⟨stays, _, sameAlive⟩ := threads worker same started
    exact ⟨stays, sameAlive.trans dead⟩

theorem Agrees.holder (agrees : Agrees before held) (mine : (held me).state = true)
    (own : Owns after me new) (state : after.stateLock = before.stateLock ∨ after.stateLock = none)
    (io : ∀ other, other ≠ me → (after.ioLock = some other ↔ before.ioLock = some other))
    (threads : ∀ worker, before.started worker = true → after.started worker = true ∧
      after.workerEvent worker = before.workerEvent worker ∧
        after.alive worker = before.alive worker)
    (closed : after.closed = true → new.closing = false → after.eventSet after.stopEvent = true)
    (past : ∀ event, event < after.stopEvent → after.eventSet event = true)
    (workerPast : ∀ worker, worker < after.workers → after.workerEvent worker ≤ after.stopEvent)
    (startedMade : ∀ worker, after.started worker = true → worker < after.workers) :
    Agrees after (Function.update held me new) := by
  refine ⟨fun other => ?_, fun shut calm => ?_, past, workerPast, startedMade⟩
  · by_cases same : other = me
    · subst same
      simpa using own
    · rw [Function.update_of_ne same]
      have outside := agrees.alone mine same
      refine (agrees.owns other).bystander outside ?_ (io other same) fun worker _ => threads worker
      intro taken
      rcases state with kept | freed
      · rw [kept, (agrees.owns me).state.mpr mine] at taken
        exact same (Option.some.inj taken).symm
      · rw [freed] at taken
        cases taken
  · exact closed shut (by simpa using calm me)

theorem Agrees.lockState {me : Nat} (agrees : Agrees before held) (free : before.stateLock = none)
    (nothing : held (.caller me) = {}) :
    Agrees { before with stateLock := some (.caller me), lastReturn := none }
      (Function.update held (.caller me) { state := true }) := by
  refine ⟨fun other => ?_, fun shut calm => ?_, agrees.past, agrees.workerPast, agrees.startedMade⟩
  · by_cases same : other = .caller me
    · subst same
      have owns := agrees.owns (.caller me)
      rw [nothing] at owns
      have io : before.ioLock ≠ some (.caller me) := by simpa using owns.io
      simp only [Function.update_self]
      constructor <;> simp [io]
    · rw [Function.update_of_ne same]
      have owns := agrees.owns other
      have outside : (held other).state = false := by
        simpa [free] using owns.state
      exact owns.bystander outside (by simpa using Ne.symm same) Iff.rfl
        fun _ _ started => ⟨started, rfl, rfl⟩
  · refine agrees.closed shut fun other => ?_
    by_cases same : other = .caller me
    · rw [same, nothing]
    · simpa [Function.update_of_ne same] using calm other

theorem Agrees.settled (agrees : Agrees before held) (mine : (held me).state = true)
    (calm : (held me).closing = false) (shut : before.closed = true) :
    before.eventSet before.stopEvent = true := by
  refine agrees.closed shut fun other => ?_
  by_cases same : other = me
  · rw [same, calm]
  · exact ((agrees.owns other).outside (agrees.alone mine same)).2.1

theorem Agrees.learns (agrees : Agrees before held) (mine : (held me).state = true)
    (owns : Owns before me new) (calm : new.closing = (held me).closing) :
    Agrees before (Function.update held me new) :=
  agrees.holder mine owns (.inl rfl) (fun _ _ => Iff.rfl) (fun _ started => ⟨started, rfl, rfl⟩)
    (fun shut settled => agrees.settled mine (calm ▸ settled) shut) agrees.past agrees.workerPast
    agrees.startedMade

variable {id : Nat}

theorem Agrees.unlockState (agrees : Agrees before held) {returned : Option Call}
    (mine : (held (.caller id)).state = true) (free : (held (.caller id)).io = false)
    (calm : (held (.caller id)).closing = false) :
    Agrees { before with stateLock := none, lastReturn := returned }
      (Function.update held (.caller id) {}) := by
  have owns := agrees.owns (.caller id)
  have unlocked : before.ioLock ≠ some (.caller id) := by simpa [free] using owns.io
  refine agrees.holder mine ?_ (.inr rfl) (fun _ _ => Iff.rfl)
    (fun _ started => ⟨started, rfl, rfl⟩) (fun shut _ => agrees.settled mine calm shut) agrees.past
    agrees.workerPast agrees.startedMade
  constructor <;> simp [unlocked]

theorem Agrees.lockIo (agrees : Agrees before held) (mine : (held (.caller id)).state = true)
    (free : before.ioLock = none) :
    Agrees { before with ioLock := some (.caller id) }
      (Function.update held (.caller id) { held (.caller id) with io := true }) := by
  have owns := agrees.owns (.caller id)
  refine agrees.holder mine ?_ (.inl rfl) ?_ (fun _ started => ⟨started, rfl, rfl⟩)
    (fun shut settled => agrees.settled mine settled shut) agrees.past agrees.workerPast
    agrees.startedMade
  · exact { owns with io := by simp, inside := fun _ => .inl mine }
  · intro other different
    simp [free, Ne.symm different]

theorem Agrees.unlockIo (agrees : Agrees before held) (mine : (held (.caller id)).state = true)
    (locked : (held (.caller id)).io = true) :
    Agrees { before with ioLock := none, armed := none }
      (Function.update held (.caller id) { held (.caller id) with io := false }) := by
  have owns := agrees.owns (.caller id)
  refine agrees.holder mine ?_ (.inl rfl) ?_ (fun _ started => ⟨started, rfl, rfl⟩)
    (fun shut settled => agrees.settled mine settled shut) agrees.past agrees.workerPast
    agrees.startedMade
  · exact { owns with io := by simp, inside := by simp }
  · intro other different
    simp [owns.io.mpr locked, Ne.symm different]

theorem Agrees.setClosed (agrees : Agrees before held) (mine : (held (.caller id)).state = true)
    {closed : Bool} :
    Agrees { before with closed := closed } (Function.update held (.caller id)
      { held (.caller id) with
        closing := closed && !(held (.caller id)).stopped
        reopened := !closed }) := by
  have owns := agrees.owns (.caller id)
  refine agrees.holder mine ?_ (.inl rfl) (fun _ _ => Iff.rfl)
    (fun _ started => ⟨started, rfl, rfl⟩) ?_ agrees.past agrees.workerPast agrees.startedMade
  · exact { owns with outside := by simp [mine], reopened := by simp }
  · intro shut settled
    have now : closed = true := shut
    exact owns.stopped (by simpa [now] using settled)

theorem Agrees.setEvent (agrees : Agrees before held) (mine : (held (.caller id)).state = true)
    {event : Nat} :
    Agrees { before with eventSet := Function.update before.eventSet event true }
      (Function.update held (.caller id) (callerRules.after (held (.caller id)) (.setEvent event)
        ())) := by
  have owns := agrees.owns (.caller id)
  have more {other : Nat} (known : before.eventSet other = true) :
      Function.update before.eventSet event true other = true := by
    by_cases same : other = event
    · simp [same]
    · simpa [Function.update_of_ne same] using known
  by_cases current : (held (.caller id)).event = some event
  · have same : callerRules.after (held (.caller id)) (.setEvent event) () =
        { held (.caller id) with closing := false, stopped := true } := if_pos current
    have set : Function.update before.eventSet event true before.stopEvent = true := by
      simp [owns.event event current]
    rw [same]
    refine agrees.holder mine ?_ (.inl rfl) (fun _ _ => Iff.rfl)
      (fun _ started => ⟨started, rfl, rfl⟩) (fun _ _ => set)
      (fun event earlier => more (agrees.past event earlier)) agrees.workerPast agrees.startedMade
    exact { owns with outside := by simp [mine], stopped := fun _ => set }
  · have same : callerRules.after (held (.caller id)) (.setEvent event) () = held (.caller id) :=
      if_neg current
    rw [same]
    refine agrees.holder mine ?_ (.inl rfl) (fun _ _ => Iff.rfl)
      (fun _ started => ⟨started, rfl, rfl⟩)
      (fun shut settled => more (agrees.settled mine settled shut))
      (fun event earlier => more (agrees.past event earlier)) agrees.workerPast agrees.startedMade
    exact { owns with stopped := fun stopped => more (owns.stopped stopped) }

theorem Agrees.newStopEvent (agrees : Agrees before held)
    (mine : (held (.caller id)).state = true) (stopped : (held (.caller id)).stopped = true)
    (reopened : (held (.caller id)).reopened = true) :
    Agrees { before with stopEvent := before.stopEvent + 1 }
      (Function.update held (.caller id)
        { held (.caller id) with event := none, stopped := false }) := by
  have owns := agrees.owns (.caller id)
  refine agrees.holder mine ?_ (.inl rfl) (fun _ _ => Iff.rfl)
    (fun _ started => ⟨started, rfl, rfl⟩) ?_ ?_ ?_ agrees.startedMade
  · exact { owns with outside := by simp [mine], event := by simp, stopped := by simp }
  · intro shut
    have now : before.closed = true := shut
    rw [owns.reopened reopened] at now
    cases now
  · intro event earlier
    rcases Nat.lt_succ_iff_lt_or_eq.mp earlier with before | now
    · exact agrees.past event before
    · exact now ▸ owns.stopped stopped
  · exact fun worker made => (agrees.workerPast worker made).trans (Nat.le_succ _)

theorem Agrees.newThread (agrees : Agrees before held) (mine : (held (.caller id)).state = true)
    {event : Nat} (current : (held (.caller id)).event = some event) :
    Agrees { before with
        workers := before.workers + 1
        workerEvent := Function.update before.workerEvent before.workers event }
      (Function.update held (.caller id)
        { held (.caller id) with made := some before.workers }) := by
  have owns := agrees.owns (.caller id)
  have unstarted : before.started before.workers = false := by
    by_contra started
    exact Nat.lt_irrefl _ (agrees.startedMade before.workers (by simpa using started))
  have earlier {worker : Nat} (below : worker < before.workers) :
      Function.update before.workerEvent before.workers event worker = before.workerEvent worker :=
    Function.update_of_ne (Nat.ne_of_lt below) _ _
  refine agrees.holder mine ?_ (.inl rfl) (fun _ _ => Iff.rfl) ?_
    (fun shut settled => agrees.settled mine settled shut) agrees.past ?_ ?_
  · exact { owns with
      outside := by simp [mine]
      made := by
        rintro worker ⟨⟩
        exact ⟨Nat.lt_succ_self _, unstarted⟩
      begun := by simp
      ended := by simp }
  · exact fun worker started => ⟨started, earlier (agrees.startedMade worker started), rfl⟩
  · intro worker made
    rcases Nat.lt_succ_iff_lt_or_eq.mp made with below | new
    · simpa only [earlier below] using agrees.workerPast worker below
    · simpa [new] using Nat.le_of_eq (owns.event event current)
  · exact fun worker started => Nat.lt_succ_of_lt (agrees.startedMade worker started)

theorem Agrees.startThread (agrees : Agrees before held)
    (mine : (held (.caller id)).state = true) {worker : Nat}
    (made : (held (.caller id)).made = some worker) :
    Agrees { before with
        started := Function.update before.started worker true
        alive := Function.update before.alive worker true }
      (Function.update held (.caller id) { held (.caller id) with made := none }) := by
  have owns := agrees.owns (.caller id)
  obtain ⟨known, unstarted⟩ := owns.made worker made
  refine agrees.holder mine ?_ (.inl rfl) (fun _ _ => Iff.rfl) ?_
    (fun shut settled => agrees.settled mine settled shut) agrees.past agrees.workerPast ?_
  · exact { owns with
      outside := by simp [mine]
      made := by simp
      begun := by simp
      ended := by simp }
  · intro other started
    have different : other ≠ worker := by
      rintro rfl
      rw [unstarted] at started
      cases started
    simp only [Function.update_of_ne different]
    exact ⟨started, trivial, trivial⟩
  · intro other started
    by_cases same : other = worker
    · exact same ▸ known
    · exact agrees.startedMade other (by simpa only [Function.update_of_ne same] using started)

theorem caller_executes {op : Op} {result : op.Res} (agrees : Agrees before held)
    (allowed : callerRules.allowed (held (.caller id)) op)
    (executed : exec faults (.caller id) op choice before = some (result, after)) :
    Agrees after (Function.update held (.caller id)
      (callerRules.after (held (.caller id)) op result)) := by
  have owns := agrees.owns (.caller id)
  have stands (same : control after = control before)
      (kept : callerRules.after (held (.caller id)) op result = held (.caller id)) :
      Agrees after (Function.update held (.caller id)
        (callerRules.after (held (.caller id)) op result)) := by
    rw [kept, Function.update_eq_self]
    exact agrees.of_same same
  cases op with
  | lockState =>
      simp only [exec] at executed
      split at executed
      · rename_i free
        cases executed
        have nothing : held (.caller id) = {} := allowed
        rw [nothing]
        exact agrees.lockState free nothing
      · cases executed
  | unlockState returned =>
      cases executed
      exact agrees.unlockState allowed.1 allowed.2.1 allowed.2.2
  | lockIo =>
      simp only [exec] at executed
      split at executed
      · rename_i free
        cases executed
        exact agrees.lockIo allowed.1 free
      · cases executed
  | unlockIo =>
      cases executed
      exact agrees.unlockIo allowed.1 allowed.2
  | getStopEvent =>
      cases executed
      have mine : (held (.caller id)).state = true := allowed
      refine agrees.learns mine ?_ rfl
      exact { owns with outside := by simp [callerRules, mine], event := by simp [callerRules] }
  | getClosed =>
      cases executed
      have mine : (held (.caller id)).state = true := allowed
      refine agrees.learns mine ?_ rfl
      refine { owns with outside := by simp [callerRules, mine], stopped := ?_ }
      intro known
      simp only [callerRules, Bool.or_eq_true, Bool.and_eq_true, Bool.not_eq_true'] at known
      rcases known with known | ⟨shut, calm⟩
      · exact owns.stopped known
      · exact agrees.settled mine calm shut
  | setClosed closed =>
      cases executed
      exact agrees.setClosed allowed
  | setEvent event =>
      cases executed
      exact agrees.setEvent allowed
  | newStopEvent =>
      cases executed
      exact agrees.newStopEvent allowed.1 allowed.2.1 allowed.2.2
  | newThread event =>
      cases executed
      exact agrees.newThread allowed.1 allowed.2
  | startThread worker =>
      have forgets : Agrees before (Function.update held (.caller id)
          { held (.caller id) with made := none }) := by
        refine agrees.learns allowed.1 ?_ rfl
        exact { owns with outside := by simp [allowed.1], made := by simp }
      simp only [exec] at executed
      split at executed
      · split at executed
        · cases executed
          exact forgets
        · cases executed
      · cases executed
        exact agrees.startThread allowed.1 allowed.2
  | joinThread worker =>
      refine stands ?_ rfl
      simp only [exec] at executed
      repeat' split at executed
      all_goals
        cases executed
        try rfl
  | beginThread | endThread => exact allowed.elim
  | _ => exact stands (exec_plain (.inl rfl) executed) rfl

variable {worker : Nat}

theorem Agrees.works (agrees : Agrees before held)
    (same : control { after with ioLock := before.ioLock, alive := before.alive } =
      control before)
    (own : Owns after (.worker worker) new)
    (io : ∀ other, other ≠ .worker worker →
      (after.ioLock = some other ↔ before.ioLock = some other))
    (alive : ∀ other, other ≠ worker → after.alive other = before.alive other)
    (calm : new.closing = (held (.worker worker)).closing) :
    Agrees after (Function.update held (.worker worker) new) := by
  simp only [control, Prod.mk.injEq] at same
  obtain ⟨⟨stateLock, _⟩, ⟨stopEvent, eventSet, closed⟩, workers, workerEvent, started, _⟩ := same
  refine ⟨fun other => ?_, ?_, ?_, ?_, ?_⟩
  · by_cases mine : other = .worker worker
    · subst mine
      simpa using own
    · rw [Function.update_of_ne mine]
      have owns := agrees.owns other
      constructor
      · rw [stateLock]
        exact owns.state
      · exact owns.taken
      · rw [io other mine]
        exact owns.io
      · exact owns.inside
      · exact owns.outside
      · rw [stopEvent]
        exact owns.event
      · rw [stopEvent, eventSet]
        exact owns.stopped
      · rw [closed]
        exact owns.reopened
      · rw [workers, started]
        exact owns.made
      · rw [started, workerEvent]
        exact owns.begun
      · rintro number rfl ended
        rw [started, alive number (by simpa using mine)]
        exact owns.ended number rfl ended
  · rw [closed, stopEvent, eventSet]
    intro shut settled
    refine agrees.closed shut fun other => ?_
    by_cases mine : other = .worker worker
    · rw [mine, ← calm]
      simpa using settled (.worker worker)
    · simpa [Function.update_of_ne mine] using settled other
  · rw [stopEvent, eventSet]
    exact agrees.past
  · rw [workers, workerEvent, stopEvent]
    exact agrees.workerPast
  · rw [started, workers]
    exact agrees.startedMade

theorem worker_executes {op : Op} {result : op.Res} (agrees : Agrees before held)
    (allowed : workerRules.allowed (held (.worker worker)) op)
    (executed : exec faults (.worker worker) op choice before = some (result, after)) :
    Agrees after (Function.update held (.worker worker)
      (workerRules.after (held (.worker worker)) op result)) := by
  have owns := agrees.owns (.worker worker)
  have stands (plain : untied op = true ∨ op = .getClosed ∨ op = .getStopEvent)
      (kept : workerRules.after (held (.worker worker)) op result = held (.worker worker)) :
      Agrees after (Function.update held (.worker worker)
        (workerRules.after (held (.worker worker)) op result)) := by
    rw [kept, Function.update_eq_self]
    exact agrees.of_same (exec_plain plain executed)
  cases op with
  | lockIo =>
      simp only [exec] at executed
      split at executed
      · rename_i free
        cases executed
        refine agrees.works rfl ?_ (fun other different => ?_) (fun _ _ => rfl) rfl
        · exact { owns with io := by simp [workerRules], inside := fun _ => .inr ⟨worker, rfl⟩ }
        · simp [free, Ne.symm different]
      · cases executed
  | unlockIo =>
      cases executed
      have locked : (held (.worker worker)).io = true := allowed
      refine agrees.works rfl ?_ (fun other different => ?_) (fun _ _ => rfl) rfl
      · exact { owns with io := by simp [workerRules], inside := by simp [workerRules] }
      · simp [owns.io.mpr locked, Ne.symm different]
  | beginThread =>
      simp only [exec] at executed
      split at executed
      · rename_i started
        cases executed
        refine agrees.works rfl ?_ (fun _ _ => Iff.rfl) (fun _ _ => rfl) rfl
        refine { owns with begun := ?_ }
        rintro number ⟨⟩ event ⟨⟩
        exact ⟨started, rfl⟩
      · cases executed
  | endThread =>
      cases executed
      have begun : (held (.worker worker)).begun.isSome = true := allowed
      obtain ⟨event, begun⟩ := Option.isSome_iff_exists.mp begun
      refine agrees.works rfl ?_ (fun _ _ => Iff.rfl)
        (fun other different => Function.update_of_ne different _ _) rfl
      refine { owns with ended := ?_ }
      rintro number ⟨⟩ _
      exact ⟨(owns.begun worker rfl event begun).1, by simp⟩
  | lockState | unlockState | setClosed | setEvent | newStopEvent | newThread | startThread
  | joinThread => exact allowed.elim
  | getStopEvent => exact stands (.inr (.inr rfl)) rfl
  | getClosed => exact stands (.inr (.inl rfl)) rfl
  | _ => exact stands (.inl rfl) rfl

theorem worker_returns {op : Op} {result : op.Res} {own : Held}
    (executed : exec faults (.worker worker) op choice before = some (result, after)) :
    workerRules.returns own op result := by
  cases op with
  | send conn request =>
      rintro error rfl
      rcases send_cases executed with ⟨_, same, _, raises⟩ | ⟨_, same, raises, _⟩ | ⟨same, _⟩ <;>
        cases same
      · simpa [Faults.raises] using raises
      · simpa [Faults.raises] using raises
  | recv conn cmd =>
      rintro error rfl
      rcases recv_cases executed with ⟨_, same, raises, _⟩ | ⟨_, same, _⟩ <;> cases same
      simpa [Faults.raises] using raises
  | _ => trivial

end Moves

theorem governed : Governed (machine faults params) rules Left Agrees fun _ _ => True where
  executes := by
    intro world held thread op choice result after agrees allowed executed
    cases thread with
    | caller id => exact ⟨trivial, caller_executes agrees allowed executed⟩
    | worker worker => exact ⟨worker_returns executed, worker_executes agrees allowed executed⟩
  starts := by
    intro thread outcome choice program held left started
    cases thread with
    | caller id =>
        cases choice with
        | call call =>
            cases started
            have nothing : held = {} := left
            rw [nothing]
            exact program_obeys call
        | _ => cases started
    | worker worker =>
        cases outcome with
        | error error => cases started
        | ok state =>
            cases state with
            | fresh =>
                cases started
                have nothing : held = {} := left
                rw [nothing]
                exact renewLoop_obeys
            | sleeping event interval =>
                cases started
                have begun : held = { begun := some event } := left
                rw [begun]
                exact renewRound_obeys
            | done => cases started
  stays := fun _ _ => trivial
  running := by
    intro world held thread op agrees ready allowed running
    cases running

/-! Patient runs -/

/-- What the environment may choose from now on: no call, no join that gives up, and a network on
which everything fails. -/
def patiently (op : Op) (choice : Choice) : Prop :=
  match op with
  | .dial _ _ | .send _ _ | .recv _ _ => ∃ error, choice = .fail error ∧ error.isException = true
  | .waitEvent _ _ => choice = .go ∨ choice = .expire
  | _ => choice = .go

abbrev Running := Config Op Op.Res PyError Thread Val World

def Patient (config : Running) (thread : Thread) (choice : Choice) : Prop :=
  match config.program thread with
  | .act op _ => patiently op choice
  | _ => choice = .go

variable (faults params) in
abbrev Patiently (config final : Running) : Prop :=
  (machine faults params).Reachable Patient config final

abbrev Orderly (config : Running) (held : Thread → Held) : Prop :=
  Disciplined rules Left Agrees config held

/-- What can hold an allowed operation up. -/
inductive Blocked (world : World) (thread : Thread) : Op → Prop
  | lockState {owner} : world.stateLock = some owner → Blocked world thread .lockState
  | lockIo {owner} : world.ioLock = some owner → Blocked world thread .lockIo
  | joinThread {worker} : world.started worker = true → world.alive worker = true →
      Blocked world thread (.joinThread worker)
  | beginThread {worker} : thread = .worker worker → world.started worker = false →
      Blocked world thread .beginThread

variable (faults) in
theorem blocked_or (world : World) {own : Held} {op : Op}
    (allowed : (rules thread).allowed own op) :
    Blocked world thread op ∨
      ∃ choice, patiently op choice ∧ (exec faults thread op choice world).isSome = true := by
  have ordinary : (runtimeError []).isException = true := rfl
  cases op with
  | lockState =>
      cases locked : world.stateLock with
      | some owner => exact .inl (.lockState locked)
      | none => exact .inr ⟨.go, rfl, by simp [exec, locked]⟩
  | lockIo =>
      cases locked : world.ioLock with
      | some owner => exact .inl (.lockIo locked)
      | none => exact .inr ⟨.go, rfl, by simp [exec, locked]⟩
  | joinThread worker =>
      cases started : world.started worker with
      | false => exact .inr ⟨.go, rfl, by simp [exec, started]⟩
      | true =>
          cases alive : world.alive worker with
          | true => exact .inl (.joinThread started alive)
          | false => exact .inr ⟨.go, rfl, by simp [exec, started, alive]⟩
  | beginThread =>
      cases thread with
      | caller id => exact allowed.elim
      | worker worker =>
          cases started : world.started worker with
          | false => exact .inl (.beginThread rfl started)
          | true => exact .inr ⟨.go, rfl, by simp [exec, started]⟩
  | endThread =>
      cases thread with
      | caller id => exact allowed.elim
      | worker worker => exact .inr ⟨.go, rfl, rfl⟩
  | dial host port =>
      exact .inr ⟨.fail _, ⟨_, rfl, ordinary⟩, by simp [exec, Faults.raises, ordinary]⟩
  | send conn request =>
      exact .inr ⟨.fail _, ⟨_, rfl, ordinary⟩, by simp [exec, Faults.raises, ordinary]⟩
  | recv conn cmd =>
      exact .inr ⟨.fail _, ⟨_, rfl, ordinary⟩, by simp [exec, Faults.raises, ordinary]⟩
  | waitEvent event interval => exact .inr ⟨.expire, .inr rfl, rfl⟩
  | isSet event =>
      refine .inr ⟨.go, rfl, ?_⟩
      simp only [exec]
      split <;> rfl
  | _ => exact .inr ⟨.go, rfl, rfl⟩

variable {config : Running} {held : Thread → Held}

variable (params) in
theorem Orderly.advance {op : Op} {rest : op.Res → Py (Val thread)}
    (orderly : Orderly config held) (programEq : config.program thread = .act op rest)
    (patient : patiently op choice) {result : op.Res} {after : World}
    (executed : exec faults thread op choice config.shared = some (result, after)) :
    Patiently faults params config
        ⟨after, Function.update config.program thread (rest result)⟩ ∧
      Orderly ⟨after, Function.update config.program thread (rest result)⟩
        (Function.update held thread ((rules thread).after (held thread) op result)) := by
  have keeps := orderly.keeps thread
  rw [programEq] at keeps
  have performs : (machine faults params).exec thread op choice config.shared =
      some (result, after) := executed
  obtain ⟨returned, agreed⟩ := governed.executes orderly.agrees keeps.1 performs
  refine ⟨.step .initial ?_ (.act programEq executed (.here fun _ => rfl)),
    orderly.moved agreed (keepsTo_next keeps returned)⟩
  simp only [Patient, programEq, patient]

theorem Orderly.allowed {op : Op} {rest : op.Res → Py (Val thread)} (orderly : Orderly config held)
    (programEq : config.program thread = .act op rest) :
    (rules thread).allowed (held thread) op := by
  have keeps := orderly.keeps thread
  rw [programEq] at keeps
  exact keeps.1

structure Aside (config final : Running) (before after : Thread → Held) : Prop where
  program : ∀ id, final.program (.caller id) = config.program (.caller id)
  held : ∀ id, after (.caller id) = before (.caller id)
  started : final.shared.started = config.shared.started
  eventSet : final.shared.eventSet = config.shared.eventSet
  workerEvent : final.shared.workerEvent = config.shared.workerEvent
  stateLock : final.shared.stateLock = config.shared.stateLock

theorem Aside.refl : Aside config config held held :=
  ⟨fun _ => rfl, fun _ => rfl, rfl, rfl, rfl, rfl⟩

theorem Aside.trans {middle final : Running} {between after : Thread → Held}
    (first : Aside config middle held between) (second : Aside middle final between after) :
    Aside config final held after :=
  ⟨fun id => (second.program id).trans (first.program id),
    fun id => (second.held id).trans (first.held id), second.started.trans first.started,
    second.eventSet.trans first.eventSet, second.workerEvent.trans first.workerEvent,
    second.stateLock.trans first.stateLock⟩

theorem worker_frame {worker : Nat} {op : Op} {own : Held} {before after : World} {result : op.Res}
    (allowed : workerRules.allowed own op)
    (executed : exec faults (.worker worker) op choice before = some (result, after)) :
    after.started = before.started ∧ after.eventSet = before.eventSet ∧
      after.workerEvent = before.workerEvent ∧ after.stateLock = before.stateLock := by
  cases op with
  | lockState | unlockState | setClosed | setEvent | newStopEvent | newThread | startThread
  | joinThread => exact allowed.elim
  | _ =>
      simp only [exec] at executed
      repeat' split at executed
      all_goals
        cases executed
        try exact ⟨rfl, rfl, rfl, rfl⟩

variable (params) in
theorem Orderly.aside {worker : Nat} {op : Op} {rest : op.Res → Py WorkerState}
    (orderly : Orderly config held) (programEq : config.program (.worker worker) = .act op rest)
    (patient : patiently op choice) {result : op.Res} {after : World}
    (executed : exec faults (.worker worker) op choice config.shared = some (result, after)) :
    ∃ final own, Patiently faults params config final ∧
      Orderly final (Function.update held (.worker worker) own) ∧
      Aside config final held (Function.update held (.worker worker) own) ∧
      final.shared = after ∧ final.program (.worker worker) = rest result ∧
      ∀ thread, thread ≠ .worker worker → final.program thread = config.program thread := by
  obtain ⟨steps, kept⟩ := orderly.advance params programEq patient executed
  obtain ⟨started, eventSet, workerEvent, stateLock⟩ :=
    worker_frame (orderly.allowed programEq) executed
  refine ⟨_, _, steps, kept, ?_, rfl, by simp,
    fun _ different => Function.update_of_ne different _ _⟩
  exact ⟨by simp, by simp, started, eventSet, workerEvent, stateLock⟩

variable (faults params) in
theorem Orderly.restart {worker : Nat} {state : WorkerState} {first : Py WorkerState}
    (orderly : Orderly config held) (idle : config.program (.worker worker) = .ret state)
    (started : start params (.worker worker) (.ok state) .go = some first) :
    ∃ final, Patiently faults params config final ∧ Orderly final held ∧
      Aside config final held held ∧ final.shared = config.shared ∧
      final.program (.worker worker) = first := by
  have left := orderly.keeps (.worker worker)
  rw [idle] at left
  have begins : (machine faults params).start (.worker worker) (.ok state) .go = some first :=
    started
  have keeps := governed.starts left begins
  have step : (machine faults params).Step config (.worker worker) .go
      ⟨config.shared, Function.update config.program (.worker worker) first⟩ :=
    .start (by rw [idle]; rfl) begins (.here fun _ => rfl)
  have same : Function.update held (.worker worker) (held (.worker worker)) = held := by simp
  refine ⟨_, .step .initial ?_ step, ?_, ⟨by simp, by simp, rfl, rfl, rfl, rfl⟩, rfl, by simp⟩
  · simp only [Patient, idle]
  · rw [← same]
    exact orderly.moved (by simpa using orderly.agrees) keeps

theorem Left.io {outcome : Except PyError (Val thread)} {own : Held}
    (left : Left thread outcome own) : own.io = false := by
  cases thread with
  | caller id =>
      have nothing : own = {} := left
      rw [nothing]
  | worker worker =>
      cases outcome with
      | error error => exact left.2
      | ok state =>
          cases state with
          | fresh =>
              have nothing : own = {} := left
              rw [nothing]
          | sleeping event interval =>
              have begun : own = { begun := some event } := left
              rw [begun]
          | done => exact left.2

variable (params) in
theorem Orderly.freeIo (orderly : Orderly config held) {worker : Nat}
    (locked : config.shared.ioLock = some (.worker worker)) :
    ∃ final after, Patiently faults params config final ∧ Orderly final after ∧
      Aside config final held after ∧ final.shared.ioLock = none ∧
      ∀ thread, thread ≠ .worker worker → final.program thread = config.program thread := by
  let reaches (lock : Option Thread) (middle : Running) : Prop :=
    ∃ after, Orderly middle after ∧ Aside config middle held after ∧ middle.shared.ioLock = lock ∧
      ∀ thread, thread ≠ .worker worker → middle.program thread = config.program thread
  have driven : ∃ final, Patiently faults params config final ∧ reaches none final := by
    refine Machine.drive (.worker worker) (reaches (some (.worker worker))) (reaches none) ?_ ?_
      config ⟨held, orderly, .refl, locked, fun _ _ => rfl⟩
    · rintro middle ⟨after, kept, _, locked, _⟩ ended
      obtain ⟨outcome, ended⟩ := Option.ne_none_iff_exists'.mp ended
      have free := ((kept.keeps _).promised ended).io
      rw [(kept.agrees.owns _).io.mp locked] at free
      cases free
    · rintro middle op rest ⟨after, kept, aside, locked, others⟩ programEq
      have agrees := kept.agrees
      have inside := (agrees.owns _).io.mp locked
      have allowed : (rules (.worker worker)).allowed (after (.worker worker)) op :=
        kept.allowed programEq
      rcases blocked_or faults middle.shared allowed with blocked | ⟨choice, patient, executes⟩
      · have out : (after (.worker worker)).io = false := by
          cases blocked with
          | lockState | joinThread => exact allowed.elim
          | lockIo => exact allowed
          | beginThread =>
              have nothing : after (.worker worker) = {} := allowed
              rw [nothing]
        rw [inside] at out
        cases out
      · obtain ⟨⟨result, moved⟩, executed⟩ := Option.isSome_iff_exists.mp executes
        obtain ⟨final, own, steps, kept, further, _, programEq, same⟩ :=
          kept.aside params programEq patient executed
        have others (thread : Thread) (different : thread ≠ .worker worker) :
            final.program thread = config.program thread :=
          (same thread different).trans (others thread different)
        refine ⟨final, steps, ?_⟩
        cases lock : final.shared.ioLock with
        | none => exact .inl ⟨_, kept, aside.trans further, lock, others⟩
        | some owner =>
            have owned := (kept.agrees.owns owner).io.mp lock
            by_cases mine : owner = .worker worker
            · subst mine
              exact .inr ⟨⟨_, kept, aside.trans further, lock, others⟩, result,
                programEq ▸ .refl _⟩
            · rw [Function.update_of_ne mine] at owned
              have earlier := (agrees.owns owner).io.mpr owned
              rw [locked] at earlier
              exact absurd (Option.some.inj earlier).symm mine
  obtain ⟨final, steps, after, kept, aside, freed, others⟩ := driven
  exact ⟨final, after, steps, kept, aside, freed, others⟩

theorem Orderly.ioOwner (orderly : Orderly config held) {owner : Thread}
    (calm : ∀ id, (held (.caller id)).io = false) (locked : config.shared.ioLock = some owner) :
    ∃ worker, owner = .worker worker := by
  cases owner with
  | worker worker => exact ⟨worker, rfl⟩
  | caller id =>
      have inside := (orderly.agrees.owns _).io.mp locked
      rw [calm id] at inside
      cases inside

variable (params) in
theorem Orderly.restWorker (orderly : Orderly config held)
    (calm : ∀ id, (held (.caller id)).io = false) {worker : Nat}
    (started : config.shared.started worker = true) :
    ∃ final after, Patiently faults params config final ∧ Orderly final after ∧
      Aside config final held after ∧ (final.program (.worker worker)).outcome ≠ none := by
  let good (middle : Running) : Prop :=
    ∃ after, Orderly middle after ∧ Aside config middle held after
  let goal (middle : Running) : Prop :=
    good middle ∧ (middle.program (.worker worker)).outcome ≠ none
  have driven : ∃ final, Patiently faults params config final ∧ goal final := by
    refine Machine.drive (.worker worker) good goal (fun middle known ended => ⟨known, ended⟩) ?_
      config ⟨held, orderly, .refl⟩
    rintro middle op rest ⟨after, kept, aside⟩ programEq
    have allowed : (rules (.worker worker)).allowed (after (.worker worker)) op :=
      kept.allowed programEq
    -- Whoever has the I/O lock gives it back first.
    have opened : ∃ ready after, Patiently faults params middle ready ∧ Orderly ready after ∧
        Aside config ready held after ∧ ready.program (.worker worker) = .act op rest ∧
        ∃ choice, patiently op choice ∧
          (exec faults (.worker worker) op choice ready.shared).isSome = true := by
      rcases blocked_or faults middle.shared allowed with blocked | enabled
      · cases blocked with
        | lockState | joinThread => exact allowed.elim
        | beginThread same unstarted =>
            cases same
            rw [aside.started, started] at unstarted
            cases unstarted
        | lockIo locked =>
            obtain ⟨other, rfl⟩ := kept.ioOwner
              (fun id => (congrArg Held.io (aside.held id)).trans (calm id)) locked
            have different : Thread.worker worker ≠ .worker other := by
              intro same
              have inside := (kept.agrees.owns _).io.mp locked
              rw [← same, show (after (.worker worker)).io = false from allowed] at inside
              cases inside
            obtain ⟨ready, between, steps, kept, further, freed, others⟩ :=
              kept.freeIo params locked
            exact ⟨ready, between, steps, kept, aside.trans further,
              (others _ different).trans programEq, .go, rfl, by simp [exec, freed]⟩
      · exact ⟨middle, after, .initial, kept, aside, programEq, enabled⟩
    obtain ⟨ready, after, before, kept, aside, programEq, choice, patient, executes⟩ := opened
    obtain ⟨⟨result, moved⟩, executed⟩ := Option.isSome_iff_exists.mp executes
    obtain ⟨final, own, steps, kept, further, _, programEq, _⟩ :=
      kept.aside params programEq patient executed
    exact ⟨final, before.trans steps, .inr ⟨⟨_, kept, aside.trans further⟩, result,
      programEq ▸ .refl _⟩⟩
  obtain ⟨final, steps, ⟨after, kept, aside⟩, ended⟩ := driven
  exact ⟨final, after, steps, kept, aside, ended⟩

variable (params) in
theorem Orderly.wakes (orderly : Orderly config held) {worker event : Nat} {interval : Rat}
    (idle : config.program (.worker worker) = .ret (.sleeping event interval))
    (set : config.shared.eventSet (config.shared.workerEvent worker) = true) :
    ∃ final after, Patiently faults params config final ∧ Orderly final after ∧
      Aside config final held after ∧ final.shared.alive worker = false := by
  have left := (orderly.keeps (.worker worker)).promised (by rw [idle]; rfl)
  have begun : held (.worker worker) = { begun := some event } := left
  have own : config.shared.workerEvent worker = event :=
    ((orderly.agrees.owns _).begun worker rfl event (by rw [begun])).2
  obtain ⟨waiting, first, kept, aside, shared, programEq⟩ := orderly.restart faults params idle rfl
  have stops : exec faults (.worker worker) (.waitEvent event interval) .go waiting.shared =
      some (true, waiting.shared) := by
    rw [shared]
    simp [exec, own ▸ set]
  obtain ⟨ending, _, second, kept, further, same, programEq, _⟩ :=
    kept.aside params programEq (.inl rfl) stops
  have ends : exec faults (.worker worker) .endThread .go ending.shared = some ((),
      { ending.shared with alive := Function.update ending.shared.alive worker false }) := rfl
  obtain ⟨final, _, third, kept, last, same, _, _⟩ := kept.aside params programEq rfl ends
  exact ⟨final, _, (first.trans second).trans third, kept, (aside.trans further).trans last,
    by simp [same]⟩

variable (params) in
theorem Orderly.begins (orderly : Orderly config held) {worker : Nat}
    (idle : config.program (.worker worker) = .ret .fresh)
    (started : config.shared.started worker = true)
    (set : config.shared.eventSet (config.shared.workerEvent worker) = true) :
    ∃ final after, Patiently faults params config final ∧ Orderly final after ∧
      Aside config final held after ∧ final.shared.alive worker = false := by
  obtain ⟨fresh, first, kept, aside, shared, programEq⟩ := orderly.restart faults params idle rfl
  have begins : exec faults (.worker worker) .beginThread .go fresh.shared =
      some (fresh.shared.workerEvent worker, fresh.shared) := by
    simp [exec, shared, started]
  obtain ⟨begun, _, second, kept, further, shared, programEq, _⟩ :=
    kept.aside params programEq rfl begins
  have reads : exec faults (.worker worker) .getLease .go begun.shared =
      some (begun.shared.lease, begun.shared) := rfl
  obtain ⟨asleep, _, third, kept, last, shared, idle, _⟩ :=
    kept.aside params programEq rfl reads
  have aside := (aside.trans further).trans last
  obtain ⟨final, after, fourth, kept, further, ended⟩ := kept.wakes params idle
    (by rw [aside.eventSet, aside.workerEvent, set])
  exact ⟨final, after, ((first.trans second).trans third).trans fourth, kept,
    aside.trans further, ended⟩

variable (params) in
theorem Orderly.endWorker (orderly : Orderly config held)
    (calm : ∀ id, (held (.caller id)).io = false) {worker : Nat}
    (started : config.shared.started worker = true)
    (set : config.shared.eventSet (config.shared.workerEvent worker) = true) :
    ∃ final after, Patiently faults params config final ∧ Orderly final after ∧
      Aside config final held after ∧ final.shared.alive worker = false := by
  obtain ⟨middle, between, first, kept, aside, ended⟩ := orderly.restWorker params calm started
  have set : middle.shared.eventSet (middle.shared.workerEvent worker) = true := by
    rw [aside.eventSet, aside.workerEvent, set]
  have onwards (known : ∃ final after, Patiently faults params middle final ∧ Orderly final after ∧
      Aside middle final between after ∧ final.shared.alive worker = false) :
      ∃ final after, Patiently faults params config final ∧ Orderly final after ∧
        Aside config final held after ∧ final.shared.alive worker = false := by
    obtain ⟨final, after, second, kept, further, dead⟩ := known
    exact ⟨final, after, first.trans second, kept, aside.trans further, dead⟩
  have past (finished : (between (.worker worker)).ended = true) :
      ∃ final after, Patiently faults params config final ∧ Orderly final after ∧
        Aside config final held after ∧ final.shared.alive worker = false :=
    ⟨middle, between, first, kept, aside, ((kept.agrees.owns _).ended worker rfl finished).2⟩
  cases idle : middle.program (.worker worker) with
  | act op rest => simp [idle] at ended
  | raise error =>
      have left := (kept.keeps (.worker worker)).promised (by rw [idle]; rfl)
      exact past left.1
  | ret state =>
      cases state with
      | fresh => exact onwards (kept.begins params idle (by rw [aside.started, started]) set)
      | sleeping event interval => exact onwards (kept.wakes params idle set)
      | done =>
          have left := (kept.keeps (.worker worker)).promised (by rw [idle]; rfl)
          exact past left.1

theorem Agrees.allSet {world : World} {held : Thread → Held} (agrees : Agrees world held)
    (stopped : (held thread).stopped = true) {worker : Nat}
    (started : world.started worker = true) :
    world.eventSet (world.workerEvent worker) = true := by
  rcases Nat.lt_or_eq_of_le (agrees.workerPast worker (agrees.startedMade worker started)) with
    earlier | current
  · exact agrees.past _ earlier
  · rw [current]
    exact (agrees.owns thread).stopped stopped

theorem Agrees.callersOut {world : World} {held : Thread → Held} {id : Nat}
    (agrees : Agrees world held) (mine : (held (.caller id)).state = true)
    (free : (held (.caller id)).io = false) (other : Nat) : (held (.caller other)).io = false := by
  by_cases same : other = id
  · rw [same, free]
  · by_contra taken
    have outside : (held (.caller other)).state = false := agrees.alone mine (by simpa using same)
    rcases (agrees.owns (.caller other)).inside (by simpa using taken) with inside | ⟨worker, never⟩
    · rw [outside] at inside
      cases inside
    · cases never

variable (params) in
/-- What holds up a caller in the state lock can be made to give way. -/
theorem Orderly.giveWay (orderly : Orderly config held) {id : Nat} {op : Op}
    {rest : op.Res → Py CallValue} (mine : (held (.caller id)).state = true)
    (programEq : config.program (.caller id) = .act op rest) :
    ∃ ready after, Patiently faults params config ready ∧ Orderly ready after ∧
      Aside config ready held after ∧ ∃ choice, patiently op choice ∧
        (exec faults (.caller id) op choice ready.shared).isSome = true := by
  have allowed : (rules (.caller id)).allowed (held (.caller id)) op := orderly.allowed programEq
  have agrees := orderly.agrees
  rcases blocked_or faults config.shared allowed with blocked | enabled
  · cases blocked with
    | lockState =>
        have nothing : held (.caller id) = {} := allowed
        rw [nothing] at mine
        cases mine
    | beginThread never => cases never
    | lockIo locked =>
        have free : (held (.caller id)).io = false := allowed.2
        obtain ⟨worker, rfl⟩ := orderly.ioOwner (agrees.callersOut mine free) locked
        obtain ⟨ready, after, steps, kept, aside, freed, _⟩ := orderly.freeIo params locked
        exact ⟨ready, after, steps, kept, aside, .go, rfl, by simp [exec, freed]⟩
    | joinThread started alive =>
        rename_i worker
        have free : (held (.caller id)).io = false := allowed.2.1
        obtain ⟨ready, after, steps, kept, aside, dead⟩ := orderly.endWorker params
          (agrees.callersOut mine free) started (agrees.allSet allowed.2.2 started)
        refine ⟨ready, after, steps, kept, aside, .go, rfl, ?_⟩
        simp [exec, aside.started, started, dead]
  · exact ⟨config, held, .initial, orderly, .refl, enabled⟩

variable (params) in
theorem Orderly.proceed (orderly : Orderly config held) {id : Nat} {op : Op}
    {rest : op.Res → Py CallValue} (mine : (held (.caller id)).state = true)
    (programEq : config.program (.caller id) = .act op rest) :
    ∃ final after result, Patiently faults params config final ∧ Orderly final after ∧
      final.program (.caller id) = rest result ∧
      (∀ other, other ≠ id → final.program (.caller other) = config.program (.caller other)) ∧
      ∀ other, other ≠ .caller id → (after other).state = false := by
  obtain ⟨ready, between, steps, kept, aside, choice, patient, executes⟩ :=
    orderly.giveWay params mine programEq
  obtain ⟨⟨result, moved⟩, executed⟩ := Option.isSome_iff_exists.mp executes
  have still : ready.program (.caller id) = .act op rest := (aside.program id).trans programEq
  have inside : (between (.caller id)).state = true := aside.held id ▸ mine
  have agrees := kept.agrees
  obtain ⟨last, kept⟩ := kept.advance params still patient executed
  refine ⟨_, _, result, steps.trans last, kept, by simp, ?_, ?_⟩
  · intro other different
    have apart : Thread.caller other ≠ .caller id := by simpa using different
    simpa [Function.update_of_ne apart] using aside.program other
  · intro other different
    rw [Function.update_of_ne different]
    exact agrees.alone inside different

variable (params) in
theorem Orderly.freeState (orderly : Orderly config held) {id : Nat}
    (mine : (held (.caller id)).state = true) :
    ∃ final after, Patiently faults params config final ∧ Orderly final after ∧
      final.shared.stateLock = none ∧
      ∀ other, other ≠ id → final.program (.caller other) = config.program (.caller other) := by
  let good (middle : Running) : Prop := ∃ after, Orderly middle after ∧
    (after (.caller id)).state = true ∧
    ∀ other, other ≠ id → middle.program (.caller other) = config.program (.caller other)
  let goal (middle : Running) : Prop := ∃ after, Orderly middle after ∧
    middle.shared.stateLock = none ∧
    ∀ other, other ≠ id → middle.program (.caller other) = config.program (.caller other)
  have driven : ∃ final, Patiently faults params config final ∧ goal final := by
    refine Machine.drive (.caller id) good goal ?_ ?_ config ⟨held, orderly, mine, fun _ _ => rfl⟩
    · rintro middle ⟨after, kept, mine, _⟩ ended
      obtain ⟨outcome, ended⟩ := Option.ne_none_iff_exists'.mp ended
      have nothing : after (.caller id) = {} := (kept.keeps _).promised ended
      rw [nothing] at mine
      cases mine
    · rintro middle op rest ⟨after, kept, mine, others⟩ programEq
      obtain ⟨final, last, result, steps, kept, programEq, same, outside⟩ :=
        kept.proceed params mine programEq
      have others (other : Nat) (different : other ≠ id) :
          final.program (.caller other) = config.program (.caller other) :=
        (same other different).trans (others other different)
      refine ⟨final, steps, ?_⟩
      by_cases still : (last (.caller id)).state = true
      · exact .inr ⟨⟨last, kept, still, others⟩, result, programEq ▸ .refl _⟩
      · refine .inl ⟨last, kept, ?_, others⟩
        rw [Option.eq_none_iff_forall_ne_some]
        intro owner locked
        have inside := (kept.agrees.owns owner).state.mp locked
        by_cases same : owner = .caller id
        · exact still (same ▸ inside)
        · rw [outside owner same] at inside
          cases inside
  obtain ⟨final, steps, after, kept, freed, others⟩ := driven
  exact ⟨final, after, steps, kept, freed, others⟩

theorem initial_orderly : Orderly initial fun _ => {} where
  agrees :=
    { owns := fun thread => by constructor <;> simp [initial]
      closed := by simp [initial]
      past := by simp [initial]
      workerPast := by simp [initial]
      startedMade := by simp [initial] }
  keeps := by
    intro thread
    cases thread with
    | caller id => rfl
    | worker worker => rfl

/-- No call gets stuck. Whatever faults there were before, a call in progress can be completed
without another call, on a network that fails from now on, and with joins that wait. -/
theorem calls_complete (reached : Reached faults params config) (id : Nat) :
    ∃ final, (machine faults params).Reachable Patient config final ∧
      (final.program (.caller id)).outcome ≠ none := by
  obtain ⟨held, orderly⟩ := governed.reachable initial_orderly reached
  let good (middle : Running) : Prop := ∃ after, Orderly middle after
  let goal (middle : Running) : Prop := (middle.program (.caller id)).outcome ≠ none
  refine Machine.drive (.caller id) good goal (fun _ _ ended => ended) ?_ config ⟨held, orderly⟩
  rintro middle op rest ⟨after, kept⟩ programEq
  by_cases mine : (after (.caller id)).state = true
  · obtain ⟨final, last, result, steps, kept, programEq, _⟩ := kept.proceed params mine programEq
    exact ⟨final, steps, .inr ⟨⟨last, kept⟩, result, programEq ▸ .refl _⟩⟩
  · have allowed : (rules (.caller id)).allowed (after (.caller id)) op := kept.allowed programEq
    -- Outside the state lock a caller can only be held up by another one that has it.
    have ready : ∃ ready between, Patiently faults params middle ready ∧ Orderly ready between ∧
        ready.program (.caller id) = .act op rest ∧ ∃ choice, patiently op choice ∧
          (exec faults (.caller id) op choice ready.shared).isSome = true := by
      rcases blocked_or faults middle.shared allowed with blocked | enabled
      · cases blocked with
        | lockIo => exact absurd allowed.1 mine
        | joinThread => exact absurd allowed.1 mine
        | beginThread never => cases never
        | lockState locked =>
            rename_i owner
            have inside := (kept.agrees.owns owner).state.mp locked
            obtain ⟨other, rfl⟩ := (kept.agrees.owns owner).taken inside
            obtain ⟨ready, between, steps, kept, freed, others⟩ := kept.freeState params inside
            have different : id ≠ other := fun same => mine (same ▸ inside)
            exact ⟨ready, between, steps, kept, (others id different).trans programEq, .go, rfl,
              by simp [exec, freed]⟩
      · exact ⟨middle, after, .initial, kept, programEq, enabled⟩
    obtain ⟨ready, between, steps, kept, programEq, choice, patient, executes⟩ := ready
    obtain ⟨⟨result, moved⟩, executed⟩ := Option.isSome_iff_exists.mp executes
    obtain ⟨last, kept⟩ := kept.advance params programEq patient executed
    exact ⟨_, steps.trans last, .inr ⟨⟨_, kept⟩, result, by simpa using .refl _⟩⟩

/-- A release joins a live worker while a close waits for the state lock. -/
theorem calls_complete_demo : ∃ config, Reached roughFaults demoParams config ∧
    config.shared.stateLock = some (.caller 0) ∧ config.shared.alive 0 = true ∧
    (config.program (.caller 1)).outcome = none ∧
    ∃ final, (machine roughFaults demoParams).Reachable Patient config final ∧
      (final.program (.caller 1)).outcome ≠ none := by
  obtain ⟨config, reached, passed⟩ := (machine roughFaults demoParams).exists_run
    (fun _ _ _ => True) initial
    ((machine roughFaults demoParams).schedule initial
      (acquiring (str "ok t 33") ++ sleeping ++ turns (.caller 0) [.call .release] ++
        turns (.caller 1) [.call .close]))
    (fun _ _ _ => trivial)
    (fun config => config.shared.stateLock == some (.caller 0) && config.shared.alive 0 &&
      (config.program (.caller 1)).outcome.isNone)
    (by decide +kernel)
  simp only [Bool.and_eq_true, beq_iff_eq, Option.isNone_iff_eq_none] at passed
  obtain ⟨⟨locked, alive⟩, waiting⟩ := passed
  exact ⟨config, reached, locked, alive, waiting, calls_complete reached 1⟩

end DflockdClient.Sync.Locks
