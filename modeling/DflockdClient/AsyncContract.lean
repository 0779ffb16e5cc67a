import DflockdClient.AsyncCore
import DflockdClient.Interleaving.RelyGuarantee
import DflockdClient.Session

/-!
The invariant and the guarantees under which tasks share an asynchronous instance:
callers that may be asked to stop at any time, renewal tasks, and those that ask.
-/

namespace DflockdClient.Async.Shared

open Interleaving Session

def Open (world : World) (conn : Nat) : Prop := world.closedConn conn = false

def Serving (stage : Option Stage) : Prop :=
  ∃ token, stage = some (.granted token) ∨ stage = some (.renewing token)

def Renewing (stage : Option Stage) : Prop := ∃ token, stage = some (.renewing token)

/-- A renewal task that goes on until it is cancelled. -/
def Live (world : World) (worker : Nat) : Prop :=
  world.outcome worker = none ∧ world.undelivered (.worker worker) = false

variable (params : Params)

/-- What holds even while a caller takes the instance down. -/
structure Core (world : World) : Prop where
  ordered : ∀ conn, stageOn params world.trace conn ≠ none
  unmade : ∀ conn, world.conns ≤ conn →
    Open world conn ∧ stageOn params world.trace conn = some .opened
  made : ∀ conn, world.conn = some conn → conn < world.conns ∧ world.inHand conn = none
  accounted : ∀ conn, conn < world.conns → Open world conn →
    world.conn = some conn ∨ world.inHand conn ≠ none
  hand : ∀ thread conn, world.inHand conn = some thread → Open world conn →
    world.stateLock = some thread
  locker : ∀ thread, world.stateLock = some thread → ∃ id, thread = .caller id
  ioCaller : ∀ id, world.ioLock = some (.caller id) → world.stateLock = some (.caller id)
  tokenConn : world.conn = none → world.token = none
  tokenLease : world.token = none → world.lease = 0
  shut : world.closed = true → world.conn = none
  renewing : ∀ conn, Open world conn → Renewing (stageOn params world.trace conn) →
    ∃ worker, world.ioLock = some (.worker worker)
  ended : ∀ worker error, world.outcome worker = some (.error error) → error.cls = .cancelledError
  stale : ∀ worker, worker < world.workers → Live world worker → world.renewTask = some worker
  future : ∀ worker, world.workers ≤ worker → Live world worker ∧ world.renewTask ≠ some worker

def Settled (world : World) : Prop :=
  ∀ conn token, world.conn = some conn → world.token = some token → Open world conn →
    stageOn params world.trace conn = some (.granted token) ∨
      (stageOn params world.trace conn = some (.renewing token) ∧
        ∃ worker, world.ioLock = some (.worker worker)) ∨
      ∃ id, world.ioLock = some (.caller id)

def Queued (world : World) : Prop :=
  ∀ conn, world.conn = some conn → world.token = none →
    Open world conn ∧ stageOn params world.trace conn = some .queued ∧ world.renewTask = none

def Watched (gentle : Bool) (world : World) : Prop :=
  gentle = true → world.token ≠ none → world.renewTask ≠ none

structure Invariant (gentle : Bool) (world : World) : Prop extends Core params world where
  settled : Settled params world
  watched : world.token ≠ none → ∀ worker, world.renewTask = some worker →
    Live world worker ∧ ∀ conn, world.conn = some conn → Open world conn
  unwatched : world.token = none → ∀ worker, world.renewTask = some worker → ¬Live world worker
  rested : world.stateLock = none → Queued params world ∧ Watched gentle world

structure Untouched (before after : World) : Prop where
  same : after = { before with
    cancelling := after.cancelling, undelivered := after.undelivered }
  workers : ∀ worker, after.undelivered (.worker worker) = before.undelivered (.worker worker)

structure Counted (id : Nat) (before after : World) : Prop where
  more : before.cancelling (.caller id) ≤ after.cancelling (.caller id)
  kept : before.undelivered (.caller id) = true → after.undelivered (.caller id) = true
  asked : before.cancelling (.caller id) < after.cancelling (.caller id) →
    after.undelivered (.caller id) = true

structure CallerMove (me : Nat) (before after : World) : Prop where
  outside : ∀ other, before.stateLock = some (.caller other) → other ≠ me →
    Untouched before after
  taken : ∀ thread, after.stateLock = some thread →
    thread = .caller me ∨ before.stateLock = some thread
  ioWorker : ∀ worker, before.ioLock = some (.worker worker) ↔ after.ioLock = some (.worker worker)
  stage : ∀ conn, Open after conn →
    stageOn params after.trace conn = stageOn params before.trace conn ∨
      ¬Renewing (stageOn params before.trace conn) ∧ ¬Renewing (stageOn params after.trace conn)
  closed : ∀ conn, Open after conn → Open before conn
  serves : ∀ conn, Open after conn → Renewing (stageOn params before.trace conn) →
    before.conn = some conn → after.conn = some conn ∧ after.token = before.token ∧
      (after.renewTask = before.renewTask ∨ after.renewTask = none)
  renewed : ∀ worker, worker < before.workers → after.renewTask = some worker →
    before.renewTask = some worker ∧ after.conn = before.conn ∧ after.token = before.token
  conns : before.conns ≤ after.conns
  workers : before.workers ≤ after.workers
  outcome : after.outcome = before.outcome
  counted : ∀ other, other ≠ me → Counted other before after

structure WorkerMove (me : Nat) (before after : World) : Prop where
  same : (after.stateLock, after.closed, after.conns, after.workers, after.renewTask) =
    (before.stateLock, before.closed, before.conns, before.workers, before.renewTask)
  ioLock : ∀ thread, thread ≠ .worker me →
    (before.ioLock = some thread ↔ after.ioLock = some thread)
  stage : ∀ conn, Open after conn →
    stageOn params after.trace conn = stageOn params before.trace conn ∨
      (before.ioLock = none ∨ before.ioLock = some (.worker me)) ∧
        Serving (stageOn params before.trace conn)
  closed : ∀ conn, Open after conn → Open before conn
  shuts : ∀ conn, Open before conn → ¬Open after conn →
    Serving (stageOn params before.trace conn)
  drop : after.conn = before.conn ∧ after.token = before.token ∨
    (before.ioLock = none ∨ before.ioLock = some (.worker me)) ∧
      before.token ≠ none ∧ after.conn = none ∧ after.token = none
  inHand : ∀ id conn,
    after.inHand conn = some (.caller id) → before.inHand conn = some (.caller id)
  outcome : ∀ other, other ≠ me → after.outcome other = before.outcome other
  counted : ∀ other, Counted other before after

structure OtherMove (before after : World) : Prop extends Untouched before after where
  counted : ∀ other, Counted other before after

variable (gentle : Bool)

/-- In a gentle run no caller has a request undelivered while it stops a renewal task before it has
taken the token back. -/
def contract : Contract Op Thread World Choice where
  invariant := Invariant params gentle
  guarantee := fun thread => match thread with
    | .caller me => CallerMove params me
    | .worker me => WorkerMove params me
    | .other _ => OtherMove
  permitted := fun thread op _ world => gentle = true → (∃ task, op = .awaitOuter task) →
    world.undelivered thread = true → world.token = none ∨ world.ioLock = some thread

variable {params gentle}

variable {me : Nat} {before middle after world : World}

theorem Counted.refl : Counted me world world :=
  ⟨Nat.le_refl _, id, fun less => absurd less (Nat.lt_irrefl _)⟩

theorem Counted.trans (first : Counted me before middle) (second : Counted me middle after) :
    Counted me before after := by
  refine ⟨Nat.le_trans first.more second.more, fun known => second.kept (first.kept known), ?_⟩
  intro less
  by_cases asked : before.cancelling (.caller me) < middle.cancelling (.caller me)
  · exact second.kept (first.asked asked)
  · exact second.asked (Nat.lt_of_le_of_lt (Nat.not_lt.mp asked) less)

theorem Untouched.trans (first : Untouched before middle) (second : Untouched middle after) :
    Untouched before after := by
  refine ⟨?_, fun worker => (second.workers worker).trans (first.workers worker)⟩
  rw [second.same, first.same]

theorem CallerMove.trans (first : CallerMove params me before middle)
    (second : CallerMove params me middle after) : CallerMove params me before after where
  outside := by
    intro other held different
    have unmoved := first.outside other held different
    have held' : middle.stateLock = some (.caller other) := by rw [unmoved.same]; exact held
    exact unmoved.trans (second.outside other held' different)
  taken := by
    intro thread held
    rcases second.taken thread held with mine | earlier
    · exact .inl mine
    · exact first.taken thread earlier
  ioWorker := fun worker => (first.ioWorker worker).trans (second.ioWorker worker)
  stage := by
    intro conn opened
    rcases second.stage conn opened with same | ⟨wasNot, isNot⟩
    · rw [same]
      exact first.stage conn (second.closed conn opened)
    · rcases first.stage conn (second.closed conn opened) with same | ⟨neverWas, _⟩
      · rw [same] at wasNot
        exact .inr ⟨wasNot, isNot⟩
      · exact .inr ⟨neverWas, isNot⟩
  closed := fun conn opened => first.closed conn (second.closed conn opened)
  serves := by
    intro conn opened renewing connEq
    have still := second.closed conn opened
    obtain ⟨connEq', token, task⟩ := first.serves conn still renewing connEq
    have renewing' : Renewing (stageOn params middle.trace conn) := by
      rcases first.stage conn still with same | ⟨wasNot, _⟩
      · rw [same]
        exact renewing
      · exact absurd renewing wasNot
    obtain ⟨connEq'', token', task'⟩ := second.serves conn opened renewing' connEq'
    refine ⟨connEq'', token'.trans token, ?_⟩
    rcases task' with same | gone
    · rw [same]
      exact task
    · exact .inr gone
  renewed := by
    intro worker made taskEq
    obtain ⟨taskEq', conn, token⟩ :=
      second.renewed worker (Nat.lt_of_lt_of_le made first.workers) taskEq
    obtain ⟨taskEq'', conn', token'⟩ := first.renewed worker made taskEq'
    exact ⟨taskEq'', conn.trans conn', token.trans token'⟩
  conns := Nat.le_trans first.conns second.conns
  workers := Nat.le_trans first.workers second.workers
  outcome := second.outcome.trans first.outcome
  counted := fun other different => (first.counted other different).trans
    (second.counted other different)

theorem CallerMove.refl : CallerMove params me world world where
  outside := fun _ _ _ => ⟨rfl, fun _ => rfl⟩
  taken := fun _ held => .inr held
  ioWorker := fun _ => Iff.rfl
  stage := fun _ _ => .inl rfl
  closed := fun _ opened => opened
  serves := fun _ _ _ connEq => ⟨connEq, rfl, .inl rfl⟩
  renewed := fun _ _ taskEq => ⟨taskEq, rfl, rfl⟩
  conns := Nat.le_refl _
  workers := Nat.le_refl _
  outcome := rfl
  counted := fun _ _ => .refl

variable (params gentle) in
structure Kept (me : Nat) (fact : World → Prop) : Prop where
  worker : ∀ worker before after, WorkerMove params worker before after →
    Invariant params gentle before → before.stateLock = some (.caller me) → fact before →
    fact after
  other : ∀ before after, Untouched before after → fact before → fact after

theorem Kept.and {first second : World → Prop} (left : Kept params gentle me first)
    (right : Kept params gentle me second) :
    Kept params gentle me fun world => first world ∧ second world where
  worker := fun worker before after move inv held known =>
    ⟨left.worker worker before after move inv held known.1,
      right.worker worker before after move inv held known.2⟩
  other := fun before after same known =>
    ⟨left.other before after same known.1, right.other before after same known.2⟩

theorem Kept.stable {fact : World → Prop} (kept : Kept params gentle me fact)
    (holds : ∀ world, fact world → world.stateLock = some (.caller me)) :
    (contract params gentle).Stable (.caller me) fact := by
  intro other different before after inv _ within known
  have held := holds before known
  cases other with
  | caller id =>
      have elsewhere : me ≠ id := fun same => different (congrArg Thread.caller same.symm)
      have move : CallerMove params id before after := within
      exact kept.other before after (move.outside me held elsewhere) known
  | worker worker => exact kept.worker worker before after within inv held known
  | other id =>
      have move : OtherMove before after := within
      exact kept.other before after move.toUntouched known

end DflockdClient.Async.Shared
