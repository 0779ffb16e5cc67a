import DflockdClient.Interleaving.Sequential
import DflockdClient.Exchanges
import DflockdClient.SyncContract

/-!
The three modes of an instance between steps, when every operation and every
renewal iteration is one step, and the invariant that carries them.
-/

namespace DflockdClient.Sync

open Interleaving

def Event.conn (event : Event) : Nat :=
  match event with
  | .frame conn _ | .answer conn _ _ | .noAnswer conn _ => conn

def lastStep (conn : Nat) (last : Option Event) (event : Event) : Option Event :=
  if event.conn = conn then some event else last

def lastOn (trace : List Event) (conn : Nat) : Option Event := trace.foldl (lastStep conn) none

/-- The positive lease or remaining time that an answer reports. -/
def reportedLease (cmd line : Str) : Option Int :=
  match commandKind cmd with
  | some .acquire | some .wait =>
      match parseGrantResponse line [] with
      | .ok (_, lease) => some lease
      | .error _ => none
  | some .enqueue =>
      match parseEnqueueResponse line [] with
      | .ok (.acquired _ lease) => some lease
      | _ => none
  | some .renew =>
      match parseRenewResponse line [] with
      | .ok remaining => if remaining > 0 then some remaining else none
      | .error _ => none
  | _ => none

def reportedStep (conn : Nat) (known : Option Int) (event : Event) : Option Int :=
  match event with
  | .answer c cmd line => if c = conn then (reportedLease cmd line).or known else known
  | _ => known

/-- The most recent positive value that the server has reported on a connection. -/
def reported (trace : List Event) (conn : Nat) : Option Int := trace.foldl (reportedStep conn) none

theorem reportedLease_grant {cmd line op token : Str} {lease : Int}
    (kind : commandKind cmd = some .acquire ∨ commandKind cmd = some .wait)
    (parsed : parseGrantResponse line op = .ok (token, lease)) :
    reportedLease cmd line = some lease := by
  rcases kind with kind | kind <;>
    simp only [reportedLease, kind, parseGrantResponse_label [] parsed]

theorem reportedLease_enqueue {cmd line op token : Str} {lease : Int}
    (kind : commandKind cmd = some .enqueue)
    (parsed : parseEnqueueResponse line op = .ok (.acquired token lease)) :
    reportedLease cmd line = some lease := by
  simp only [reportedLease, kind, parseEnqueueResponse_label [] parsed]

theorem reportedLease_renew {cmd line op : Str} {remaining : Int}
    (kind : commandKind cmd = some .renew)
    (parsed : parseRenewResponse line op = .ok remaining) :
    reportedLease cmd line = if remaining > 0 then some remaining else none := by
  simp only [reportedLease, kind, parseRenewResponse_label [] parsed]

@[simp] theorem lastOn_snoc (trace : List Event) (event : Event) (conn : Nat) :
    lastOn (trace ++ [event]) conn = lastStep conn (lastOn trace conn) event := by
  simp [lastOn]

@[simp] theorem reported_snoc (trace : List Event) (event : Event) (conn : Nat) :
    reported (trace ++ [event]) conn = reportedStep conn (reported trace conn) event := by
  simp [reported]

inductive Mode
  | idle
  | queued
  | held
  deriving DecidableEq

/-- A live worker whose stop event is unset. -/
def Renews (world : World) (worker : Nat) : Prop :=
  world.alive worker = true ∧ world.eventSet (world.workerEvent worker) = false

def AnsweredQueued (world : World) (conn : Nat) : Prop :=
  ∃ cmd line, lastOn world.trace conn = some (.answer conn cmd line) ∧
    commandKind cmd = some .enqueue ∧ parseEnqueueResponse line [] = .ok .queued

def OneRenews (world : World) : Prop :=
  ∃ worker, Renews world worker ∧ world.workerEvent worker = world.stopEvent ∧
    ∀ other, Renews world other → other = worker

def Mode.Holds (mode : Mode) (world : World) : Prop :=
  match mode with
  | .idle => world.conn = none ∧ world.token = none ∧ world.lease = 0 ∧
      ∀ worker, ¬Renews world worker
  | .queued => ∃ conn, world.conn = some conn ∧ world.closedConn conn = false ∧
      AnsweredQueued world conn ∧ world.token = none ∧ world.lease = 0 ∧
      ∀ worker, ¬Renews world worker
  | .held => ∃ conn token, world.conn = some conn ∧ world.closedConn conn = false ∧
      world.token = some token ∧ granted world.trace conn = some token ∧
      OneRenews world ∧ reported world.trace conn = some world.lease ∧
      1 ≤ world.lease ∧ world.lease ≤ maxProtocolSeconds

theorem Mode.exclusive {first second : Mode} {world : World} (left : first.Holds world)
    (right : second.Holds world) : first = second := by
  cases first <;> cases second <;> simp_all [Mode.Holds] <;> grind

def Frame (thread : Thread) (before after : World) : Prop :=
  ∀ worker, (before.started worker = true → after.started worker = true ∧
    after.workerEvent worker = before.workerEvent worker ∧
    (thread ≠ .worker worker → after.alive worker = before.alive worker)) ∧
  (before.started worker = false → after.started worker = true → after.alive worker = true)

/-- The locks, events and workers, at any point of a step that began at `origin`. -/
structure Base (thread : Thread) (origin world : World) : Prop where
  free : world.ioLock = none
  pastSet : ∀ event, event < world.stopEvent → world.eventSet event = true
  future : ∀ event, world.stopEvent < event → world.eventSet event = false
  workerPast : ∀ worker, worker < world.workers → world.workerEvent worker ≤ world.stopEvent
  startedMade : ∀ worker, world.started worker = true → worker < world.workers
  aliveStarted : ∀ worker, world.alive worker = true → world.started worker = true
  unmade : ∀ conn, world.conns ≤ conn → world.closedConn conn = false
  frame : Frame thread origin world
  stateLock : ∀ me, thread = .worker me → world.stateLock = origin.stateLock

structure Entered (thread : Thread) (origin world : World) : Prop extends
    Base thread origin world where
  joinable : ∀ worker, world.renewThread = some worker → world.started worker = true
  watched : ∀ worker, Renews world worker → world.renewThread = some worker
  closed : world.closed = true → world.conn = none ∧ world.token = none ∧ world.lease = 0 ∧
    world.eventSet world.stopEvent = true
  others : ∀ conn, conn < world.conns → world.conn ≠ some conn → world.closedConn conn = true
  connMade : ∀ conn, world.conn = some conn → conn < world.conns

/-- Between two steps, the state lock aside. -/
structure Rested (thread : Thread) (origin world : World) : Prop extends
    Entered thread origin world where
  unset : world.closed = false → world.eventSet world.stopEvent = false
  mode : ∃ mode : Mode, mode.Holds world

end DflockdClient.Sync
