import DflockdClient.Interleaving.RelyGuarantee
import DflockdClient.Interleaving.Trace
import DflockdClient.SyncCore

/-!
What is read off a trace, and the invariant and guarantees under which callers
and renewal workers share an instance.
-/

namespace DflockdClient.Sync

open Interleaving

variable {faults : Faults}

theorem send_cases {thread : Thread} {conn : Nat} {request : Request} {choice : Choice}
    {world after : World} {result : Except PyError Unit}
    (executed : exec faults thread (.send conn request) choice world = some (result, after)) :
    (∃ error, result = .error error ∧ after = world ∧
        faults.raises thread (commandKind request.cmd) error = true) ∨
      (∃ error, result = .error error ∧
        faults.raises thread (commandKind request.cmd) error = true ∧ world.closedConn conn = false ∧
        after = world.log [.frame conn request, .noAnswer conn request.cmd]) ∨
      (result = .ok () ∧ world.closedConn conn = false ∧
        after = world.log [.frame conn request]) := by
  cases choice with
  | fail error =>
      simp only [exec, Option.ite_none_right_eq_some, Option.some.injEq, Prod.mk.injEq]
        at executed
      obtain ⟨raises, rfl, rfl⟩ := executed
      exact .inl ⟨error, rfl, rfl, raises⟩
  | broken error =>
      simp only [exec, Option.ite_none_right_eq_some, Option.some.injEq, Prod.mk.injEq,
        Bool.and_eq_true, Bool.not_eq_true'] at executed
      obtain ⟨⟨raises, opened⟩, rfl, rfl⟩ := executed
      exact .inr (.inl ⟨error, rfl, raises, opened, rfl⟩)
  | go | expire | reply line | call call =>
      simp only [exec, Option.ite_none_left_eq_some, Option.some.injEq, Prod.mk.injEq]
        at executed
      obtain ⟨opened, rfl, rfl⟩ := executed
      exact .inr (.inr ⟨rfl, by simpa using opened, rfl⟩)

theorem recv_cases {thread : Thread} {conn : Nat} {cmd : Str} {choice : Choice}
    {world after : World} {result : Except PyError Str}
    (executed : exec faults thread (.recv conn cmd) choice world = some (result, after)) :
    (∃ error, result = .error error ∧ faults.raises thread (commandKind cmd) error = true ∧
        after = world.log [.noAnswer conn cmd]) ∨
      (∃ line, result = .ok line ∧ after = world.log [.answer conn cmd line]) := by
  cases choice with
  | fail error =>
      simp only [exec, Option.ite_none_right_eq_some, Option.some.injEq, Prod.mk.injEq]
        at executed
      obtain ⟨raises, rfl, rfl⟩ := executed
      exact .inl ⟨error, rfl, raises, rfl⟩
  | reply line =>
      simp only [exec, Option.some.injEq, Prod.mk.injEq] at executed
      obtain ⟨rfl, rfl⟩ := executed
      exact .inr ⟨line, rfl, rfl⟩
  | go | expire | broken error | call call => simp only [exec, reduceCtorEq] at executed

def grantStep (conn : Nat) (known : Option Str) (event : Event) : Option Str :=
  match event with
  | .answer c cmd line => if c = conn then (grantedToken cmd line).or known else known
  | _ => known

def granted (trace : List Event) (conn : Nat) : Option Str :=
  trace.foldl (grantStep conn) none

def Event.isFrameOf (event : Event) (kind : CommandKind) (conn : Nat) : Bool :=
  match event with
  | .frame c request => c == conn && commandKind request.cmd == some kind
  | _ => false

def released (trace : List Event) (conn : Nat) : Bool :=
  trace.any fun event => event.isFrameOf .release conn

def releasingStep (pending : Bool) (event : Event) : Bool :=
  match event with
  | .frame _ request => pending || commandKind request.cmd == some .release
  | .answer _ cmd _ | .noAnswer _ cmd => pending && commandKind cmd != some .release

def releasing (trace : List Event) : Bool := trace.foldl releasingStep false

@[simp] theorem granted_snoc (trace : List Event) (event : Event) (conn : Nat) :
    granted (trace ++ [event]) conn = grantStep conn (granted trace conn) event := by
  simp [granted]

@[simp] theorem released_snoc (trace : List Event) (event : Event) (conn : Nat) :
    released (trace ++ [event]) conn =
      (released trace conn || event.isFrameOf .release conn) := by
  simp [released]

@[simp] theorem releasing_snoc (trace : List Event) (event : Event) :
    releasing (trace ++ [event]) = releasingStep (releasing trace) event := by
  simp [releasing]

structure Neutral (before events : List Event) : Prop where
  granted : ∀ conn, granted (before ++ events) conn = granted before conn
  released : ∀ conn, released (before ++ events) conn = released before conn
  releasing : releasing (before ++ events) = releasing before

theorem Neutral.snoc {before events : List Event} {event : Event} (neutral : Neutral before events)
    (last : ∀ before, Neutral before [event]) : Neutral before (events ++ [event]) where
  granted := fun conn => by
    rw [← List.append_assoc, (last _).granted, neutral.granted]
  released := fun conn => by
    rw [← List.append_assoc, (last _).released, neutral.released]
  releasing := by
    rw [← List.append_assoc, (last _).releasing, neutral.releasing]

theorem neutral_frame {request : Request} (before : List Event) (conn : Nat)
    (plain : commandKind request.cmd ≠ some .release) : Neutral before [.frame conn request] where
  granted := fun _ => by simp [grantStep]
  released := fun _ => by simp [Event.isFrameOf, plain]
  releasing := by simp [releasingStep, plain]

theorem neutral_noAnswer {cmd : Str} (before : List Event) (conn : Nat)
    (plain : commandKind cmd ≠ some .release) : Neutral before [.noAnswer conn cmd] where
  granted := fun _ => by simp [grantStep]
  released := fun _ => by simp [Event.isFrameOf]
  releasing := by simp [releasingStep, plain]

theorem neutral_answer {cmd : Str} (before : List Event) (conn : Nat) (line : Str)
    (plain : commandKind cmd ≠ some .release) (nothing : grantedToken cmd line = none) :
    Neutral before [.answer conn cmd line] where
  granted := fun _ => by simp [grantStep, nothing]
  released := fun _ => by simp [Event.isFrameOf]
  releasing := by simp [releasingStep, plain]

variable (params : Params)

/-- The argument of a renew for a token. -/
def RenewArg (token arg : Str) : Prop :=
  ∃ lease, validateLeaseTtlS params.leaseTtlS = .ok lease ∧ buildRenewArg token lease = .ok arg

/-- What may be written next: a renew carries the token granted on its connection, outside every
release exchange and before any release on that connection; a release is the first one there. -/
def renewRule (before : List Event) (event : Event) : Prop :=
  match event with
  | .frame conn request =>
      (commandKind request.cmd = some .renew →
        (∃ token, granted before conn = some token ∧ request.key = params.key ∧
          RenewArg params token request.arg) ∧
        releasing before = false ∧ released before conn = false) ∧
      (commandKind request.cmd = some .release → released before conn = false)
  | _ => True

/-- No worker can find the current stop event unset. -/
def Quiet (world : World) : Prop :=
  world.eventSet world.stopEvent = true ∨
    ∀ worker, world.started worker = true → world.workerEvent worker ≠ world.stopEvent

def Usable (conn : Nat) (world : World) : Prop :=
  released world.trace conn = true → world.closedConn conn = true

structure Tidy (world : World) : Prop where
  closed : world.closed = true →
    world.conn = none ∧ world.token = none ∧ world.eventSet world.stopEvent = true
  usable : ∀ conn, world.conn = some conn → Usable conn world
  settled : releasing world.trace = false
  joinable : ∀ worker, world.renewThread = some worker → world.started worker = true

structure Invariant (world : World) : Prop where
  pastSet : ∀ event, event < world.stopEvent → world.eventSet event = true
  workerPast : ∀ worker, worker < world.workers → world.workerEvent worker ≤ world.stopEvent
  startedMade : ∀ worker, world.started worker = true → worker < world.workers
  armedLock : ∀ thread, world.armed = some thread → world.ioLock = some thread
  tokenGrant : ∀ conn token, world.conn = some conn → world.token = some token →
    granted world.trace conn = some token
  releasedQuiet : ∀ conn, world.conn = some conn → released world.trace conn = true →
    Quiet world ∧ world.armed = none
  releasingLock : releasing world.trace = true → ∃ id, world.ioLock = some (.caller id)
  quietNone : world.renewThread = none → Quiet world
  lawful : Lawful (renewRule params) world.trace
  connMade : ∀ conn, world.conn = some conn → conn < world.conns ∧ world.inHand conn = none
  unmade : ∀ conn, world.conns ≤ conn →
    granted world.trace conn = none ∧ released world.trace conn = false
  accounted : ∀ conn, conn < world.conns → world.closedConn conn = false →
    world.conn = some conn ∨ world.inHand conn ≠ none
  tidy : world.stateLock = none → Tidy world
  returned : world.lastReturn = some .release ∨ world.lastReturn = some .close →
    world.stateLock = none ∧ world.conn = none
  installedPast : world.installed ≤ world.stopEvent

variable {params}

theorem Tidy.frame {before after : World} (tidy : Tidy before)
    (same : (after.closed, after.conn, after.token, after.stopEvent, after.eventSet, after.trace,
      after.closedConn, after.renewThread, after.started) = (before.closed, before.conn,
      before.token, before.stopEvent, before.eventSet, before.trace, before.closedConn,
      before.renewThread, before.started)) :
    Tidy after := by
  simp only [Prod.mk.injEq] at same
  obtain ⟨closed, conn, token, stopEvent, eventSet, trace, closedConn, renewThread, started⟩ := same
  constructor
  · rw [closed, conn, token, stopEvent, eventSet]
    exact tidy.closed
  · simp only [Usable, conn, trace, closedConn]
    exact tidy.usable
  · rw [trace]
    exact tidy.settled
  · rw [renewThread, started]
    exact tidy.joinable

theorem closed_update {world : World} {conn other : Nat} (closed : world.closedConn other = true) :
    Function.update world.closedConn conn true other = true := by
  by_cases same : other = conn
  · simp [same]
  · simpa only [Function.update_of_ne same] using closed

theorem Tidy.closeConn {world : World} (conn : Nat) (tidy : Tidy world) :
    Tidy { world with closedConn := Function.update world.closedConn conn true } :=
  ⟨tidy.closed, fun other otherEq sent => closed_update (tidy.usable other otherEq sent),
    tidy.settled, tidy.joinable⟩

theorem Tidy.log {world : World} {events : List Event} (tidy : Tidy world)
    (neutral : Neutral world.trace events) : Tidy (world.log events) where
  closed := tidy.closed
  usable := fun conn connEq sent =>
    tidy.usable conn connEq ((neutral.released conn).symm.trans sent)
  settled := neutral.releasing.trans tidy.settled
  joinable := tidy.joinable

theorem Invariant.log {world : World} {events : List Event} (inv : Invariant params world)
    (lawful : Lawful (renewRule params) (world.trace ++ events))
    (neutral : Neutral world.trace events) : Invariant params (world.log events) :=
  { inv with
    tokenGrant := fun conn token connEq tokenEq =>
      (neutral.granted conn).trans (inv.tokenGrant conn token connEq tokenEq)
    releasedQuiet := fun conn connEq sent =>
      inv.releasedQuiet conn connEq ((neutral.released conn).symm.trans sent)
    releasingLock := fun sending => inv.releasingLock (neutral.releasing.symm.trans sending)
    lawful := lawful
    unmade := fun conn beyond => ⟨(neutral.granted conn).trans (inv.unmade conn beyond).1,
      (neutral.released conn).trans (inv.unmade conn beyond).2⟩
    tidy := fun free => (inv.tidy free).log neutral }

variable (params)

/-- What a caller may do. Without the state lock it can only take it; a worker past its stop
check keeps what it has read. -/
structure CallerMove (me : Nat) (before after : World) : Prop where
  outside : before.stateLock ≠ some (.caller me) → after = before ∨ before.stateLock = none
  lockKept : ∀ worker, before.ioLock = some (.worker worker) → after.ioLock = before.ioLock
  lockTaken : ∀ thread, thread ≠ .caller me → after.ioLock = some thread →
    before.ioLock = some thread
  stateTaken : ∀ thread, thread ≠ .caller me → after.stateLock = some thread →
    before.stateLock = some thread
  armed : ∀ worker, before.armed = some (.worker worker) → after.armed = before.armed
  conn : before.armed ≠ none → before.conn ≠ none → after.conn = before.conn
  installed : before.conn ≠ none → after.installed = before.installed
  token : before.armed ≠ none → before.conn ≠ none → before.token ≠ none →
    after.token = before.token
  inHand : ∀ thread conn, thread ≠ .caller me → after.inHand conn = some thread →
    before.inHand conn = some thread
  closedConn : ∀ conn, before.closedConn conn = true → after.closedConn conn = true
  started : ∀ worker, before.started worker = true →
    after.started worker = true ∧ after.workerEvent worker = before.workerEvent worker

/-- What a worker may do. Without the I/O lock it can only take it or write the lease. -/
structure WorkerMove (worker : Nat) (before after : World) : Prop where
  stateLock : after.stateLock = before.stateLock
  closed : after.closed = before.closed
  stopEvent : after.stopEvent = before.stopEvent
  renewThread : after.renewThread = before.renewThread
  eventSet : after.eventSet = before.eventSet
  workers : after.workers = before.workers
  started : after.started = before.started
  workerEvent : after.workerEvent = before.workerEvent
  conns : after.conns = before.conns
  conn : after.conn = before.conn ∨ after.conn = none
  token : after.token = before.token ∨ after.token = none
  granted : ∀ conn, granted after.trace conn = granted before.trace conn
  released : ∀ conn, released after.trace conn = released before.trace conn
  releasing : releasing after.trace = releasing before.trace
  locked : ∀ thread, thread ≠ .worker worker → (before.ioLock = some thread ↔
    after.ioLock = some thread)
  outside : before.ioLock ≠ some (.worker worker) → after.conn = before.conn ∧
    after.token = before.token ∧ after.armed = before.armed
  armed : after.armed = before.armed ∨ after.armed = none ∨ ¬Quiet before
  inHand : ∀ thread conn, thread ≠ .worker worker → after.inHand conn = some thread →
    before.inHand conn = some thread
  closedConn : ∀ conn, before.closedConn conn = true → after.closedConn conn = true

def contract : Contract Op Thread World Choice where
  invariant := Invariant params
  guarantee := fun thread => match thread with
    | .caller me => CallerMove me
    | .worker worker => WorkerMove worker
  permitted := fun _ _ _ _ => True

theorem raising_triple {α : Type} {rules : Machine Op Op.Res PyError Thread Val World Choice}
    {contract : Contract Op Thread World Choice} {thread : Thread} {pre : World → Prop}
    {program : Py (Except PyError α)} {post : α → World → Prop} {raised : PyError → World → Prop}
    (known : Triple rules contract thread pre program
      (fun result world => match result with
        | .ok value => post value world
        | .error error => raised error world) raised) :
    Triple rules contract thread pre (raising program) post raised := by
  refine known.bind fun result => ?_
  cases result with
  | ok value => exact Triple.orRaise (fun _ same _ known => by cases same; exact known) (by simp)
  | error error => exact Triple.orRaise (by simp) (fun _ same _ known => by cases same; exact known)

end DflockdClient.Sync
