import DflockdClient.Exchanges
import DflockdClient.Interleaving.Sequential
import DflockdClient.Scripts

/-!
`_SyncBase` when nothing overlaps: its programs and those of its renewal threads,
each run to its end, against a network that an oracle decides.
-/

namespace DflockdClient.Sync

open Interleaving

/-- The instance, what has been asked of the network, and where each renewal thread stands. -/
structure Alone where
  world : World := {}
  asked : List Ask := []
  position : Nat → WorkerState := fun _ => .fresh

namespace Alone

variable (oracle : Oracle) (params : Params)

def choose (op : Op) (alone : Alone) : List Ask × Choice :=
  match op with
  | .dial host port =>
      let asked := alone.asked ++ [.dial host port]
      (asked, match oracle.dial asked with
        | .ok () => .go
        | .error failure => .fail failure.val)
  | .send conn request =>
      let asked := alone.asked ++ [.command conn request]
      (asked, match oracle.command asked with
        | .unsent failure => .fail failure.val
        | _ => .go)
  | .recv _ _ => (alone.asked, match oracle.command alone.asked with
      | .line line => .reply line
      | .unsent failure | .unanswered failure => .fail failure.val)
  | .waitEvent event _ => (alone.asked, if alone.world.eventSet event then .go else .expire)
  | _ => (alone.asked, .go)

def exec (thread : Thread) (op : Op) (alone : Alone) : Option (op.Res × Alone) :=
  let (asked, choice) := alone.choose oracle op
  (Sync.exec {} thread op choice alone.world).map fun (result, world) =>
    (result, { alone with world := world, asked := asked })

def workers : Machine Op Op.Res PyError Thread Val Alone Unit where
  exec := fun thread op _ => exec oracle thread op
  yields := fun _ => false
  start := fun _ _ _ => none

def advance (worker : Nat) (alone : Alone) : Option Alone :=
  match start params (.worker worker) (.ok (alone.position worker)) .go with
  | none => some alone
  | some program =>
      ((workers oracle).runAlone (.worker worker) program alone).map fun (outcome, after) =>
        { after with position := Function.update after.position worker (match outcome with
          | .ok state => state
          | .error _ => .done) }

def callers : Machine Op Op.Res PyError Thread Val Alone Unit where
  exec := fun thread op _ alone => match op with
    | .joinThread worker => (advance oracle params worker alone).bind (exec oracle thread (.joinThread worker))
    | op => exec oracle thread op alone
  yields := fun _ => false
  start := fun _ _ _ => none

def settle (alone : Alone) : Option Alone :=
  match alone.world.renewThread with
  | none => some alone
  | some worker =>
      if alone.position worker = .fresh then advance oracle params worker alone else some alone

def act (action : Action) (alone : Alone) : Option (Except PyError CallValue × Alone) :=
  match action with
  | .call call =>
      ((callers oracle params).runAlone (.caller 0) (call.program params) alone).bind
        fun (outcome, after) => (settle oracle params after).map fun settled => (outcome, settled)
  | .renew worker =>
      match alone.position worker with
      | .sleeping _ _ => (advance oracle params worker alone).map fun after => (.ok .none, after)
      | _ => some (.ok .none, alone)

def interval (alone : Alone) (worker : Nat) : Option Rat :=
  match alone.position worker with
  | .sleeping _ interval => some interval
  | _ => none

def seen (alone : Alone) (outcome : Except PyError CallValue) : Seen where
  outcome := outcome
  asked := alone.asked
  interval := alone.interval
  closedConn := alone.world.closedConn
  token := alone.world.token
  lease := alone.world.lease
  connected := alone.world.conn.isSome

end Alone

section

variable {oracle : Oracle} {params : Params} {client : Client} {alone : Alone} {α : Type}

abbrev Runs (oracle : Oracle) (params : Params) {α : Type} (program : Py α)
    (post : α → Alone → Prop) (raised : PyError → Alone → Prop) (alone : Alone) : Prop :=
  against (Alone.callers oracle params) (.caller 0) (fun _ => ()) program post raised alone

structure Parked (alone : Alone) : Prop where
  joinable : ∀ worker, alone.world.renewThread = some worker →
    alone.world.started worker = true ∧ alone.position worker ≠ .fresh ∧
      (alone.position worker = .done → alone.world.alive worker = false)
  sleeping : ∀ worker event interval, alone.position worker = .sleeping event interval →
    alone.world.renewThread = some worker ∧ event = alone.world.stopEvent
  fresh : ∀ worker, alone.world.workers ≤ worker → alone.position worker = .fresh
  future : ∀ event, alone.world.stopEvent < event → alone.world.eventSet event = false

structure ClosingDown (client : Client) (alone : Alone) : Prop extends Parked alone,
    Tracks client alone.asked alone.world.conn alone.world.conns alone.world.workers
      alone.world.closedConn where
  free : alone.world.ioLock = none

/-- At any other point of an operation. -/
structure MidCall (client : Client) (alone : Alone) : Prop extends ClosingDown client alone where
  closed : alone.world.closed = true → client.hold.conn = none ∧ alone.world.token = none ∧
    alone.world.lease = 0 ∧ ∀ worker, alone.interval worker = none

structure Represents (client : Client) (alone : Alone) : Prop extends MidCall client alone,
    Shows client alone.asked alone.world.conn alone.world.token alone.world.lease
      alone.world.conns alone.world.workers alone.world.closedConn alone.interval where
  unset : client.hold.conn.isSome = true →
    alone.world.eventSet alone.world.stopEvent = false

theorem advance_stopped {worker event : Nat} {interval : Rat}
    (sleeping : alone.position worker = .sleeping event interval)
    (set : alone.world.eventSet event = true) :
    alone.advance oracle params worker = some { alone with
      world := { alone.world with alive := Function.update alone.world.alive worker false }
      position := Function.update alone.position worker .done } := by
  simp [Alone.advance, start, sleeping, renewRound, perform, Program.perform, Machine.runAlone,
    Alone.workers, Alone.exec, Alone.choose, exec, set]

def Alone.ended (alone : Alone) (worker : Nat) : Alone := { alone with
  world := { alone.world with alive := Function.update alone.world.alive worker false }
  position := Function.update alone.position worker .done }

theorem runs_join {worker : Nat} {post : Unit → Alone → Prop} {raised : PyError → Alone → Prop}
    (parked : Parked alone) (watched : alone.world.renewThread = some worker)
    (set : alone.world.eventSet alone.world.stopEvent = true)
    (known : post () (alone.ended worker)) :
    Runs oracle params (raising (perform (.joinThread worker))) post raised alone := by
  obtain ⟨started, entered, finished⟩ := parked.joinable worker watched
  have joined : (Alone.callers oracle params).exec (.caller 0) (.joinThread worker) () alone =
      some (.ok (), alone.ended worker) := by
    have advanced : alone.advance oracle params worker = some (alone.ended worker) := by
      cases position : alone.position worker with
      | fresh => exact absurd position entered
      | sleeping event interval =>
          obtain ⟨_, rfl⟩ := parked.sleeping worker event interval position
          exact advance_stopped position set
      | done =>
          have dead := finished position
          have same : alone.ended worker = alone := by
            simp only [Alone.ended]
            rw [← dead, ← position, Function.update_eq_self, Function.update_eq_self]
          simp [Alone.advance, start, position, same]
    simp [Alone.callers, advanced, Alone.exec, Alone.choose, exec, Alone.ended, started]
  simp only [Runs, raising, against_bind]
  exact ⟨_, _, joined, known⟩

theorem Alone.ended_interval (alone : Alone) (worker other : Nat) :
    (alone.ended worker).interval other = if other = worker then none else alone.interval other := by
  by_cases same : other = worker
  · simp [Alone.interval, Alone.ended, same]
  · simp [Alone.interval, Alone.ended, same]

theorem Parked.ended {worker : Nat} (parked : Parked alone)
    (watched : alone.world.renewThread = some worker) (other : Nat) :
    (alone.ended worker).interval other = none := by
  rw [alone.ended_interval]
  split
  · rfl
  · rename_i different
    cases position : alone.position other with
    | sleeping event interval =>
        have watching := (parked.sleeping other event interval position).1
        rw [watched] at watching
        cases watching
        exact absurd rfl different
    | fresh => simp [Alone.interval, position]
    | done => simp [Alone.interval, position]

theorem Parked.unwatched (parked : Parked alone) (none : alone.world.renewThread = none)
    (worker : Nat) : alone.interval worker = Option.none := by
  cases position : alone.position worker with
  | sleeping event interval =>
      have watching := (parked.sleeping worker event interval position).1
      rw [none] at watching
      cases watching
  | fresh => simp [Alone.interval, position]
  | done => simp [Alone.interval, position]

theorem sleeping_interval {worker event : Nat} {interval : Rat}
    (sleeping : alone.position worker = .sleeping event interval) :
    alone.interval worker = some interval := by
  simp [Alone.interval, sleeping]

theorem Parked.of_quiet (forgotten : alone.world.renewThread = none)
    (quiet : ∀ worker, alone.interval worker = none)
    (fresh : ∀ worker, alone.world.workers ≤ worker → alone.position worker = .fresh)
    (future : ∀ event, alone.world.stopEvent < event → alone.world.eventSet event = false) :
    Parked alone := by
  refine ⟨?_, ?_, fresh, future⟩
  · intro worker watched
    rw [forgotten] at watched
    cases watched
  · intro worker event interval sleeping
    have none := quiet worker
    rw [sleeping_interval sleeping] at none
    cases none

structure Joined (before after : Alone) : Prop where
  asked : after.asked = before.asked
  conn : after.world.conn = before.world.conn
  token : after.world.token = before.world.token
  lease : after.world.lease = before.world.lease
  isClosed : after.world.closed = before.world.closed
  conns : after.world.conns = before.world.conns
  workers : after.world.workers = before.world.workers
  closedConn : after.world.closedConn = before.world.closedConn
  ioLock : after.world.ioLock = before.world.ioLock
  stopEvent : after.world.stopEvent = before.world.stopEvent
  forgotten : after.world.renewThread = none
  quiet : ∀ worker, after.interval worker = none
  parked : Parked after

theorem Parked.ended_fresh {worker other : Nat} (parked : Parked alone)
    (watched : alone.world.renewThread = some worker) (beyond : alone.world.workers ≤ other) :
    (alone.ended worker).position other = .fresh := by
  have different : other ≠ worker := by
    rintro rfl
    exact (parked.joinable other watched).2.1 (parked.fresh other beyond)
  simp [Alone.ended, different, parked.fresh other beyond]

theorem runs_joinRenewThread {raised : PyError → Alone → Prop} (parked : Parked alone)
    (set : alone.world.eventSet alone.world.stopEvent = true) :
    Runs oracle params joinRenewThread (fun _ => Joined alone) raised alone := by
  simp only [Runs, joinRenewThread, against_bind]
  refine against_perform rfl ?_
  cases watched : alone.world.renewThread with
  | none =>
      refine against_perform rfl ?_
      have quiet := parked.unwatched watched
      refine ⟨rfl, rfl, rfl, rfl, rfl, rfl, rfl, rfl, rfl, rfl, rfl, quiet, ?_⟩
      exact .of_quiet rfl quiet parked.fresh parked.future
  | some worker =>
      simp only [against_bind]
      refine runs_join parked watched set ?_
      refine against_perform rfl ?_
      have quiet := parked.ended watched
      refine ⟨rfl, rfl, rfl, rfl, rfl, rfl, rfl, rfl, rfl, rfl, rfl, quiet, ?_⟩
      exact .of_quiet rfl quiet (fun other => parked.ended_fresh watched) parked.future

theorem Parked.set (parked : Parked alone) :
    Parked { alone with world := { alone.world with
      eventSet := Function.update alone.world.eventSet alone.world.stopEvent true } } := by
  refine ⟨parked.joinable, parked.sleeping, parked.fresh, fun event later => ?_⟩
  have later : alone.world.stopEvent < event := later
  show Function.update alone.world.eventSet alone.world.stopEvent true event = false
  rw [Function.update_of_ne (Nat.ne_of_gt later)]
  exact parked.future event later

theorem runs_stopRenew {raised : PyError → Alone → Prop} (parked : Parked alone) :
    Runs oracle params stopRenew (fun _ => Joined alone) raised alone := by
  simp only [Runs, stopRenew, against_bind]
  refine against_perform rfl ?_
  cases watched : alone.world.renewThread with
  | none =>
      have quiet := parked.unwatched watched
      exact ⟨rfl, rfl, rfl, rfl, rfl, rfl, rfl, rfl, rfl, rfl, watched, quiet, parked⟩
  | some worker =>
      simp only [against_bind]
      refine against_perform rfl ?_
      refine against_perform rfl ?_
      refine runs_join parked.set watched (by simp) ?_
      refine against_perform rfl ?_
      have quiet := parked.set.ended watched
      refine ⟨rfl, rfl, rfl, rfl, rfl, rfl, rfl, rfl, rfl, rfl, rfl, quiet, ?_⟩
      exact .of_quiet rfl quiet (fun other => parked.set.ended_fresh watched) parked.set.future

structure Shut (client : Client) (alone : Alone) : Prop extends ClosingDown client.drop alone where
  closedConn : alone.world.closedConn = client.drop.closedConn
  set : alone.world.eventSet alone.world.stopEvent = true

theorem runs_shutdownAndCloseConn {raised : PyError → Alone → Prop} (closing : ClosingDown client alone)
    (set : alone.world.eventSet alone.world.stopEvent = true) :
    Runs oracle params shutdownAndCloseConn (fun _ => Shut client) raised alone := by
  simp only [Runs, shutdownAndCloseConn, against_bind]
  refine against_perform rfl ?_
  cases installed : client.hold.conn with
  | none =>
      have gone := closing.conn.trans installed
      rw [gone]
      have tracks := closing.toTracks.dropped (closing.toTracks.eq_drop installed)
      rw [← gone] at tracks
      exact ⟨⟨closing.toParked, tracks, closing.free⟩, closing.toTracks.eq_drop installed, set⟩
  | some conn =>
      rw [closing.conn.trans installed]
      simp only [against_bind, withIoLock, against_ensure]
      refine against_perform rfl ?_
      have locked : (Alone.callers oracle params).exec (.caller 0) .lockIo () alone =
          some ((), { alone with world := { alone.world with ioLock := some (.caller 0) } }) := by
        simp [Alone.callers, Alone.exec, Alone.choose, exec, closing.free]
      refine against_perform locked ?_
      refine against_perform rfl ?_
      refine against_perform rfl ?_
      refine against_perform rfl ?_
      have closedConn := closing.toTracks.update_eq_drop installed
      refine ⟨⟨?_, closing.toTracks.dropped closedConn, rfl⟩, closedConn, set⟩
      exact ⟨closing.joinable, closing.sleeping, closing.fresh, closing.future⟩

theorem ClosingDown.idle (closing : ClosingDown client alone) (idle : client.hold = .idle)
    (closedConn : alone.world.closedConn = client.closedConn) (token : alone.world.token = none)
    (lease : alone.world.lease = 0) (quiet : ∀ worker, alone.interval worker = none) :
    Represents client alone := by
  have shows := closing.toTracks.idle idle closedConn quiet
  rw [← token, ← lease] at shows
  exact { closing, shows with
    closed := fun _ => ⟨by rw [idle]; rfl, token, lease, quiet⟩
    unset := by simp [idle, Hold.conn] }

theorem Joined.tracks {after : Alone} (joined : Joined alone after)
    (tracks : Tracks client alone.asked alone.world.conn alone.world.conns alone.world.workers
      alone.world.closedConn) :
    Tracks client after.asked after.world.conn after.world.conns after.world.workers
      after.world.closedConn := by
  rwa [joined.asked, joined.conn, joined.conns, joined.workers, joined.closedConn]

theorem Shut.joined {after : Alone} (shut : Shut client alone) (joined : Joined alone after)
    (token : Option Str) (lease : Int) :
    ClosingDown client.drop { after with world := { after.world with token := token, lease := lease } } :=
  ⟨⟨joined.parked.joinable, joined.parked.sleeping, joined.parked.fresh, joined.parked.future⟩,
    joined.tracks shut.toTracks, joined.ioLock.trans shut.free⟩

theorem runs_closeUnlocked {raised : PyError → Alone → Prop} (inside : MidCall client alone) :
    Runs oracle params closeUnlocked (fun _ => Represents client.drop) raised alone := by
  simp only [Runs, closeUnlocked, against_bind]
  refine against_perform rfl ?_
  cases isClosed : alone.world.closed with
  | true =>
      obtain ⟨gone, token, lease, quiet⟩ := inside.closed isClosed
      have closedConn := inside.toTracks.eq_drop gone
      have tracks := inside.toTracks.dropped closedConn
      rw [← inside.conn.trans gone] at tracks
      have dropped : ClosingDown client.drop alone := ⟨inside.toParked, tracks, inside.free⟩
      exact dropped.idle rfl closedConn token lease quiet
  | false =>
      simp only [Bool.false_eq_true, if_false, beginClose, tearDownConnAndThread, clearHeldState,
        against_bind]
      refine against_perform rfl ?_
      refine against_perform rfl ?_
      refine against_perform rfl ?_
      have begun : ClosingDown client { alone with world := { alone.world with
          closed := true
          eventSet := Function.update alone.world.eventSet alone.world.stopEvent true } } :=
        { inside.toClosingDown with future := inside.toParked.set.future }
      refine against_mono (runs_shutdownAndCloseConn begun (by simp)) ?_ fun _ _ impossible => impossible
      intro _ after shut
      refine against_mono (runs_joinRenewThread shut.toParked shut.set) ?_ fun _ _ impossible => impossible
      intro _ final joined
      refine against_perform rfl ?_
      refine against_perform rfl ?_
      exact (shut.joined joined none 0).idle rfl (joined.closedConn.trans shut.closedConn) rfl rfl
        joined.quiet

theorem Joined.inside {after : Alone} (joined : Joined alone after) (inside : MidCall client alone) :
    MidCall client after := by
  refine ⟨⟨joined.parked, joined.tracks inside.toTracks, joined.ioLock.trans inside.free⟩,
    fun isClosed => ?_⟩
  rw [joined.isClosed] at isClosed
  obtain ⟨gone, token, lease, _⟩ := inside.closed isClosed
  exact ⟨gone, joined.token.trans token, joined.lease.trans lease, joined.quiet⟩

structure Reopened (client : Client) (alone : Alone) : Prop extends Represents client alone where
  idle : client.hold = .idle
  reopened : alone.world.closed = false
  fresh' : alone.world.eventSet alone.world.stopEvent = false

theorem runs_resetForNewAttempt {raised : PyError → Alone → Prop} (inside : MidCall client alone) :
    Runs oracle params resetForNewAttempt (fun _ => Reopened client.drop) raised alone := by
  simp only [Runs, resetForNewAttempt, against_bind]
  refine against_mono (runs_stopRenew inside.toParked) ?_ fun _ _ impossible => impossible
  intro _ stopped joined
  refine against_mono (runs_closeUnlocked (joined.inside inside)) ?_ fun _ _ impossible => impossible
  intro _ after dropped
  refine against_perform rfl ?_
  refine against_perform rfl ?_
  have quiet : ∀ worker, after.interval worker = none := fun worker => by
    rw [dropped.interval]
    rfl
  have asleep : ∀ worker event interval, after.position worker ≠ .sleeping event interval := by
    intro worker event interval sleeping
    have none := quiet worker
    rw [sleeping_interval sleeping] at none
    cases none
  have closing : ClosingDown client.drop { after with world := { after.world with
      closed := false
      stopEvent := after.world.stopEvent + 1 } } :=
    { dropped.toClosingDown with
      sleeping := fun worker event interval sleeping => absurd sleeping (asleep worker event interval)
      future := fun event later => dropped.future event (Nat.lt_of_succ_lt later) }
  refine ⟨closing.idle rfl dropped.closedConn ?_ ?_ quiet, rfl, rfl, ?_⟩
  · exact dropped.token
  · exact dropped.lease
  · exact dropped.future _ (Nat.lt_succ_self _)

def Alone.commanded (alone : Alone) (asked : List Ask) (trace : List Event)
    (closedConn : Nat → Bool) : Alone := { alone with
  asked := asked
  world := { alone.world with trace := trace, closedConn := closedConn } }

theorem against_exchange {solo : Machine Op Op.Res PyError Thread Val Alone Unit} {thread : Thread}
    {conn : Nat} {built : Except PyError Request} {parse : Str → Except PyError α}
    {post : α → Alone → Prop} {raised : PyError → Alone → Prop}
    (same : ∀ op alone, (∀ worker, op ≠ .joinThread worker) →
      solo.exec thread op () alone = alone.exec oracle thread op)
    (opened : alone.world.closedConn conn = false)
    (returned : ∀ value trace,
      (Client.exchange oracle conn built parse alone.asked).1 = .ok value →
      post value (alone.commanded (Client.exchange oracle conn built parse alone.asked).2 trace
        alone.world.closedConn))
    (failed : ∀ error trace closedConn,
      (Client.exchange oracle conn built parse alone.asked).1 = .error error →
      (∀ other, other ≠ conn → closedConn other = alone.world.closedConn other) →
      raised error (alone.commanded (Client.exchange oracle conn built parse alone.asked).2 trace
        closedConn)) :
    against solo thread (fun _ => ()) (exchange (some conn) built parse) post raised alone := by
  have close : ∀ other, other ≠ conn →
      Function.update alone.world.closedConn conn true other = alone.world.closedConn other :=
    fun other different => Function.update_of_ne different _ _
  cases built with
  | error error => exact failed error alone.world.trace alone.world.closedConn rfl fun _ _ => rfl
  | ok request =>
      simp only [Client.exchange] at returned failed
      simp only [exchange, command, raising, against_bind, against_handle, against_discard,
        against_orRaise]
      cases encoded : encodeLines [request.cmd, request.key, request.arg] with
      | error error =>
          simp only [encoded] at failed
          exact failed error alone.world.trace alone.world.closedConn rfl fun _ _ => rfl
      | ok frame =>
          simp only [encoded] at returned failed
          generalize askedEq : alone.asked ++ [.command conn request] = asked at returned failed
          let written : Alone := { alone with
            asked := asked
            world := alone.world.log [.frame conn request] }
          have sent : (∀ failure, oracle.command asked ≠ .unsent failure) →
              solo.exec thread (.send conn request) () alone =
                some (.ok (), written) := by
            intro out
            cases decided : oracle.command asked with
            | unsent failure => exact absurd decided (out failure)
            | unanswered failure =>
                rw [same (.send conn request) _ (by simp)]
                simp [Alone.exec, Alone.choose, exec, askedEq, decided, opened, written]
            | line line =>
                rw [same (.send conn request) _ (by simp)]
                simp [Alone.exec, Alone.choose, exec, askedEq, decided, opened, written]
          cases decided : oracle.command asked with
          | unsent failure =>
              simp only [decided] at failed
              have sent : solo.exec thread (.send conn request) () alone =
                  some (.error failure.val, { alone with asked := asked }) := by
                rw [same (.send conn request) _ (by simp)]
                simp [Alone.exec, Alone.choose, exec, askedEq, decided,
                  Faults.raises, failure.property]
              refine against_perform sent ?_
              refine against_perform (same (.closeConn conn) _ (by simp)) ?_
              exact failed failure.val _ _ rfl close
          | unanswered failure =>
              simp only [decided] at failed
              refine against_perform (sent (by simp [decided])) ?_
              have unanswered : solo.exec thread (.recv conn request.cmd) () written = some (.error failure.val, { written with
                    world := written.world.log [.noAnswer conn request.cmd] }) := by
                rw [same (.recv conn request.cmd) _ (by simp)]
                simp [Alone.exec, Alone.choose, exec, written, decided,
                  Faults.raises, failure.property]
              refine against_perform unanswered ?_
              refine against_perform (same (.closeConn conn) _ (by simp)) ?_
              exact failed failure.val _ _ rfl close
          | line line =>
              simp only [decided] at returned failed
              refine against_perform (sent (by simp [decided])) ?_
              have answered : solo.exec thread (.recv conn request.cmd) () written = some (.ok line, { written with
                    world := written.world.log [.answer conn request.cmd line] }) := by
                rw [same (.recv conn request.cmd) _ (by simp)]
                simp [Alone.exec, Alone.choose, exec, written, decided]
              refine against_perform answered ?_
              cases parsed : parse line with
              | ok value =>
                  simp only [parsed]
                  exact returned value _ parsed
              | error error =>
                  simp only [parsed]
                  exact failed error _ _ parsed fun _ _ => rfl

theorem callers_exec (op : Op) (alone : Alone) (noJoin : ∀ worker, op ≠ .joinThread worker) :
    (Alone.callers oracle params).exec (.caller 0) op () alone = alone.exec oracle (.caller 0) op := by
  cases op with
  | joinThread worker => exact absurd rfl (noJoin worker)
  | _ => rfl

theorem MidCall.commanded {conn : Nat} {asked : List Ask} {trace : List Event}
    {closedConn : Nat → Bool} (inside : MidCall client alone)
    (installed : client.hold.conn = some conn)
    (others : ∀ other, other ≠ conn → closedConn other = alone.world.closedConn other) :
    MidCall { client with asked := asked } (alone.commanded asked trace closedConn) :=
  ⟨⟨⟨inside.joinable, inside.sleeping, inside.fresh, inside.future⟩,
    inside.toTracks.commanded installed others, inside.free⟩, inside.closed⟩

theorem Represents.commanded {asked : List Ask} {trace : List Event}
    (represents : Represents client alone) :
    Represents { client with asked := asked }
      (alone.commanded asked trace alone.world.closedConn) :=
  { represents.toShows.commanded with
    joinable := represents.joinable
    sleeping := represents.sleeping
    fresh := represents.fresh
    future := represents.future
    free := represents.free
    closed := represents.closed
    unset := represents.unset }

end

end DflockdClient.Sync
