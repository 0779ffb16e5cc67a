import DflockdClient.AsyncCore
import DflockdClient.Interleaving.Sequential
import DflockdClient.Scripts

/-!
`_AsyncBase` when nothing overlaps and nobody cancels an operation: its programs
and those of its renewal tasks, each run to its end, against a network that an
oracle decides.
-/

namespace DflockdClient.Async

open Interleaving
open Sync (CallValue Event)

/-- The instance, what has been asked of the network, and where each renewal task stands. -/
structure Alone where
  world : World := {}
  asked : List Ask := []
  position : Nat → WorkerState := fun _ => .fresh

namespace Alone

variable (oracle : Oracle) (params : Params)

def choose (op : Op) (alone : Alone) : List Ask × Choice :=
  match op with
  | .dial host port =>
      let asked := alone.asked ++ [.dial host port]
      (asked, match oracle.dial asked with
        | .ok () => .go
        | .error failure => .fail failure.val)
  | .write conn request => (alone.asked ++ [.command conn request], .go)
  | .drain _ _ => (alone.asked, match oracle.command alone.asked with
      | .unsent failure => .fail failure.val
      | _ => .go)
  | .readLine _ _ => (alone.asked, match oracle.command alone.asked with
      | .line line => .reply line
      | .unsent failure | .unanswered failure => .fail failure.val)
  | .sleep _ => (alone.asked, .expire)
  | _ => (alone.asked, .go)

def exec (thread : Thread) (op : Op) (alone : Alone) : Option (op.Res × Alone) :=
  let (asked, choice) := alone.choose oracle op
  (Async.exec thread op choice alone.world).map fun (result, world) =>
    (result, { alone with world := world, asked := asked })

def workers : Machine Op Op.Res PyError Thread Val Alone Unit where
  exec := fun thread op _ => exec oracle thread op
  yields := fun _ => false
  start := fun _ _ _ => none

def advance (worker : Nat) (alone : Alone) : Option Alone :=
  match start params (.worker worker) (.ok (alone.position worker)) .go with
  | none => some alone
  | some program =>
      ((workers oracle).runAlone (.worker worker) program alone).map fun (outcome, after) =>
        { after with position := Function.update after.position worker (match outcome with
          | .ok state => state
          | .error _ => .done) }

def callers : Machine Op Op.Res PyError Thread Val Alone Unit where
  exec := fun thread op _ alone => match op with
    | .awaitOuter task => (advance oracle params task alone).bind (exec oracle thread (.awaitOuter task))
    | op => exec oracle thread op alone
  yields := fun _ => false
  start := fun _ _ _ => none

def settle (alone : Alone) : Option Alone :=
  match alone.world.renewTask with
  | none => some alone
  | some task =>
      if alone.position task = .fresh then advance oracle params task alone else some alone

def act (action : Action) (alone : Alone) : Option (Except PyError CallValue × Alone) :=
  match action with
  | .call call =>
      ((callers oracle params).runAlone (.caller 0) (program params call) alone).bind
        fun (outcome, after) => (settle oracle params after).map fun settled => (outcome, settled)
  | .renew worker =>
      match alone.position worker with
      | .sleeping _ => (advance oracle params worker alone).map fun after => (.ok .none, after)
      | _ => some (.ok .none, alone)

def interval (alone : Alone) (worker : Nat) : Option Rat :=
  match alone.position worker with
  | .sleeping interval => some interval
  | _ => none

def seen (alone : Alone) (outcome : Except PyError CallValue) : Seen where
  outcome := outcome
  asked := alone.asked
  interval := alone.interval
  closedConn := alone.world.closedConn
  token := alone.world.token
  lease := alone.world.lease
  connected := alone.world.conn.isSome

end Alone

section

variable {oracle : Oracle} {params : Params} {client : Client} {alone : Alone} {α : Type}

abbrev Runs (oracle : Oracle) (params : Params) {α : Type} (program : Py α)
    (post : α → Alone → Prop) (raised : PyError → Alone → Prop) (alone : Alone) : Prop :=
  against (Alone.callers oracle params) (.caller 0) (fun _ => ()) program post raised alone

structure Parked (alone : Alone) : Prop where
  watched : ∀ task, alone.world.renewTask = some task → alone.position task ≠ .fresh ∧
    (alone.position task = .done → alone.world.outcome task = some (.ok ()))
  sleeping : ∀ task interval, alone.position task = .sleeping interval →
    alone.world.renewTask = some task ∧ alone.world.outcome task = none ∧
      alone.world.undelivered (.worker task) = false
  fresh : ∀ task, alone.world.workers ≤ task → alone.position task = .fresh ∧
    alone.world.outcome task = none ∧ alone.world.undelivered (.worker task) = false
  uncancelled : alone.world.undelivered (.caller 0) = false

/-- At any point of an operation. -/
structure MidCall (client : Client) (alone : Alone) : Prop extends Parked alone,
    Tracks client alone.asked alone.world.conn alone.world.conns alone.world.workers
      alone.world.closedConn

structure Represents (client : Client) (alone : Alone) : Prop extends MidCall client alone,
    Shows client alone.asked alone.world.conn alone.world.token alone.world.lease
      alone.world.conns alone.world.workers alone.world.closedConn alone.interval where
  closed : alone.world.closed = true → client.hold.conn = none
  free : alone.world.ioLock = none

def Alone.ended (alone : Alone) (worker : Nat) : Alone := { alone with
  world := { (alone.world.request (.worker worker)).deliver (.worker worker) with
    outcome := Function.update alone.world.outcome worker (some (.ok ())) }
  position := Function.update alone.position worker .done }

theorem advance_cancelled {worker : Nat} {interval : Rat}
    (sleeping : alone.position worker = .sleeping interval) :
    Alone.advance oracle params worker { alone with
      world := alone.world.request (.worker worker) } = some (alone.ended worker) := by
  simp [Alone.advance, start, sleeping, renewRound, renewLoopBody, raising, perform, Program.perform,
    Machine.runAlone, Alone.workers, Alone.exec, Alone.choose, exec, suspend, World.request,
    World.deliver, Alone.ended, cancelled, Program.orRaise]

theorem sleeping_interval {worker : Nat} {interval : Rat}
    (sleeping : alone.position worker = .sleeping interval) :
    alone.interval worker = some interval := by
  simp [Alone.interval, sleeping]

structure Joined (before after : Alone) : Prop where
  asked : after.asked = before.asked
  conn : after.world.conn = before.world.conn
  token : after.world.token = before.world.token
  lease : after.world.lease = before.world.lease
  isClosed : after.world.closed = before.world.closed
  conns : after.world.conns = before.world.conns
  workers : after.world.workers = before.world.workers
  closedConn : after.world.closedConn = before.world.closedConn
  ioLock : after.world.ioLock = before.world.ioLock
  stateLock : after.world.stateLock = before.world.stateLock
  forgotten : after.world.renewTask = none
  quiet : ∀ worker, after.interval worker = none
  parked : Parked after

theorem Parked.of_quiet (forgotten : alone.world.renewTask = none)
    (quiet : ∀ worker, alone.interval worker = none)
    (fresh : ∀ task, alone.world.workers ≤ task → alone.position task = .fresh ∧
      alone.world.outcome task = none ∧ alone.world.undelivered (.worker task) = false)
    (uncancelled : alone.world.undelivered (.caller 0) = false) : Parked alone := by
  refine ⟨?_, ?_, fresh, uncancelled⟩
  · intro task watched
    rw [forgotten] at watched
    cases watched
  · intro task interval sleeping
    have none := quiet task
    rw [sleeping_interval sleeping] at none
    cases none

theorem Parked.others_quiet {task other : Nat} (parked : Parked alone)
    (watched : alone.world.renewTask = some task) (different : other ≠ task) :
    alone.interval other = none := by
  rcases positionEq : alone.position other with _ | slept | _
  · simp [Alone.interval, positionEq]
  · have watching := (parked.sleeping other slept positionEq).1
    rw [watched] at watching
    cases watching
    exact absurd rfl different
  · simp [Alone.interval, positionEq]

theorem Parked.unwatched (parked : Parked alone) (none : alone.world.renewTask = none)
    (worker : Nat) : alone.interval worker = Option.none := by
  rcases positionEq : alone.position worker with _ | slept | _
  · simp [Alone.interval, positionEq]
  · have watching := (parked.sleeping worker slept positionEq).1
    rw [none] at watching
    cases watching
  · simp [Alone.interval, positionEq]

theorem Parked.ended {task : Nat} (parked : Parked alone)
    (watched : alone.world.renewTask = some task) :
    Joined alone { alone.ended task with
      world := { (alone.ended task).world with renewTask := none } } := by
  have quiet : ∀ other, (alone.ended task).interval other = none := by
    intro other
    by_cases same : other = task
    · simp [Alone.interval, Alone.ended, same]
    · have others := parked.others_quiet watched same
      simpa [Alone.interval, Alone.ended, same] using others
  refine ⟨rfl, rfl, rfl, rfl, rfl, rfl, rfl, rfl, rfl, rfl, rfl, quiet, .of_quiet rfl quiet ?_ ?_⟩
  · intro other beyond
    have different : other ≠ task := by
      rintro rfl
      exact (parked.watched other watched).1 (parked.fresh other beyond).1
    simpa [Alone.ended, World.deliver, World.request, different] using parked.fresh other beyond
  · simpa [Alone.ended, World.deliver, World.request] using parked.uncancelled

theorem runs_cancelRenew {raised : PyError → Alone → Prop} (parked : Parked alone) :
    Runs oracle params cancelRenew (fun _ => Joined alone) raised alone := by
  simp only [Runs, cancelRenew, against_bind]
  refine against_perform rfl ?_
  refine against_perform rfl ?_
  cases watched : alone.world.renewTask with
  | none =>
      have quiet := parked.unwatched watched
      exact ⟨rfl, rfl, rfl, rfl, rfl, rfl, rfl, rfl, rfl, rfl, rfl, quiet,
        .of_quiet rfl quiet parked.fresh parked.uncancelled⟩
  | some task =>
      simp only [cancelAndWait, shield, raising, against_bind, against_handle]
      refine against_perform rfl ?_
      let forgot : Alone := { alone with world := { alone.world with renewTask := none } }
      rcases positionEq : alone.position task with _ | slept | _
      · exact absurd positionEq (parked.watched task watched).1
      · have running := (parked.sleeping task slept positionEq).2.1
        let asked : Alone := { forgot with world := forgot.world.request (.worker task) }
        have cancels : (Alone.callers oracle params).exec (.caller 0) (.cancelTask task) () forgot =
            some ((), asked) := by
          simp [Alone.callers, Alone.exec, Alone.choose, exec, forgot, running, asked]
        have unfinished : (Alone.callers oracle params).exec (.caller 0) (.taskOutcome task) () asked =
            some (none, asked) := by
          simp [Alone.callers, Alone.exec, Alone.choose, exec, forgot, running, asked, World.request]
        have awaited : (Alone.callers oracle params).exec (.caller 0) (.awaitOuter task) () asked =
            some (.ok (), forgot.ended task) := by
          have advanced : asked.advance oracle params task = some (forgot.ended task) :=
            @advance_cancelled oracle params forgot task slept positionEq
          simp only [Alone.callers, advanced, Option.bind_some]
          simp [Alone.exec, Alone.choose, exec, suspend, Alone.ended, World.request, World.deliver,
            forgot, parked.uncancelled]
        refine against_perform cancels ?_
        refine against_perform unfinished ?_
        simp only [against_bind]
        refine against_perform awaited ?_
        exact parked.ended watched
      · have finishes := (parked.watched task watched).2 positionEq
        have cancels : (Alone.callers oracle params).exec (.caller 0) (.cancelTask task) () forgot =
            some ((), forgot) := by
          simp [Alone.callers, Alone.exec, Alone.choose, exec, forgot, finishes]
        have finished : (Alone.callers oracle params).exec (.caller 0) (.taskOutcome task) () forgot =
            some (some (.ok ()), forgot) := by
          simp [Alone.callers, Alone.exec, Alone.choose, exec, forgot, finishes]
        refine against_perform cancels ?_
        refine against_perform finished ?_
        have quiet : ∀ other, forgot.interval other = none := by
          intro other
          by_cases same : other = task
          · simp [Alone.interval, forgot, same, positionEq]
          · exact parked.others_quiet watched same
        exact ⟨rfl, rfl, rfl, rfl, rfl, rfl, rfl, rfl, rfl, rfl, rfl, quiet,
          .of_quiet rfl quiet parked.fresh parked.uncancelled⟩

theorem MidCall.idle (inside : MidCall client alone) (idle : client.hold = .idle)
    (closedConn : alone.world.closedConn = client.closedConn) (token : alone.world.token = none)
    (lease : alone.world.lease = 0) (quiet : ∀ worker, alone.interval worker = none)
    (free : alone.world.ioLock = none) : Represents client alone := by
  have shows := inside.toTracks.idle idle closedConn quiet
  rw [← token, ← lease] at shows
  exact { inside, shows with
    closed := fun _ => by rw [idle]; rfl
    free := free }

structure Shut (client : Client) (alone : Alone) : Prop extends MidCall client.drop alone where
  closedConn : alone.world.closedConn = client.drop.closedConn
  token : alone.world.token = none
  lease : alone.world.lease = 0
  free : alone.world.ioLock = none

theorem Joined.tracks {after : Alone} (joined : Joined alone after)
    (tracks : Tracks client alone.asked alone.world.conn alone.world.conns alone.world.workers
      alone.world.closedConn) :
    Tracks client after.asked after.world.conn after.world.conns after.world.workers
      after.world.closedConn := by
  rwa [joined.asked, joined.conn, joined.conns, joined.workers, joined.closedConn]

theorem Shut.joined {after : Alone} (shut : Shut client alone) (joined : Joined alone after) :
    Represents client.drop after := by
  have inside : MidCall client.drop after := ⟨joined.parked, joined.tracks shut.toTracks⟩
  exact inside.idle rfl (joined.closedConn.trans shut.closedConn) (joined.token.trans shut.token)
    (joined.lease.trans shut.lease) joined.quiet (joined.ioLock.trans shut.free)

theorem runs_closeConn {conn : Nat} {post : Unit → Alone → Prop} {raised : PyError → Alone → Prop}
    (uncancelled : alone.world.undelivered (.caller 0) = false)
    (known : post () { alone with world := { alone.world with
      closedConn := Function.update alone.world.closedConn conn true } }) :
    Runs oracle params (closeConn conn) post raised alone := by
  simp only [Runs, closeConn, raising, against_bind, against_handle]
  refine against_perform rfl ?_
  have waited : (Alone.callers oracle params).exec (.caller 0) (.waitClosed conn) ()
      { alone with world := { alone.world with
        closedConn := Function.update alone.world.closedConn conn true } } =
      some (.ok (), { alone with world := { alone.world with
        closedConn := Function.update alone.world.closedConn conn true } }) := by
    simp [Alone.callers, Alone.exec, Alone.choose, exec, suspend, uncancelled]
  exact against_perform waited known

theorem runs_closeUnlocked {raised : PyError → Alone → Prop} (inside : MidCall client alone)
    (free : alone.world.ioLock = none) :
    Runs oracle params closeUnlocked (fun _ => Represents client.drop) raised alone := by
  simp only [Runs, closeUnlocked, against_bind]
  refine against_perform rfl ?_
  refine against_perform rfl ?_
  refine against_perform rfl ?_
  by_cases nothing : (alone.world.closed && alone.world.conn.isNone &&
      alone.world.renewTask.isNone) = true
  · rw [if_pos nothing]
    simp only [Bool.and_eq_true, Option.isNone_iff_eq_none] at nothing
    obtain ⟨⟨_, gone⟩, forgotten⟩ := nothing
    have idle := inside.conn.symm.trans gone
    have closedConn := inside.toTracks.eq_drop idle
    have tracks := inside.toTracks.dropped closedConn
    rw [← gone] at tracks
    simp only [clearHeldState, against_bind]
    refine against_perform rfl ?_
    refine against_perform rfl ?_
    exact MidCall.idle ⟨⟨inside.watched, inside.sleeping, inside.fresh, inside.uncancelled⟩, tracks⟩
      rfl closedConn rfl rfl (inside.toParked.unwatched forgotten) free
  · rw [if_neg nothing]
    simp only [detachConn, clearHeldState, against_bind]
    refine against_perform rfl ?_
    cases installed : client.hold.conn with
    | none =>
        have gone := inside.conn.trans installed
        have got : (Alone.callers oracle params).exec (.caller 0) .getConn ()
            { alone with world := { alone.world with closed := true } } =
            some (none, { alone with world := { alone.world with closed := true } }) := by
          simp [Alone.callers, Alone.exec, Alone.choose, exec, gone]
        refine against_perform got ?_
        refine against_perform rfl ?_
        refine against_perform rfl ?_
        refine against_perform rfl ?_
        simp only [Program.pure_eq, against_ret]
        have closedConn := inside.toTracks.eq_drop installed
        have shut : Shut client { alone with world := {
            ({ alone.world with closed := true } : World).setConn (.caller 0) none with
            token := none, lease := 0 } } :=
          ⟨⟨⟨inside.watched, inside.sleeping, inside.fresh, inside.uncancelled⟩,
            inside.toTracks.dropped closedConn⟩, closedConn, rfl, rfl, free⟩
        refine against_mono (runs_cancelRenew shut.toParked) ?_ fun _ _ impossible => impossible
        intro _ after joined
        exact shut.joined joined
    | some conn =>
        have conn_eq := inside.conn.trans installed
        have got : (Alone.callers oracle params).exec (.caller 0) .getConn ()
            { alone with world := { alone.world with closed := true } } =
            some (some conn, { alone with world := { alone.world with closed := true } }) := by
          simp [Alone.callers, Alone.exec, Alone.choose, exec, conn_eq]
        refine against_perform got ?_
        refine against_perform rfl ?_
        refine against_perform rfl ?_
        refine against_perform rfl ?_
        simp only [Program.pure_eq, against_ret, against_bind]
        refine against_perform rfl ?_
        have closedConn := inside.toTracks.update_eq_drop installed
        have shut : Shut client { alone with world := {
            ({ alone.world with closed := true } : World).setConn (.caller 0) none with
            token := none, lease := 0
            closedConn := Function.update alone.world.closedConn conn true } } :=
          ⟨⟨⟨inside.watched, inside.sleeping, inside.fresh, inside.uncancelled⟩,
            inside.toTracks.dropped closedConn⟩, closedConn, rfl, rfl, free⟩
        refine against_mono (runs_cancelRenew shut.toParked) ?_ fun _ _ impossible => impossible
        intro _ after joined
        have dropped := shut.joined joined
        refine runs_closeConn dropped.uncancelled ?_
        have already : after.world.closedConn conn = true := by
          rw [dropped.closedConn]
          simp [Client.drop, installed]
        rw [show Function.update after.world.closedConn conn true = after.world.closedConn by
          rw [← already, Function.update_eq_self]]
        exact dropped

theorem Joined.inside {after : Alone} (joined : Joined alone after) (inside : MidCall client alone) :
    MidCall client after :=
  ⟨joined.parked, joined.tracks inside.toTracks⟩

structure Reopened (client : Client) (alone : Alone) : Prop extends Represents client alone where
  idle : client.hold = .idle
  reopened : alone.world.closed = false

theorem runs_resetForNewAttempt {raised : PyError → Alone → Prop} (inside : MidCall client alone)
    (free : alone.world.ioLock = none) :
    Runs oracle params resetForNewAttempt (fun _ => Reopened client.drop) raised alone := by
  simp only [Runs, resetForNewAttempt, against_bind]
  refine against_mono (runs_cancelRenew inside.toParked) ?_ fun _ _ impossible => impossible
  intro _ stopped joined
  refine against_mono (runs_closeUnlocked (joined.inside inside) (joined.ioLock.trans free)) ?_
    fun _ _ impossible => impossible
  intro _ after dropped
  refine against_perform rfl ?_
  exact { dropped.toShows with
    watched := dropped.watched
    sleeping := dropped.sleeping
    fresh := dropped.fresh
    uncancelled := dropped.uncancelled
    closed := fun _ => rfl
    free := dropped.free
    idle := rfl
    reopened := rfl }

def Alone.commanded (alone : Alone) (asked : List Ask) (trace : List Event)
    (closedConn : Nat → Bool) : Alone := { alone with
  asked := asked
  world := { alone.world with trace := trace, closedConn := closedConn } }

theorem against_exchange {solo : Machine Op Op.Res PyError Thread Val Alone Unit} {thread : Thread}
    {conn : Nat} {built : Except PyError Request} {parse : Str → Except PyError α}
    {post : α → Alone → Prop} {raised : PyError → Alone → Prop}
    (same : ∀ op alone, (∀ task, op ≠ .awaitOuter task) →
      solo.exec thread op () alone = alone.exec oracle thread op)
    (opened : alone.world.closedConn conn = false)
    (uncancelled : alone.world.undelivered thread = false)
    (returned : ∀ value trace,
      (Client.exchange oracle conn built parse alone.asked).1 = .ok value →
      post value (alone.commanded (Client.exchange oracle conn built parse alone.asked).2 trace
        alone.world.closedConn))
    (failed : ∀ error trace closedConn,
      (Client.exchange oracle conn built parse alone.asked).1 = .error error →
      (∀ other, other ≠ conn → closedConn other = alone.world.closedConn other) →
      raised error (alone.commanded (Client.exchange oracle conn built parse alone.asked).2 trace
        closedConn)) :
    against solo thread (fun _ => ()) (exchange conn built parse) post raised alone := by
  have close : ∀ other, other ≠ conn →
      Function.update alone.world.closedConn conn true other = alone.world.closedConn other :=
    fun other different => Function.update_of_ne different _ _
  cases built with
  | error error => exact failed error alone.world.trace alone.world.closedConn rfl fun _ _ => rfl
  | ok request =>
      simp only [Client.exchange] at returned failed
      simp only [exchange, command, raising, against_bind, against_handle, against_discard,
        against_orRaise]
      cases encoded : encodeLines [request.cmd, request.key, request.arg] with
      | error error =>
          simp only [encoded] at failed
          exact failed error alone.world.trace alone.world.closedConn rfl fun _ _ => rfl
      | ok frame =>
          simp only [encoded] at returned failed
          generalize askedEq : alone.asked ++ [.command conn request] = asked at returned failed
          let written : Alone := { alone with
            asked := asked
            world := alone.world.log [.frame conn request] }
          have wrote : solo.exec thread (.write conn request) () alone = some ((), written) := by
            rw [same (.write conn request) _ (by simp)]
            simp [Alone.exec, Alone.choose, exec, askedEq, opened, written]
          have drained : (∀ failure, oracle.command asked ≠ .unsent failure) →
              solo.exec thread (.drain conn request.cmd) () written = some (.ok (), written) := by
            intro out
            rw [same (.drain conn request.cmd) _ (by simp)]
            cases decided : oracle.command asked with
            | unsent failure => exact absurd decided (out failure)
            | unanswered failure =>
                simp [Alone.exec, Alone.choose, exec, suspendExchange, World.log, decided,
                  uncancelled, written]
            | line line =>
                simp [Alone.exec, Alone.choose, exec, suspendExchange, World.log, decided,
                  uncancelled, written]
          refine against_perform wrote ?_
          cases decided : oracle.command asked with
          | unsent failure =>
              simp only [decided] at failed
              have unsent : solo.exec thread (.drain conn request.cmd) () written =
                  some (.error failure.val, { written with
                    world := written.world.log [.noAnswer conn request.cmd] }) := by
                rw [same (.drain conn request.cmd) _ (by simp)]
                simp [Alone.exec, Alone.choose, exec, suspendExchange, World.log, decided,
                  uncancelled, written, failure.property]
              refine against_perform unsent ?_
              refine against_perform (same (.closeNowait conn) _ (by simp)) ?_
              exact failed failure.val _ _ rfl close
          | unanswered failure =>
              simp only [decided] at failed
              refine against_perform (drained (by simp [decided])) ?_
              have unanswered : solo.exec thread (.readLine conn request.cmd) () written =
                  some (.error failure.val, { written with
                    world := written.world.log [.noAnswer conn request.cmd] }) := by
                rw [same (.readLine conn request.cmd) _ (by simp)]
                simp [Alone.exec, Alone.choose, exec, suspendExchange, World.log, decided,
                  uncancelled, written, failure.property]
              refine against_perform unanswered ?_
              refine against_perform (same (.closeNowait conn) _ (by simp)) ?_
              exact failed failure.val _ _ rfl close
          | line line =>
              simp only [decided] at returned failed
              refine against_perform (drained (by simp [decided])) ?_
              have answered : solo.exec thread (.readLine conn request.cmd) () written =
                  some (.ok line, { written with
                    world := written.world.log [.answer conn request.cmd line] }) := by
                rw [same (.readLine conn request.cmd) _ (by simp)]
                simp [Alone.exec, Alone.choose, exec, suspendExchange, World.log, decided,
                  uncancelled, written]
              refine against_perform answered ?_
              cases parsed : parse line with
              | ok value =>
                  simp only [parsed]
                  exact returned value _ parsed
              | error error =>
                  simp only [parsed]
                  exact failed error _ _ parsed fun _ _ => rfl

theorem callers_exec (op : Op) (alone : Alone) (noAwait : ∀ task, op ≠ .awaitOuter task) :
    (Alone.callers oracle params).exec (.caller 0) op () alone = alone.exec oracle (.caller 0) op := by
  cases op with
  | awaitOuter task => exact absurd rfl (noAwait task)
  | _ => rfl

theorem MidCall.commanded {conn : Nat} (inside : MidCall client alone) (asked : List Ask)
    (trace : List Event) {closedConn : Nat → Bool} (installed : client.hold.conn = some conn)
    (others : ∀ other, other ≠ conn → closedConn other = alone.world.closedConn other) :
    MidCall { client with asked := asked } (alone.commanded asked trace closedConn) :=
  ⟨⟨inside.watched, inside.sleeping, inside.fresh, inside.uncancelled⟩,
    inside.toTracks.commanded installed others⟩

theorem Represents.commanded (represents : Represents client alone) (asked : List Ask)
    (trace : List Event) : Represents { client with asked := asked }
      (alone.commanded asked trace alone.world.closedConn) :=
  { represents.toShows.commanded with
    watched := represents.watched
    sleeping := represents.sleeping
    fresh := represents.fresh
    uncancelled := represents.uncancelled
    closed := represents.closed
    free := represents.free }

end

end DflockdClient.Async
