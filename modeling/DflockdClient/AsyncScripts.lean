import DflockdClient.AsyncAlone

/-!
Scripts run on `_AsyncBase` do what the client does: the operations, the renewals
and then whole scripts.
-/

namespace DflockdClient.Async

open Interleaving
open Sync (CallValue Event)

section

variable {oracle : Oracle} {params : Params} {client : Client} {alone : Alone} {α : Type}

structure Linked (client : Client) (link : Nat) (alone : Alone) : Prop extends
    Represents client alone where
  queued : client.hold = .queued link

theorem Reopened.commanded (ready : Reopened client alone) (asked : List Ask) (trace : List Event) :
    Reopened { client with asked := asked } (alone.commanded asked trace alone.world.closedConn) :=
  ⟨ready.toRepresents.commanded asked trace, ready.idle, ready.reopened⟩

theorem Reopened.dialled {inHand : Nat → Option Thread} {asked : List Ask} (ready : Reopened client alone) :
    Reopened { client with conns := client.conns + 1, asked := asked }
      { alone with
        asked := asked
        world := { alone.world with conns := alone.world.conns + 1, inHand := inHand } } :=
  { ready.toShows.dialled with
    watched := ready.watched
    sleeping := ready.sleeping
    fresh := ready.fresh
    uncancelled := ready.uncancelled
    closed := ready.closed
    free := ready.free
    idle := ready.idle
    reopened := ready.reopened }

theorem Reopened.notClosed (ready : Reopened client alone) {prop : Prop}
    (isClosed : alone.world.closed = true) : prop := by
  rw [ready.reopened] at isClosed
  cases isClosed

theorem Reopened.install {conn : Nat} (ready : Reopened client alone) (made : conn < client.conns)
    (opened : client.closedConn conn = false) :
    Linked { client with hold := .queued conn } conn
      { alone with world := alone.world.setConn (.caller 0) (some conn) } :=
  { ready.toShows.installed ready.idle made opened with
    watched := ready.watched
    sleeping := ready.sleeping
    fresh := ready.fresh
    uncancelled := ready.uncancelled
    closed := ready.notClosed
    free := ready.free
    queued := rfl }

theorem Reopened.abandon {conn : Nat} {asked : List Ask} {trace : List Event} {closedConn : Nat → Bool}
    (ready : Reopened client alone) (made : conn < client.conns)
    (others : ∀ other, other ≠ conn → closedConn other = alone.world.closedConn other) :
    Represents
      { client with asked := asked, closedConn := Function.update client.closedConn conn true }
      (alone.commanded asked trace (Function.update closedConn conn true)) :=
  { ready.toShows.abandoned ready.idle made others with
    watched := ready.watched
    sleeping := ready.sleeping
    fresh := ready.fresh
    uncancelled := ready.uncancelled
    closed := ready.closed
    free := ready.free }

theorem runs_maybeAuthenticate {conn : Nat} (ready : Reopened client alone)
    (made : conn < client.conns) (opened : client.closedConn conn = false) :
    Runs oracle params (maybeAuthenticate conn params.authToken)
      (fun conn' after => conn' = conn ∧
        (client.authenticate oracle params conn).1 = .ok conn ∧
        Linked (client.authenticate oracle params conn).2 conn
          { after with world := after.world.setConn (.caller 0) (some conn) })
      (fun error after => (client.authenticate oracle params conn).1 = .error error ∧
        Represents (client.authenticate oracle params conn).2 after) alone := by
  simp only [Client.authenticate]
  cases given : params.authToken with
  | none => exact ⟨rfl, rfl, ready.install made opened⟩
  | some authToken =>
      simp only [Runs, maybeAuthenticate, authenticate, against_handle, against_bind]
      have openedConn : alone.world.closedConn conn = false := by rw [ready.closedConn, opened]
      rw [← ready.asked]
      refine against_exchange callers_exec openedConn ready.uncancelled ?_ ?_
      · intro _ trace accepted
        simp only [accepted]
        generalize (Client.exchange oracle conn _ _ alone.asked).2 = asked
        exact ⟨rfl, trivial, (ready.commanded asked trace).install made opened⟩
      · intro error trace closedConn refused others
        simp only [refused]
        refine runs_closeConn ready.uncancelled ?_
        exact ⟨rfl, ready.abandon made others⟩

theorem runs_connect (ready : Reopened client alone) :
    Runs oracle params (openAndAuthenticate params)
      (fun _ after => ∃ conn, (client.connect oracle params).1 = .ok conn ∧
        Linked (client.connect oracle params).2 conn after)
      (fun error after => (client.connect oracle params).1 = .error error ∧
        Represents (client.connect oracle params).2 after) alone := by
  simp only [Runs, openAndAuthenticate, raising, against_bind, against_orRaise]
  cases endpoint : params.endpoint with
  | error error =>
      simp only [Client.connect, endpoint]
      exact ⟨trivial, ready.toRepresents⟩
  | ok server =>
      obtain ⟨host, port⟩ := server
      simp only [Client.connect, endpoint]
      generalize askedEq : client.asked ++ [.dial host port] = asked
      cases dialled : oracle.dial asked with
      | error failure =>
          have refused : (Alone.callers oracle params).exec (.caller 0) (.dial host port) () alone =
              some (.error failure.val, { alone with asked := asked }) := by
            simp [Alone.callers, Alone.exec, Alone.choose, exec, suspend, ready.asked, askedEq,
              dialled, ready.uncancelled, failure.property]
          refine against_perform refused ?_
          exact ⟨rfl, ready.toRepresents.commanded asked alone.world.trace⟩
      | ok value =>
          have made : (Alone.callers oracle params).exec (.caller 0) (.dial host port) () alone =
              some (.ok client.conns, { alone with
                asked := asked
                world := { alone.world with
                  conns := alone.world.conns + 1
                  inHand := Function.update alone.world.inHand alone.world.conns
                    (some (.caller 0)) } }) := by
            simp [Alone.callers, Alone.exec, Alone.choose, exec, suspend, ready.asked, askedEq,
              dialled, ready.uncancelled, ready.conns]
          refine against_perform made ?_
          refine against_mono (runs_maybeAuthenticate ready.dialled (Nat.lt_succ_self _)
            (ready.unmade _ (Nat.le_refl _))) ?_ ?_
          · rintro _ after ⟨rfl, authenticated, linked⟩
            exact against_perform rfl ⟨_, authenticated, linked⟩
          · intro error after failed
            exact failed

def Alone.woken (params : Params) (alone : Alone) (worker : Nat) : Alone := { alone with
  position := Function.update alone.position worker
    (.sleeping (renewInterval alone.world.lease params.renewRatio)) }

structure Started (params : Params) (client : Client) (worker : Nat) (alone : Alone) : Prop where
  watched : alone.world.renewTask = some worker
  fresh : alone.position worker = .fresh
  made : worker < alone.world.workers
  undisturbed : alone.world.undelivered (.worker worker) = false
  woken : Represents client (alone.woken params worker)

def Ends (params : Params) (client : Client) (alone : Alone) : Prop :=
  Represents client alone ∨ ∃ worker, Started params client worker alone

theorem Linked.commanded {link : Nat} (linked : Linked client link alone) (asked : List Ask)
    (trace : List Event) : Linked { client with asked := asked } link
      (alone.commanded asked trace alone.world.closedConn) :=
  ⟨linked.toRepresents.commanded asked trace, linked.queued⟩

theorem Linked.installed {link : Nat} (linked : Linked client link alone) :
    client.hold.conn = some link := by
  rw [linked.queued]
  rfl

theorem Linked.notClosed {link : Nat} (linked : Linked client link alone) :
    alone.world.closed = false := by
  cases isClosed : alone.world.closed with
  | false => rfl
  | true =>
      have gone := linked.closed isClosed
      rw [linked.queued] at gone
      cases gone

theorem Linked.asleep {link : Nat} (linked : Linked client link alone) (worker : Nat)
    (interval : Rat) : alone.position worker ≠ .sleeping interval := by
  intro sleeping
  have some := sleeping_interval sleeping
  rw [linked.interval, linked.queued] at some
  cases some

def Alone.renewed (alone : Alone) (token : Str) (lease : Int) : Alone := { alone with
  world := { alone.world with
    token := some token
    lease := lease
    workers := alone.world.workers + 1
    renewTask := some alone.world.workers } }

theorem Linked.parked {link : Nat} (linked : Linked client link alone) (token : Str) (lease : Int) :
    Parked ((alone.renewed token lease).woken params alone.world.workers) := by
  refine ⟨?_, ?_, ?_, linked.uncancelled⟩
  · rintro task ⟨⟩
    simp [Alone.woken, Alone.renewed]
  · intro task interval sleeping
    by_cases same : task = alone.world.workers
    · subst same
      exact ⟨rfl, (linked.fresh _ (Nat.le_refl _)).2⟩
    · simp only [Alone.woken, Alone.renewed, Function.update_of_ne same] at sleeping
      exact absurd sleeping (linked.asleep task interval)
  · intro task beyond
    have beyond : alone.world.workers + 1 ≤ task := beyond
    have different : task ≠ alone.world.workers := by omega
    simp only [Alone.woken, Alone.renewed, Function.update_of_ne different]
    exact linked.fresh task (by omega)

theorem Linked.renewed {link : Nat} (linked : Linked client link alone) (token : Str) (lease : Int) :
    Started params (client.grant params link token lease) alone.world.workers
      (alone.renewed token lease) := by
  have new := linked.fresh _ (Nat.le_refl _)
  refine ⟨rfl, new.1, Nat.lt_succ_self _, new.2.2, ?_⟩
  refine { linked.toShows.granted linked.queued ?_, linked.parked token lease with
    closed := ?_
    free := linked.free }
  · intro worker
    by_cases same : worker = alone.world.workers
    · simp [Alone.interval, Alone.woken, Alone.renewed, same]
    · simp [Alone.interval, Alone.woken, Alone.renewed, same]
  · intro isClosed
    have reopened : alone.world.closed = true := isClosed
    rw [linked.notClosed] at reopened
    cases reopened

theorem runs_startRenew {post : Unit → Alone → Prop} {raised : PyError → Alone → Prop}
    {token : Str} {lease : Int} (known : post () (alone.renewed token lease)) :
    Runs oracle params startRenew post raised { alone with world := { alone.world with
      token := some token
      lease := lease } } := by
  simp only [Runs, startRenew, against_bind]
  refine against_perform rfl ?_
  exact against_perform rfl known

theorem runs_granted {link : Nat} {program : Py (Str × Int)} {built : Except PyError Request}
    {parse : Str → Except PyError (Str × Int)} (linked : Linked client link alone)
    (exchanges : ∀ post raised, Runs oracle params (exchange link built parse) post raised alone →
      Runs oracle params program post raised alone) :
    Runs oracle params
      (do
        let granted ← grantOrClose program storeGrant
        if granted.isNone then pure (.bool false)
        else do
          startRenew
          pure (.bool true))
      (fun value after =>
        (client.granted params link (Client.exchange oracle link built parse client.asked)).1 =
          .ok value ∧
        Ends params (client.granted params link
          (Client.exchange oracle link built parse client.asked)).2 after)
      (fun error after =>
        (client.granted params link (Client.exchange oracle link built parse client.asked)).1 =
          .error error ∧
        Represents (client.granted params link
          (Client.exchange oracle link built parse client.asked)).2 after) alone := by
  have opened : alone.world.closedConn link = false := by
    rw [linked.closedConn]
    exact linked.opened link linked.installed
  simp only [Runs, grantOrClose, against_bind, against_handle, Client.granted]
  rw [← linked.asked]
  refine exchanges _ _ (against_exchange callers_exec opened linked.uncancelled ?_ ?_)
  · rintro ⟨token, lease⟩ trace accepted
    simp only [accepted, storeGrant, against_bind]
    refine against_perform rfl ?_
    refine against_perform rfl ?_
    simp only [Program.pure_eq, against_ret, Option.isNone_some, Bool.false_eq_true, if_false,
      against_bind]
    refine runs_startRenew ?_
    generalize (Client.exchange oracle link built parse alone.asked).2 = asked
    exact ⟨trivial, .inr ⟨_, (linked.commanded asked trace).renewed token lease⟩⟩
  · intro error trace closedConn refused others
    simp only [refused]
    refine against_mono (runs_closeUnlocked
      (linked.toMidCall.commanded _ trace linked.installed others) linked.free) ?_
      fun _ _ impossible => impossible
    intro _ after dropped
    by_cases timeout : error.isTimeout = true
    · simp only [timeout, if_true]
      exact ⟨rfl, .inl dropped⟩
    · simp only [timeout]
      exact ⟨rfl, dropped⟩

/-- How an operation ends, compared with the client's. -/
abbrev Refines (oracle : Oracle) (params : Params) (program : Py CallValue)
    (expected : Except PyError CallValue × Client) (alone : Alone) : Prop :=
  Runs oracle params program
    (fun value after => expected.1 = .ok value ∧ Ends params expected.2 after)
    (fun error after => expected.1 = .error error ∧ Represents expected.2 after) alone

theorem runs_requireConn {link : Nat} {message : Str} {post : Nat → Alone → Prop}
    {raised : PyError → Alone → Prop} (conn : alone.world.conn = some link)
    (known : post link alone) :
    Runs oracle params (requireConn message) post raised alone := by
  have got : (Alone.callers oracle params).exec (.caller 0) .getConn () alone =
      some (some link, alone) := by
    simp [Alone.callers, Alone.exec, Alone.choose, exec, conn]
  simp only [Runs, requireConn, against_bind]
  exact against_perform got known

theorem Linked.conn_eq {link : Nat} (linked : Linked client link alone) :
    alone.world.conn = some link := linked.conn.trans linked.installed

theorem acquire_refines (represents : Represents client alone) :
    Refines oracle params (acquireUnlocked params) (client.acquire oracle params) alone := by
  simp only [Refines, Runs, acquireUnlocked, against_bind]
  refine against_mono (runs_resetForNewAttempt represents.toMidCall represents.free) ?_
    fun _ _ impossible => impossible
  intro _ reset ready
  refine against_mono (runs_connect ready) ?_ ?_
  · rintro _ after ⟨link, connected, linked⟩
    simp only [Client.acquire, connected]
    refine runs_granted linked fun post raised known => ?_
    simp only [Runs, against_bind]
    exact runs_requireConn linked.conn_eq known
  · rintro error after ⟨refused, represents⟩
    simp only [Client.acquire, refused]
    exact ⟨trivial, represents⟩

theorem enqueue_refines (represents : Represents client alone) :
    Refines oracle params (enqueueUnlocked params) (client.enqueue oracle params) alone := by
  simp only [Refines, Runs, enqueueUnlocked, against_bind]
  refine against_mono (runs_resetForNewAttempt represents.toMidCall represents.free) ?_
    fun _ _ impossible => impossible
  intro _ reset ready
  refine against_mono (runs_connect ready) ?_ ?_
  · rintro _ after ⟨link, connected, linked⟩
    simp only [Client.enqueue, connected]
    generalize (client.drop.connect oracle params).2 = client at linked
    have opened : after.world.closedConn link = false := by
      rw [linked.closedConn]
      exact linked.opened link linked.installed
    simp only [invokeEnqueue, against_bind, against_handle]
    refine runs_requireConn linked.conn_eq ?_
    rw [← linked.asked]
    refine against_exchange callers_exec opened linked.uncancelled ?_ ?_
    · intro status trace accepted
      simp only [accepted]
      generalize (Client.exchange oracle link _ _ after.asked).2 = asked
      have commanded := linked.commanded asked trace
      cases status with
      | queued => exact ⟨rfl, .inl commanded.toRepresents⟩
      | acquired token lease =>
          simp only [handleEnqueueStatus, storeGrant, against_bind]
          refine against_perform rfl ?_
          refine against_perform rfl ?_
          refine runs_startRenew ?_
          exact ⟨rfl, .inr ⟨_, commanded.renewed token lease⟩⟩
    · intro error trace closedConn refused others
      simp only [refused]
      refine against_mono (runs_closeUnlocked
        (linked.toMidCall.commanded _ trace linked.installed others) linked.free) ?_
        fun _ _ impossible => impossible
      intro _ final dropped
      exact ⟨rfl, dropped⟩
  · rintro error after ⟨refused, represents⟩
    simp only [Client.enqueue, refused]
    exact ⟨trivial, represents⟩

theorem wait_refines {timeoutS : Option Value} (represents : Represents client alone) :
    Refines oracle params (waitUnlocked params timeoutS) (client.wait oracle params timeoutS)
      alone := by
  simp only [Refines, Runs, waitUnlocked, against_bind]
  refine against_perform rfl ?_
  rw [represents.token]
  cases hold : client.hold with
  | idle =>
      simp only [Hold.token, Option.isSome_none, Bool.false_eq_true, if_false, invokeWait,
        requireConn, against_bind, Client.wait, hold]
      have gone : alone.world.conn = none := by
        rw [represents.conn, hold]
        rfl
      have got : (Alone.callers oracle params).exec (.caller 0) .getConn () alone =
          some (none, alone) := by
        simp [Alone.callers, Alone.exec, Alone.choose, exec, gone]
      exact against_perform got ⟨rfl, represents⟩
  | queued link =>
      have linked : Linked client link alone := ⟨represents, hold⟩
      simp only [Hold.token, Option.isSome_none, Bool.false_eq_true, if_false, invokeWait,
        Client.wait, hold]
      rw [against_bind]
      refine runs_requireConn linked.conn_eq ?_
      exact runs_granted linked fun _ _ known => known
  | held conn token lease worker interval =>
      simp only [Hold.token, Option.isSome_some, if_true, Client.wait, hold]
      exact ⟨rfl, .inl represents⟩

theorem runs_safeRelease {link : Nat} {token : Str} {post : Bool → Alone → Prop}
    {raised : PyError → Alone → Prop} (opened : alone.world.closedConn link = false)
    (uncancelled : alone.world.undelivered (.caller 0) = false)
    (ends : ∀ trace closedConn,
      (∀ other, other ≠ link → closedConn other = alone.world.closedConn other) →
      post (Client.exchange oracle link (params.releaseRequest token)
          (parseReleaseResponse · (opLabel params.pre (str "release"))) alone.asked).1.isOk
        (alone.commanded (Client.exchange oracle link (params.releaseRequest token)
          (parseReleaseResponse · (opLabel params.pre (str "release"))) alone.asked).2 trace
          closedConn)) :
    Runs oracle params (safeRelease params link token) post raised alone := by
  simp only [Runs, safeRelease, against_handle, against_bind]
  refine against_exchange callers_exec opened uncancelled ?_ ?_
  · intro _ trace released
    have kept := ends trace alone.world.closedConn fun _ _ => rfl
    rw [released] at kept
    exact kept
  · intro error trace closedConn failed others
    have ordinary := (Client.exchange_ordinary (ordinary_releaseRequest params.key token params.pre)
      (fun resp => ordinary_parseReleaseResponse resp _)) error failed
    have kept := ends trace closedConn others
    rw [failed] at kept
    simp only [ordinary, if_true]
    exact kept

theorem MidCall.locked (inside : MidCall client alone) (lock : Option Thread) :
    MidCall client { alone with world := { alone.world with ioLock := lock } } :=
  ⟨⟨inside.watched, inside.sleeping, inside.fresh, inside.uncancelled⟩, inside.toTracks⟩

theorem runs_sendReleaseQuietly {raised : PyError → Alone → Prop} (inside : MidCall client alone)
    (token : alone.world.token = client.hold.token)
    (opened : ∀ conn, client.hold.conn = some conn → alone.world.closedConn conn = false) :
    Runs oracle params (sendReleaseQuietly params)
      (fun released after => ∃ asked, (client.release oracle params) =
          (.ok (.bool released), { client with asked := asked }.drop) ∧
        MidCall { client with asked := asked } after)
      raised alone := by
  simp only [Runs, sendReleaseQuietly, against_bind]
  rcases client.hold.forms with hold | ⟨link, hold⟩ | ⟨link, granted, lease, worker, interval, hold⟩
  · have gone : alone.world.conn = none := by rw [inside.conn, hold]; rfl
    have gotConn : (Alone.callers oracle params).exec (.caller 0) .getConn () alone =
        some (none, alone) := by
      simp [Alone.callers, Alone.exec, Alone.choose, exec, gone]
    refine against_perform gotConn ?_
    refine against_perform rfl ?_
    exact ⟨client.asked, client.release_unheld (by rw [hold]; rfl), inside⟩
  · have ungranted : alone.world.token = none := by rw [token, hold]; rfl
    have gotToken : (Alone.callers oracle params).exec (.caller 0) .getToken () alone =
        some (none, alone) := by
      simp [Alone.callers, Alone.exec, Alone.choose, exec, ungranted]
    refine against_perform rfl ?_
    refine against_perform gotToken ?_
    have unheld := @Client.release_unheld oracle params client (by rw [hold]; rfl)
    cases alone.world.conn <;> exact ⟨client.asked, unheld, inside⟩
  · have installed : client.hold.conn = some link := by rw [hold]; rfl
    have conn := inside.conn.trans installed
    have held : alone.world.token = some granted := by rw [token, hold]; rfl
    have gotConn : (Alone.callers oracle params).exec (.caller 0) .getConn () alone =
        some (some link, alone) := by
      simp [Alone.callers, Alone.exec, Alone.choose, exec, conn]
    have gotToken : (Alone.callers oracle params).exec (.caller 0) .getToken () alone =
        some (some granted, alone) := by
      simp [Alone.callers, Alone.exec, Alone.choose, exec, held]
    refine against_perform gotConn ?_
    refine against_perform gotToken ?_
    refine runs_safeRelease (opened link installed) inside.uncancelled ?_
    intro trace closedConn others
    refine ⟨(Client.exchange oracle link (params.releaseRequest granted)
      (parseReleaseResponse · (opLabel params.pre (str "release"))) alone.asked).2, ?_, ?_⟩
    · simp only [Client.release, hold, inside.asked]
    · exact inside.commanded _ trace installed others

theorem release_refines (represents : Represents client alone) :
    Refines oracle params (releaseUnlocked params) (client.release oracle params) alone := by
  let locked : Alone := { alone with world := { alone.world with ioLock := some (.caller 0) } }
  have locks : (Alone.callers oracle params).exec (.caller 0) .lockIo () alone =
      some (.ok (), locked) := by
    simp [Alone.callers, Alone.exec, Alone.choose, exec, suspend, represents.free,
      represents.uncancelled, locked]
  simp only [Refines, Runs, releaseUnlocked, withIoLock, raising, against_bind, against_ensure,
    against_orRaise]
  refine against_perform locks ?_
  have inside : MidCall client locked := represents.toMidCall.locked (some (.caller 0))
  refine against_mono (runs_cancelRenew inside.toParked) ?_ fun _ _ impossible => impossible
  intro _ stopped joined
  have token : stopped.world.token = client.hold.token := joined.token.trans represents.token
  have opened : ∀ conn, client.hold.conn = some conn → stopped.world.closedConn conn = false := by
    intro conn installed
    rw [joined.closedConn, represents.closedConn]
    exact represents.opened conn installed
  refine against_mono (runs_sendReleaseQuietly (joined.inside inside) token opened) ?_
    fun _ _ impossible => impossible
  rintro released after ⟨asked, expected, inside⟩
  refine against_perform rfl ?_
  simp only [Program.pure_eq, against_ret]
  refine against_mono (runs_closeUnlocked (inside.locked none) rfl) ?_ fun _ _ impossible => impossible
  intro _ final dropped
  rw [expected]
  exact ⟨rfl, .inl dropped⟩

theorem close_refines (represents : Represents client alone) :
    Refines oracle params closeCall (.ok .none, client.drop) alone := by
  simp only [Refines, Runs, closeCall, against_bind]
  refine against_mono (runs_closeUnlocked represents.toMidCall represents.free) ?_
    fun _ _ impossible => impossible
  intro _ after dropped
  exact ⟨rfl, .inl dropped⟩

theorem body_refines (call : Sync.Call) (represents : Represents client alone) :
    Refines oracle params (body params call) (client.act oracle params (.call call)) alone := by
  cases call with
  | acquire => exact acquire_refines represents
  | enqueue => exact enqueue_refines represents
  | wait timeoutS => exact wait_refines represents
  | release => exact release_refines represents
  | close => exact close_refines represents

theorem Represents.locked (represents : Represents client alone) (lock : Option Thread) :
    Represents client { alone with world := { alone.world with stateLock := lock } } :=
  { represents.toShows with
    watched := represents.watched
    sleeping := represents.sleeping
    fresh := represents.fresh
    uncancelled := represents.uncancelled
    closed := represents.closed
    free := represents.free }

structure Rests (client : Client) (alone : Alone) : Prop extends Represents client alone where
  unlocked : alone.world.stateLock = none

theorem Ends.settles (ends : Ends params client alone) :
    ∃ settled, Alone.settle oracle params { alone with world := { alone.world with
      stateLock := none } } = some settled ∧ Rests client settled := by
  rcases ends with represents | ⟨worker, started⟩
  · refine ⟨_, ?_, represents.locked none, rfl⟩
    simp only [Alone.settle]
    cases watching : alone.world.renewTask with
    | none => rfl
    | some worker => exact if_neg (represents.watched worker watching).1
  · have kept : Function.update alone.world.undelivered (.worker worker) false =
        alone.world.undelivered := by
      rw [← started.undisturbed, Function.update_eq_self]
    refine ⟨_, ?_, started.woken.locked none, rfl⟩
    simp [Alone.settle, started.watched, started.fresh, Alone.advance, start, renewLoop, perform,
      Program.perform, Machine.runAlone, Alone.workers, Alone.exec, Alone.choose, exec,
      started.made, started.undisturbed, World.deliver, kept, Alone.woken]

theorem call_refines (call : Sync.Call) (rests : Rests client alone) :
    ∃ after, alone.act oracle params (.call call) =
      some ((client.act oracle params (.call call)).1, after) ∧
      Rests (client.act oracle params (.call call)).2 after := by
  generalize expectedEq : client.act oracle params (.call call) = expected
  have runs : Runs oracle params (program params call)
      (fun value after => expected.1 = .ok value ∧ ∃ settled,
        after.settle oracle params = some settled ∧ Rests expected.2 settled)
      (fun error after => expected.1 = .error error ∧ ∃ settled,
        after.settle oracle params = some settled ∧ Rests expected.2 settled) alone := by
    have locked : (Alone.callers oracle params).exec (.caller 0) .lockState () alone =
        some (.ok (), { alone with world := { alone.world with stateLock := some (.caller 0) } }) := by
      simp [Alone.callers, Alone.exec, Alone.choose, exec, suspend, rests.unlocked,
        rests.uncancelled]
    simp only [Runs, program, raising, against_bind, against_ensure, against_orRaise]
    refine against_perform locked ?_
    have body := @body_refines oracle params client _ call
      (rests.toRepresents.locked (some (.caller 0)))
    rw [expectedEq] at body
    refine against_mono body ?_ ?_
    · rintro value after ⟨valueEq, ends⟩
      exact against_perform rfl ⟨valueEq, ends.settles⟩
    · rintro error after ⟨errorEq, represents⟩
      exact against_perform rfl ⟨errorEq, Ends.settles (.inl represents)⟩
  obtain ⟨outcome, final, ran, ends⟩ := runs.runs
  cases outcome with
  | ok value =>
      obtain ⟨valueEq, settled, settles, rests⟩ := ends
      exact ⟨settled, by simp [Alone.act, ran, settles, valueEq], rests⟩
  | error error =>
      obtain ⟨errorEq, settled, settles, rests⟩ := ends
      exact ⟨settled, by simp [Alone.act, ran, settles, errorEq], rests⟩

/-! Renewals -/

structure Holding (client : Client) (link : Nat) (granted : Str) (left : Int) (renewing : Nat)
    (slept : Rat) (alone : Alone) : Prop extends Rests client alone where
  held : client.hold = .held link granted left renewing slept

section Holding

variable {link worker : Nat} {token : Str} {lease : Int} {interval : Rat}

theorem Holding.installed (holding : Holding client link token lease worker interval alone) :
    client.hold.conn = some link := by
  rw [holding.held]
  rfl

theorem Holding.conn_eq (holding : Holding client link token lease worker interval alone) :
    alone.world.conn = some link := holding.conn.trans holding.installed

theorem Holding.token_eq (holding : Holding client link token lease worker interval alone) :
    alone.world.token = some token := by
  rw [holding.token, holding.held]
  rfl

theorem Holding.notClosed (holding : Holding client link token lease worker interval alone) :
    alone.world.closed = false := by
  cases isClosed : alone.world.closed with
  | false => rfl
  | true =>
      have gone := holding.closed isClosed
      rw [holding.installed] at gone
      cases gone

theorem Holding.sleeps (holding : Holding client link token lease worker interval alone) :
    alone.position worker = .sleeping interval := by
  have known : alone.interval worker = some interval := by
    rw [holding.interval, holding.held]
    simp [Hold.interval]
  rcases positionEq : alone.position worker with _ | slept | _
  · simp only [Alone.interval, positionEq] at known
    cases known
  · rw [sleeping_interval positionEq] at known
    cases known
    rfl
  · simp only [Alone.interval, positionEq] at known
    cases known

theorem Holding.others_awake (holding : Holding client link token lease worker interval alone)
    {other : Nat} (different : other ≠ worker) : alone.interval other = none := by
  rw [holding.interval, holding.held]
  simp [Hold.interval, different]

theorem Holding.undisturbed (holding : Holding client link token lease worker interval alone) :
    alone.world.undelivered (.worker worker) = false :=
  (holding.sleeping worker _ holding.sleeps).2.2

theorem Holding.renewed (holding : Holding client link token lease worker interval alone)
    (asked : List Ask) (trace : List Event) (lease' : Int) (interval' : Rat) :
    Rests { client with asked := asked, hold := .held link token lease' worker interval' }
      { asked := asked
        world := { alone.world with trace := trace, lease := lease', ioLock := none }
        position := Function.update alone.position worker (.sleeping interval') } := by
  have slept := holding.sleeping worker _ holding.sleeps
  refine ⟨{ holding.toShows.renewed holding.held ?_ with
    watched := ?_
    sleeping := ?_
    fresh := ?_
    uncancelled := holding.uncancelled
    closed := ?_
    free := rfl }, holding.unlocked⟩
  · intro other
    by_cases same : other = worker
    · simp [Alone.interval, same]
    · simp [Alone.interval, same]
  · intro other watching
    obtain rfl : other = worker := by
      have same := slept.1.symm.trans watching
      cases same
      rfl
    exact ⟨by simp, by simp⟩
  · intro other slept' sleeping
    by_cases same : other = worker
    · subst same
      exact slept
    · simp only [Function.update_of_ne same] at sleeping
      exact holding.sleeping other slept' sleeping
  · intro other beyond
    have different : other ≠ worker := by
      rintro rfl
      have fresh := (holding.fresh other beyond).1
      rw [holding.sleeps] at fresh
      cases fresh
    simpa [different] using holding.fresh other beyond
  · intro isClosed
    have closed : alone.world.closed = true := isClosed
    rw [holding.notClosed] at closed
    cases closed

theorem Holding.lost (holding : Holding client link token lease worker interval alone)
    (asked : List Ask) (trace : List Event) {closedConn : Nat → Bool}
    (others : ∀ other, other ≠ link → closedConn other = alone.world.closedConn other)
    (inHand : Nat → Option Thread) :
    Rests { client with asked := asked }.drop
      { asked := asked
        world := { alone.world with
          trace := trace, conn := none, inHand := inHand, token := none, lease := 0
          closedConn := Function.update closedConn link true, ioLock := none
          outcome := Function.update alone.world.outcome worker (some (.ok ())) }
        position := Function.update alone.position worker .done } := by
  have tracks : Tracks { client with asked := asked } asked alone.world.conn alone.world.conns
      alone.world.workers closedConn := holding.toTracks.commanded holding.installed others
  have dropped := tracks.update_eq_drop holding.installed
  have watched := (holding.sleeping worker _ holding.sleeps).1
  have quiet : ∀ other slept, Function.update alone.position worker .done other ≠ .sleeping slept := by
    intro other slept sleeping
    by_cases same : other = worker
    · rw [same, Function.update_self] at sleeping
      cases sleeping
    · rw [Function.update_of_ne same] at sleeping
      have awake := holding.others_awake same
      rw [sleeping_interval sleeping] at awake
      cases awake
  refine ⟨MidCall.idle ⟨⟨?_, ?_, ?_, holding.uncancelled⟩, tracks.dropped dropped⟩ rfl dropped rfl rfl
    ?_ rfl,
    holding.unlocked⟩
  · intro other watching
    obtain rfl : other = worker := by
      have same := watched.symm.trans watching
      cases same
      rfl
    exact ⟨by simp, by simp⟩
  · intro other slept sleeping
    exact absurd sleeping (quiet other slept)
  · intro other beyond
    have different : other ≠ worker := by
      rintro rfl
      have fresh := (holding.fresh other beyond).1
      rw [holding.sleeps] at fresh
      cases fresh
    simpa [different] using holding.fresh other beyond
  · intro other
    simp only [Alone.interval]
    split
    · rename_i slept sleeping
      exact absurd sleeping (quiet other slept)
    · rfl

theorem safeRenewOnce_runs {post : Option Int → Alone → Prop} {raised : PyError → Alone → Prop}
    (conn : alone.world.conn = some link) (granted : alone.world.token = some token)
    (opened : alone.world.closedConn link = false)
    (undisturbed : alone.world.undelivered (.worker worker) = false)
    (returned : ∀ remaining trace,
      (Client.exchange oracle link (params.renewRequest token)
        (parseRenewResponse · (opLabel params.pre (str "renew"))) alone.asked).1 = .ok remaining →
      post (some remaining) (alone.commanded (Client.exchange oracle link (params.renewRequest token)
        (parseRenewResponse · (opLabel params.pre (str "renew"))) alone.asked).2 trace
        alone.world.closedConn))
    (failed : ∀ error trace closedConn,
      (Client.exchange oracle link (params.renewRequest token)
        (parseRenewResponse · (opLabel params.pre (str "renew"))) alone.asked).1 = .error error →
      (∀ other, other ≠ link → closedConn other = alone.world.closedConn other) →
      against (Alone.workers oracle) (.worker worker) (fun _ => ()) (handleRenewFailure link)
        (fun _ => post none) raised
        (alone.commanded (Client.exchange oracle link (params.renewRequest token)
          (parseRenewResponse · (opLabel params.pre (str "renew"))) alone.asked).2 trace
          closedConn)) :
    against (Alone.workers oracle) (.worker worker) (fun _ => ()) (safeRenewOnce params)
      post raised alone := by
  have gotConn : (Alone.workers oracle).exec (.worker worker) .getConn () alone =
      some (some link, alone) := by
    simp [Alone.workers, Alone.exec, Alone.choose, exec, conn]
  have gotToken : (Alone.workers oracle).exec (.worker worker) .getToken () alone =
      some (some token, alone) := by
    simp [Alone.workers, Alone.exec, Alone.choose, exec, granted]
  simp only [safeRenewOnce, against_bind]
  refine against_perform gotConn ?_
  refine against_perform gotToken ?_
  simp only [against_handle, against_bind, protoRenew]
  refine against_exchange (fun _ _ _ => rfl) opened undisturbed returned ?_
  intro error trace closedConn refused others
  have ordinary := (Client.exchange_ordinary
    (ordinary_renewRequest params.key token params.leaseTtlS params.pre renewReadTimeoutS)
    (fun resp => ordinary_parseRenewResponse resp _)) error refused
  simp only [ordinary, if_true, against_bind]
  exact failed error trace closedConn refused others

theorem updateLease_runs {remaining : Int} {post : Unit → Alone → Prop}
    {raised : PyError → Alone → Prop} (granted : alone.world.token = some token)
    (notClosed : alone.world.closed = false)
    (known : post () { alone with world := { alone.world with
      lease := if remaining > 0 then remaining else alone.world.lease } }) :
    against (Alone.workers oracle) (.worker worker) (fun _ => ()) (updateLease remaining) post raised
      alone := by
  have gotToken : (Alone.workers oracle).exec (.worker worker) .getToken () alone =
      some (some token, alone) := by
    simp [Alone.workers, Alone.exec, Alone.choose, exec, granted]
  have gotClosed : (Alone.workers oracle).exec (.worker worker) .getClosed () alone =
      some (false, alone) := by
    simp [Alone.workers, Alone.exec, Alone.choose, exec, notClosed]
  unfold updateLease
  by_cases positive : remaining > 0
  · rw [if_pos positive] at known ⊢
    simp only [against_bind]
    refine against_perform gotToken ?_
    simp only [Option.isSome_some, if_true, against_bind]
    refine against_perform gotClosed ?_
    exact against_perform rfl known
  · rw [if_neg positive] at known ⊢
    exact known

theorem handleRenewFailure_runs {post : Unit → Alone → Prop} {raised : PyError → Alone → Prop}
    (conn : alone.world.conn = some link) (notClosed : alone.world.closed = false)
    (known : post () { alone with world := { alone.world.setConn (.worker worker) none with
      token := none
      lease := 0
      closedConn := Function.update alone.world.closedConn link true } }) :
    against (Alone.workers oracle) (.worker worker) (fun _ => ()) (handleRenewFailure link)
      post raised alone := by
  have gotClosed : (Alone.workers oracle).exec (.worker worker) .getClosed () alone =
      some (false, alone) := by
    simp [Alone.workers, Alone.exec, Alone.choose, exec, notClosed]
  have gotConn : (Alone.workers oracle).exec (.worker worker) .getConn () alone =
      some (some link, alone) := by
    simp [Alone.workers, Alone.exec, Alone.choose, exec, conn]
  simp only [handleRenewFailure, logRenewFailure, clearHeldState, against_bind]
  refine against_perform gotClosed ?_
  simp only [Bool.false_eq_true, if_false, against_bind]
  refine against_perform gotClosed ?_
  simp only [Bool.false_eq_true, if_false, against_discard]
  refine against_perform rfl ?_
  refine against_perform gotConn ?_
  simp only [if_true, against_bind]
  refine against_perform rfl ?_
  refine against_perform rfl ?_
  refine against_perform rfl ?_
  exact against_perform rfl known

theorem renewRound_refines (holding : Holding client link token lease worker interval alone) :
    against (Alone.workers oracle) (.worker worker) (fun _ => ()) (renewRound params interval)
      (fun state after => Rests (client.renew oracle params worker)
        { after with position := Function.update after.position worker state })
      (fun _ _ => False) alone := by
  generalize expectedEq : client.renew oracle params worker = expected
  have slept : (Alone.workers oracle).exec (.worker worker) (.sleep interval) () alone =
      some (.ok (), alone) := by
    simp [Alone.workers, Alone.exec, Alone.choose, exec, suspend, holding.undisturbed]
  let within : Alone := { alone with world := { alone.world with ioLock := some (.worker worker) } }
  have locked : (Alone.workers oracle).exec (.worker worker) .lockIo () alone =
      some (.ok (), within) := by
    simp [Alone.workers, Alone.exec, Alone.choose, exec, suspend, holding.free,
      holding.undisturbed, within]
  have open' : (Alone.workers oracle).exec (.worker worker) .getClosed () within =
      some (false, within) := by
    simp [Alone.workers, Alone.exec, Alone.choose, exec, holding.notClosed, within]
  have opened : alone.world.closedConn link = false := by
    rw [holding.closedConn]
    exact holding.opened link holding.installed
  simp only [renewRound, renewLoopBody, renewTick, withIoLock, raising, against_bind,
    against_handle, against_orRaise]
  refine against_perform slept ?_
  simp only [against_ensure, against_bind]
  refine against_perform locked ?_
  refine against_perform open' ?_
  simp only [Bool.false_eq_true, if_false]
  have conn : within.world.conn = some link := holding.conn_eq
  have granted : within.world.token = some token := holding.token_eq
  have undisturbed : within.world.undelivered (.worker worker) = false := holding.undisturbed
  refine safeRenewOnce_runs conn granted opened undisturbed ?_ ?_
  · intro remaining trace accepted
    refine against_perform rfl ?_
    have asked : within.asked = client.asked := holding.asked
    rw [asked] at accepted ⊢
    simp only [against_bind]
    refine updateLease_runs (show alone.world.token = some token from granted)
      (show alone.world.closed = false from holding.notClosed) ?_
    rw [← expectedEq, Client.renew_held holding.held]
    simp only [accepted]
    have left : alone.world.lease = lease := by
      rw [holding.lease, holding.held]
      rfl
    subst left
    exact holding.renewed _ trace _ _
  · intro error trace closedConn refused others
    have asked : within.asked = client.asked := holding.asked
    rw [asked] at refused ⊢
    refine handleRenewFailure_runs conn holding.notClosed ?_
    refine against_perform rfl ?_
    simp only [Program.pure_eq, against_ret, if_true, against_bind]
    refine against_perform rfl ?_
    have lost : expected = { client with asked := (Client.exchange oracle link
        (params.renewRequest token) (parseRenewResponse · (opLabel params.pre (str "renew")))
        client.asked).2 }.drop := by
      rw [← expectedEq, Client.renew_held holding.held]
      simp only [refused]
    rw [lost]
    exact holding.lost _ trace others _

end Holding

theorem renew_refines (worker : Nat) (rests : Rests client alone) :
    ∃ after, alone.act oracle params (.renew worker) =
      some ((client.act oracle params (.renew worker)).1, after) ∧
      Rests (client.act oracle params (.renew worker)).2 after := by
  have interval := congrFun rests.interval worker
  rcases positionEq : alone.position worker with _ | slept | _
  · have idle : alone.interval worker = none := by simp [Alone.interval, positionEq]
    rw [idle] at interval
    simp only [Client.act, Client.renew_other interval.symm]
    exact ⟨alone, by simp [Alone.act, positionEq], rests⟩
  · rw [sleeping_interval positionEq] at interval
    obtain ⟨link, token, lease, held⟩ := Hold.of_interval interval.symm
    have holding : Holding client link token lease worker slept alone := ⟨rests, held⟩
    obtain ⟨outcome, final, ran, ends⟩ :=
      (@renewRound_refines oracle params client alone _ _ _ _ _ holding).runs
    cases outcome with
    | ok state =>
        refine ⟨_, ?_, ends⟩
        simp [Alone.act, Alone.advance, start, holding.sleeps, ran, Client.act]
    | error error => exact ends.elim
  · have idle : alone.interval worker = none := by simp [Alone.interval, positionEq]
    rw [idle] at interval
    simp only [Client.act, Client.renew_other interval.symm]
    exact ⟨alone, by simp [Alone.act, positionEq], rests⟩

theorem act_refines (rests : Rests client alone) (action : Action) :
    ∃ after, alone.act oracle params action = some ((client.act oracle params action).1, after) ∧
      Rests (client.act oracle params action).2 after := by
  cases action with
  | call call => exact call_refines call rests
  | renew worker => exact renew_refines worker rests

theorem Rests.seen_eq (rests : Rests client alone) (outcome : Except PyError CallValue) :
    alone.seen outcome = client.seen outcome := by
  simp only [Alone.seen, Client.seen, rests.asked, rests.interval, rests.closedConn, rests.token,
    rests.lease, rests.conn]

theorem rests_initial : Rests {} {} :=
  ⟨MidCall.idle ⟨⟨nofun, nofun, fun _ _ => ⟨rfl, rfl, rfl⟩, rfl⟩, tracks_initial⟩ rfl rfl rfl rfl
    (fun _ => rfl) rfl, rfl⟩

/-- A script run on `_AsyncBase` is seen to do what the client does. -/
theorem script_refines (oracle : Oracle) (params : Params) (script : List Action) :
    runScript (Alone.act oracle params) Alone.seen script {} =
      some (({} : Client).script oracle params script) :=
  Client.runScript_eq (fun _ _ rests => act_refines rests) (fun _ _ rests => rests.seen_eq)
    rests_initial script

end

end DflockdClient.Async
