import DflockdClient.SyncSequence

/-! An attempt, from the reset of an instance to a grant, a place in the queue or nothing. -/

namespace DflockdClient.Sync

open Interleaving

variable {faults : Faults} {params : Params} {thread : Thread} {origin world : World}

section Exchanges

variable {α : Type} {raised : PyError → World → Prop}

theorem wlp_send {conn : Nat} {request : Request} {post : Unit → World → Prop}
    (failed : ∀ error events, faults.raises thread (commandKind request.cmd) error = true →
      raised error (world.log events))
    (sent : world.closedConn conn = false → post () (world.log [.frame conn request])) :
    wlp (sequential faults params) thread (raising (perform (.send conn request))) post raised
      world := by
  apply wlp_raising
  intro choice result after executed
  rcases send_cases executed with ⟨error, rfl, rfl, raises⟩ | ⟨error, rfl, raises, _, rfl⟩ |
    ⟨rfl, opened, rfl⟩
  · have silent := failed error [] raises
    simp only [World.log, List.append_nil] at silent
    exact silent
  · exact failed error _ raises
  · exact sent opened

theorem wlp_recv {conn : Nat} {cmd : Str} {post : Str → World → Prop}
    (failed : ∀ error, faults.raises thread (commandKind cmd) error = true →
      raised error (world.log [.noAnswer conn cmd]))
    (answered : ∀ line, post line (world.log [.answer conn cmd line])) :
    wlp (sequential faults params) thread (raising (perform (.recv conn cmd))) post raised
      world := by
  apply wlp_raising
  intro choice result after executed
  rcases recv_cases executed with ⟨error, rfl, raises, rfl⟩ | ⟨line, rfl, rfl⟩
  · exact failed error raises
  · exact answered line

theorem log_log {first second : List Event} :
    (world.log first).log second = world.log (first ++ second) := by
  simp [World.log]

abbrev World.broken (world : World) (conn : Nat) (events : List Event) : World :=
  { world.log events with closedConn := Function.update world.closedConn conn true }

theorem command_wlp {conn : Nat} {request : Request} {post : Str → World → Prop}
    (rejected : ∀ error, error.isException = true → raised error world)
    (failed : ∀ error events, faults.raises thread (commandKind request.cmd) error = true →
      raised error (world.broken conn events))
    (answered : ∀ line, world.closedConn conn = false →
      post line (world.log [.frame conn request, .answer conn request.cmd line])) :
    wlp (sequential faults params) thread (command (some conn) request) post raised world := by
  simp only [command, wlp_bind, wlp_discard, wlp_orRaise, wlp_handle, wlp_closeConn,
    Program.throw_eq, wlp_raise]
  cases encoded : encodeLines [request.cmd, request.key, request.arg] with
  | error error => exact rejected error (ordinary_encodeLines _ error encoded)
  | ok bytes =>
      apply wlp_send
      · exact failed
      intro opened
      apply wlp_recv
      · intro error raises
        rw [log_log]
        exact failed error _ raises
      · intro line
        rw [log_log]
        exact answered line opened

theorem exchange_wlp {conn : Nat} {build : Except PyError Request} {parse : Str → Except PyError α}
    {post : α → World → Prop}
    (rejected : ∀ error, build = .error error ∨ error.isException = true → raised error world)
    (failed : ∀ error request events, build = .ok request →
      faults.raises thread (commandKind request.cmd) error = true →
      raised error (world.broken conn events))
    (refused : ∀ error request line, build = .ok request → parse line = .error error →
      raised error (world.log [.frame conn request, .answer conn request.cmd line]))
    (answered : ∀ request line value, build = .ok request → world.closedConn conn = false →
      parse line = .ok value →
      post value (world.log [.frame conn request, .answer conn request.cmd line])) :
    wlp (sequential faults params) thread (exchange (some conn) build parse) post raised world := by
  simp only [exchange, wlp_bind, wlp_orRaise]
  cases built : build with
  | error error => exact rejected error (.inl built)
  | ok request =>
      apply command_wlp
      · exact fun error ordinary => rejected error (.inr ordinary)
      · exact fun error events => failed error request events built
      · intro line opened
        cases parsed : parse line with
        | error error => exact refused error request line built parsed
        | ok value => exact answered request line value built opened parsed

end Exchanges

/-- Idle, with every connection closed. -/
structure Emptied (thread : Thread) (origin world : World) : Prop extends
    Rested thread origin world where
  idle : Mode.idle.Holds world
  shut : ∀ conn, conn < world.conns → world.closedConn conn = true

/-- Nothing is granted and no worker renews. At most the connection `spare` is open, which is
installed or still in a local variable. -/
structure Ungranted (thread : Thread) (origin : World) (installed spare : Option Nat)
    (world : World) : Prop extends Base thread origin world where
  quiet : NoneRenews world
  joinable : ∀ worker, world.renewThread = some worker → world.started worker = true
  opened : world.closed = false
  unset : world.eventSet world.stopEvent = false
  conn : world.conn = installed
  token : world.token = none
  lease : world.lease = 0
  others : ∀ conn, conn < world.conns → spare ≠ some conn → world.closedConn conn = true
  connMade : ∀ conn, spare = some conn → conn < world.conns

structure GrantStored (thread : Thread) (origin world : World) : Prop extends
    Base thread origin world where
  quiet : NoneRenews world
  opened : world.closed = false
  unset : world.eventSet world.stopEvent = false
  others : ∀ conn, conn < world.conns → world.conn ≠ some conn → world.closedConn conn = true
  connMade : ∀ conn, world.conn = some conn → conn < world.conns
  grant : ∃ conn token, world.conn = some conn ∧ world.closedConn conn = false ∧
    world.token = some token ∧ granted world.trace conn = some token ∧
    reported world.trace conn = some world.lease ∧
    1 ≤ world.lease ∧ world.lease ≤ maxProtocolSeconds

theorem Torn.emptied (known : Torn thread origin world) : Emptied thread origin world :=
  { known with
    watched := fun worker renews => absurd renews (known.quiet worker)
    closed := fun _ => ⟨known.conn, known.token, known.lease, known.stopSet⟩
    unset := fun opened => by
      rw [known.closed] at opened
      cases opened
    mode := ⟨.idle, known.conn, known.token, known.lease, known.quiet⟩
    idle := ⟨known.conn, known.token, known.lease, known.quiet⟩
    shut := fun conn made => known.others conn made (by simp [known.conn]) }

namespace Ungranted

variable {installed spare : Option Nat}

theorem entered (known : Ungranted thread origin spare spare world) : Entered thread origin world :=
  { known with
    watched := fun worker renews => absurd renews (known.quiet worker)
    closed := fun closed => by
      rw [known.opened] at closed
      cases closed
    others := fun conn made elsewhere => known.others conn made (known.conn ▸ elsewhere)
    connMade := fun conn connEq => known.connMade conn (known.conn.symm.trans connEq) }

theorem emptied (known : Ungranted thread origin none none world) : Emptied thread origin world :=
  { known.entered with
    unset := fun _ => known.unset
    mode := ⟨.idle, known.conn, known.token, known.lease, known.quiet⟩
    idle := ⟨known.conn, known.token, known.lease, known.quiet⟩
    shut := fun conn made => known.others conn made (by simp) }

theorem log (known : Ungranted thread origin installed spare world) (events : List Event) :
    Ungranted thread origin installed spare (world.log events) :=
  { known with }

theorem closeConn {conn : Nat} (known : Ungranted thread origin installed (some conn) world) :
    Ungranted thread origin installed none { world with
      closedConn := Function.update world.closedConn conn true } :=
  { known with
    unmade := unmade_update known.unmade (known.connMade conn rfl)
    others := fun other made _ => by
      by_cases same : other = conn
      · simp [same]
      · exact closed_update (known.others other made fun back =>
          same (Option.some.inj back).symm)
    connMade := by simp }

theorem sparing (known : Ungranted thread origin installed none world) {conn : Nat}
    (made : conn < world.conns) : Ungranted thread origin installed (some conn) world :=
  { known with
    others := fun other made _ => known.others other made (by simp)
    connMade := by
      rintro _ ⟨⟩
      exact made }

theorem broken {conn : Nat} (known : Ungranted thread origin (some conn) (some conn) world)
    (events : List Event) : Entered thread origin (world.broken conn events) :=
  ((known.log events).closeConn.sparing (known.connMade conn rfl)).entered

theorem grant {conn : Nat} {request : Request} {cmd line token : Str} {lease : Int}
    (known : Ungranted thread origin (some conn) (some conn) world)
    (opened : world.closedConn conn = false) (grants : grantedToken cmd line = some token)
    (reports : reportedLease cmd line = some lease)
    (range : 1 ≤ lease ∧ lease ≤ maxProtocolSeconds) :
    GrantStored thread origin { world.log [.frame conn request, .answer conn cmd line] with
      token := some token, lease := lease } :=
  { known with
    others := fun other made elsewhere => known.others other made (known.conn ▸ elsewhere)
    connMade := fun other otherEq => known.connMade other (known.conn.symm.trans otherEq)
    grant := ⟨conn, token, known.conn, opened, rfl,
      by simp [World.log, granted, grantStep, grants],
      by simp [World.log, reported, reportedStep, reports], range⟩ }

end Ungranted

variable {raised : PyError → World → Prop}

theorem reopen_wlp (known : Entered thread origin world) :
    wlp (sequential faults params) thread
      (do
        closeUnlocked
        perform (.setClosed false)
        perform .newStopEvent)
      (fun _ => Ungranted thread origin none none) raised world := by
  simp only [wlp_bind]
  refine wlp_mono (closeUnlocked_wlp known) ?_ fun _ _ known => known
  intro _ world torn
  simp only [wlp_setClosed, wlp_newStopEvent]
  refine { torn with
    pastSet := ?_
    future := fun event later => torn.future event (Nat.lt_of_succ_lt later)
    workerPast := fun worker made => Nat.le_succ_of_le (torn.workerPast worker made)
    opened := rfl
    unset := torn.future _ (Nat.lt_succ_self _)
    others := fun conn made _ => torn.emptied.shut conn made
    connMade := by simp }
  intro event earlier
  rcases Nat.lt_succ_iff_lt_or_eq.mp earlier with before | rfl
  · exact torn.pastSet event before
  · exact torn.stopSet

theorem resetForNewAttempt_wlp (known : Entered thread origin world) :
    wlp (sequential faults params) thread resetForNewAttempt
      (fun _ => Ungranted thread origin none none) raised world := by
  simp only [resetForNewAttempt, wlp_bind]
  refine wlp_mono (stopRenew_wlp known) ?_ fun _ _ known => known
  rintro _ world ⟨entered, -⟩
  have reopened := @reopen_wlp faults params thread origin world raised entered
  simpa only [wlp_bind] using reopened

theorem maybeAuthenticate_wlp {conn : Nat} {authToken : Option Str}
    (known : Ungranted thread origin none (some conn) world) :
    wlp (sequential faults params) thread (maybeAuthenticate conn authToken)
      (fun conn => Ungranted thread origin none (some conn))
      (fun _ => Emptied thread origin) world := by
  cases authToken with
  | none => exact known
  | some authToken =>
      simp only [maybeAuthenticate, authenticate, wlp_handle, wlp_bind, wlp_closeConn,
        Program.pure_eq, wlp_ret, Program.throw_eq, wlp_raise]
      apply exchange_wlp
      · exact fun _ _ => known.closeConn.emptied
      · intro _ _ events _ _
        exact ((known.log events).closeConn.sparing (known.connMade conn rfl)).closeConn.emptied
      · exact fun _ _ _ _ _ => (known.log _).closeConn.emptied
      · exact fun _ _ _ _ _ _ => known.log _

theorem openAndAuthenticate_wlp (known : Ungranted thread origin none none world) :
    wlp (sequential faults params) thread (openAndAuthenticate params)
      (fun _ world => ∃ conn, Ungranted thread origin (some conn) (some conn) world)
      (fun _ => Emptied thread origin) world := by
  simp only [openAndAuthenticate, wlp_bind, wlp_orRaise]
  cases picked : params.endpoint with
  | error error => exact known.emptied
  | ok endpoint =>
      apply wlp_dial
      · exact fun _ => known.emptied
      have dialled : Ungranted thread origin none (some world.conns) { world with
          conns := world.conns + 1
          inHand := Function.update world.inHand world.conns (some thread) } :=
        { known with
          unmade := fun conn beyond => known.unmade conn (Nat.le_of_succ_le beyond)
          others := fun conn made elsewhere => known.others conn
            (Nat.lt_of_le_of_ne (Nat.le_of_lt_succ made) fun same => elsewhere (same ▸ rfl))
            (by simp)
          connMade := by
            rintro _ ⟨⟩
            exact Nat.lt_succ_self _ }
      refine wlp_mono (maybeAuthenticate_wlp dialled) ?_ fun _ _ known => known
      intro conn world authenticated
      simp only [wlp_setConn]
      exact ⟨conn, { authenticated with conn := rfl }⟩

abbrev Granting (thread : Thread) (origin : World) (grant : Str × Int) (world : World) : Prop :=
  GrantStored thread origin { world with token := some grant.1, lease := grant.2 }

theorem grantExchange_wlp {conn : Nat} {build : Except PyError Request} {op : Str}
    (kind : ∀ request, build = .ok request →
      commandKind request.cmd = some .acquire ∨ commandKind request.cmd = some .wait)
    (known : Ungranted thread origin (some conn) (some conn) world) :
    wlp (sequential faults params) thread (exchange (some conn) build (parseGrantResponse · op))
      (Granting thread origin) (fun _ => Entered thread origin) world := by
  apply exchange_wlp
  · exact fun _ _ => known.entered
  · exact fun _ _ events _ _ => known.broken events
  · exact fun _ _ _ _ _ => (known.log _).entered
  · intro request line grant built opened parsed
    exact known.grant opened (grantedToken_grant (kind request built) parsed)
      (reportedLease_grant (kind request built) parsed) (parseGrantResponse_range parsed)

theorem grantOrClose_wlp {exchange : Py (Str × Int)}
    (known : wlp (sequential faults params) thread exchange
      (Granting thread origin) (fun _ => Entered thread origin) world) :
    wlp (sequential faults params) thread (grantOrClose exchange storeGrant)
      (fun granted world => if granted.isNone then Emptied thread origin world
        else GrantStored thread origin world)
      (fun _ => Emptied thread origin) world := by
  simp only [grantOrClose, storeGrant, wlp_handle, wlp_bind, wlp_setToken, wlp_setLease,
    Program.pure_eq, wlp_ret]
  refine wlp_mono known ?_ ?_
  · intro grant world granted
    simpa using granted
  · intro error world entered
    refine wlp_mono (closeUnlocked_wlp entered) ?_ fun _ _ known => known
    intro _ world torn
    split
    · simpa using torn.emptied
    · exact torn.emptied

abbrev World.withWorker (world : World) : World :=
  { world with
    workers := world.workers + 1
    workerEvent := Function.update world.workerEvent world.workers world.stopEvent
    renewThread := some world.workers
    started := Function.update world.started world.workers true
    alive := Function.update world.alive world.workers true }

theorem renews_withWorker (quiet : NoneRenews world)
    (unset : world.eventSet world.stopEvent = false) (worker : Nat) :
    Renews world.withWorker worker ↔ worker = world.workers := by
  constructor
  · intro renews
    by_contra different
    apply quiet worker
    simpa only [Renews, Function.update_of_ne different] using renews
  · rintro rfl
    simpa [Renews] using unset

theorem Base.withWorker (known : Base thread origin world) :
    Base thread origin world.withWorker := by
  have old (worker : Nat) (started : world.started worker = true) : worker ≠ world.workers :=
    Nat.ne_of_lt (known.startedMade worker started)
  refine { known with workerPast := ?_, startedMade := ?_, aliveStarted := ?_, frame := ?_ }
  · intro worker made
    by_cases new : worker = world.workers
    · simp [new]
    · simp only [Function.update_of_ne new]
      have made : worker < world.workers + 1 := made
      exact known.workerPast worker (by omega)
  · intro worker started
    by_cases new : worker = world.workers
    · simp [new]
    · simp only [Function.update_of_ne new] at started
      exact Nat.lt_succ_of_lt (known.startedMade worker started)
  · intro worker alive
    by_cases new : worker = world.workers
    · simp [new]
    · simp only [Function.update_of_ne new] at alive ⊢
      exact known.aliveStarted worker alive
  · intro worker
    obtain ⟨kept, fresh⟩ := known.frame worker
    constructor
    · intro before
      have new := old worker (kept before).1
      simpa only [Function.update_of_ne new] using kept before
    · intro before after
      by_cases new : worker = world.workers
      · simp [new]
      · simp only [Function.update_of_ne new] at after ⊢
        exact fresh before after

theorem startRenew_wlp (benign : faults.Benign) (known : GrantStored thread origin world) :
    wlp (sequential faults params) thread startRenew (fun _ => Rested thread origin) raised
      world := by
  simp only [startRenew, wlp_bind, wlp_getStopEvent, wlp_newThread, wlp_setRenewThread]
  apply wlp_startThread benign
  obtain ⟨conn, token, connEq, opened, tokenEq, grant, report, range⟩ := known.grant
  have one : OneRenews world.withWorker :=
    ⟨world.workers, (renews_withWorker known.quiet known.unset _).mpr rfl, by simp,
      fun other renews => (renews_withWorker known.quiet known.unset other).mp renews⟩
  show Rested thread origin world.withWorker
  exact { known.toBase.withWorker with
    joinable := by
      rintro _ ⟨⟩
      simp
    watched := fun worker renews =>
      congrArg some ((renews_withWorker known.quiet known.unset worker).mp renews).symm
    closed := fun closed => by
      rw [show world.withWorker.closed = false from known.opened] at closed
      cases closed
    others := known.others
    connMade := known.connMade
    unset := fun _ => known.unset
    mode := ⟨.held, conn, token, connEq, opened, tokenEq, grant, one, report, range⟩ }

end DflockdClient.Sync
