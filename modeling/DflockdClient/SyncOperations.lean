import DflockdClient.SyncCallers

/-! Every public operation keeps the contract, from the reset to the release. -/

namespace DflockdClient.Sync

open Interleaving

variable {params : Params} {me : Nat}

/-- From here `_close_unlocked` ends with nothing held; the connection may be released. -/
structure Closable (me : Nat) (world : World) : Prop where
  busy : Busy me world
  settled : Settled world
  closed : world.closed = true → world.conn = none ∧ world.token = none ∧ StopSet world
  joinable : ∀ worker, world.renewThread = some worker → world.started worker = true

theorem Ready.closable {world : World} (ready : Ready me world) : Closable me world :=
  ⟨ready.1, ready.2.settled, ready.2.closed, ready.2.joinable⟩

theorem Closable.kept : Kept params me (Closable me) := by
  intro worker before after move invBefore holds known
  refine ⟨Busy.kept worker before after move invBefore holds known.busy,
    Settled.kept worker before after move invBefore holds known.settled, ?_, ?_⟩
  · intro closed
    obtain ⟨conn, token, stopSet⟩ := known.closed (move.closed ▸ closed)
    exact ⟨connNone_kept worker before after move invBefore holds conn,
      tokenNone_kept worker before after move invBefore holds token,
      StopSet.kept worker before after move invBefore holds stopSet⟩
  · intro other thread
    rw [move.started]
    exact known.joinable other (move.renewThread ▸ thread)

structure Closing (me : Nat) (world : World) : Prop where
  busy : Busy me world
  settled : Settled world
  closed : world.closed = true
  joinable : ∀ worker, world.renewThread = some worker → world.started worker = true

theorem Closing.kept : Kept params me (Closing me) := by
  intro worker before after move invBefore holds known
  refine ⟨Busy.kept worker before after move invBefore holds known.busy,
    Settled.kept worker before after move invBefore holds known.settled,
    move.closed.trans known.closed, ?_⟩
  intro other thread
  rw [move.started]
  exact known.joinable other (move.renewThread ▸ thread)

def Stopping (me : Nat) (world : World) : Prop := Closing me world ∧ StopSet world

theorem Stopping.kept : Kept params me (Stopping me) := Closing.kept.and StopSet.kept

theorem Stopping.quiet {world : World} (known : Stopping me world) : Quiet world := .inl known.2

def Closed (me : Nat) (world : World) : Prop := Ready me world ∧ world.closed = true

theorem Closed.kept : Kept params me (Closed me) := Ready.kept.and closed_kept

theorem Closed.connNone {world : World} (known : Closed me world) : world.conn = none :=
  (known.1.2.closed known.2).1

theorem beginClose_triple {raised : PyError → World → Prop} :
    CallerTriple params me (fun world => Closable me world ∧ world.closed = false) beginClose
      (fun _ => Stopping me) raised := by
  have marked : CallerTriple params me (fun world => Closable me world ∧ world.closed = false)
      (perform (.setClosed true)) (fun _ => Closing me) raised := by
    apply caller_setClosed (Closable.kept.and closed_kept) fun world known => known.1.busy.holds
    rintro world ⟨closable, -⟩
    exact ⟨⟨closable.busy.holds, closable.busy.free, closable.busy.hand⟩, closable.settled, rfl,
      closable.joinable⟩
  refine marked.bind fun _ => ?_
  refine (caller_getStopEvent Closing.kept fun world known => known.busy.holds).bind
    fun stopEvent => ?_
  refine (caller_setEvent (Closing.kept.and stopEvent_kept)
    (fun world known => known.1.busy.holds) ?_).post ?_
  · rintro world ⟨closing, same⟩
    exact ⟨⟨⟨closing.busy.holds, closing.busy.free, closing.busy.hand⟩, closing.settled,
      closing.closed, closing.joinable⟩, same⟩
  · rintro _ world - ⟨⟨closing, same⟩, set⟩
    refine ⟨closing, ?_⟩
    rw [StopSet, same]
    exact set

structure Locked (me conn : Nat) (world : World) : Prop where
  holds : world.stateLock = some (.caller me)
  locked : world.ioLock = some (.caller me)
  unarmed : world.armed = none
  hand : ∀ conn, world.inHand conn = some (.caller me) → world.closedConn conn = true
  settled : Settled world
  closed : world.closed = true
  stopSet : StopSet world
  joinable : ∀ worker, world.renewThread = some worker → world.started worker = true
  conn : ConnIn conn world

theorem Locked.kept {conn : Nat} : Kept params me (Locked me conn) := by
  intro worker before after move invBefore holds known
  have elsewhere : before.ioLock ≠ some (.worker worker) := by simp [known.locked]
  refine ⟨move.stateLock.trans known.holds, (move.locked _ (by simp)).mp known.locked,
    (move.outside elsewhere).2.2.trans known.unarmed, ?_,
    Settled.kept worker before after move invBefore holds known.settled,
    move.closed.trans known.closed, StopSet.kept worker before after move invBefore holds
      known.stopSet, ?_, ConnIn.kept worker before after move invBefore holds known.conn⟩
  · intro conn held
    exact move.closedConn conn (known.hand conn (move.inHand _ conn (by simp) held))
  · intro other thread
    rw [move.started]
    exact known.joinable other (move.renewThread ▸ thread)

theorem shutdownAndCloseConn_triple {raised : PyError → World → Prop} :
    CallerTriple params me (Stopping me) shutdownAndCloseConn
      (fun _ world => Stopping me world ∧ world.conn = none) raised := by
  refine (caller_getConn Stopping.kept fun world known => known.1.busy.holds).bind fun conn => ?_
  cases conn with
  | none => exact Triple.ret fun _ _ known => known
  | some conn => ?_
  have inside : Kept params me fun world => Stopping me world ∧ ConnIn conn world :=
    Stopping.kept.and ConnIn.kept
  have shut : CallerTriple params me (fun world => Stopping me world ∧ ConnIn conn world)
      (perform (.shutdownRead conn)) (fun _ world => Stopping me world ∧ ConnIn conn world)
      raised :=
    caller_shutdownRead inside fun world known => known.1.1.busy.holds
  refine (shut.pre fun world _ known => ⟨known.1, .inl known.2⟩).bind fun _ => ?_
  have locks : CallerTriple params me (fun world => Stopping me world ∧ ConnIn conn world)
      (perform .lockIo) (fun _ => Locked me conn) raised := by
    apply caller_lockIo inside fun world known => known.1.1.busy.holds
    rintro world ⟨⟨closing, stopSet⟩, connIn⟩ unarmed
    exact ⟨closing.busy.holds, rfl, unarmed, closing.busy.hand, closing.settled, closing.closed,
      stopSet, closing.joinable, connIn⟩
  have closes : CallerTriple params me (Locked me conn) (perform (.closeConn conn))
      (fun _ world => Locked me conn world ∧ world.closedConn conn = true)
      (fun _ _ => False) := by
    apply caller_closeConn Locked.kept fun world known => known.holds
    intro world known
    refine ⟨⟨known.holds, known.locked, known.unarmed, ?_, known.settled, known.closed,
      known.stopSet, known.joinable, known.conn⟩, by simp⟩
    intro other held
    by_cases same : other = conn
    · simp [same]
    · simpa only [Function.update_of_ne same] using known.hand other held
  have unlocks : CallerTriple params me
      (fun world => Locked me conn world ∧ world.closedConn conn = true) (perform .unlockIo)
      (fun _ world => Stopping me world ∧ ConnIn conn world ∧ world.closedConn conn = true ∧
        (world.armed = none ∨ world.conn = none)) raised := by
    apply caller_unlockIo (Locked.kept.and closedConn_kept) fun world known => known.1.holds
    · rintro world ⟨known, -⟩
      exact ⟨known.locked, known.unarmed, known.settled⟩
    · rintro world ⟨known, gone⟩
      exact ⟨⟨⟨⟨known.holds, by simp, known.hand⟩, known.settled, known.closed, known.joinable⟩,
        known.stopSet⟩, known.conn, gone, .inl rfl⟩
  have guarded := locks.bind fun _ => closes.ensure (fun _ => unlocks) fun _ =>
    Triple.vacuous fun _ never => never
  refine guarded.bind fun _ => ?_
  have unread : Kept params me fun world => Stopping me world ∧ ConnIn conn world ∧
      world.closedConn conn = true ∧ (world.armed = none ∨ world.conn = none) := by
    rintro worker before after move inv holds ⟨stopping, connIn, gone, unarmed⟩
    exact ⟨Stopping.kept worker before after move inv holds stopping,
      ConnIn.kept worker before after move inv holds connIn,
      move.closedConn conn gone,
      (Unread.kept worker before after move inv holds ⟨stopping.quiet, unarmed⟩).2⟩
  apply caller_dropConn unread fun world known => known.1.1.busy.holds
  · rintro world ⟨stopping, -, -, unarmed⟩
    exact ⟨stopping.quiet, unarmed⟩
  · rintro world ⟨⟨closing, stopSet⟩, connIn, gone, -⟩
    refine ⟨⟨⟨⟨closing.busy.holds, closing.busy.free, ?_⟩, closing.settled, closing.closed,
      closing.joinable⟩, stopSet⟩, rfl⟩
    intro other held
    simp only [World.setConn, reduceCtorEq, if_false] at held
    split at held
    · rename_i current
      rcases connIn with same | none
      · rw [same, Option.some.injEq] at current
        exact current ▸ gone
      · rw [none] at current
        cases current
    · exact closing.busy.hand other held

theorem joinRenewThread_triple {raised : PyError → World → Prop} :
    CallerTriple params me (fun world => Stopping me world ∧ world.conn = none) joinRenewThread
      (fun _ world => Stopping me world ∧ world.conn = none) raised := by
  have kept : Kept params me fun world => Stopping me world ∧ world.conn = none :=
    Stopping.kept.and connNone_kept
  have holds (world : World) (known : Stopping me world ∧ world.conn = none) :
      world.stateLock = some (.caller me) := known.1.1.busy.holds
  have forget : CallerTriple params me (fun world => Stopping me world ∧ world.conn = none)
      (perform (.setRenewThread none)) (fun _ world => Stopping me world ∧ world.conn = none)
      raised := by
    apply caller_setRenewThread kept holds fun _ world known => known.1.quiet
    rintro world ⟨⟨closing, stopSet⟩, none⟩
    exact ⟨⟨⟨⟨closing.busy.holds, closing.busy.free, closing.busy.hand⟩, closing.settled,
      closing.closed, by simp⟩, stopSet⟩, none⟩
  refine (caller_getRenewThread kept holds).bind fun worker => ?_
  cases worker with
  | none => exact forget.pre fun world _ known => known.1
  | some worker =>
      refine (caller_joinThread (kept.and renewThread_kept) (fun world known => holds world known.1)
        ?_).bind fun _ => forget.pre fun world _ known => known.1
      rintro world ⟨⟨⟨closing, -⟩, -⟩, thread⟩
      exact closing.joinable worker thread

theorem clearHeldState_triple {raised : PyError → World → Prop} :
    CallerTriple params me (fun world => Stopping me world ∧ world.conn = none) clearHeldState
      (fun _ => Closed me) raised := by
  have cleared : CallerTriple params me (fun world => Stopping me world ∧ world.conn = none)
      (perform (.setToken none)) (fun _ => Closed me) raised := by
    apply caller_clearToken (Stopping.kept.and connNone_kept)
      fun world known => known.1.1.busy.holds
    · rintro world ⟨stopping, none⟩
      exact ⟨stopping.quiet, .inr none⟩
    · rintro world ⟨⟨closing, stopSet⟩, none⟩
      refine ⟨⟨⟨closing.busy.holds, closing.busy.free, closing.busy.hand⟩,
        fun _ => ⟨none, rfl, stopSet⟩, ?_, closing.settled, closing.joinable⟩, closing.closed⟩
      intro conn connEq
      rw [show world.conn = some conn from connEq] at none
      cases none
  refine cleared.bind fun _ => ?_
  apply caller_setLease Closed.kept fun world known => known.1.1.holds
  rintro world ⟨⟨busy, tidy⟩, closed⟩
  exact ⟨⟨⟨busy.holds, busy.free, busy.hand⟩,
    ⟨tidy.closed, tidy.usable, tidy.settled, tidy.joinable⟩⟩, closed⟩

theorem closeUnlocked_triple {raised : PyError → World → Prop} :
    CallerTriple params me (Closable me) closeUnlocked (fun _ => Closed me) raised := by
  refine (caller_getClosed Closable.kept fun world known => known.busy.holds).bind fun closed => ?_
  cases closed with
  | true =>
      apply Triple.ret
      rintro world _ ⟨closable, closed⟩
      refine ⟨⟨closable.busy, closable.closed, ?_, closable.settled, closable.joinable⟩, closed⟩
      intro conn connEq
      rw [(closable.closed closed).1] at connEq
      cases connEq
  | false =>
      exact beginClose_triple.bind fun _ => shutdownAndCloseConn_triple.bind fun _ =>
        joinRenewThread_triple.bind fun _ => clearHeldState_triple

theorem Ready.setEvent {world : World} {event : Nat} (ready : Ready me world) :
    Ready me { world with eventSet := Function.update world.eventSet event true } := by
  obtain ⟨busy, tidy⟩ := ready
  refine ⟨⟨busy.holds, busy.free, busy.hand⟩, ?_, tidy.usable, tidy.settled, tidy.joinable⟩
  intro closed
  obtain ⟨conn, token, stopSet⟩ := tidy.closed closed
  refine ⟨conn, token, ?_⟩
  by_cases same : world.stopEvent = event
  · simp [same]
  · simpa only [Function.update_of_ne same] using stopSet

theorem stopRenew_triple {raised : PyError → World → Prop} :
    CallerTriple params me (Ready me) stopRenew (fun _ world => Ready me world ∧ Quiet world)
      raised := by
  refine (caller_getRenewThread Ready.kept Ready.holds).bind fun worker => ?_
  cases worker with
  | none => exact Triple.ret fun world inv known => ⟨known.1, inv.quietNone known.2⟩
  | some worker =>
      have joinable : Kept params me fun world =>
          (Ready me world ∧ world.renewThread = some worker) :=
        Ready.kept.and renewThread_kept
      refine (caller_getStopEvent joinable fun world known => known.1.holds).bind
        fun stopEvent => ?_
      have stops : CallerTriple params me
          (fun world => (Ready me world ∧ world.renewThread = some worker) ∧
            world.stopEvent = stopEvent)
          (perform (.setEvent stopEvent))
          (fun _ world => (Ready me world ∧ world.renewThread = some worker) ∧ StopSet world)
          raised := by
        refine (caller_setEvent (joinable.and stopEvent_kept)
          (fun world known => known.1.1.holds) ?_).post ?_
        · rintro world ⟨⟨ready, thread⟩, same⟩
          exact ⟨⟨ready.setEvent, thread⟩, same⟩
        · rintro _ world - ⟨⟨known, same⟩, set⟩
          refine ⟨known, ?_⟩
          rw [StopSet, same]
          exact set
      have stopped : Kept params me fun world => Ready me world ∧ StopSet world :=
        Ready.kept.and StopSet.kept
      have forgets : CallerTriple params me (fun world => Ready me world ∧ StopSet world)
          (perform (.setRenewThread none)) (fun _ world => Ready me world ∧ Quiet world)
          raised := by
        apply caller_setRenewThread stopped (fun world known => known.1.holds)
          fun _ world known => .inl known.2
        rintro world ⟨⟨busy, tidy⟩, stopSet⟩
        exact ⟨⟨⟨busy.holds, busy.free, busy.hand⟩,
          ⟨tidy.closed, tidy.usable, tidy.settled, by simp⟩⟩, .inl stopSet⟩
      refine stops.bind fun _ => (caller_joinThread (joinable.and StopSet.kept)
        (fun world known => known.1.1.holds) ?_).bind fun _ => forgets.pre ?_
      · rintro world ⟨⟨⟨-, tidy⟩, thread⟩, -⟩
        exact tidy.joinable worker thread
      · exact fun world _ known => ⟨known.1.1, known.2⟩

structure Fresh (me : Nat) (world : World) : Prop where
  ready : Ready me world
  closed : world.closed = false
  conn : world.conn = none
  token : world.token = none

theorem Fresh.kept : Kept params me (Fresh me) :=
  fun worker before after move inv holds known =>
    ⟨Ready.kept worker before after move inv holds known.ready, move.closed.trans known.closed,
      connNone_kept worker before after move inv holds known.conn,
      tokenNone_kept worker before after move inv holds known.token⟩

theorem resetForNewAttempt_triple {raised : PyError → World → Prop} :
    CallerTriple params me (Ready me) resetForNewAttempt (fun _ => Fresh me) raised := by
  have opened : CallerTriple params me (Closed me) (perform (.setClosed false))
      (fun _ world => Fresh me world ∧ StopSet world) raised := by
    apply caller_setClosed Closed.kept fun world known => known.1.1.holds
    rintro world ⟨⟨busy, tidy⟩, closed⟩
    obtain ⟨conn, token, stopSet⟩ := tidy.closed closed
    exact ⟨⟨⟨⟨busy.holds, busy.free, busy.hand⟩,
      ⟨by simp, tidy.usable, tidy.settled, tidy.joinable⟩⟩, rfl, conn, token⟩, stopSet⟩
  have renewed : CallerTriple params me (fun world => Fresh me world ∧ StopSet world)
      (perform .newStopEvent) (fun _ => Fresh me) raised := by
    apply caller_newStopEvent (Fresh.kept.and StopSet.kept) fun world known => known.1.ready.holds
    · exact fun world known => ⟨known.2, known.1.conn⟩
    · rintro world ⟨⟨⟨busy, tidy⟩, closed, conn, token⟩, -⟩ -
      refine ⟨⟨⟨busy.holds, busy.free, busy.hand⟩, ?_, tidy.usable, tidy.settled,
        tidy.joinable⟩, closed, conn, token⟩
      simp [closed]
  exact stopRenew_triple.bind fun _ => (closeUnlocked_triple.pre fun _ _ ready =>
    ready.1.closable).bind fun _ => opened.bind fun _ => renewed

theorem caller_closing {conn : Nat} {fact : World → Prop} {raised : PyError → World → Prop}
    (exchanging : Exchanging params me conn fact) :
    CallerTriple params me fact (perform (.closeConn conn)) (fun _ => fact) raised :=
  caller_closeConn exchanging.kept exchanging.holds exchanging.close

theorem command_triple {conn : Nat} {request : Request} {fact : World → Prop}
    (plain : Plain request.cmd) (exchanging : Exchanging params me conn fact) :
    CallerTriple params me fact (command (some conn) request)
      (fun line world => fact world ∧ Unreleased conn world ∧
        ∀ token, grantedToken request.cmd line = some token →
          granted world.trace conn = some token) fun _ => fact := by
  refine (Triple.orRaise (fun _ _ _ known => known) fun _ _ _ known => known).discard.bind
    fun _ => ?_
  refine Triple.handle ((caller_send plain exchanging).bind fun _ =>
    caller_recv plain exchanging) fun error => ?_
  exact (caller_closing exchanging).bind fun _ => Triple.raise fun _ _ known => known

def Answered {α : Type} (conn : Nat) (request : Except PyError Request)
    (parse : Str → Except PyError α) (value : α) (world : World) : Prop :=
  Unreleased conn world ∧ ∃ sent line, request = .ok sent ∧ parse line = .ok value ∧
    ∀ token, grantedToken sent.cmd line = some token → granted world.trace conn = some token

theorem exchange_triple {α : Type} {conn : Nat} {found : Option Nat}
    {request : Except PyError Request} {parse : Str → Except PyError α} {fact : World → Prop}
    (same : found = none ∨ found = some conn)
    (plain : ∀ sent, request = .ok sent → Plain sent.cmd)
    (exchanging : Exchanging params me conn fact) :
    CallerTriple params me fact (exchange found request parse)
      (fun value world => fact world ∧ Answered conn request parse value world)
      fun _ => fact := by
  cases request with
  | error error => exact Triple.raise fun _ _ known => known
  | ok sent =>
      change CallerTriple params me fact
        (command found sent >>= fun line => Program.orRaise (parse line)) _ _
      rcases same with rfl | rfl
      · exact Triple.raise fun _ _ known => known
      · refine (command_triple (plain sent rfl) exchanging).bind fun line => ?_
        apply Triple.orRaise
        · rintro value parsed world ⟨known, unreleased, grants⟩
          exact ⟨known, unreleased, sent, line, rfl, parsed, grants⟩
        · exact fun _ _ _ known => known.1

/-! A new attempt -/

structure Dialled (me fresh : Nat) (world : World) : Prop where
  holds : world.stateLock = some (.caller me)
  free : world.ioLock ≠ some (.caller me)
  hand : ∀ conn, conn ≠ fresh → world.inHand conn = some (.caller me) →
    world.closedConn conn = true
  tidy : Tidy world
  closed : world.closed = false
  conn : world.conn = none
  token : world.token = none
  made : fresh < world.conns
  unreleased : Unreleased fresh world

theorem Dialled.kept {fresh : Nat} : Kept params me (Dialled me fresh) := by
  intro worker before after move inv holds known
  refine ⟨move.stateLock.trans known.holds, ?_, ?_,
    Tidy.kept worker before after move inv holds known.tidy, move.closed.trans known.closed,
    connNone_kept worker before after move inv holds known.conn,
    tokenNone_kept worker before after move inv holds known.token, ?_,
    Unreleased.kept worker before after move inv holds known.unreleased⟩
  · intro taken
    exact known.free ((move.locked _ (by simp)).mpr taken)
  · intro conn different held
    exact move.closedConn conn (known.hand conn different (move.inHand _ conn (by simp) held))
  · rw [move.conns]
    exact known.made

theorem Tidy.unsent {world : World} {events : List Event} (tidy : Tidy world)
    (sent : ∀ conn, released (world.trace ++ events) conn = released world.trace conn)
    (pending : releasing (world.trace ++ events) = releasing world.trace) :
    Tidy (world.log events) :=
  ⟨tidy.closed, fun conn connEq now => tidy.usable conn connEq ((sent conn).symm.trans now),
    pending.trans tidy.settled, tidy.joinable⟩

theorem Dialled.exchanging {fresh : Nat} : Exchanging params me fresh (Dialled me fresh) where
  kept := Dialled.kept
  holds := fun _ known => known.holds
  ready := fun _ known => ⟨known.made, known.token⟩
  usable := fun _ known sent => absurd sent (by simp [show _ = false from known.unreleased])
  log := fun _ _ known sent pending =>
    ⟨known.holds, known.free, known.hand, known.tidy.unsent sent pending, known.closed, known.conn,
      known.token, known.made, (sent fresh).trans known.unreleased⟩
  close := fun _ known =>
    ⟨known.holds, known.free, fun conn different held =>
      closed_update (known.hand conn different held), known.tidy.closeConn fresh, known.closed,
      known.conn, known.token, known.made, known.unreleased⟩

structure Attempt (me fresh : Nat) (world : World) : Prop where
  ready : Ready me world
  closed : world.closed = false
  token : world.token = none
  conn : ConnIn fresh world
  made : fresh < world.conns
  usable : Usable fresh world

theorem Attempt.kept {fresh : Nat} : Kept params me (Attempt me fresh) :=
  fun worker before after move inv holds known =>
    ⟨Ready.kept worker before after move inv holds known.ready, move.closed.trans known.closed,
      tokenNone_kept worker before after move inv holds known.token,
      ConnIn.kept worker before after move inv holds known.conn, move.conns ▸ known.made,
      Usable.kept worker before after move inv holds known.usable⟩

theorem Attempt.exchanging {fresh : Nat} : Exchanging params me fresh (Attempt me fresh) where
  kept := Attempt.kept
  holds := fun _ known => known.ready.1.holds
  ready := fun _ known => ⟨known.made, known.token⟩
  usable := fun _ known => known.usable
  log := fun _ _ ⟨⟨busy, tidy⟩, closed, token, conn, made, usable⟩ sent pending =>
    ⟨⟨⟨busy.holds, busy.free, busy.hand⟩, tidy.unsent sent pending⟩, closed, token, conn, made,
      fun now => usable ((sent fresh).symm.trans now)⟩
  close := fun _ ⟨⟨busy, tidy⟩, closed, token, conn, made, usable⟩ =>
    ⟨⟨⟨busy.holds, busy.free, fun other held => closed_update (busy.hand other held)⟩,
      tidy.closeConn fresh⟩, closed, token, conn, made, fun sent => closed_update (usable sent)⟩

theorem plain_of_kind {cmd : Str} {kind : CommandKind} (same : commandKind cmd = some kind)
    (renew : kind ≠ .renew) (release : kind ≠ .release) : Plain cmd := by
  constructor
  · simpa [same] using renew
  · simpa [same] using release

theorem maybeAuthenticate_triple {fresh : Nat} {authToken : Option Str} :
    CallerTriple params me (Dialled me fresh) (maybeAuthenticate fresh authToken)
      (fun conn world => conn = fresh ∧ Dialled me fresh world) (fun _ => Ready me) := by
  cases authToken with
  | none => exact Triple.ret fun _ _ known => ⟨rfl, known⟩
  | some authToken =>
      have plain : ∀ sent, authenticateRequest authToken = .ok sent → Plain sent.cmd :=
        fun sent built => plain_of_kind (authenticateRequest_kind built) (by simp) (by simp)
      have closes (error : PyError) : CallerTriple params me (Dialled me fresh)
          (perform (.closeConn fresh)) (fun _ => Ready me) (fun _ => Ready me) := by
        apply caller_closeConn Dialled.kept fun world known => known.holds
        intro world known
        refine ⟨⟨known.holds, known.free, ?_⟩, known.tidy.closeConn fresh⟩
        intro other held
        by_cases same : other = fresh
        · simp [same]
        · exact closed_update (known.hand other same held)
      refine Triple.handle ((exchange_triple (.inr rfl) plain Dialled.exchanging).bind
        fun _ => Triple.ret fun _ _ known => ⟨rfl, known.1⟩) fun error => ?_
      exact (closes error).bind fun _ => Triple.raise fun _ _ known => known

theorem openAndAuthenticate_triple :
    CallerTriple params me (Fresh me) (openAndAuthenticate params)
      (fun _ world => ∃ fresh, Attempt me fresh world) (fun _ => Ready me) := by
  have picks : CallerTriple params me (Fresh me) (Program.orRaise params.endpoint)
      (fun _ => Fresh me) (fun _ => Ready me) :=
    Triple.orRaise (fun _ _ _ known => known) fun _ _ _ known => known.ready
  refine picks.bind fun (host, port) => ?_
  have dials : CallerTriple params me (Fresh me) (raising (perform (.dial host port)))
      (fun conn => Dialled me conn)
      (fun _ => Ready me) := by
    apply caller_dial Fresh.kept fun world known => known.ready.1.holds
    · exact fun world error known => known.ready
    · rintro world ⟨⟨busy, tidy⟩, closed, conn, token⟩ unreleased
      refine ⟨busy.holds, busy.free, ?_, ⟨tidy.closed, tidy.usable, tidy.settled,
        tidy.joinable⟩, closed, conn, token, Nat.lt_succ_self _, unreleased⟩
      intro other different held
      simp only [Function.update_of_ne different] at held
      exact busy.hand other held
  refine dials.bind fun fresh => maybeAuthenticate_triple.bind fun conn => ?_
  apply Triple.assuming
  rintro rfl
  apply caller_installConn Dialled.kept fun world known => known.holds
  · exact fun world known => ⟨known.conn, known.token, known.made, known.unreleased⟩
  · intro world known
    have unclosed := known.closed
    have usable : Usable conn world := fun sent =>
      absurd sent (by simp [show _ = false from known.unreleased])
    refine ⟨conn, ⟨⟨known.holds, known.free, ?_⟩, ?_, ?_, known.tidy.settled,
      known.tidy.joinable⟩, known.closed, known.token, .inl rfl, known.made, usable⟩
    · intro other held
      simp only [World.setConn, known.conn, reduceCtorEq, if_false] at held
      split at held
      · cases held
      · rename_i different
        exact known.hand other (fun same => different (by rw [same])) held
    · intro closed
      rw [show world.closed = true from closed] at unclosed
      cases unclosed
    · intro other same
      cases same
      exact usable

structure Open (me : Nat) (world : World) : Prop where
  ready : Ready me world
  closed : world.closed = false
  unreleased : ∀ conn, world.conn = some conn → Unreleased conn world

theorem Open.kept : Kept params me (Open me) := by
  intro worker before after move inv holds known
  refine ⟨Ready.kept worker before after move inv holds known.ready,
    move.closed.trans known.closed, ?_⟩
  intro conn connEq
  rcases move.conn with same | none
  · exact Unreleased.kept worker before after move inv holds
      (known.unreleased conn (same ▸ connEq))
  · rw [none] at connEq
    cases connEq

def Granted (me fresh : Nat) (token : Str) (world : World) : Prop :=
  Attempt me fresh world ∧ Unreleased fresh world ∧ granted world.trace fresh = some token

theorem storeGrant_triple {fresh : Nat} {grant : Str × Int} {raised : PyError → World → Prop} :
    CallerTriple params me (Granted me fresh grant.1) (storeGrant grant) (fun _ => Open me)
      raised := by
  have stores : CallerTriple params me (Granted me fresh grant.1)
      (perform (.setToken (some grant.1))) (fun _ => Open me) raised := by
    apply caller_storeToken (Attempt.kept.and (Unreleased.kept.and granted_kept))
      fun world known => known.1.ready.1.holds
    · rintro world ⟨attempt, -, known⟩
      refine ⟨attempt.token, fun conn connEq => ?_⟩
      rcases attempt.conn with same | none
      · rw [same, Option.some.injEq] at connEq
        exact connEq ▸ known
      · rw [none] at connEq
        cases connEq
    · rintro world ⟨⟨⟨busy, tidy⟩, closed, -, connIn, -, -⟩, unreleased, -⟩
      refine ⟨⟨⟨busy.holds, busy.free, busy.hand⟩, by simp [closed], tidy.usable, tidy.settled,
        tidy.joinable⟩, closed, ?_⟩
      intro conn connEq
      rcases connIn with same | none
      · rw [show world.conn = some conn from connEq, Option.some.injEq] at same
        exact same ▸ unreleased
      · rw [show world.conn = some conn from connEq] at none
        cases none
  refine stores.bind fun _ => caller_setLease Open.kept
    (fun world known => known.ready.1.holds) ?_
  rintro world ⟨⟨busy, tidy⟩, closed, unreleased⟩
  exact ⟨⟨⟨busy.holds, busy.free, busy.hand⟩, tidy.closed, tidy.usable, tidy.settled,
    tidy.joinable⟩, closed, unreleased⟩

structure Starting (me worker : Nat) (world : World) : Prop where
  busy : Busy me world
  unreleased : ∀ conn, world.conn = some conn → released world.trace conn = false
  settled : releasing world.trace = false
  closed : world.closed = false
  made : worker < world.workers

theorem Starting.kept {worker : Nat} : Kept params me (Starting me worker) := by
  intro other before after move inv holds known
  refine ⟨Busy.kept other before after move inv holds known.busy, ?_,
    move.releasing.trans known.settled, move.closed.trans known.closed,
    move.workers ▸ known.made⟩
  intro conn connEq
  rw [move.released]
  rcases move.conn with same | none
  · exact known.unreleased conn (same ▸ connEq)
  · rw [none] at connEq
    cases connEq

theorem startRenew_triple {raised : PyError → World → Prop} :
    CallerTriple params me (Open me) startRenew (fun _ => Ready me) raised := by
  refine (caller_getStopEvent Open.kept fun world known => known.ready.1.holds).bind
    fun stopEvent => ?_
  have makes : CallerTriple params me (fun world => Open me world ∧ world.stopEvent = stopEvent)
      (perform (.newThread stopEvent)) (fun worker => Starting me worker) raised := by
    apply caller_newThread (Open.kept.and stopEvent_kept)
      fun world known => known.1.ready.1.holds
    · exact fun world known => known.2
    · rintro world ⟨⟨⟨busy, tidy⟩, closed, unreleased⟩, -⟩
      exact ⟨⟨busy.holds, busy.free, busy.hand⟩, unreleased, tidy.settled, closed,
        Nat.lt_succ_self _⟩
  refine makes.bind fun worker => ?_
  have stores : CallerTriple params me (Starting me worker)
      (perform (.setRenewThread (some worker)))
      (fun _ world => Starting me worker world ∧ world.renewThread = some worker) raised := by
    apply caller_setRenewThread Starting.kept (fun world known => known.busy.holds) (by simp)
    rintro world ⟨busy, unreleased, settled, closed, made⟩
    exact ⟨⟨⟨busy.holds, busy.free, busy.hand⟩, unreleased, settled, closed, made⟩, rfl⟩
  refine stores.bind fun _ => ?_
  apply caller_startThread (Starting.kept.and renewThread_kept)
    fun world known => known.1.busy.holds
  · exact fun world known => ⟨known.1.made, known.2, known.1.unreleased⟩
  · rintro world ⟨⟨busy, unreleased, settled, closed, made⟩, thread⟩
    refine ⟨⟨busy.holds, busy.free, busy.hand⟩, by simp [closed], ?_, settled, ?_⟩
    · intro conn connEq sent
      rw [unreleased conn connEq] at sent
      cases sent
    intro other same
    rw [show world.renewThread = some other from same, Option.some.injEq] at thread
    simp [thread]

theorem requireConn_triple {fresh : Nat} {message : Str} :
    CallerTriple params me (Attempt me fresh) (requireConn message)
      (fun found world => (found = none ∨ found = some fresh) ∧ Attempt me fresh world)
      (fun _ => Attempt me fresh) := by
  have holds (world : World) (known : Attempt me fresh world) :
      world.stateLock = some (.caller me) := known.ready.1.holds
  refine (caller_getConn Attempt.kept holds).bind fun conn => ?_
  cases conn with
  | none => exact Triple.raise fun _ _ known => known.1
  | some conn =>
      refine ((caller_getConn Attempt.kept holds).pre fun _ _ known => known.1).post ?_
      rintro found world - ⟨attempt, same⟩
      exact ⟨attempt.conn.symm.imp same.symm.trans same.symm.trans, attempt⟩

theorem acquire_answered {fresh : Nat} {op : Str} {grant : Str × Int} {world : World}
    (answered : Answered fresh params.acquireRequest (parseGrantResponse · op) grant world) :
    Unreleased fresh world ∧ granted world.trace fresh = some grant.1 := by
  obtain ⟨unreleased, sent, line, built, parsed, grants⟩ := answered
  refine ⟨unreleased, grants _ ?_⟩
  exact grantedToken_grant (.inl (acquireRequest_kind built)) parsed

theorem wait_answered {fresh : Nat} {op : Str} {timeoutS : Value} {grant : Str × Int}
    {world : World}
    (answered : Answered fresh (params.waitRequest timeoutS) (parseGrantResponse · op) grant
      world) :
    Unreleased fresh world ∧ granted world.trace fresh = some grant.1 := by
  obtain ⟨unreleased, sent, line, built, parsed, grants⟩ := answered
  refine ⟨unreleased, grants _ ?_⟩
  exact grantedToken_grant (.inr (waitRequest_kind built)) parsed

theorem enqueue_answered {fresh : Nat} {op token : Str} {lease : Int} {world : World}
    (answered : Answered fresh params.enqueueRequest (parseEnqueueResponse · op)
      (.acquired token lease) world) :
    Unreleased fresh world ∧ granted world.trace fresh = some token := by
  obtain ⟨unreleased, sent, line, built, parsed, grants⟩ := answered
  refine ⟨unreleased, grants _ ?_⟩
  exact grantedToken_enqueue (enqueueRequest_kind built) parsed

theorem closing_triple {raised : PyError → World → Prop} :
    CallerTriple params me (Ready me) closeUnlocked (fun _ => Ready me) raised :=
  (closeUnlocked_triple.pre fun _ _ ready => ready.closable).post fun _ _ _ closed => closed.1

theorem grantOrClose_triple {pre : World → Prop} {fresh : Nat} {exchange : Py (Str × Int)}
    (exchanges : CallerTriple params me pre exchange
      (fun grant => Granted me fresh grant.1) (fun _ => Attempt me fresh)) :
    CallerTriple params me pre (grantOrClose exchange storeGrant)
      (fun granted world => if granted.isSome then Open me world else Ready me world)
      (fun _ => Ready me) := by
  refine Triple.handle (exchanges.bind fun grant => storeGrant_triple.bind fun _ =>
    Triple.ret fun _ _ known => known) fun error => ?_
  refine (closing_triple.pre fun _ _ attempt => attempt.ready).bind fun _ => ?_
  split
  · exact Triple.ret fun _ _ ready => ready
  · exact Triple.raise fun _ _ ready => ready

theorem startIfGranted_triple {granted : Option (Str × Int)} {raised : PyError → World → Prop} :
    CallerTriple params me
      (fun world => if granted.isSome then Open me world else Ready me world)
      (if granted.isNone then pure (CallValue.bool false)
        else do
          startRenew
          pure (CallValue.bool true))
      (fun _ => Ready me) raised := by
  cases granted with
  | none => exact Triple.ret fun _ _ ready => ready
  | some grant => exact startRenew_triple.bind fun _ => Triple.ret fun _ _ ready => ready

theorem invokeAcquire_triple {fresh : Nat} :
    CallerTriple params me (Attempt me fresh) (invokeAcquire params) (fun _ => Ready me)
      (fun _ => Ready me) := by
  have exchanges : CallerTriple params me (Attempt me fresh)
      (do
        let conn ← requireConn (str "not connected")
        protoAcquire params conn)
      (fun grant => Granted me fresh grant.1) (fun _ => Attempt me fresh) := by
    refine requireConn_triple.bind fun conn => Triple.assuming fun same => ?_
    refine (exchange_triple same ?_ Attempt.exchanging).post ?_
    · exact fun sent built => plain_of_kind (acquireRequest_kind built) (by simp) (by simp)
    · exact fun grant world _ known => ⟨known.1, acquire_answered known.2⟩
  exact (grantOrClose_triple exchanges).bind fun granted => startIfGranted_triple

theorem invokeEnqueue_triple {fresh : Nat} :
    CallerTriple params me (Attempt me fresh) (invokeEnqueue params) (fun _ => Ready me)
      (fun _ => Ready me) := by
  have exchanges : CallerTriple params me (Attempt me fresh)
      (do
        let conn ← requireConn (str "not connected")
        protoEnqueue params conn)
      (fun status world => Attempt me fresh world ∧
        ∀ token lease, status = .acquired token lease →
          Unreleased fresh world ∧ granted world.trace fresh = some token)
      (fun _ => Attempt me fresh) := by
    refine requireConn_triple.bind fun conn => Triple.assuming fun same => ?_
    refine (exchange_triple same ?_ Attempt.exchanging).post ?_
    · exact fun sent built => plain_of_kind (enqueueRequest_kind built) (by simp) (by simp)
    · rintro status world - ⟨attempt, answered⟩
      exact ⟨attempt, fun token lease same => enqueue_answered (same ▸ answered)⟩
  have closes (error : PyError) : CallerTriple params me (Attempt me fresh)
      (do
        closeUnlocked
        throw error)
      (fun (status : EnqueueStatus) world => Attempt me fresh world ∧
        ∀ token lease, status = .acquired token lease →
          Unreleased fresh world ∧ granted world.trace fresh = some token)
      (fun _ => Ready me) :=
    (closing_triple.pre fun _ _ attempt => attempt.ready).bind fun _ =>
      Triple.raise fun _ _ ready => ready
  refine (exchanges.handle closes).bind fun status => ?_
  cases status with
  | queued => exact Triple.ret fun _ _ known => known.1.ready
  | acquired token lease =>
      have stores : CallerTriple params me (Granted me fresh (token, lease).1)
          (storeGrant (token, lease)) (fun _ => Open me) (fun _ => Ready me) := storeGrant_triple
      refine (stores.pre fun world _ known => ⟨known.1, known.2 token lease rfl⟩).bind fun _ => ?_
      exact startRenew_triple.bind fun _ => Triple.ret fun _ _ ready => ready

theorem waitUnlocked_triple {timeoutS : Option Value} :
    CallerTriple params me (Ready me) (waitUnlocked params timeoutS) (fun _ => Ready me)
      (fun _ => Ready me) := by
  refine (caller_getToken Ready.kept Ready.holds).bind fun token => ?_
  cases token with
  | some token => exact Triple.ret fun _ _ known => known.1
  | none =>
      have unheld : Kept params me fun world => Ready me world ∧ world.token = none :=
        Ready.kept.and tokenNone_kept
      have holds (world : World) (known : Ready me world ∧ world.token = none) :
          world.stateLock = some (.caller me) := known.1.holds
      have requires : CallerTriple params me (fun world => Ready me world ∧ world.token = none)
          (requireConn (str "not connected; call enqueue() first"))
          (fun found world => ∃ fresh, (found = none ∨ found = some fresh) ∧
            Attempt me fresh world) (fun _ => Ready me) := by
        refine (caller_getConn unheld holds).bind fun conn => ?_
        cases conn with
        | none => exact Triple.raise fun _ _ known => known.1.1
        | some fresh =>
            have attempts : CallerTriple params me (Attempt me fresh) (perform .getConn)
                (fun found world => ∃ fresh, (found = none ∨ found = some fresh) ∧
                  Attempt me fresh world) (fun _ => Ready me) := by
              refine (caller_getConn Attempt.kept fun world known => known.ready.1.holds).post ?_
              rintro found world - ⟨attempt, same⟩
              exact ⟨fresh, attempt.conn.symm.imp same.symm.trans same.symm.trans, attempt⟩
            apply attempts.pre
            rintro world inv ⟨⟨ready, token⟩, conn⟩
            refine ⟨ready, ?_, token, .inl conn, (inv.connMade fresh conn).1,
              ready.2.usable fresh conn⟩
            by_contra closed
            have gone := (ready.2.closed (by simpa using closed)).1
            rw [conn] at gone
            cases gone
      refine requires.bind fun found => Triple.exists fun fresh => Triple.assuming fun same => ?_
      refine (grantOrClose_triple ((exchange_triple same ?_ Attempt.exchanging).post ?_)).bind
        fun granted => startIfGranted_triple
      · exact fun sent built => plain_of_kind (waitRequest_kind built) (by simp) (by simp)
      · exact fun grant world _ known => ⟨known.1, wait_answered known.2⟩

/-! Release and close -/

/-- Inside `with self._io_lock` of `_release_unlocked`: workers cannot move the connection and the
token, and none of them is past its stop check. -/
structure InRelease (me : Nat) (conn : Option Nat) (token : Option Str) (world : World) :
    Prop where
  holds : world.stateLock = some (.caller me)
  locked : world.ioLock = some (.caller me)
  unarmed : world.armed = none
  quiet : Quiet world
  hand : ∀ conn, world.inHand conn = some (.caller me) → world.closedConn conn = true
  closed : world.closed = true → world.conn = none ∧ world.token = none ∧ StopSet world
  joinable : ∀ worker, world.renewThread = some worker → world.started worker = true
  conn : world.conn = conn
  token : world.token = token

theorem InRelease.kept {conn : Option Nat} {token : Option Str} :
    Kept params me (InRelease me conn token) := by
  intro worker before after move inv holds known
  have elsewhere : before.ioLock ≠ some (.worker worker) := by simp [known.locked]
  obtain ⟨sameConn, sameToken, sameArmed⟩ := move.outside elsewhere
  refine ⟨move.stateLock.trans known.holds, (move.locked _ (by simp)).mp known.locked,
    sameArmed.trans known.unarmed, Quiet.kept worker before after move inv holds known.quiet, ?_,
    ?_, ?_, sameConn.trans known.conn, sameToken.trans known.token⟩
  · intro conn held
    exact move.closedConn conn (known.hand conn (move.inHand _ conn (by simp) held))
  · intro closed
    obtain ⟨connNone, tokenNone, stopSet⟩ := known.closed (move.closed ▸ closed)
    exact ⟨sameConn.trans connNone, sameToken.trans tokenNone,
      StopSet.kept worker before after move inv holds stopSet⟩
  · intro other thread
    rw [move.started]
    exact known.joinable other (move.renewThread ▸ thread)

theorem InRelease.log {conn : Option Nat} {token : Option Str} {world : World}
    {events : List Event} (known : InRelease me conn token world) :
    InRelease me conn token (world.log events) :=
  ⟨known.holds, known.locked, known.unarmed, known.quiet, known.hand, known.closed,
    known.joinable, known.conn, known.token⟩

theorem Invariant.sendRelease {world : World} {conn : Nat} {token : Option Str}
    {request : Request} (inv : Invariant params world)
    (known : InRelease me (some conn) token world)
    (kind : commandKind request.cmd = some .release) (unreleased : Unreleased conn world) :
    Invariant params (world.log [.frame conn request]) :=
  { inv with
    tokenGrant := by simpa [World.log, grantStep] using inv.tokenGrant
    releasedQuiet := fun _ _ _ => ⟨known.quiet, known.unarmed⟩
    releasingLock := fun _ => ⟨me, known.locked⟩
    lawful := inv.lawful.snoc ⟨by simp [kind], fun _ => unreleased⟩
    unmade := by
      intro other beyond
      have different : conn ≠ other := by
        have made := (inv.connMade conn known.conn).1
        have outside : world.conns ≤ other := beyond
        omega
      simpa [World.log, grantStep, different, Event.isFrameOf] using inv.unmade other beyond
    tidy := Invariant.heldTidy known.holds rfl
    returned := inv.heldReturned known.holds rfl }

theorem Invariant.endRelease {world : World} {event : Event} (inv : Invariant params world)
    (held : world.stateLock = some (.caller me))
    (ends : ∃ conn cmd, commandKind cmd = some .release ∧
      (event = .noAnswer conn cmd ∨ ∃ line, event = .answer conn cmd line)) :
    Invariant params (world.log [event]) ∧ Settled (world.log [event]) := by
  obtain ⟨conn, cmd, kind, which⟩ := ends
  have same (other : Nat) : granted (world.trace ++ [event]) other = granted world.trace other ∧
      released (world.trace ++ [event]) other = released world.trace other := by
    rcases which with rfl | ⟨line, rfl⟩ <;>
      simp [grantStep, Event.isFrameOf, grantedToken_none (.inr (.inl kind))]
  have settled : releasing (world.trace ++ [event]) = false := by
    rcases which with rfl | ⟨line, rfl⟩ <;> simp [releasingStep, kind]
  have allowed : renewRule params world.trace event := by
    rcases which with rfl | ⟨line, rfl⟩ <;> trivial
  refine ⟨{ inv with
    tokenGrant := fun other token connEq tokenEq =>
      (same other).1.trans (inv.tokenGrant other token connEq tokenEq)
    releasedQuiet := fun other connEq sent =>
      inv.releasedQuiet other connEq ((same other).2.symm.trans sent)
    releasingLock := fun sending => absurd sending (by simp [World.log, settled])
    lawful := inv.lawful.snoc allowed
    unmade := fun other beyond => ⟨(same other).1.trans (inv.unmade other beyond).1,
      (same other).2.trans (inv.unmade other beyond).2⟩
    tidy := Invariant.heldTidy held rfl
    returned := inv.heldReturned held rfl }, settled⟩

def Ended (me : Nat) (conn : Option Nat) (token : Option Str) (world : World) : Prop :=
  InRelease me conn token world ∧ Settled world

theorem Ended.kept {conn : Option Nat} {token : Option Str} :
    Kept params me (Ended me conn token) := InRelease.kept.and Settled.kept

def Failed (me conn : Nat) (token : Option Str) (error : PyError) (world : World) : Prop :=
  Ended me (some conn) token world ∧ (error.isException = true ∨ world.closedConn conn = true)

theorem release_send {conn : Nat} {token : Option Str} {request : Request}
    (kind : commandKind request.cmd = some .release) :
    CallerTriple params me (fun world => Ended me (some conn) token world ∧ Usable conn world)
      (raising (perform (.send conn request))) (fun _ => InRelease me (some conn) token)
      (fun _ => Ended me (some conn) token) := by
  apply raising_triple
  apply caller_op (Ended.kept.and Usable.kept) fun world known => known.1.1.holds
  rintro world choice result after inv ⟨⟨known, settled⟩, usable⟩ executed
  have unreleased (opened : world.closedConn conn = false) : Unreleased conn world := by
    by_contra sent
    rw [usable (by simpa [Unreleased] using sent)] at opened
    cases opened
  rcases send_cases executed with ⟨error, rfl, rfl, -⟩ | ⟨error, rfl, -, opened, rfl⟩ |
    ⟨rfl, opened, rfl⟩
  · exact ⟨.refl _, inv, known, settled⟩
  · have sent := inv.sendRelease known kind (unreleased opened)
    obtain ⟨inv', settled'⟩ := sent.endRelease known.holds ⟨conn, request.cmd, kind, .inl rfl⟩
    have joined : (world.log [.frame conn request]).log [.noAnswer conn request.cmd] =
        world.log [.frame conn request, .noAnswer conn request.cmd] := by
      simp [World.log]
    rw [joined] at inv' settled'
    exact ⟨.log known.holds, inv', known.log, settled'⟩
  · exact ⟨.log known.holds, inv.sendRelease known kind (unreleased opened), known.log⟩

theorem release_recv {conn : Nat} {token : Option Str} {cmd : Str}
    (kind : commandKind cmd = some .release) :
    CallerTriple params me (InRelease me (some conn) token)
      (raising (perform (.recv conn cmd))) (fun _ => Ended me (some conn) token)
      (fun _ => Ended me (some conn) token) := by
  apply raising_triple
  apply caller_op InRelease.kept fun world known => known.holds
  intro world choice result after inv known executed
  rcases recv_cases executed with ⟨error, rfl, -, rfl⟩ | ⟨line, rfl, rfl⟩
  · obtain ⟨inv', settled⟩ := inv.endRelease known.holds ⟨conn, cmd, kind, .inl rfl⟩
    exact ⟨.log known.holds, inv', known.log, settled⟩
  · obtain ⟨inv', settled⟩ := inv.endRelease known.holds ⟨conn, cmd, kind, .inr ⟨line, rfl⟩⟩
    exact ⟨.log known.holds, inv', known.log, settled⟩

theorem release_close {conn : Nat} {token : Option Str} {error : PyError}
    {raised : PyError → World → Prop} :
    CallerTriple params me (Ended me (some conn) token) (perform (.closeConn conn))
      (fun _ => Failed me conn token error) raised := by
  apply caller_closeConn Ended.kept fun world known => known.1.holds
  rintro world ⟨known, settled⟩
  exact ⟨⟨⟨known.holds, known.locked, known.unarmed, known.quiet,
    fun other held => closed_update (known.hand other held), known.closed, known.joinable,
    known.conn, known.token⟩, settled⟩, .inr (by simp)⟩

theorem protoRelease_triple {conn : Nat} {token : Str} :
    CallerTriple params me
      (fun world => Ended me (some conn) (some token) world ∧ Usable conn world)
      (protoRelease params (some conn) token) (fun _ => Ended me (some conn) (some token))
      (Failed me conn (some token)) := by
  have builds : CallerTriple params me
      (fun world => Ended me (some conn) (some token) world ∧ Usable conn world)
      (Program.orRaise (params.releaseRequest token))
      (fun request world => commandKind request.cmd = some .release ∧
        Ended me (some conn) (some token) world ∧ Usable conn world)
      (Failed me conn (some token)) := by
    apply Triple.orRaise
    · exact fun request built world known => ⟨(releaseRequest_ok built).1, known⟩
    · exact fun error failed world known =>
        ⟨known.1, .inl (ordinary_releaseRequest _ _ _ error failed)⟩
  refine builds.bind fun request => Triple.assuming fun kind => ?_
  have encodes : CallerTriple params me
      (fun world => Ended me (some conn) (some token) world ∧ Usable conn world)
      (discard (Program.orRaise (encodeLines [request.cmd, request.key, request.arg])))
      (fun _ world => Ended me (some conn) (some token) world ∧ Usable conn world)
      (Failed me conn (some token)) := by
    apply Triple.discard
    apply Triple.orRaise
    · exact fun _ _ _ known => known
    · exact fun error failed world known => ⟨known.1, .inl (ordinary_encodeLines _ error failed)⟩
  have commands : CallerTriple params me
      (fun world => Ended me (some conn) (some token) world ∧ Usable conn world)
      (command (some conn) request) (fun _ => Ended me (some conn) (some token))
      (Failed me conn (some token)) :=
    encodes.bind fun _ => Triple.handle
      ((release_send kind).bind fun _ => release_recv kind) fun error =>
        release_close.bind fun _ => Triple.raise fun _ _ known => known
  refine commands.bind fun line => ?_
  apply Triple.orRaise
  · exact fun _ _ _ known => known
  · exact fun error failed world known =>
      ⟨known, .inl (ordinary_parseReleaseResponse _ _ error failed)⟩

def Interrupted (me : Nat) (conn : Option Nat) (token : Option Str) (world : World) : Prop :=
  Ended me conn token world ∧ ∀ current, conn = some current → world.closedConn current = true

theorem safeRelease_triple {conn : Nat} {token : Str} :
    CallerTriple params me
      (fun world => Ended me (some conn) (some token) world ∧ Usable conn world)
      (safeRelease params (some conn) (some token))
      (fun _ => Ended me (some conn) (some token))
      (fun _ => Interrupted me (some conn) (some token)) := by
  have releases : CallerTriple params me
      (fun world => Ended me (some conn) (some token) world ∧ Usable conn world)
      (protoRelease params (some conn) token) (fun _ => Ended me (some conn) (some token))
      (Failed me conn (some token)) := protoRelease_triple
  refine Triple.handle (releases.bind fun _ => Triple.ret fun _ _ known => known) fun error => ?_
  split
  · exact Triple.ret fun _ _ known => known.1
  · rename_i uncaught
    refine Triple.raise fun world _ known => ⟨known.1, fun current same => ?_⟩
    cases same
    exact known.2.resolve_left uncaught

def Unsent (me : Nat) (conn : Option Nat) (token : Option Str) (world : World) : Prop :=
  Ended me conn token world ∧ ∀ current, conn = some current → Usable current world

theorem Unsent.kept {conn : Option Nat} {token : Option Str} :
    Kept params me (Unsent me conn token) :=
  Ended.kept.and fun worker before after move inv holds known current same =>
    Usable.kept worker before after move inv holds (known current same)

theorem sendReleaseQuietly_triple {conn : Option Nat} {token : Option Str} :
    CallerTriple params me (Unsent me conn token) (sendReleaseQuietly params)
      (fun _ => Ended me conn token) (fun _ => Interrupted me conn token) := by
  have holds (world : World) (known : Unsent me conn token world) :
      world.stateLock = some (.caller me) := known.1.1.holds
  have readsConn : CallerTriple params me (Unsent me conn token) (perform .getConn)
      (fun found world => found = conn ∧ Unsent me conn token world)
      (fun _ => Interrupted me conn token) :=
    (caller_getConn Unsent.kept holds).post fun found world _ known =>
      ⟨known.2.symm.trans known.1.1.1.conn, known.1⟩
  have readsToken : CallerTriple params me (Unsent me conn token) (perform .getToken)
      (fun found world => found = token ∧ Unsent me conn token world)
      (fun _ => Interrupted me conn token) :=
    (caller_getToken Unsent.kept holds).post fun found world _ known =>
      ⟨known.2.symm.trans known.1.1.1.token, known.1⟩
  refine readsConn.bind fun found => Triple.assuming fun same => ?_
  subst found
  cases conn with
  | none => exact Triple.ret fun _ _ known => known.1
  | some conn =>
      refine readsToken.bind fun found => Triple.assuming fun same => ?_
      subst found
      cases token with
      | none => exact Triple.ret fun _ _ known => known.1
      | some token =>
          refine readsConn.bind fun found => Triple.assuming fun same => ?_
          subst found
          refine readsToken.bind fun found => Triple.assuming fun same => ?_
          subst found
          exact safeRelease_triple.pre fun world _ known => ⟨known.1, known.2 conn rfl⟩

theorem releaseUnlocked_triple :
    CallerTriple params me (Ready me) (releaseUnlocked params) (fun _ => Closed me)
      (fun _ => Ready me) := by
  have locks : CallerTriple params me (fun world => Ready me world ∧ Quiet world)
      (perform .lockIo) (fun _ world => ∃ held : Option Nat × Option Str,
        Unsent me held.1 held.2 world) (fun _ => Ready me) := by
    apply caller_lockIo (Ready.kept.and Quiet.kept) fun world known => known.1.holds
    rintro world ⟨⟨busy, tidy⟩, quiet⟩ unarmed
    exact ⟨(world.conn, world.token), ⟨⟨busy.holds, rfl, unarmed, quiet, busy.hand, tidy.closed,
      tidy.joinable, rfl, rfl⟩, tidy.settled⟩, tidy.usable⟩
  have unlocks (held : Option Nat × Option Str) : CallerTriple params me
      (Ended me held.1 held.2) (perform .unlockIo) (fun _ => Closable me) (fun _ => Ready me) := by
    apply caller_unlockIo Ended.kept fun world known => known.1.holds
    · exact fun world known => ⟨known.1.locked, known.1.unarmed, known.2⟩
    · rintro world ⟨known, settled⟩
      exact ⟨⟨known.holds, by simp, known.hand⟩, settled, known.closed, known.joinable⟩
  have escapes (held : Option Nat × Option Str) : CallerTriple params me
      (Interrupted me held.1 held.2) (perform .unlockIo) (fun _ => Ready me)
      (fun _ => Ready me) := by
    have kept : Kept params me (Interrupted me held.1 held.2) :=
      Ended.kept.and fun worker before after move inv holds known current same =>
        move.closedConn current (known current same)
    apply caller_unlockIo kept fun world known => known.1.1.holds
    · exact fun world known => ⟨known.1.1.locked, known.1.1.unarmed, known.1.2⟩
    · rintro world ⟨⟨known, settled⟩, gone⟩
      refine ⟨⟨known.holds, by simp, known.hand⟩, known.closed, ?_, settled, known.joinable⟩
      intro conn connEq _
      exact gone conn (known.conn.symm.trans connEq)
  refine stopRenew_triple.bind fun _ => ?_
  exact (locks.bind fun _ => Triple.exists fun held =>
    sendReleaseQuietly_triple.ensure (fun _ => unlocks held) fun _ => escapes held).bind
      fun released => closeUnlocked_triple.bind fun _ => Triple.ret fun _ _ closed => closed

theorem body_triple (call : Call) :
    CallerTriple params me (Ready me) (call.body params)
      (fun _ world => Ready me world ∧ Returning (some call) world) (fun _ => Ready me) := by
  have other {world : World} (different : call ≠ .release ∧ call ≠ .close) :
      Returning (some call) world := by
    rintro (same | same)
    · exact absurd (Option.some.inj same) different.1
    · exact absurd (Option.some.inj same) different.2
  cases call with
  | acquire =>
      exact resetForNewAttempt_triple.bind fun _ => openAndAuthenticate_triple.bind fun _ =>
        Triple.exists fun fresh => invokeAcquire_triple.post fun _ _ _ ready =>
          ⟨ready, other (by simp)⟩
  | enqueue =>
      exact resetForNewAttempt_triple.bind fun _ => openAndAuthenticate_triple.bind fun _ =>
        Triple.exists fun fresh => invokeEnqueue_triple.post fun _ _ _ ready =>
          ⟨ready, other (by simp)⟩
  | wait timeoutS => exact waitUnlocked_triple.post fun _ _ _ ready => ⟨ready, other (by simp)⟩
  | release =>
      exact releaseUnlocked_triple.post fun _ _ _ closed => ⟨closed.1, fun _ => closed.connNone⟩
  | close =>
      have closes : CallerTriple params me (Closable me) closeUnlocked (fun _ => Closed me)
          (fun _ => Ready me) := closeUnlocked_triple
      exact (closes.pre fun _ _ ready => ready.closable).bind fun _ =>
        Triple.ret fun _ _ closed => ⟨closed.1, fun _ => closed.connNone⟩

theorem program_triple (call : Call) :
    CallerTriple params me (Resting me) (call.program params) (fun _ => Resting me)
      (fun _ => Resting me) := by
  refine caller_lockState.bind fun _ => ?_
  have bodies : CallerTriple params me (Ready me)
      ((call.body params).handle fun error => do
        perform (.unlockState none)
        throw error)
      (fun _ world => Ready me world ∧ Returning (some call) world) (fun _ => Resting me) := by
    refine (body_triple call).handle fun error => ?_
    refine (caller_unlockState.pre fun world _ ready => ⟨ready, ?_⟩).bind fun _ =>
      Triple.raise fun _ _ resting => resting
    rintro (same | same) <;> cases same
  exact bodies.bind fun value => caller_unlockState.bind fun _ =>
    Triple.ret fun _ _ resting => resting

end DflockdClient.Sync
