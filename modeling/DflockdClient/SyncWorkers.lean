import DflockdClient.SyncOperations

/-! Every round of a renewal worker keeps the contract. -/

namespace DflockdClient.Sync

open Interleaving

variable {params : Params} {me event : Nat}

abbrev WorkerTriple (params : Params) (me : Nat) {α : Type} (pre : World → Prop) (program : Py α)
    (post : α → World → Prop) (raised : PyError → World → Prop) : Prop :=
  Triple (machine roughFaults params) (contract params) (.worker me) pre program post raised

abbrev WorkerStable (params : Params) (me : Nat) (fact : World → Prop) : Prop :=
  (contract params).Stable (.worker me) fact

structure Idle (me : Nat) (world : World) : Prop where
  free : world.ioLock ≠ some (.worker me)
  hand : ∀ conn, world.inHand conn = some (.worker me) → world.closedConn conn = true

structure Begun (me event : Nat) (world : World) : Prop where
  started : world.started me = true
  event : world.workerEvent me = event

structure Inside (me : Nat) (world : World) : Prop where
  locked : world.ioLock = some (.worker me)
  hand : ∀ conn, world.inHand conn = some (.worker me) → world.closedConn conn = true

/-- Past the stop check, in the I/O lock. -/
structure Armed (me : Nat) (world : World) : Prop where
  inside : Inside me world
  armed : world.armed = some (.worker me)

structure Renewing (me conn : Nat) (token : Str) (world : World) : Prop where
  armed : Armed me world
  conn : world.conn = some conn
  token : world.token = some token

structure Dropping (me conn : Nat) (world : World) : Prop where
  locked : world.ioLock = some (.worker me)
  hand : ∀ other, other ≠ conn → world.inHand other = some (.worker me) →
    world.closedConn other = true

theorem hand_stable {other : Thread} {before after : World} {conn : Nat}
    (different : other ≠ .worker me) (move : (contract params).guarantee other before after)
    (hand : before.inHand conn = some (.worker me) → before.closedConn conn = true)
    (held : after.inHand conn = some (.worker me)) : after.closedConn conn = true := by
  cases other with
  | caller id =>
      exact CallerMove.closedConn move conn (hand (CallerMove.inHand move _ conn (by simp) held))
  | worker other =>
      exact WorkerMove.closedConn move conn
        (hand (WorkerMove.inHand move _ conn different.symm held))

theorem elsewhere {other : Nat} {world : World} (different : Thread.worker other ≠ .worker me)
    (locked : world.ioLock = some (.worker me)) : world.ioLock ≠ some (.worker other) := by
  rw [locked]
  intro same
  exact different (Option.some.inj same).symm

theorem Begun.stable : WorkerStable params me (Begun me event) := by
  intro other different before after _ _ move known
  cases other with
  | caller id =>
      obtain ⟨started, same⟩ := CallerMove.started move me known.started
      exact ⟨started, same.trans known.event⟩
  | worker other =>
      have same := WorkerMove.started move
      have sameEvent := WorkerMove.workerEvent move
      exact ⟨by rw [same]; exact known.started, by rw [sameEvent]; exact known.event⟩

theorem Begun.own (before after : World) (move : WorkerMove me before after)
    (known : Begun me event before) : Begun me event after :=
  ⟨by rw [move.started]; exact known.started, by rw [move.workerEvent]; exact known.event⟩

theorem Idle.stable : WorkerStable params me (Idle me) := by
  intro other different before after _ _ move known
  refine ⟨?_, fun conn => hand_stable different move (known.hand conn)⟩
  intro taken
  cases other with
  | caller id => exact known.free (CallerMove.lockTaken move _ (by simp) taken)
  | worker other => exact known.free ((WorkerMove.locked move _ different.symm).mpr taken)

theorem locked_stable {other : Thread} {before after : World} (different : other ≠ .worker me)
    (move : (contract params).guarantee other before after)
    (locked : before.ioLock = some (.worker me)) : after.ioLock = some (.worker me) := by
  cases other with
  | caller id => exact (CallerMove.lockKept move me locked).trans locked
  | worker other => exact (WorkerMove.locked move _ different.symm).mp locked

theorem Inside.stable : WorkerStable params me (Inside me) := by
  intro other different before after _ _ move known
  exact ⟨locked_stable different move known.locked,
    fun conn => hand_stable different move (known.hand conn)⟩

theorem Armed.stable : WorkerStable params me (Armed me) := by
  intro other different before after invBefore invAfter move known
  refine ⟨Inside.stable other different before after invBefore invAfter move known.inside, ?_⟩
  cases other with
  | caller id => exact (CallerMove.armed move me known.armed).trans known.armed
  | worker other =>
      exact (WorkerMove.outside move (elsewhere different known.inside.locked)).2.2.trans known.armed

theorem Armed.conn_stable {conn : Nat} :
    WorkerStable params me fun world => Armed me world ∧ world.conn = some conn := by
  rintro other different before after invBefore invAfter move ⟨armed, conn⟩
  refine ⟨Armed.stable other different before after invBefore invAfter move armed, ?_⟩
  cases other with
  | caller id =>
      exact (CallerMove.conn move (by simp [armed.armed]) (by simp [conn])).trans conn
  | worker other =>
      exact (WorkerMove.outside move (elsewhere different armed.inside.locked)).1.trans conn

theorem Renewing.stable {conn : Nat} {token : Str} :
    WorkerStable params me (Renewing me conn token) := by
  rintro other different before after invBefore invAfter move ⟨armed, conn, token⟩
  obtain ⟨armed', conn'⟩ :=
    Armed.conn_stable other different before after invBefore invAfter move ⟨armed, conn⟩
  refine ⟨armed', conn', ?_⟩
  cases other with
  | caller id =>
      exact (CallerMove.token move (by simp [armed.armed]) (by simp [conn])
        (by simp [token])).trans token
  | worker other =>
      exact (WorkerMove.outside move (elsewhere different armed.inside.locked)).2.1.trans token

theorem Dropping.stable {conn : Nat} : WorkerStable params me (Dropping me conn) := by
  intro other different before after _ _ move known
  exact ⟨locked_stable different move known.locked,
    fun other elsewhere => hand_stable different move (known.hand other elsewhere)⟩

theorem WorkerMove.refl (world : World) : WorkerMove me world world where
  stateLock := rfl
  closed := rfl
  stopEvent := rfl
  renewThread := rfl
  eventSet := rfl
  workers := rfl
  started := rfl
  workerEvent := rfl
  conns := rfl
  conn := .inl rfl
  token := .inl rfl
  granted := fun _ => rfl
  released := fun _ => rfl
  releasing := rfl
  locked := fun _ _ => .rfl
  outside := fun _ => ⟨rfl, rfl, rfl⟩
  armed := .inl rfl
  inHand := fun _ _ _ same => same
  closedConn := fun _ same => same

theorem worker_op {op : Op} {pre : World → Prop} {post : op.Res → World → Prop}
    {raised : PyError → World → Prop} (stable : WorkerStable params me pre)
    (effect : ∀ world choice result after, Invariant params world → pre world →
      exec roughFaults (.worker me) op choice world = some (result, after) →
      WorkerMove me world after ∧ Invariant params after ∧ post result after) :
    WorkerTriple params me pre (perform op) post raised :=
  Triple.perform rfl stable fun world choice result after inv known _ executed =>
    effect world choice result after inv known executed

section Operations

variable {pre : World → Prop} {raised : PyError → World → Prop}

theorem worker_read (op : Op) (value : World → op.Res)
    (reads : ∀ choice world, exec roughFaults (.worker me) op choice world =
      some (value world, world))
    (stable : WorkerStable params me pre) :
    WorkerTriple params me pre (perform op)
      (fun result world => pre world ∧ value world = result) raised := by
  apply worker_op stable
  intro world choice result after inv known executed
  rw [reads] at executed
  cases executed
  exact ⟨.refl _, inv, known, rfl⟩

theorem worker_getConn (stable : WorkerStable params me pre) :
    WorkerTriple params me pre (perform .getConn)
      (fun conn world => pre world ∧ world.conn = conn) raised :=
  worker_read .getConn World.conn (fun _ _ => rfl) stable

theorem worker_getToken (stable : WorkerStable params me pre) :
    WorkerTriple params me pre (perform .getToken)
      (fun token world => pre world ∧ world.token = token) raised :=
  worker_read .getToken World.token (fun _ _ => rfl) stable

theorem worker_getLease (stable : WorkerStable params me pre) :
    WorkerTriple params me pre (perform .getLease)
      (fun lease world => pre world ∧ world.lease = lease) raised :=
  worker_read .getLease World.lease (fun _ _ => rfl) stable

theorem worker_getClosed (stable : WorkerStable params me pre) :
    WorkerTriple params me pre (perform .getClosed)
      (fun closed world => pre world ∧ world.closed = closed) raised :=
  worker_read .getClosed World.closed (fun _ _ => rfl) stable

theorem worker_setLease {lease : Int} (stable : WorkerStable params me pre)
    (frame : ∀ world, pre world → pre { world with lease := lease }) :
    WorkerTriple params me pre (perform (.setLease lease)) (fun _ => pre) raised := by
  apply worker_op stable
  intro world choice result after inv known executed
  cases executed
  exact ⟨{ @WorkerMove.refl me world with }, { inv with
    tidy := fun free => (inv.tidy free).frame rfl }, frame world known⟩

theorem worker_endThread (stable : WorkerStable params me pre)
    (frame : ∀ world, pre world →
      pre { world with alive := Function.update world.alive me false }) :
    WorkerTriple params me pre (perform .endThread) (fun _ => pre) raised := by
  apply worker_op stable
  intro world choice result after inv known executed
  cases executed
  exact ⟨{ @WorkerMove.refl me world with }, { inv with
    tidy := fun free => (inv.tidy free).frame rfl }, frame world known⟩

theorem worker_waitEvent {event : Nat} {interval : Rat} (stable : WorkerStable params me pre) :
    WorkerTriple params me pre (perform (.waitEvent event interval)) (fun _ => pre) raised := by
  apply worker_op stable
  intro world choice result after inv known executed
  have same : after = world := by
    cases choice <;> simp_all [exec]
  subst same
  exact ⟨.refl _, inv, known⟩

theorem worker_isSet {event : Nat} (stable : WorkerStable params me pre)
    (free : ∀ world, pre world → world.ioLock ≠ some (.worker me)) :
    WorkerTriple params me pre (perform (.isSet event)) (fun _ => pre) raised := by
  apply worker_op stable
  intro world choice result after inv known executed
  have same : after = world := by
    simp only [exec, free world known, if_false] at executed
    split at executed <;>
      · cases executed
        rfl
  subst same
  exact ⟨.refl _, inv, known⟩

theorem worker_check (stable : WorkerStable params me pre)
    (ready : ∀ world, pre world → Inside me world ∧ Begun me event world)
    (frame : ∀ world, pre world → pre { world with armed := some (.worker me) }) :
    WorkerTriple params me pre (perform (.isSet event))
      (fun set world => pre world ∧ (set = false → Armed me world)) raised := by
  apply worker_op stable
  intro world choice result after inv known executed
  obtain ⟨inside, begun⟩ := ready world known
  simp only [exec, if_pos inside.locked] at executed
  split at executed
  · cases executed
    exact ⟨.refl _, inv, known, by simp⟩
  · rename_i unset
    cases executed
    have current : event = world.stopEvent := by
      have past := inv.workerPast me (inv.startedMade me begun.started)
      rw [begun.event] at past
      rcases Nat.lt_or_eq_of_le past with earlier | same
      · exact absurd (inv.pastSet event earlier) unset
      · exact same
    have loud : ¬Quiet world := by
      rintro (set | none)
      · exact unset (current ▸ set)
      · exact none me begun.started (begun.event.trans current)
    refine ⟨?_, ?_, frame world known, fun _ => ⟨⟨inside.locked, inside.hand⟩, rfl⟩⟩
    · exact { @WorkerMove.refl me world with
        outside := fun free => absurd inside.locked free
        armed := .inr (.inr loud) }
    · exact { inv with
        armedLock := fun thread same => same ▸ inside.locked
        releasedQuiet := fun conn connEq sent =>
          absurd (inv.releasedQuiet conn connEq sent).1 loud
        tidy := fun free => (inv.tidy free).frame rfl }

theorem worker_lockIo {post : World → Prop} (stable : WorkerStable params me pre)
    (frame : ∀ world, pre world → post { world with ioLock := some (.worker me) }) :
    WorkerTriple params me pre (perform .lockIo) (fun _ => post) raised := by
  apply worker_op stable
  intro world choice result after inv known executed
  simp only [exec, Option.ite_none_right_eq_some, Option.some.injEq, Prod.mk.injEq] at executed
  obtain ⟨free, -, rfl⟩ := executed
  have unarmed : world.armed = none := by
    cases armed : world.armed with
    | none => rfl
    | some thread => simp [inv.armedLock thread armed] at free
  refine ⟨?_, ?_, frame world known⟩
  · exact { @WorkerMove.refl me world with
      locked := by
        intro thread different
        simp only [free, Option.some.injEq, reduceCtorEq, false_iff]
        exact fun same => different same.symm
      outside := fun _ => ⟨rfl, rfl, rfl⟩ }
  · exact { inv with
      armedLock := by simp [unarmed]
      releasingLock := by
        intro sending
        obtain ⟨id, locked⟩ := inv.releasingLock sending
        rw [free] at locked
        cases locked
      tidy := fun free => (inv.tidy free).frame rfl }

theorem worker_unlockIo {post : World → Prop} (stable : WorkerStable params me pre)
    (inside : ∀ world, pre world → Inside me world)
    (frame : ∀ world, pre world → post { world with ioLock := none, armed := none }) :
    WorkerTriple params me pre (perform .unlockIo) (fun _ => post) raised := by
  apply worker_op stable
  intro world choice result after inv known executed
  cases executed
  have locked := (inside world known).locked
  refine ⟨?_, ?_, frame world known⟩
  · exact { @WorkerMove.refl me world with
      locked := by
        intro thread different
        simp only [locked, Option.some.injEq, reduceCtorEq, iff_false]
        exact fun same => different same.symm
      outside := fun free => absurd locked free
      armed := .inr (.inl rfl) }
  · exact { inv with
      armedLock := by simp
      releasedQuiet := fun conn connEq sent => ⟨(inv.releasedQuiet conn connEq sent).1, rfl⟩
      releasingLock := by
        intro sending
        obtain ⟨id, other⟩ := inv.releasingLock sending
        rw [locked] at other
        cases other
      tidy := fun free => (inv.tidy free).frame rfl }

theorem worker_dropConn {post : World → Prop} (stable : WorkerStable params me pre)
    (inside : ∀ world, pre world → world.ioLock = some (.worker me))
    (frame : ∀ world, pre world → post (world.setConn (.worker me) none)) :
    WorkerTriple params me pre (perform (.setConn none)) (fun _ => post) raised := by
  apply worker_op stable
  intro world choice result after inv known executed
  cases executed
  refine ⟨?_, ?_, frame world known⟩
  · exact { @WorkerMove.refl me world with
      conn := .inr rfl
      outside := fun free => absurd (inside world known) free
      inHand := by
        intro thread conn different held
        simp only [World.setConn, reduceCtorEq, if_false] at held
        split at held
        · exact absurd (Option.some.inj held).symm different
        · exact held }
  · exact { inv with
      tokenGrant := by simp [World.setConn]
      releasedQuiet := by simp [World.setConn]
      connMade := by simp [World.setConn]
      accounted := by
        intro conn made opened
        right
        simp only [World.setConn]
        by_cases same : world.conn = some conn
        · simp [same]
        · have kept := (inv.accounted conn made opened).resolve_left same
          simpa [same] using kept
      tidy := fun free => ⟨fun closed => ⟨rfl, (inv.tidy free).closed closed |>.2⟩,
        by simp [World.setConn], (inv.tidy free).settled, (inv.tidy free).joinable⟩
      returned := fun which => ⟨(inv.returned which).1, rfl⟩
      installedPast := by simpa [World.setConn] using inv.installedPast }

theorem worker_clearToken (stable : WorkerStable params me pre)
    (inside : ∀ world, pre world → world.ioLock = some (.worker me))
    (frame : ∀ world, pre world → pre { world with token := none }) :
    WorkerTriple params me pre (perform (.setToken none)) (fun _ => pre) raised := by
  apply worker_op stable
  intro world choice result after inv known executed
  cases executed
  refine ⟨?_, ?_, frame world known⟩
  · exact { @WorkerMove.refl me world with
      token := .inr rfl
      outside := fun free => absurd (inside world known) free }
  · exact { inv with
      tokenGrant := by simp
      tidy := fun free => ⟨fun closed => ⟨((inv.tidy free).closed closed).1, rfl,
        ((inv.tidy free).closed closed).2.2⟩, (inv.tidy free).usable,
        (inv.tidy free).settled, (inv.tidy free).joinable⟩ }

theorem worker_closeConn {conn : Nat} {post : World → Prop} (stable : WorkerStable params me pre)
    (frame : ∀ world, pre world → post { world with
      closedConn := Function.update world.closedConn conn true }) :
    WorkerTriple params me pre (perform (.closeConn conn)) (fun _ => post) raised := by
  apply worker_op stable
  intro world choice result after inv known executed
  cases executed
  refine ⟨{ @WorkerMove.refl me world with closedConn := fun _ closed => closed_update closed }, ?_,
    frame world known⟩
  exact { inv with
    accounted := by
      intro other made opened
      by_cases same : other = conn
      · simp [same] at opened
      · simp only [Function.update_of_ne same] at opened
        exact inv.accounted other made opened
    tidy := fun free => (inv.tidy free).closeConn conn }

/-! A renew exchange -/

theorem WorkerMove.log {world : World} {events : List Event}
    (neutral : Neutral world.trace events) : WorkerMove me world (world.log events) :=
  { @WorkerMove.refl me world with
    granted := neutral.granted
    released := neutral.released
    releasing := neutral.releasing }

theorem Renewing.log {conn : Nat} {token : Str} {world : World} {events : List Event}
    (known : Renewing me conn token world) : Renewing me conn token (world.log events) :=
  ⟨⟨⟨known.armed.inside.locked, known.armed.inside.hand⟩, known.armed.armed⟩, known.conn,
    known.token⟩

/-- A renew carries the token granted on its connection, and no release can have been sent there. -/
theorem Renewing.lawful {conn : Nat} {token : Str} {world : World} {request : Request}
    (inv : Invariant params world) (known : Renewing me conn token world)
    (built : params.renewRequest token = .ok request) :
    Lawful (renewRule params) (world.trace ++ [.frame conn request]) := by
  obtain ⟨kind, key, lease, valid, argument⟩ := renewRequest_ok built
  apply inv.lawful.snoc
  constructor
  · intro _
    refine ⟨⟨token, inv.tokenGrant conn token known.conn known.token, key, lease, valid, argument⟩,
      ?_, ?_⟩
    · by_contra sending
      obtain ⟨id, locked⟩ := inv.releasingLock (by simpa using sending)
      rw [known.armed.inside.locked] at locked
      cases locked
    · by_contra sent
      have unarmed := (inv.releasedQuiet conn known.conn (by simpa using sent)).2
      rw [known.armed.armed] at unarmed
      cases unarmed
  · simp [kind]

theorem renew_send {conn : Nat} {token : Str} {request : Request}
    (built : params.renewRequest token = .ok request) :
    WorkerTriple params me (Renewing me conn token) (raising (perform (.send conn request)))
      (fun _ => Renewing me conn token) (fun _ => Renewing me conn token) := by
  have plain : commandKind request.cmd ≠ some .release := by
    simp [(renewRequest_ok built).1]
  apply raising_triple
  apply worker_op Renewing.stable
  intro world choice result after inv known executed
  have lawful := known.lawful inv built
  have sent := neutral_frame world.trace conn plain
  rcases send_cases executed with ⟨error, rfl, rfl, -⟩ | ⟨error, rfl, -, -, rfl⟩ | ⟨rfl, -, rfl⟩
  · exact ⟨.refl _, inv, known⟩
  · have ended := sent.snoc fun before => neutral_noAnswer before conn plain
    have lawful' : Lawful (renewRule params)
        (world.trace ++ [.frame conn request] ++ [.noAnswer conn request.cmd]) :=
      lawful.snoc trivial
    rw [List.append_assoc] at lawful'
    exact ⟨.log ended, inv.log lawful' ended, known.log⟩
  · exact ⟨.log sent, inv.log lawful sent, known.log⟩

theorem renew_recv {conn : Nat} {token cmd : Str} (kind : commandKind cmd = some .renew) :
    WorkerTriple params me (Renewing me conn token) (raising (perform (.recv conn cmd)))
      (fun _ => Renewing me conn token) (fun _ => Renewing me conn token) := by
  have plain : commandKind cmd ≠ some .release := by simp [kind]
  apply raising_triple
  apply worker_op Renewing.stable
  intro world choice result after inv known executed
  rcases recv_cases executed with ⟨error, rfl, -, rfl⟩ | ⟨line, rfl, rfl⟩
  · have ended := neutral_noAnswer world.trace conn plain
    exact ⟨.log ended, inv.log (inv.lawful.snoc trivial) ended, known.log⟩
  · have ended := neutral_answer world.trace conn line plain (grantedToken_none (.inl kind))
    exact ⟨.log ended, inv.log (inv.lawful.snoc trivial) ended, known.log⟩

theorem renew_close {conn : Nat} {token : Str} {raised : PyError → World → Prop} :
    WorkerTriple params me (Renewing me conn token) (perform (.closeConn conn))
      (fun _ => Renewing me conn token) raised := by
  apply worker_closeConn Renewing.stable
  rintro world ⟨⟨⟨locked, hand⟩, armed⟩, connEq, tokenEq⟩
  exact ⟨⟨⟨locked, fun other held => closed_update (hand other held)⟩, armed⟩, connEq, tokenEq⟩

theorem protoRenew_triple {conn : Nat} {token : Str} :
    WorkerTriple params me (Renewing me conn token) (protoRenew params (some conn) token)
      (fun _ => Renewing me conn token) (fun _ => Renewing me conn token) := by
  have builds : WorkerTriple params me (Renewing me conn token)
      (Program.orRaise (params.renewRequest token))
      (fun request world => params.renewRequest token = .ok request ∧ Renewing me conn token world)
      (fun _ => Renewing me conn token) :=
    Triple.orRaise (fun _ built _ known => ⟨built, known⟩) fun _ _ _ known => known
  refine builds.bind fun request => Triple.assuming fun built => ?_
  have encodes : WorkerTriple params me (Renewing me conn token)
      (discard (Program.orRaise (encodeLines [request.cmd, request.key, request.arg])))
      (fun _ => Renewing me conn token) (fun _ => Renewing me conn token) :=
    (Triple.orRaise (fun _ _ _ known => known) fun _ _ _ known => known).discard
  have commands : WorkerTriple params me (Renewing me conn token) (command (some conn) request)
      (fun _ => Renewing me conn token) (fun _ => Renewing me conn token) :=
    encodes.bind fun _ => Triple.handle
      ((renew_send built).bind fun _ => renew_recv (renewRequest_ok built).1) fun error =>
        renew_close.bind fun _ => Triple.raise fun _ _ known => known
  exact commands.bind fun line => Triple.orRaise (fun _ _ _ known => known) fun _ _ _ known => known

def Ticked (me event : Nat) (world : World) : Prop := Inside me world ∧ Begun me event world

theorem Ticked.stable : WorkerStable params me (Ticked me event) :=
  Inside.stable.and Begun.stable

theorem logRenewFailure_triple {conn : Nat} {token : Str} {raised : PyError → World → Prop} :
    WorkerTriple params me (fun world => Renewing me conn token world ∧ Begun me event world)
      (logRenewFailure event)
      (fun _ world => Renewing me conn token world ∧ Begun me event world) raised := by
  have stable : WorkerStable params me fun world =>
      Renewing me conn token world ∧ Begun me event world := Renewing.stable.and Begun.stable
  refine (worker_getClosed stable).bind fun closed => ?_
  cases closed with
  | true => exact Triple.ret fun _ _ known => known.1
  | false =>
      refine ((worker_check stable ?_ ?_).pre fun _ _ known => known.1).bind fun set => ?_
      · exact fun world known => ⟨known.1.armed.inside, known.2⟩
      · rintro world ⟨⟨⟨⟨locked, hand⟩, -⟩, connEq, tokenEq⟩, started, event⟩
        exact ⟨⟨⟨⟨locked, hand⟩, rfl⟩, connEq, tokenEq⟩, started, event⟩
      · cases set with
        | true => exact Triple.ret fun _ _ known => known.1
        | false =>
            refine Triple.discard ?_
            exact ((worker_getToken stable).pre fun _ _ known => known.1).post
              fun _ _ _ known => known.1

theorem handleRenewFailure_triple {conn : Nat} {token : Str} {raised : PyError → World → Prop} :
    WorkerTriple params me (fun world => Renewing me conn token world ∧ Begun me event world)
      (handleRenewFailure conn event) (fun _ => Ticked me event) raised := by
  refine logRenewFailure_triple.bind fun _ => ?_
  refine (worker_getConn (Renewing.stable.and Begun.stable)).bind fun found => ?_
  split
  · have stable : WorkerStable params me fun world =>
        Dropping me conn world ∧ Begun me event world := Dropping.stable.and Begun.stable
    have drops : WorkerTriple params me
        (fun world => Renewing me conn token world ∧ Begun me event world)
        (perform (.setConn none)) (fun _ world => Dropping me conn world ∧ Begun me event world)
        raised := by
      apply worker_dropConn (Renewing.stable.and Begun.stable)
        fun world known => known.1.armed.inside.locked
      rintro world ⟨⟨⟨⟨locked, hand⟩, -⟩, connEq, -⟩, started, event⟩
      refine ⟨⟨locked, ?_⟩, started, event⟩
      intro other different held
      have elsewhere : world.conn ≠ some other := by
        rw [connEq]
        exact fun same => different (Option.some.inj same).symm
      simp only [World.setConn, reduceCtorEq, if_false, elsewhere] at held
      exact hand other held
    have clears : WorkerTriple params me (fun world => Dropping me conn world ∧ Begun me event world)
        (perform (.setToken none)) (fun _ world => Dropping me conn world ∧ Begun me event world)
        raised := by
      apply worker_clearToken stable fun world known => known.1.locked
      rintro world ⟨⟨locked, hand⟩, started, event⟩
      exact ⟨⟨locked, hand⟩, started, event⟩
    have resets : WorkerTriple params me (fun world => Dropping me conn world ∧ Begun me event world)
        (perform (.setLease 0)) (fun _ world => Dropping me conn world ∧ Begun me event world)
        raised := by
      apply worker_setLease stable
      rintro world ⟨⟨locked, hand⟩, started, event⟩
      exact ⟨⟨locked, hand⟩, started, event⟩
    have closes : WorkerTriple params me (fun world => Dropping me conn world ∧ Begun me event world)
        (perform (.closeConn conn)) (fun _ => Ticked me event) raised := by
      apply worker_closeConn stable
      rintro world ⟨⟨locked, hand⟩, started, event⟩
      refine ⟨⟨locked, ?_⟩, started, event⟩
      intro other held
      by_cases same : other = conn
      · simp [same]
      · exact closed_update (hand other same held)
    exact (drops.pre fun _ _ known => known.1).bind fun _ =>
      (clears.bind fun _ => resets).bind fun _ => closes
  · exact Triple.ret fun _ _ known => ⟨known.1.1.armed.inside, known.1.2⟩

theorem safeRenewOnce_triple :
    WorkerTriple params me (fun world => Armed me world ∧ Begun me event world)
      (safeRenewOnce params event) (fun _ => Ticked me event) (fun _ => Ticked me event) := by
  refine (worker_getConn (Armed.stable.and Begun.stable)).bind fun conn => ?_
  cases conn with
  | none =>
      refine ((worker_getToken (Armed.stable.and Begun.stable)).pre fun _ _ known => known.1).bind
        fun token => ?_
      cases token <;> exact Triple.ret fun _ _ known => ⟨known.1.1.inside, known.1.2⟩
  | some conn =>
      refine ((worker_getToken (Armed.conn_stable.and Begun.stable)).pre
        fun _ _ known => ⟨⟨known.1.1, known.2⟩, known.1.2⟩).bind fun token => ?_
      cases token with
      | none => exact Triple.ret fun _ _ known => ⟨known.1.1.1.inside, known.1.2⟩
      | some token =>
          have renews : WorkerTriple params me
              (fun world => Renewing me conn token world ∧ Begun me event world)
              (protoRenew params (some conn) token)
              (fun _ world => Renewing me conn token world ∧ Begun me event world)
              (fun _ world => Renewing me conn token world ∧ Begun me event world) :=
            protoRenew_triple.frame (fun _ => rfl) Begun.stable Begun.own
          have starts : ∀ world, Invariant params world →
              ((Armed me world ∧ world.conn = some conn) ∧ Begun me event world) ∧
                world.token = some token →
              Renewing me conn token world ∧ Begun me event world :=
            fun _ _ known => ⟨⟨known.1.1.1, known.1.1.2, known.2⟩, known.1.2⟩
          refine Triple.handle ((renews.pre starts).bind fun remaining =>
            Triple.ret fun _ _ known => ⟨known.1.armed.inside, known.2⟩) fun error => ?_
          split
          · exact handleRenewFailure_triple.bind fun _ => Triple.ret fun _ _ known => known
          · exact Triple.raise fun _ _ known => ⟨known.1.armed.inside, known.2⟩

def Awake (me event : Nat) (world : World) : Prop := Idle me world ∧ Begun me event world

theorem Awake.stable : WorkerStable params me (Awake me event) := Idle.stable.and Begun.stable

theorem renewTick_triple :
    WorkerTriple params me (Awake me event) (renewTick params event) (fun _ => Awake me event)
      (fun _ => Awake me event) := by
  have locks : WorkerTriple params me (Awake me event) (perform .lockIo)
      (fun _ => Ticked me event) (fun _ => Awake me event) := by
    apply worker_lockIo Awake.stable
    rintro world ⟨⟨free, hand⟩, started, event⟩
    exact ⟨⟨rfl, hand⟩, started, event⟩
  have unlocks : WorkerTriple params me (Ticked me event) (perform .unlockIo)
      (fun _ => Awake me event) (fun _ => Awake me event) := by
    apply worker_unlockIo Ticked.stable fun world known => known.1
    rintro world ⟨⟨locked, hand⟩, started, event⟩
    exact ⟨⟨by simp, hand⟩, started, event⟩
  refine locks.bind fun _ => Triple.ensure ?_ (fun _ => unlocks) fun _ => unlocks
  refine (worker_getClosed Ticked.stable).bind fun closed => ?_
  cases closed with
  | true => exact Triple.ret fun _ _ known => known.1
  | false =>
      refine ((worker_check Ticked.stable (fun _ known => known) ?_).pre
        fun _ _ known => known.1).bind fun set => ?_
      · rintro world ⟨⟨locked, hand⟩, started, event⟩
        exact ⟨⟨locked, hand⟩, started, event⟩
      · cases set with
        | true => exact Triple.ret fun _ _ known => known.1
        | false => exact safeRenewOnce_triple.pre fun _ _ known => ⟨known.2 rfl, known.1.2⟩

theorem updateLease_triple {remaining : Int} :
    WorkerTriple params me (Awake me event) (updateLease remaining) (fun _ => Awake me event)
      raised := by
  unfold updateLease
  split
  · refine (worker_getToken Awake.stable).bind fun token => ?_
    split
    · refine ((worker_getClosed Awake.stable).pre fun _ _ known => known.1).bind fun closed => ?_
      cases closed with
      | true => exact Triple.ret fun _ _ known => known.1
      | false =>
          refine (worker_setLease Awake.stable ?_).pre fun _ _ known => known.1
          rintro world ⟨⟨free, hand⟩, started, event⟩
          exact ⟨⟨free, hand⟩, started, event⟩
    · exact Triple.ret fun _ _ known => known.1
  · exact Triple.ret fun _ _ known => known

def WorkerRest (me : Nat) (outcome : Except PyError WorkerState) (world : World) : Prop :=
  match outcome with
  | .ok (.sleeping event _) => Awake me event world
  | _ => Idle me world

theorem WorkerRest.stable {outcome : Except PyError WorkerState} :
    WorkerStable params me (WorkerRest me outcome) := by
  cases outcome with
  | error error => exact Idle.stable
  | ok state =>
      cases state with
      | fresh => exact Idle.stable
      | sleeping event interval => exact Awake.stable
      | done => exact Idle.stable

abbrev RoundTriple (params : Params) (me : Nat) (pre : World → Prop) (program : Py WorkerState) :
    Prop :=
  WorkerTriple params me pre program (fun state => WorkerRest me (.ok state))
    fun error => WorkerRest me (.error error)

theorem finish_triple :
    RoundTriple params me (Awake me event) (do
      perform .endThread
      pure .done) := by
  refine (worker_endThread Awake.stable ?_).bind fun _ => Triple.ret fun _ _ known => known.1
  rintro world ⟨⟨free, hand⟩, started, event⟩
  exact ⟨⟨free, hand⟩, started, event⟩

theorem renewRound_triple {interval : Rat} :
    RoundTriple params me (Awake me event) (renewRound params event interval) := by
  refine (worker_waitEvent Awake.stable).bind fun stopped => ?_
  cases stopped with
  | true => exact finish_triple
  | false =>
      have ticks : WorkerTriple params me (Awake me event) (renewTick params event)
          (fun _ => Awake me event) (fun error => WorkerRest me (.error error)) :=
        renewTick_triple.weaken (fun _ _ known => known) (fun _ _ _ known => known)
          fun _ _ _ known => known.1
      refine ticks.bind fun remaining => ?_
      cases remaining with
      | none => exact finish_triple
      | some remaining =>
          refine (worker_isSet Awake.stable fun _ known => known.1.free).bind fun set => ?_
          cases set with
          | true => exact finish_triple
          | false => exact updateLease_triple.bind fun _ => Triple.ret fun _ _ known => known

theorem renewLoop_triple : RoundTriple params me (Idle me) (renewLoop params) := by
  have begins : WorkerTriple params me (Idle me) (perform .beginThread)
      (fun event => Awake me event) (fun error => WorkerRest me (.error error)) := by
    apply worker_op Idle.stable
    intro world choice result after inv known executed
    simp only [exec, Option.ite_none_right_eq_some, Option.some.injEq, Prod.mk.injEq] at executed
    obtain ⟨started, rfl, rfl⟩ := executed
    exact ⟨.refl _, inv, known, started, rfl⟩
  refine begins.bind fun event => ?_
  exact (worker_getLease Awake.stable).bind fun lease => Triple.ret fun _ _ known => known.1

end Operations

end DflockdClient.Sync
