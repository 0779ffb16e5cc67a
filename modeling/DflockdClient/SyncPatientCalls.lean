import DflockdClient.SyncPatient

/-!
The operations of callers that wait for the renewal worker to end. From there to its
end, or to the start of a new worker, an operation has the instance to itself, and
what holds of it by itself holds of it among all threads.
-/

namespace DflockdClient.Sync.Patient

open Interleaving

variable {params : Params} {me : Nat} {origin before after world : World}

def inside (op : Op) : Bool :=
  match op with
  | .lockState | .unlockState _ | .startThread _ | .beginThread | .endThread => false
  | _ => true

theorem exec_inside {faults : Faults} {thread : Thread} {op : Op} {choice : Choice}
    {result : op.Res} (within : inside op = true)
    (executed : exec faults thread op choice before = some (result, after)) :
    (after.stateLock, after.alive, after.started) =
      (before.stateLock, before.alive, before.started) := by
  cases op <;> simp only [exec] at executed <;> try cases within
  all_goals
    repeat' split at executed
    all_goals
      cases executed
      try rfl

theorem outside_locked {id : Nat} (different : Thread.caller id ≠ .caller me)
    (locked : before.stateLock = some (.caller me)) (move : CallerMove id before after) :
    after = before := by
  have elsewhere : before.stateLock ≠ some (.caller id) := by
    rw [locked]
    exact fun same => different (Option.some.inj same).symm
  rcases move.outside elsewhere with same | ⟨free, _⟩
  · exact same
  · rw [locked] at free
    cases free

theorem exclusive : Exclusive (machine contained params) contract (.caller me)
    (fun op => inside op = true) (Mine me) where
  pauses := fun _ => rfl
  others := by
    intro other different before after _ within mine
    cases other with
    | caller id => exact outside_locked different mine.1 within
    | worker worker =>
        have move : WorkerMove worker before after := within
        rcases move with same | ⟨alive, _⟩
        · exact same
        · exact absurd mine.2 (not_noneAlive alive)
  keeps := by
    intro op choice world result after within _ mine executed
    have same := exec_inside within executed
    simp only [Prod.mk.injEq] at same
    obtain ⟨stateLock, alive, started⟩ := same
    have mine' : Mine me after := ⟨stateLock.trans mine.1, fun worker => by rw [alive, mine.2]⟩
    refine ⟨⟨fun elsewhere => absurd mine.1 elsewhere, fun thread => ?_, fun worker lives => ?_,
      fun worker => ?_⟩, .inl ⟨me, mine'⟩, mine'⟩
    · rw [stateLock]
      exact .inl
    · rw [mine.2] at lives
      cases lives
    · rw [started]
      exact .inl

/-- The instance is the caller's own, with a fact that goes back to some world. -/
def Has (me : Nat) (fact : World → World → Prop) (world : World) : Prop :=
  Mine me world ∧ ∃ origin, fact origin world

/-- What an operation does by itself it does here. -/
theorem alone_triple {α : Type} {program : Py α} {fact raised : World → World → Prop}
    {post : α → World → World → Prop} (uses : program.Uses fun op => inside op = true)
    (known : ∀ origin world, Mine me world → fact origin world →
      wlp (sequential contained params) (.caller me) program (fun value => post value origin)
        (fun _ => raised origin) world) :
    CallerTriple params me (Has me fact) program (fun value => Has me (post value))
      (fun _ => Has me raised) := by
  refine exclusive.triple uses ?_
  rintro world mine ⟨origin, ready⟩
  have same : (machine contained params).exec = (sequential contained params).exec := rfl
  rw [wlp_exec same]
  exact wlp_mono (known origin world mine ready) (fun _ _ ended => ⟨origin, ended⟩)
    fun _ _ ended => ⟨origin, ended⟩

theorem alone_calmly {α : Type} {program : Py α} {fact : World → World → Prop}
    {post : α → World → World → Prop} {raised : PyError → World → Prop}
    (uses : program.Uses fun op => inside op = true)
    (known : ∀ origin world, Mine me world → fact origin world →
      wlp (sequential contained params) (.caller me) program (fun value => post value origin)
        (fun _ _ => False) world) :
    CallerTriple params me (Has me fact) program (fun value => Has me (post value)) raised :=
  (alone_triple uses known).weaken (fun _ _ known => known) (fun _ _ _ known => known)
    fun _ _ _ ⟨_, _, never⟩ => never.elim

theorem plain_inside {op : Op} (plain : Locks.untied op = true) : inside op = true := by
  cases op <;> first | rfl | cases plain

theorem closeUnlocked_inside : closeUnlocked.Uses fun op => inside op = true := by
  refine .bind (.perform rfl) fun closed => ?_
  split
  · exact .ret
  · refine .bind (.bind (.perform rfl) fun _ => .bind (.perform rfl) fun _ => .perform rfl)
      fun _ => .bind ?_ fun _ => .bind ?_ fun _ => .bind (.perform rfl) fun _ => .perform rfl
    · refine .bind (.perform rfl) fun conn => ?_
      cases conn with
      | none => exact .ret
      | some conn =>
          refine .bind (.perform rfl) fun _ => .bind (.bind (.perform rfl) fun _ => ?_) fun _ =>
            .perform rfl
          exact .bind (.handle (.perform rfl) fun _ => .bind (.perform rfl) fun _ => .raise)
            fun _ => .bind (.perform rfl) fun _ => .ret
    · refine .bind (.perform rfl) fun worker => ?_
      cases worker with
      | none => exact .perform rfl
      | some worker =>
          exact .bind (.bind (.perform rfl) fun _ => .orRaise) fun _ => .perform rfl

theorem stopped_inside : (do
    closeUnlocked
    perform (.setClosed false)
    perform .newStopEvent : Py Unit).Uses fun op => inside op = true :=
  .bind closeUnlocked_inside fun _ => .bind (.perform rfl) fun _ => .perform rfl

theorem grantOrClose_inside {exchange : Py (Str × Int)}
    (uses : exchange.Uses fun op => inside op = true) :
    (grantOrClose exchange storeGrant).Uses fun op => inside op = true := by
  refine .handle (.bind uses fun grant => .bind (.bind (.perform rfl) fun _ => .perform rfl)
    fun _ => .ret) fun error => .bind closeUnlocked_inside fun _ => ?_
  split
  · exact .ret
  · exact .raise

theorem exchange_inside {α : Type} {conn : Option Nat} {request : Except PyError Request}
    {parse : Str → Except PyError α} :
    (exchange conn request parse).Uses fun op => inside op = true :=
  Locks.exchange_plain.mono fun _ => plain_inside

theorem releaseStopped_inside : (do
    let released ← withIoLock (sendReleaseQuietly params)
    closeUnlocked
    pure (CallValue.bool released) : Py CallValue).Uses fun op => inside op = true := by
  have sends : (sendReleaseQuietly params).Uses fun op => inside op = true :=
    Locks.sendReleaseQuietly_plain.mono fun _ => plain_inside
  refine .bind (.bind (.perform rfl) fun _ => ?_) fun released => .bind closeUnlocked_inside
    fun _ => .ret
  exact .bind (.handle sends fun _ => .bind (.perform rfl) fun _ => .raise) fun _ =>
    .bind (.perform rfl) fun _ => .ret

/-! Before a caller has stopped the worker -/

/-- In the state lock alone, with an instance that is not closed or has nothing left. -/
structure Locked (me : Nat) (world : World) : Prop where
  lock : world.stateLock = some (.caller me)
  io : world.ioLock ≠ some (.caller me)
  steady : Steady world
  shut : world.closed = true → (world.conn = none ∧ world.token = none ∧ world.lease = 0 ∧
    world.eventSet world.stopEvent = true) ∧ NoneAlive world

/-- The same, as an operation finds it and leaves it. -/
structure Ready (me : Nat) (world : World) : Prop extends Locked me world where
  unset : world.closed = false → world.eventSet world.stopEvent = false
  bare : world.token = none → NoneAlive world → world.lease = 0

theorem caller_stable {fact : World → Prop}
    (lock : ∀ world, fact world → world.stateLock = some (.caller me))
    (kept : ∀ worker before after, before.alive worker = true → Works worker before after →
      fact before → fact after) : contract.Stable (.caller me) fact := by
  intro other different before after _ _ within known
  cases other with
  | caller id =>
      rw [outside_locked different (lock before known) within]
      exact known
  | worker worker =>
      have move : WorkerMove worker before after := within
      rcases move with rfl | ⟨alive, works⟩
      · exact known
      · exact kept worker before after alive works known

theorem Locked.worked {worker : Nat} (alive : before.alive worker = true)
    (works : Works worker before after) (known : Locked me before) : Locked me after := by
  have same := works.same
  simp only [Prod.mk.injEq] at same
  obtain ⟨stateLock, closed, _⟩ := same
  refine ⟨stateLock.trans known.lock, ?_, works.steady, fun shut => ?_⟩
  · exact fun mine => known.io ((works.ioLock (.caller me) (by simp)).mpr mine)
  · rw [closed] at shut
    exact absurd (known.shut shut).2 (not_noneAlive alive)

theorem Ready.worked {worker : Nat} (alive : before.alive worker = true)
    (works : Works worker before after) (known : Ready me before) : Ready me after := by
  have same := works.same
  simp only [Prod.mk.injEq] at same
  obtain ⟨_, closed, stopEvent, _, eventSet, _⟩ := same
  refine ⟨known.toLocked.worked alive works, ?_, fun gone none => works.leaves none gone⟩
  rw [closed, stopEvent, eventSet]
  exact known.unset

theorem Steady.base (steady : Steady world) (lock : world.stateLock = some (.caller me))
    (io : world.ioLock ≠ some (.caller me)) (ended : NoneAlive world) :
    Base (.caller me) world world :=
  { steady with
    free := by
      rw [Option.eq_none_iff_forall_ne_some]
      intro thread locked
      rcases steady.lockers thread locked with mine | ⟨worker, _, alive⟩
      · rw [lock] at mine
        cases mine
        exact io locked
      · exact not_noneAlive alive ended
    frame := fun worker => ⟨fun started => ⟨started, rfl, fun _ => rfl⟩, fun idle started => by
      rw [idle] at started
      cases started⟩
    stateLock := nofun }

theorem Steady.shut (steady : Steady world) (ended : NoneAlive world) (conn : Nat)
    (made : conn < world.conns) (elsewhere : world.conn ≠ some conn) :
    world.closedConn conn = true :=
  (steady.others conn made elsewhere).resolve_right fun ⟨_, alive, _⟩ => not_noneAlive alive ended

theorem Locked.entered (known : Locked me world) (ended : NoneAlive world) :
    Has me (Entered (.caller me)) world :=
  ⟨⟨known.lock, ended⟩, world, { known.steady.base known.lock known.io ended with
    joinable := known.steady.joinable
    watched := fun _ renews => absurd ended (not_noneAlive renews.1)
    closed := fun closed => by
      obtain ⟨⟨conn, token, lease, set⟩, _⟩ := known.shut closed
      exact ⟨conn, token, lease, set⟩
    others := known.steady.shut ended
    connMade := known.steady.connMade }⟩

theorem Ready.of (known : Has me (Rested (.caller me)) world) : Ready me world := by
  obtain ⟨⟨lock, none⟩, origin, rested⟩ := known
  have idle {worker : Nat} : ¬world.alive worker = true := by simp [none worker]
  have steady : Steady world := { rested with
    lockers := fun thread locked => by
      rw [rested.free] at locked
      cases locked
    current := fun worker alive => absurd alive idle
    others := fun conn made elsewhere => .inl (rested.others conn made elsewhere)
    resting := fun free => by
      rw [lock] at free
      cases free }
  refine ⟨⟨lock, by simp [rested.free], steady, fun closed => ?_⟩, rested.unset, fun gone _ => ?_⟩
  · obtain ⟨conn, token, lease, set⟩ := rested.closed closed
    exact ⟨⟨conn, token, lease, set⟩, none⟩
  · obtain ⟨mode, holds⟩ := rested.mode
    cases mode with
    | idle => exact holds.2.2.1
    | queued =>
        obtain ⟨_, _, _, _, _, lease, _⟩ := holds
        exact lease
    | held =>
        obtain ⟨_, _, _, _, token, _⟩ := holds
        rw [gone] at token
        cases token

theorem CallerMove.within (lock : before.stateLock = some (.caller me))
    (same : (after.stateLock, after.started, after.alive, after.token, after.lease, after.conns) =
      (before.stateLock, before.started, before.alive, before.token, before.lease, before.conns))
    (ioLock : ∀ worker, before.ioLock = some (.worker worker) ↔
      after.ioLock = some (.worker worker))
    (conn : after.conn = before.conn ∨ after.conn = none)
    (closed : ∀ conn, before.closedConn conn = true → after.closedConn conn = true)
    (hand : ∀ worker conn, after.inHand conn = some (.worker worker) →
      before.inHand conn = some (.worker worker) ∧
        (before.conn = some conn → after.conn = some conn)) : CallerMove me before after := by
  simp only [Prod.mk.injEq] at same
  obtain ⟨stateLock, started, alive, token, lease, conns⟩ := same
  refine ⟨fun elsewhere => absurd lock elsewhere, fun thread locked => ?_, fun worker lives => ?_,
    fun worker begun => ?_⟩
  · exact .inl (stateLock.symm.trans locked)
  · exact ⟨by rw [alive, lives], ioLock worker, ⟨token, lease⟩, conn, conns, closed, hand worker⟩
  · exact .inl (by rw [← started, begun])

theorem CallerMove.of_same (lock : before.stateLock = some (.caller me))
    (same : (after.stateLock, after.started, after.alive, after.token, after.lease, after.conns) =
      (before.stateLock, before.started, before.alive, before.token, before.lease, before.conns))
    (held : (after.ioLock, after.conn, after.closedConn, after.inHand) =
      (before.ioLock, before.conn, before.closedConn, before.inHand)) :
    CallerMove me before after := by
  simp only [Prod.mk.injEq] at held
  obtain ⟨ioLock, conn, closed, hand⟩ := held
  refine .within lock same (fun _ => by rw [ioLock]) (.inl conn) ?_ ?_
  · rw [closed]
    exact fun _ => id
  · rw [hand, conn]
    exact fun _ _ held => ⟨held, id⟩

theorem caller_op {op : Op} {pre : World → Prop} {post : op.Res → World → Prop}
    {raised : PyError → World → Prop}
    (lock : ∀ world, pre world → world.stateLock = some (.caller me))
    (kept : ∀ worker before after, before.alive worker = true → Works worker before after →
      pre before → pre after)
    (effect : ∀ world choice result after, pre world →
      (op = .getToken → world.token = none → NoneAlive world) →
      exec contained (.caller me) op choice world = some (result, after) →
      CallerMove me world after ∧ Steady after ∧ post result after) :
    CallerTriple params me pre (perform op) post raised := by
  refine Triple.perform rfl (caller_stable lock kept) ?_
  intro world choice result after _ known permitted executed
  obtain ⟨move, steady, ended⟩ :=
    effect world choice result after known (permitted ⟨me, rfl⟩) executed
  exact ⟨move, .inr steady, ended⟩

theorem Steady.stopped (steady : Steady world) (lock : world.stateLock = some (.caller me)) :
    Steady { world with eventSet := Function.update world.eventSet world.stopEvent true } :=
  { steady with
    pastSet := fun event earlier => by
      simpa only [Function.update_of_ne (Nat.ne_of_lt earlier)] using steady.pastSet event earlier
    future := fun event later => by
      simpa only [Function.update_of_ne (Nat.ne_of_gt later)] using steady.future event later
    resting := fun free => by
      have free : world.stateLock = none := free
      rw [lock] at free
      cases free }

def Stopping (me worker : Nat) (world : World) : Prop :=
  Locked me world ∧ world.renewThread = some worker

theorem Stopping.worked {worker other : Nat} (alive : before.alive other = true)
    (works : Works other before after) (known : Stopping me worker before) :
    Stopping me worker after := by
  have same := works.same
  simp only [Prod.mk.injEq] at same
  exact ⟨known.1.worked alive works, same.2.2.2.1.trans known.2⟩

theorem findWorker_triple {raised : PyError → World → Prop} :
    CallerTriple params me (Locked me) (perform .getRenewThread)
      (fun found world => Locked me world ∧ world.renewThread = found) raised := by
  refine caller_op (fun _ known => known.lock) (fun _ _ _ => Locked.worked) ?_
  intro world choice result after locked _ executed
  cases executed
  exact ⟨.of_same locked.lock rfl rfl, locked.steady, locked, rfl⟩

theorem noneAlive_of {worker : Option Nat} (steady : Steady world)
    (found : world.renewThread = worker)
    (ended : ∀ number, worker = some number → world.alive number = false) : NoneAlive world := by
  intro other
  by_contra alive
  have same := (steady.current other (by simpa using alive)).symm.trans found
  rw [ended other same.symm] at alive
  exact alive rfl

theorem join_triple {worker : Nat} {pre : World → Prop} {raised : PyError → World → Prop}
    (lock : ∀ world, pre world → world.stateLock = some (.caller me))
    (kept : ∀ other before after, before.alive other = true → Works other before after →
      pre before → pre after)
    (steady : ∀ world, pre world → Steady world)
    (found : ∀ world, pre world → world.renewThread = some worker) :
    CallerTriple params me pre (raising (perform (.joinThread worker)))
      (fun _ world => pre world ∧ NoneAlive world) raised := by
  refine Triple.raising (caller_op lock kept ?_)
  intro world choice result after known _ executed
  have begun := (steady world known).joinable worker (found world known)
  have joined : world.alive worker = false ∧ result = .ok () ∧ after = world := by
    simp only [exec, begun, contained] at executed
    cases choice <;> grind
  obtain ⟨ended, rfl, rfl⟩ := joined
  refine ⟨.of_same (lock _ known) rfl rfl, steady _ known, known, ?_⟩
  refine noneAlive_of (steady _ known) (found _ known) ?_
  rintro number ⟨⟩
  exact ended

theorem stopRenew_triple {raised : PyError → World → Prop} :
    CallerTriple params me (Locked me) stopRenew (fun _ => Has me (Entered (.caller me)))
      raised := by
  refine findWorker_triple.bind fun found => ?_
  cases found with
  | none =>
      refine .ret fun world _ known => known.1.entered ?_
      exact noneAlive_of known.1.steady known.2 nofun
  | some worker =>
      have reads : CallerTriple params me (Stopping me worker) (perform .getStopEvent)
          (fun event world => Stopping me worker world ∧ event = world.stopEvent) raised := by
        refine caller_op (fun _ known => known.1.lock) (fun _ _ _ => Stopping.worked) ?_
        intro world choice result after known _ executed
        cases executed
        exact ⟨.of_same known.1.lock rfl rfl, known.1.steady, known, rfl⟩
      have sets (event : Nat) : CallerTriple params me
          (fun world => Stopping me worker world ∧ event = world.stopEvent)
          (perform (.setEvent event)) (fun _ => Stopping me worker) raised := by
        refine caller_op (fun _ known => known.1.1.lock) ?_ ?_
        · rintro other before after alive works ⟨stopping, current⟩
          have same := works.same
          simp only [Prod.mk.injEq] at same
          exact ⟨stopping.worked alive works, current.trans same.2.2.1.symm⟩
        · rintro world choice result after ⟨⟨locked, found⟩, rfl⟩ _ executed
          cases executed
          have steady := locked.steady.stopped locked.lock
          refine ⟨.of_same locked.lock rfl rfl, steady, ⟨locked.lock, locked.io, steady, ?_⟩, found⟩
          intro closed
          obtain ⟨⟨conn, token, lease, _⟩, none⟩ := locked.shut closed
          exact ⟨⟨conn, token, lease, by simp⟩, none⟩
      have joins : CallerTriple params me (Stopping me worker)
          (raising (perform (.joinThread worker))) (fun _ => Has me (Entered (.caller me)))
          raised :=
        (join_triple (fun _ known => known.1.lock) (fun _ _ _ => Stopping.worked)
          (fun _ known => known.1.steady) fun _ known => known.2).post
          fun _ _ _ known => known.1.1.entered known.2
      refine reads.bind fun event => (sets event).bind fun _ => joins.bind fun _ => ?_
      refine alone_calmly (.perform rfl) fun origin world mine entered => ?_
      simp only [wlp_setRenewThread]
      exact { entered with
        joinable := nofun
        watched := fun number renews => absurd mine.2 (not_noneAlive renews.1) }

abbrev withMade (world : World) : World :=
  { world with
    workers := world.workers + 1
    workerEvent := Function.update world.workerEvent world.workers world.stopEvent
    renewThread := some world.workers }

def Armed (worker : Nat) (origin world : World) : Prop :=
  ∃ before, GrantStored (.caller me) origin before ∧ worker = before.workers ∧
    world = withMade before

theorem startRenew_triple {raised : PyError → World → Prop} :
    CallerTriple params me (Has me (GrantStored (.caller me))) startRenew (fun _ => Ready me)
      raised := by
  have prepares : CallerTriple params me (Has me (GrantStored (.caller me)))
      (do
        let stopEvent ← perform .getStopEvent
        let thread ← perform (.newThread stopEvent)
        perform (.setRenewThread (some thread))
        pure thread)
      (fun worker => Has me (@Armed me worker)) raised := by
    refine alone_calmly (.bind (.perform rfl) fun _ => .bind (.perform rfl) fun _ =>
      .bind (.perform rfl) fun _ => .ret) fun origin world mine stored => ?_
    simp only [wlp_bind, wlp_getStopEvent, wlp_newThread, wlp_setRenewThread, Program.pure_eq,
      wlp_ret]
    exact ⟨world, stored, rfl, rfl⟩
  have starts (worker : Nat) : CallerTriple params me (Has me (@Armed me worker))
      (raising (perform (.startThread worker))) (fun _ => Ready me) raised := by
    refine Triple.raising (Triple.perform rfl (@exclusive params me).stable ?_)
    rintro world choice result after inv ⟨mine, origin, before, stored, rfl, rfl⟩ _ executed
    have begun : result = .ok () ∧ after = before.withWorker := by
      simp only [machine, exec, contained] at executed
      cases choice <;> grind
    obtain ⟨rfl, rfl⟩ := begun
    have idle (worker : Nat) : before.alive worker = false := mine.2 worker
    have lives {worker : Nat} (alive : before.withWorker.alive worker = true) :
        worker = before.workers := by
      by_contra different
      simp only [Function.update_of_ne different, idle] at alive
      cases alive
    have base := stored.toBase.withWorker
    have lock : before.withWorker.stateLock = some (.caller me) := mine.1
    have held : before.withWorker.token ≠ none := by
      obtain ⟨_, token, _, _, tokenEq, _⟩ := stored.grant
      exact fun gone => Option.some_ne_none _ (tokenEq.symm.trans gone)
    have own : Own before.workers before.withWorker := by
      refine ⟨⟨by simp, by simp [stored.free], fun conn made _ _ => ?_⟩,
        fun gone => absurd gone held⟩
      by_cases installed : before.conn = some conn
      · exact .inr installed
      · exact .inl (stored.others conn made installed)
    have steady : Steady before.withWorker := { base with
      lockers := fun thread locked => by
        rw [base.free] at locked
        cases locked
      connMade := stored.connMade
      joinable := by
        rintro _ ⟨⟩
        simp
      current := fun worker alive => by rw [lives alive]
      others := fun conn made elsewhere => .inl (stored.others conn made elsewhere)
      resting := fun free => by
        rw [lock] at free
        cases free }
    refine ⟨⟨fun elsewhere => absurd mine.1 elsewhere, fun _ => .inl, fun worker alive => ?_,
      fun worker begun => ?_⟩, .inr steady, ⟨lock, by simp [stored.free], steady, fun closed => ?_⟩,
      fun _ => stored.unset, fun gone => absurd gone held⟩
    · rw [show (withMade before).alive worker = false from idle worker] at alive
      cases alive
    · by_cases new : worker = before.workers
      · exact .inr (new ▸ own)
      · exact .inl (by simpa only [Function.update_of_ne new] using begun)
    · rw [show before.withWorker.closed = false from stored.opened] at closed
      cases closed
  have same : startRenew = (do
      let stopEvent ← perform .getStopEvent
      let thread ← perform (.newThread stopEvent)
      perform (.setRenewThread (some thread))
      pure thread) >>= fun thread => raising (perform (.startThread thread)) := rfl
  rw [same]
  exact prepares.bind starts

/-! The operations -/

def Returned (me : Nat) (call : Call) (value : CallValue) (world : World) : Prop :=
  Ready me world ∧ (call.fails value = true → Has me (Emptied (.caller me)) world)

abbrev BodyTriple (params : Params) (me : Nat) (call : Call) (pre : World → Prop)
    (program : Py CallValue) : Prop :=
  CallerTriple params me pre program (Returned me call) fun _ => Has me (Emptied (.caller me))

theorem Returned.emptied {call : Call} {value : CallValue}
    (known : Has me (Emptied (.caller me)) world) : Returned me call value world := by
  obtain ⟨mine, origin, emptied⟩ := known
  exact ⟨.of ⟨mine, origin, emptied.toRested⟩, fun _ => ⟨mine, origin, emptied⟩⟩

theorem granted_triple {call : Call} (granted : Option (Str × Int))
    (fails : call.fails (.bool true) = false) :
    BodyTriple params me call (Has me fun origin => Asked (.caller me) origin granted)
      (if granted.isNone then pure (.bool false)
      else do
        startRenew
        pure (.bool true)) := by
  cases granted with
  | none => exact .ret fun _ _ known => .emptied known
  | some grant =>
      refine startRenew_triple.bind fun _ => .ret fun _ _ ready => ⟨ready, fun failed => ?_⟩
      rw [fails] at failed
      cases failed

theorem reset_triple {raised : PyError → World → Prop} :
    CallerTriple params me (Locked me) resetForNewAttempt
      (fun _ => Has me fun origin => Ungranted (.caller me) origin none none) raised :=
  stopRenew_triple.bind fun _ => alone_calmly stopped_inside fun _ _ _ entered =>
    reopen_wlp entered

theorem open_triple :
    CallerTriple params me (Has me fun origin => Ungranted (.caller me) origin none none)
      (openAndAuthenticate params)
      (fun _ => Has me fun origin world =>
        ∃ conn, Ungranted (.caller me) origin (some conn) (some conn) world)
      (fun _ => Has me (Emptied (.caller me))) :=
  alone_triple (Locks.openAndAuthenticate_plain.mono fun _ => plain_inside)
    fun _ _ _ known => openAndAuthenticate_wlp known

theorem acquire_triple : BodyTriple params me .acquire (Locked me) (acquireUnlocked params) := by
  refine reset_triple.bind fun _ => open_triple.bind fun _ => ?_
  refine (alone_triple (grantOrClose_inside ?_) ?_).bind fun granted => granted_triple granted rfl
  · exact .bind (Locks.requireConn_plain.mono fun _ => plain_inside) fun _ => exchange_inside
  · rintro origin world mine ⟨conn, known⟩
    exact askAcquire_wlp known

theorem enqueue_triple : BodyTriple params me .enqueue (Locked me) (enqueueUnlocked params) := by
  refine reset_triple.bind fun _ => open_triple.bind fun _ => ?_
  have asks : CallerTriple params me (Has me fun origin world =>
        ∃ conn, Ungranted (.caller me) origin (some conn) (some conn) world)
      (Program.handle
        (do
          let conn ← requireConn (str "not connected")
          protoEnqueue params conn)
        fun error => do
          closeUnlocked
          throw error)
      (fun status => Has me fun origin => Enqueued (.caller me) origin status)
      (fun _ => Has me (Emptied (.caller me))) := by
    refine alone_triple (.handle ?_ fun error => .bind closeUnlocked_inside fun _ => .raise) ?_
    · exact .bind (Locks.requireConn_plain.mono fun _ => plain_inside) fun _ => exchange_inside
    · rintro origin world mine ⟨conn, known⟩
      exact askEnqueue_wlp known
  refine asks.bind fun status => ?_
  cases status with
  | queued =>
      exact .ret fun _ _ known => ⟨.of known, fun failed => by cases failed⟩
  | acquired token lease =>
      have stores : CallerTriple params me
          (Has me fun origin => Enqueued (.caller me) origin (.acquired token lease))
          (storeGrant (token, lease)) (fun _ => Has me (GrantStored (.caller me)))
          (fun _ => Has me (Emptied (.caller me))) := by
        refine alone_calmly (.bind (.perform rfl) fun _ => .perform rfl) ?_
        intro origin world mine granting
        simp only [storeGrant, wlp_bind, wlp_setToken, wlp_setLease]
        exact granting
      refine stores.bind fun _ => startRenew_triple.bind fun _ => ?_
      exact .ret fun _ _ ready => ⟨ready, fun failed => by cases failed⟩

theorem release_triple : BodyTriple params me .release (Locked me) (releaseUnlocked params) := by
  refine stopRenew_triple.bind fun _ => ?_
  refine Triple.post (alone_triple releaseStopped_inside fun _ _ _ entered =>
    releaseStopped_wlp contained_benign entered) fun _ _ _ known => .emptied known

def Waiting (me : Nat) (origin world : World) : Prop :=
  (world.conn = none → Emptied (.caller me) origin world) ∧
    ∀ conn, world.conn = some conn → Ungranted (.caller me) origin (some conn) (some conn) world

theorem Ready.waiting (known : Ready me world) (gone : world.token = none)
    (ended : NoneAlive world) : Has me (Waiting me) world := by
  obtain ⟨mine, origin, entered⟩ := known.toLocked.entered ended
  have quiet : NoneRenews world := fun worker renews => absurd ended (not_noneAlive renews.1)
  have lease := known.bare gone ended
  refine ⟨mine, origin, fun free => ?_, fun conn installed => ?_⟩
  · exact { entered with
      unset := known.unset
      mode := ⟨.idle, free, gone, lease, quiet⟩
      idle := ⟨free, gone, lease, quiet⟩
      shut := fun conn made => entered.others conn made (by simp [free]) }
  · have opened : world.closed = false := by
      by_contra closed
      have shut := (known.shut (by simpa using closed)).1.1
      rw [installed] at shut
      cases shut
    exact { entered with
      quiet := quiet
      opened := opened
      unset := known.unset opened
      conn := installed
      token := gone
      lease := lease
      others := fun other made elsewhere => entered.others other made (installed ▸ elsewhere)
      connMade := fun other same => entered.connMade other (installed.trans same) }

theorem wait_triple {timeoutS : Option Value} :
    BodyTriple params me (.wait timeoutS) (Ready me) (waitUnlocked params timeoutS) := by
  have finds : CallerTriple params me (Ready me) (perform .getToken)
      (fun token world => Ready me world ∧ (token = none → Has me (Waiting me) world))
      (fun _ => Has me (Emptied (.caller me))) := by
    refine caller_op (fun _ known => known.lock) (fun _ _ _ => Ready.worked) ?_
    intro world choice result after ready permitted executed
    cases executed
    refine ⟨.of_same ready.lock rfl rfl, ready.steady, ready, fun gone => ?_⟩
    exact ready.waiting gone (permitted rfl gone)
  have requires : CallerTriple params me (Has me (Waiting me))
      (requireConn (str "not connected; call enqueue() first"))
      (fun found => Has me fun origin world => ∃ conn, found = some conn ∧
        Ungranted (.caller me) origin (some conn) (some conn) world)
      (fun _ => Has me (Emptied (.caller me))) := by
    refine alone_triple (Locks.requireConn_plain.mono fun _ => plain_inside) ?_
    rintro origin world mine ⟨empty, queued⟩
    simp only [requireConn, wlp_bind, wlp_getConn]
    cases installed : world.conn with
    | none => exact empty installed
    | some conn =>
        simp only [Option.isNone_some, Bool.false_eq_true, if_false, wlp_getConn]
        exact ⟨conn, installed, queued conn installed⟩
  refine finds.bind fun token => ?_
  cases token with
  | some token => exact .ret fun _ _ known => ⟨known.1, fun failed => by cases failed⟩
  | none =>
      have asks (found : Option Nat) : BodyTriple params me (.wait timeoutS)
          (Has me fun origin world => ∃ conn, found = some conn ∧
            Ungranted (.caller me) origin (some conn) (some conn) world)
          (do
            let granted ← grantOrClose
              (protoWait params found (timeoutS.getD params.acquireTimeoutS)) storeGrant
            if granted.isNone then pure (.bool false)
            else do
              startRenew
              pure (.bool true)) := by
        refine (alone_triple (grantOrClose_inside exchange_inside) ?_).bind fun granted =>
          granted_triple granted rfl
        rintro origin world mine ⟨conn, rfl, known⟩
        exact askWait_wlp known
      exact Triple.pre (requires.bind asks) fun _ _ known => known.2 rfl

end DflockdClient.Sync.Patient
