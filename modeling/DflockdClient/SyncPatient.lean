import DflockdClient.Interleaving.Exclusive
import DflockdClient.SyncLifecycle
import DflockdClient.SyncLocks

/-!
Runs in which a caller that stops the renewal worker waits until it has ended: what
holds of the instance, and what the one worker that is alive keeps of it.
-/

namespace DflockdClient.Sync.Patient

open Interleaving

/-- All faults but the failure of a thread start, an exception out of a release exchange that
`except Exception` does not catch, and a join that gives up. -/
def contained : Faults := { interrupts := fun kind => kind != some .release }

theorem contained_benign : contained.Benign := ⟨rfl, rfl⟩

variable {params : Params} {me : Nat} {origin before after world : World}

def NoneAlive (world : World) : Prop := ∀ worker, world.alive worker = false

structure Resting (world : World) : Prop where
  shut : world.closed = true → (world.conn = none ∧ world.token = none ∧ world.lease = 0 ∧
    world.eventSet world.stopEvent = true) ∧ NoneAlive world
  unset : world.closed = false → world.eventSet world.stopEvent = false
  bare : world.token = none → NoneAlive world → world.lease = 0

/-- What holds unless a caller has the instance to itself: the one worker that is alive is the
current one. -/
structure Steady (world : World) : Prop where
  lockers : ∀ thread, world.ioLock = some thread →
    world.stateLock = some thread ∨ ∃ worker, thread = .worker worker ∧ world.alive worker = true
  pastSet : ∀ event, event < world.stopEvent → world.eventSet event = true
  future : ∀ event, world.stopEvent < event → world.eventSet event = false
  workerPast : ∀ worker, worker < world.workers → world.workerEvent worker ≤ world.stopEvent
  startedMade : ∀ worker, world.started worker = true → worker < world.workers
  aliveStarted : ∀ worker, world.alive worker = true → world.started worker = true
  unmade : ∀ conn, world.conns ≤ conn → world.closedConn conn = false
  connMade : ∀ conn, world.conn = some conn → conn < world.conns
  joinable : ∀ worker, world.renewThread = some worker → world.started worker = true
  current : ∀ worker, world.alive worker = true → world.renewThread = some worker
  others : ∀ conn, conn < world.conns → world.conn ≠ some conn → world.closedConn conn = true ∨
    ∃ worker, world.alive worker = true ∧ world.inHand conn = some (.worker worker)
  resting : world.stateLock = none → Resting world

def Mine (me : Nat) (world : World) : Prop :=
  world.stateLock = some (.caller me) ∧ NoneAlive world

/-- What a worker has to itself: the I/O lock or not, and no open connection but a spare one. -/
structure Runs (me : Nat) (io : Bool) (spare : Option Nat) (world : World) : Prop where
  alive : world.alive me = true
  io : world.ioLock = some (.worker me) ↔ io = true
  hand : ∀ conn, conn < world.conns → world.inHand conn = some (.worker me) → spare ≠ some conn →
    world.closedConn conn = true ∨ world.conn = some conn

def Bare (world : World) : Prop := world.token = none → world.lease = 0

structure Own (me : Nat) (world : World) : Prop extends Runs me false none world where
  bare : Bare world

structure Spares (worker : Nat) (before after : World) : Prop where
  alive : after.alive worker = true
  ioLock : before.ioLock = some (.worker worker) ↔ after.ioLock = some (.worker worker)
  grant : after.token = before.token ∧ after.lease = before.lease
  conn : after.conn = before.conn ∨ after.conn = none
  conns : after.conns = before.conns
  closedConn : ∀ conn, before.closedConn conn = true → after.closedConn conn = true
  hand : ∀ conn, after.inHand conn = some (.worker worker) →
    before.inHand conn = some (.worker worker) ∧ (before.conn = some conn → after.conn = some conn)

structure CallerMove (me : Nat) (before after : World) : Prop where
  outside : before.stateLock ≠ some (.caller me) → after = before ∨ before.stateLock = none ∧
    after = { before with stateLock := some (.caller me), lastReturn := none }
  locks : ∀ thread, after.stateLock = some thread →
    before.stateLock = some thread ∨ thread = .caller me
  spares : ∀ worker, before.alive worker = true → Spares worker before after
  begins : ∀ worker, after.started worker = true → before.started worker = true ∨ Own worker after

structure Works (me : Nat) (before after : World) : Prop where
  same : (after.stateLock, after.closed, after.stopEvent, after.renewThread, after.eventSet,
      after.conns, after.started) =
    (before.stateLock, before.closed, before.stopEvent, before.renewThread, before.eventSet,
      before.conns, before.started)
  ioLock : ∀ thread, thread ≠ .worker me →
    (before.ioLock = some thread ↔ after.ioLock = some thread)
  conn : after.conn = before.conn ∨ after.conn = none
  closedConn : ∀ conn, before.closedConn conn = true → after.closedConn conn = true
  leaves : NoneAlive after → Bare after
  steady : Steady after

def WorkerMove (me : Nat) (before after : World) : Prop :=
  after = before ∨ before.alive me = true ∧ Works me before after

/-- Where a `wait` finds no token, the worker that has lost it has ended. -/
def contract : Contract Op Thread World Choice where
  invariant := fun world => (∃ me, Mine me world) ∨ Steady world
  guarantee := fun thread => match thread with
    | .caller me => CallerMove me
    | .worker me => WorkerMove me
  permitted := fun thread op _ world => (∃ me, thread = .caller me) → op = .getToken →
    world.token = none → NoneAlive world

theorem steady_alive {worker : Nat} (inv : contract.invariant world)
    (alive : world.alive worker = true) : Steady world := by
  rcases inv with ⟨me, _, none⟩ | steady
  · rw [none worker] at alive
    cases alive
  · exact steady

theorem Steady.alone {first second : Nat} (steady : Steady world)
    (left : world.alive first = true) (right : world.alive second = true) : first = second :=
  Option.some.inj ((steady.current first left).symm.trans (steady.current second right))

abbrev CallerTriple (params : Params) (me : Nat) {α : Type} (pre : World → Prop)
    (program : Py α) (post : α → World → Prop) (raised : PyError → World → Prop) : Prop :=
  Triple (machine contained params) contract (.caller me) pre program post raised

abbrev WorkerTriple (params : Params) (me : Nat) {α : Type} (pre : World → Prop)
    (program : Py α) (post : α → World → Prop) (raised : PyError → World → Prop) : Prop :=
  Triple (machine contained params) contract (.worker me) pre program post raised

/-! What workers know -/

theorem Runs.spared {io : Bool} {spare : Option Nat} (known : Runs me io spare before)
    (spares : Spares me before after) : Runs me io spare after where
  alive := spares.alive
  io := spares.ioLock.symm.trans known.io
  hand := by
    intro conn made held elsewhere
    rw [spares.conns] at made
    obtain ⟨held, kept⟩ := spares.hand conn held
    rcases known.hand conn made held elsewhere with closed | installed
    · exact .inl (spares.closedConn conn closed)
    · exact .inr (kept installed)

theorem Bare.spared (known : Bare before) (spares : Spares me before after) : Bare after := by
  intro gone
  rw [spares.grant.1] at gone
  rw [spares.grant.2]
  exact known gone

/-- What callers leave to a worker is stable: no other worker is alive. -/
theorem worker_stable {fact : World → Prop} (alive : ∀ world, fact world → world.alive me = true)
    (kept : ∀ before after, Spares me before after → fact before → fact after) :
    contract.Stable (.worker me) fact := by
  intro other different before after inv _ within known
  cases other with
  | caller id =>
      have move : CallerMove id before after := within
      exact kept before after (move.spares me (alive before known)) known
  | worker worker =>
      have move : WorkerMove worker before after := within
      rcases move with rfl | ⟨living, _⟩
      · exact known
      · have same := (steady_alive inv living).alone living (alive before known)
        exact absurd (congrArg Thread.worker same) different

theorem Steady.worked (steady : Steady before) (alive : before.alive me = true)
    (same : (after.stateLock, after.closed, after.stopEvent, after.renewThread, after.eventSet,
        after.conns, after.started) =
      (before.stateLock, before.closed, before.stopEvent, before.renewThread, before.eventSet,
        before.conns, before.started))
    (workers : (after.workers, after.workerEvent, after.alive) =
      (before.workers, before.workerEvent, before.alive))
    (io : ∀ thread, after.ioLock = some thread →
      before.ioLock = some thread ∨ thread = .worker me)
    (conn : after.conn = before.conn ∨ after.conn = none)
    (unmade : ∀ conn, before.conns ≤ conn → after.closedConn conn = false)
    (closed : ∀ conn, before.closedConn conn = true → after.closedConn conn = true)
    (hand : ∀ conn, before.conn = some conn ∨ before.inHand conn = some (.worker me) →
      after.conn = some conn ∨ after.inHand conn = some (.worker me)) : Steady after := by
  simp only [Prod.mk.injEq] at same workers
  obtain ⟨stateLock, isClosed, stopEvent, renewThread, eventSet, conns, started⟩ := same
  obtain ⟨made, events, living⟩ := workers
  have busy : ¬NoneAlive before := fun none => by simp [none me] at alive
  constructor
  · intro thread locked
    rw [stateLock, living]
    rcases io thread locked with before | rfl
    · exact steady.lockers thread before
    · exact .inr ⟨me, rfl, alive⟩
  · rw [stopEvent, eventSet]
    exact steady.pastSet
  · rw [stopEvent, eventSet]
    exact steady.future
  · rw [made, events, stopEvent]
    exact steady.workerPast
  · rw [started, made]
    exact steady.startedMade
  · rw [living, started]
    exact steady.aliveStarted
  · rw [conns]
    exact unmade
  · intro number installed
    rw [conns]
    rcases conn with kept | gone
    · exact steady.connMade number (kept.symm.trans installed)
    · rw [gone] at installed
      cases installed
  · rw [renewThread, started]
    exact steady.joinable
  · rw [living, renewThread]
    exact steady.current
  · intro number made elsewhere
    rw [conns] at made
    rw [living]
    by_cases installed : before.conn = some number
    · exact .inr ⟨me, alive, (hand number (.inl installed)).resolve_left elsewhere⟩
    · rcases steady.others number made installed with shut | ⟨worker, lives, held⟩
      · exact .inl (closed number shut)
      · cases steady.alone lives alive
        exact .inr ⟨me, alive, (hand number (.inr held)).resolve_left elsewhere⟩
  · intro free
    rw [stateLock] at free
    have rested := steady.resting free
    constructor
    · intro shut
      rw [isClosed] at shut
      exact absurd (rested.shut shut).2 busy
    · rw [isClosed, stopEvent, eventSet]
      exact rested.unset
    · intro _ none
      rw [NoneAlive, living] at none
      exact absurd none busy

def mild (op : Op) : Bool :=
  match op with
  | .getConn | .getToken | .getLease | .getClosed | .isSet _ | .waitEvent _ _ | .send _ _
  | .recv _ _ => true
  | _ => false

/-- Everything but the trace, what the trace is read for, and the auxiliary fields. -/
def tracked (world : World) :
    ((Option Thread × Bool × Nat × Option Nat × (Nat → Bool) × Nat × (Nat → Bool)) ×
      (Nat × (Nat → Nat) × (Nat → Bool))) ×
    (Option Thread × Option Nat × (Nat → Bool) × (Nat → Option Thread)) ×
      Option Str × Int :=
  (((world.stateLock, world.closed, world.stopEvent, world.renewThread, world.eventSet,
      world.conns, world.started),
    (world.workers, world.workerEvent, world.alive)),
    (world.ioLock, world.conn, world.closedConn, world.inHand), world.token, world.lease)

theorem exec_mild {thread : Thread} {op : Op} {choice : Choice} {result : op.Res}
    (plain : mild op = true)
    (executed : exec contained thread op choice before = some (result, after)) :
    tracked after = tracked before := by
  cases op <;> simp only [exec] at executed <;> try cases plain
  all_goals
    repeat' split at executed
    all_goals
      cases executed
      try rfl

theorem works_tracked (steady : Steady before) (alive : before.alive me = true)
    (same : tracked after = tracked before) : Works me before after := by
  simp only [tracked, Prod.mk.injEq] at same
  obtain ⟨⟨shared, workers⟩, ⟨ioLock, conn, closedConn, inHand⟩, token, lease⟩ := same
  have living : after.alive = before.alive := workers.2.2
  have busy : ¬NoneAlive after := fun none => by
    rw [NoneAlive, living] at none
    simp [none me] at alive
  refine ⟨by simpa only [Prod.mk.injEq] using shared, ?_, .inl conn, ?_,
    fun none => absurd none busy, ?_⟩
  · intro thread _
    rw [ioLock]
  · rw [closedConn]
    exact fun _ => id
  · refine steady.worked alive (by simpa only [Prod.mk.injEq] using shared)
      (by simpa only [Prod.mk.injEq] using workers) ?_ (.inl conn) ?_ ?_ ?_
    · rw [ioLock]
      exact fun _ => .inl
    · rw [closedConn]
      exact steady.unmade
    · rw [closedConn]
      exact fun _ => id
    · rw [conn, inHand]
      exact fun _ => id

structure Fact (me : Nat) (fact : World → Prop) : Prop where
  alive : ∀ world, fact world → world.alive me = true
  spared : ∀ before after, Spares me before after → fact before → fact after
  tracked : ∀ before after, tracked after = tracked before → fact before → fact after

theorem Fact.and {first second : World → Prop} (left : Fact me first)
    (spared : ∀ before after, Spares me before after → second before → second after)
    (unmoved : ∀ before after, Patient.tracked after = Patient.tracked before → second before →
      second after) : Fact me fun world => first world ∧ second world where
  alive := fun world known => left.alive world known.1
  spared := fun before after spares known =>
    ⟨left.spared before after spares known.1, spared before after spares known.2⟩
  tracked := fun before after same known =>
    ⟨left.tracked before after same known.1, unmoved before after same known.2⟩

theorem Runs.fact {io : Bool} {spare : Option Nat} : Fact me (Runs me io spare) where
  alive := fun _ known => known.alive
  spared := fun _ _ spares known => known.spared spares
  tracked := by
    intro before after same known
    simp only [tracked, Prod.mk.injEq] at same
    obtain ⟨⟨⟨_, _, _, _, _, conns, _⟩, _, _, alive⟩, ⟨ioLock, conn, closedConn, inHand⟩, _⟩ := same
    constructor
    · rw [alive]
      exact known.alive
    · rw [ioLock]
      exact known.io
    · rw [conns, inHand, closedConn, conn]
      exact known.hand

theorem Bare.tracked (same : tracked after = tracked before) (known : Bare before) :
    Bare after := by
  simp only [Patient.tracked, Prod.mk.injEq] at same
  obtain ⟨_, _, token, lease⟩ := same
  rw [Bare, token, lease]
  exact known

theorem worker_op {op : Op} {pre : World → Prop} {post : op.Res → World → Prop}
    {raised : PyError → World → Prop} (fact : Fact me pre)
    (effect : ∀ world choice result after, Steady world → pre world →
      exec contained (.worker me) op choice world = some (result, after) →
      Works me world after ∧ post result after) :
    WorkerTriple params me pre (perform op) post raised := by
  refine Triple.perform rfl (worker_stable fact.alive fact.spared) ?_
  intro world choice result after inv known _ executed
  have alive := fact.alive world known
  obtain ⟨works, ended⟩ := effect world choice result after (steady_alive inv alive) known executed
  exact ⟨.inr ⟨alive, works⟩, .inr works.steady, ended⟩

theorem mild_op {op : Op} {pre : World → Prop} {raised : PyError → World → Prop}
    (plain : mild op = true) (fact : Fact me pre) :
    WorkerTriple params me pre (perform op) (fun _ => pre) raised := by
  refine worker_op fact ?_
  intro world choice result after steady known executed
  have same := exec_mild plain executed
  exact ⟨works_tracked steady (fact.alive world known) same, fact.tracked world after same known⟩

theorem mild_uses {α : Type} {program : Py α} {pre : World → Prop} (fact : Fact me pre)
    (uses : program.Uses fun op => mild op = true) :
    WorkerTriple params me pre program (fun _ => pre) (fun _ => pre) :=
  Triple.uses uses fun _ plain => mild_op plain fact

theorem not_noneAlive (alive : world.alive me = true) : ¬NoneAlive world := fun none => by
  simp [none me] at alive

theorem lockIo_triple {raised : PyError → World → Prop} :
    WorkerTriple params me (Own me) (perform .lockIo)
      (fun _ world => Runs me true none world ∧ Bare world) raised := by
  have fact : Fact me fun world => Runs me false none world ∧ Bare world :=
    Runs.fact.and (fun _ _ spares known => known.spared spares) fun _ _ same known =>
      known.tracked same
  refine Triple.pre (worker_op fact ?_) fun _ _ known => ⟨known.toRuns, known.bare⟩
  rintro world choice result after steady ⟨runs, bare⟩ executed
  simp only [exec, Option.ite_none_right_eq_some, Option.some.injEq, Prod.mk.injEq] at executed
  obtain ⟨free, _, rfl⟩ := executed
  refine ⟨⟨rfl, ?_, .inl rfl, fun _ => id, fun none => absurd none (not_noneAlive runs.alive), ?_⟩,
    ⟨runs.alive, by simp, runs.hand⟩, bare⟩
  · intro thread different
    simp [free, Ne.symm different]
  · refine steady.worked runs.alive rfl rfl ?_ (.inl rfl) steady.unmade (fun _ => id) fun _ => id
    intro thread locked
    exact .inr (Option.some.inj locked).symm

theorem unlockIo_triple {raised : PyError → World → Prop} :
    WorkerTriple params me (fun world => Runs me true none world ∧ Bare world) (perform .unlockIo)
      (fun _ => Own me) raised := by
  have fact : Fact me fun world => Runs me true none world ∧ Bare world :=
    Runs.fact.and (fun _ _ spares known => known.spared spares) fun _ _ same known =>
      known.tracked same
  refine worker_op fact ?_
  rintro world choice result after steady ⟨runs, bare⟩ executed
  cases executed
  have locked := runs.io.mpr rfl
  refine ⟨⟨rfl, ?_, .inl rfl, fun _ => id, fun none => absurd none (not_noneAlive runs.alive), ?_⟩,
    ⟨runs.alive, by simp, runs.hand⟩, bare⟩
  · intro thread different
    simp [locked, Ne.symm different]
  · refine steady.worked runs.alive rfl rfl ?_ (.inl rfl) steady.unmade (fun _ => id) fun _ => id
    intro thread locked
    cases locked

structure Attends (me : Nat) (spare : Option Nat) (conn : Nat) (world : World) : Prop extends
    Runs me true spare world where
  made : conn < world.conns
  only : ∀ other, world.conn = some other → other = conn

theorem Attends.fact {spare : Option Nat} {conn : Nat} : Fact me (Attends me spare conn) where
  alive := fun _ known => known.alive
  spared := by
    intro before after spares known
    refine ⟨known.toRuns.spared spares, ?_, ?_⟩
    · rw [spares.conns]
      exact known.made
    · intro other installed
      rcases spares.conn with kept | gone
      · exact known.only other (kept.symm.trans installed)
      · rw [gone] at installed
        cases installed
  tracked := by
    intro before after same known
    refine ⟨Runs.fact.tracked before after same known.toRuns, ?_, ?_⟩
    all_goals
      simp only [tracked, Prod.mk.injEq] at same
      obtain ⟨⟨⟨_, _, _, _, _, conns, _⟩, _⟩, ⟨_, conn, _⟩, _⟩ := same
    · rw [conns]
      exact known.made
    · rw [conn]
      exact known.only

theorem Attends.bare {spare : Option Nat} {conn : Nat} :
    Fact me fun world => Attends me spare conn world ∧ Bare world :=
  Attends.fact.and (fun _ _ spares known => known.spared spares) fun _ _ same known =>
    known.tracked same

theorem closeConn_triple {spare : Option Nat} {conn : Nat} {raised : PyError → World → Prop}
    (same : ∀ other, spare = some other → other = conn) :
    WorkerTriple params me (fun world => Attends me spare conn world ∧ Bare world)
      (perform (.closeConn conn)) (fun _ world => Attends me none conn world ∧ Bare world)
      raised := by
  refine worker_op Attends.bare ?_
  rintro world choice result after steady ⟨attends, bare⟩ executed
  cases executed
  refine ⟨⟨rfl, fun _ _ => Iff.rfl, .inl rfl, fun _ => closed_update,
    fun none => absurd none (not_noneAlive attends.alive), ?_⟩,
    ⟨⟨attends.alive, attends.io, ?_⟩, attends.made, attends.only⟩, bare⟩
  · exact steady.worked attends.alive rfl rfl (fun _ => .inl) (.inl rfl)
      (unmade_update steady.unmade attends.made) (fun _ => closed_update) fun _ => id
  · intro number made held _
    by_cases spared : spare = some number
    · cases same number spared
      exact .inl (by simp)
    · exact (attends.hand number made held spared).imp closed_update id

theorem protoRenew_triple {conn : Nat} {token : Str} :
    WorkerTriple params me (fun world => Attends me none conn world ∧ Bare world)
      (protoRenew params (some conn) token)
      (fun _ world => Attends me none conn world ∧ Bare world)
      (fun _ world => Attends me none conn world ∧ Bare world) := by
  have uses : (protoRenew params (some conn) token).Uses fun op =>
      mild op = true ∨ op = .closeConn conn :=
    Locks.exchange_uses (fun _ _ => .inl rfl) (fun _ _ => .inl rfl) fun _ same => by
      cases same
      exact .inr rfl
  refine Triple.uses uses fun op plain => ?_
  rcases plain with plain | rfl
  · exact mild_op plain Attends.bare
  · exact closeConn_triple nofun

theorem dropGrant_triple {conn : Nat} {raised : PyError → World → Prop} :
    WorkerTriple params me (Attends me (some conn) conn) clearHeldState
      (fun _ world => Attends me (some conn) conn world ∧ Bare world) raised := by
  refine Triple.bind (show WorkerTriple params me (Attends me (some conn) conn)
    (perform (.setToken none)) (fun _ => Attends me (some conn) conn) raised from ?_) fun _ => ?_
  · refine worker_op Attends.fact ?_
    intro world choice result after steady attends executed
    cases executed
    refine ⟨⟨rfl, fun _ _ => Iff.rfl, .inl rfl, fun _ => id,
      fun none => absurd none (not_noneAlive attends.alive), ?_⟩, { attends with }⟩
    exact steady.worked attends.alive rfl rfl (fun _ => .inl) (.inl rfl) steady.unmade
      (fun _ => id) fun _ => id
  · refine worker_op Attends.fact ?_
    intro world choice result after steady attends executed
    cases executed
    refine ⟨⟨rfl, fun _ _ => Iff.rfl, .inl rfl, fun _ => id,
      fun none => absurd none (not_noneAlive attends.alive), ?_⟩, { attends with }, fun _ => rfl⟩
    exact steady.worked attends.alive rfl rfl (fun _ => .inl) (.inl rfl) steady.unmade
      (fun _ => id) fun _ => id

theorem logRenewFailure_mild {event : Nat} :
    (logRenewFailure event).Uses fun op => mild op = true := by
  refine .bind (.perform rfl) fun closed => ?_
  split
  · exact .ret
  · refine .bind (.perform rfl) fun set => ?_
    split
    · exact .ret
    · exact .discard (.perform rfl)

theorem handleRenewFailure_triple {conn event : Nat} :
    WorkerTriple params me (fun world => Attends me none conn world ∧ Bare world)
      (handleRenewFailure conn event) (fun _ world => Attends me none conn world ∧ Bare world)
      (fun _ world => Attends me none conn world ∧ Bare world) := by
  refine (mild_uses Attends.bare logRenewFailure_mild).bind fun _ => ?_
  refine (mild_op rfl Attends.bare).bind fun found => ?_
  split
  · have takes : WorkerTriple params me (fun world => Attends me none conn world ∧ Bare world)
        (perform (.setConn none)) (fun _ => Attends me (some conn) conn)
        (fun _ world => Attends me none conn world ∧ Bare world) := by
      refine worker_op Attends.bare ?_
      rintro world choice result after steady ⟨attends, bare⟩ executed
      cases executed
      refine ⟨⟨rfl, fun _ _ => Iff.rfl, .inr rfl, fun _ => id,
        fun none => absurd none (not_noneAlive attends.alive), ?_⟩,
        ⟨⟨attends.alive, attends.io, ?_⟩, attends.made, fun _ installed => by cases installed⟩⟩
      · refine steady.worked attends.alive rfl rfl (fun _ => .inl) (.inr rfl) steady.unmade
          (fun _ => id) fun number known => .inr ?_
        simp only [World.setConn, reduceCtorEq, if_false]
        split
        · rfl
        · rename_i elsewhere
          exact known.resolve_left elsewhere
      · intro number made held elsewhere
        simp only [World.setConn, reduceCtorEq, if_false] at held
        split at held
        · rename_i installed
          exact absurd (congrArg some (attends.only number installed).symm) elsewhere
        · rename_i absent
          exact .inl ((attends.hand number made held (by simp)).resolve_right absent)
    refine takes.bind fun _ => dropGrant_triple.bind fun _ => closeConn_triple ?_
    rintro other ⟨⟩
    rfl
  · exact .ret fun _ _ known => known

theorem safeRenewOnce_triple {event : Nat} :
    WorkerTriple params me (fun world => Runs me true none world ∧ Bare world)
      (safeRenewOnce params event) (fun _ world => Runs me true none world ∧ Bare world)
      (fun _ world => Runs me true none world ∧ Bare world) := by
  have fact : Fact me fun world => Runs me true none world ∧ Bare world :=
    Runs.fact.and (fun _ _ spares known => known.spared spares) fun _ _ same known =>
      known.tracked same
  have found : WorkerTriple params me (fun world => Runs me true none world ∧ Bare world)
      (perform .getConn)
      (fun installed world => (Runs me true none world ∧ Bare world) ∧
        ∀ conn, installed = some conn → Attends me none conn world)
      (fun _ world => Runs me true none world ∧ Bare world) := by
    refine worker_op fact ?_
    intro world choice result after steady known executed
    cases executed
    refine ⟨works_tracked steady known.1.alive rfl, known, fun conn installed => ?_⟩
    refine ⟨known.1, steady.connMade conn installed, fun other same => ?_⟩
    exact Option.some.inj (same.symm.trans installed)
  refine found.bind fun installed => ?_
  cases installed with
  | none =>
      refine (Triple.pre (mild_op rfl fact) fun _ _ known => known.1).bind fun token => ?_
      exact .ret fun _ _ known => known
  | some conn =>
      refine (Triple.pre (mild_op rfl (@Attends.bare me none conn)) fun _ _ known =>
        ⟨known.2 conn rfl, known.1.2⟩).bind fun token => ?_
      have back : ∀ world, Attends me none conn world ∧ Bare world →
          Runs me true none world ∧ Bare world := fun _ known => ⟨known.1.toRuns, known.2⟩
      cases token with
      | none => exact .ret fun _ _ known => back _ known
      | some token =>
          refine Triple.handle (protoRenew_triple.bind fun remaining =>
            .ret fun _ _ known => back _ known) fun error => ?_
          split
          · refine handleRenewFailure_triple.weaken (fun _ _ known => known)
              (fun _ _ _ known => known) (fun _ _ _ known => back _ known) |>.bind fun _ => ?_
            exact .ret fun _ _ known => back _ known
          · exact .raise fun _ _ known => back _ known

/-! Rounds -/

theorem Own.fact : Fact me (Own me) where
  alive := fun _ known => known.alive
  spared := fun _ _ spares known => ⟨known.toRuns.spared spares, known.bare.spared spares⟩
  tracked := fun _ _ same known =>
    ⟨Runs.fact.tracked _ _ same known.toRuns, known.bare.tracked same⟩

theorem renewTick_triple {event : Nat} :
    WorkerTriple params me (Own me) (renewTick params event) (fun _ => Own me)
      (fun _ => Own me) := by
  have fact : Fact me fun world => Runs me true none world ∧ Bare world :=
    Runs.fact.and (fun _ _ spares known => known.spared spares) fun _ _ same known =>
      known.tracked same
  have renews : WorkerTriple params me (fun world => Runs me true none world ∧ Bare world)
      (do
        if ← perform .getClosed then
          pure none
        else if ← perform (.isSet event) then
          pure none
        else
          safeRenewOnce params event)
      (fun _ world => Runs me true none world ∧ Bare world)
      (fun _ world => Runs me true none world ∧ Bare world) := by
    refine (mild_op rfl fact).bind fun closed => ?_
    split
    · exact .ret fun _ _ known => known
    · refine (mild_op rfl fact).bind fun set => ?_
      split
      · exact .ret fun _ _ known => known
      · exact safeRenewOnce_triple
  exact lockIo_triple.bind fun _ =>
    Triple.ensure renews (fun _ => unlockIo_triple) fun _ => unlockIo_triple

theorem updateLease_triple {remaining : Int} :
    WorkerTriple params me (Own me) (updateLease remaining) (fun _ => Own me)
      (fun _ => Own me) := by
  unfold updateLease
  split
  · have holding : Fact me fun world => Own me world ∧ world.token ≠ none := by
      refine Own.fact.and (fun _ _ spares known => ?_) fun _ _ same known => ?_
      · rw [spares.grant.1]
        exact known
      · simp only [tracked, Prod.mk.injEq] at same
        rw [same.2.2.1]
        exact known
    have found : WorkerTriple params me (Own me) (perform .getToken)
        (fun token world => Own me world ∧ (token.isSome = true → world.token ≠ none))
        (fun _ => Own me) := by
      refine worker_op Own.fact ?_
      intro world choice result after steady own executed
      cases executed
      exact ⟨works_tracked steady own.alive rfl, own, fun held none => by simp [none] at held⟩
    refine found.bind fun token => ?_
    split
    · rename_i held
      have holds (world : World)
          (known : Own me world ∧ (token.isSome = true → world.token ≠ none)) :
          Own me world ∧ world.token ≠ none := ⟨known.1, known.2 held⟩
      refine Triple.pre ((mild_op rfl holding).bind fun closed => ?_) fun world _ => holds world
      split
      · exact .ret fun _ _ known => known.1
      · refine worker_op holding ?_
        rintro world choice result after steady ⟨own, kept⟩ executed
        cases executed
        refine ⟨⟨rfl, fun _ _ => Iff.rfl, .inl rfl, fun _ => id,
          fun none => absurd none (not_noneAlive own.alive), ?_⟩,
          { own with bare := fun gone => absurd gone kept }⟩
        exact steady.worked own.alive rfl rfl (fun _ => .inl) (.inl rfl) steady.unmade
          (fun _ => id) fun _ => id
    · exact .ret fun _ _ known => known.1
  · exact .ret fun _ _ known => known

theorem endThread_triple {raised : PyError → World → Prop} :
    WorkerTriple params me (Own me) (perform .endThread) (fun _ _ => True) raised := by
  refine worker_op Own.fact ?_
  intro world choice result after steady own executed
  cases executed
  have alive {worker : Nat} (still : Function.update world.alive me false worker = true) :
      worker ≠ me ∧ world.alive worker = true := by
    by_cases same : worker = me
    · simp [same] at still
    · exact ⟨same, by simpa only [Function.update_of_ne same] using still⟩
  refine ⟨⟨rfl, fun _ _ => Iff.rfl, .inl rfl, fun _ => id, fun _ => own.bare, ?_⟩, trivial⟩
  refine { steady with
    lockers := ?_
    aliveStarted := ?_
    current := ?_
    others := ?_
    resting := ?_ }
  · intro thread locked
    rcases steady.lockers thread locked with caller | ⟨worker, rfl, lives⟩
    · exact .inl caller
    · have different : worker ≠ me := by
        rintro rfl
        exact absurd (own.io.mp locked) (by simp)
      exact absurd (steady.alone lives own.alive) different
  · exact fun worker still => steady.aliveStarted worker (alive still).2
  · exact fun worker still => steady.current worker (alive still).2
  · intro conn made elsewhere
    rcases steady.others conn made elsewhere with closed | ⟨worker, lives, held⟩
    · exact .inl closed
    · cases steady.alone lives own.alive
      exact .inl ((own.hand conn made held nofun).resolve_right elsewhere)
  · intro free
    have rested := steady.resting free
    refine ⟨fun closed => ?_, rested.unset, fun gone _ => own.bare gone⟩
    exact absurd (rested.shut closed).2 (not_noneAlive own.alive)

def WorkerRest (me : Nat) (outcome : Except PyError WorkerState) (world : World) : Prop :=
  match outcome with
  | .ok .fresh => world.started me = true → Own me world
  | .ok (.sleeping _ _) => Own me world
  | _ => True

theorem finish_triple {raised : PyError → World → Prop} :
    WorkerTriple params me (Own me)
      (perform .endThread >>= fun _ => (pure .done : Py WorkerState))
      (fun state => WorkerRest me (.ok state)) raised :=
  endThread_triple.bind fun _ => .ret fun _ _ _ => trivial

theorem renewRound_triple {event : Nat} {interval : Rat} :
    WorkerTriple params me (Own me) (renewRound params event interval)
      (fun state => WorkerRest me (.ok state)) (fun error => WorkerRest me (.error error)) := by
  refine (mild_op rfl Own.fact).bind fun set => ?_
  split
  · exact finish_triple
  · refine (renewTick_triple.weaken (fun _ _ known => known) (fun _ _ _ known => known)
      (fun _ _ _ _ => trivial)).bind fun result => ?_
    cases result with
    | none => exact finish_triple
    | some remaining =>
        refine (mild_op rfl Own.fact).bind fun set => ?_
        split
        · exact finish_triple
        · refine (updateLease_triple.weaken (fun _ _ known => known) (fun _ _ _ known => known)
            (fun _ _ _ _ => trivial)).bind fun _ => ?_
          exact .ret fun _ _ known => known

theorem WorkerRest.stable {outcome : Except PyError WorkerState} :
    contract.Stable (.worker me) (WorkerRest me outcome) := by
  have owns : contract.Stable (.worker me) (Own me) := worker_stable Own.fact.alive Own.fact.spared
  cases outcome with
  | error error => exact .const
  | ok state =>
      cases state with
      | done => exact .const
      | sleeping event interval => exact owns
      | fresh =>
          intro other different before after inv inv' within known started
          have kept (own : Own me before) : Own me after :=
            owns other different before after inv inv' within own
          cases other with
          | caller id =>
              have move : CallerMove id before after := within
              rcases move.begins me started with earlier | own
              · exact kept (known earlier)
              · exact own
          | worker worker =>
              have move : WorkerMove worker before after := within
              rcases move with rfl | ⟨_, works⟩
              · exact known started
              · have same := works.same
                simp only [Prod.mk.injEq] at same
                rw [same.2.2.2.2.2.2] at started
                exact kept (known started)

theorem renewLoop_triple :
    WorkerTriple params me (WorkerRest me (.ok .fresh)) (renewLoop params)
      (fun state => WorkerRest me (.ok state)) (fun error => WorkerRest me (.error error)) := by
  have begins : WorkerTriple params me (WorkerRest me (.ok .fresh)) (perform .beginThread)
      (fun _ => Own me) (fun error => WorkerRest me (.error error)) := by
    refine Triple.perform rfl WorkerRest.stable ?_
    intro world choice result after inv known _ executed
    have executed : (if world.started me then some (world.workerEvent me, world) else none) =
        some (result, after) := executed
    split at executed
    · rename_i started
      cases executed
      exact ⟨.inl rfl, inv, known started⟩
    · cases executed
  refine begins.bind fun event => (mild_op rfl Own.fact).bind fun lease => ?_
  exact .ret fun _ _ known => known

end DflockdClient.Sync.Patient
