import DflockdClient.AsyncContract

/-! What a caller of an asynchronous instance knows at each await of an operation. -/

namespace DflockdClient.Async.Shared

open Interleaving Session
open Sync (Event)

variable {params : Params} {gentle : Bool} {me : Nat} {before after world : World}

/-- In an operation, inside or outside the I/O lock, with at most one open connection in hand. -/
structure Busy (me : Nat) (io : Bool) (hand : Option Nat) (world : World) : Prop where
  lock : world.stateLock = some (.caller me)
  io : world.ioLock = some (.caller me) ↔ io = true
  hand : ∀ conn, world.inHand conn = some (.caller me) → Open world conn → hand = some conn

theorem Busy.kept {io : Bool} {hand : Option Nat} : Kept params gentle me (Busy me io hand) where
  worker := by
    intro worker before after move _ _ known
    have same := move.same
    simp only [Prod.mk.injEq] at same
    refine ⟨same.1.trans known.lock, (move.ioLock _ (by simp)).symm.trans known.io, ?_⟩
    intro conn held opened
    exact known.hand conn (move.inHand me conn held) (move.closed conn opened)
  other := by
    intro before after same known
    rw [same.same]
    exact ⟨known.lock, known.io, known.hand⟩

theorem connNone_kept : Kept params gentle me fun world => world.conn = none where
  worker := by
    intro worker before after move _ _ known
    rcases move.drop with ⟨same, _⟩ | ⟨_, _, gone, _⟩
    · exact same.trans known
    · exact gone
  other := by
    intro before after same known
    rw [same.same]
    exact known

theorem closed_kept {closed : Bool} : Kept params gentle me fun world => world.closed = closed where
  worker := by
    intro worker before after move _ _ known
    have same := move.same
    simp only [Prod.mk.injEq] at same
    exact same.2.1.trans known
  other := by
    intro before after same known
    rw [same.same]
    exact known

theorem taskNone_kept : Kept params gentle me fun world => world.renewTask = none where
  worker := by
    intro worker before after move _ _ known
    have same := move.same
    simp only [Prod.mk.injEq] at same
    exact same.2.2.2.2.trans known
  other := by
    intro before after same known
    rw [same.same]
    exact known

theorem made_kept {conn : Nat} : Kept params gentle me fun world => conn < world.conns where
  worker := by
    intro worker before after move _ _ known
    have same := move.same
    simp only [Prod.mk.injEq] at same
    rw [same.2.2.1]
    exact known
  other := by
    intro before after same known
    rw [same.same]
    exact known

theorem asking_kept {conn : Nat} :
    Kept params gentle me fun world => world.conn = some conn ∧ world.token = none where
  worker := by
    intro worker before after move _ _ known
    rcases move.drop with ⟨conn, token⟩ | ⟨_, held, _⟩
    · exact ⟨conn.trans known.1, token.trans known.2⟩
    · exact absurd known.2 held
  other := by
    intro before after same known
    rw [same.same]
    exact known

theorem locked_same {worker : Nat} (move : WorkerMove params worker before after)
    (held : before.ioLock = some (.caller me)) :
    after.conn = before.conn ∧ after.token = before.token ∧ ∀ conn, Open after conn →
      stageOn params after.trace conn = stageOn params before.trace conn := by
  refine ⟨?_, ?_, ?_⟩
  · rcases move.drop with ⟨same, _⟩ | ⟨free, _⟩
    · exact same
    · simp [held] at free
  · rcases move.drop with ⟨_, same⟩ | ⟨free, _⟩
    · exact same
    · simp [held] at free
  · intro conn opened
    rcases move.stage conn opened with same | ⟨free, _⟩
    · exact same
    · simp [held] at free

/-- The connection stands at a stage, if it is open. -/
structure Standing (params : Params) (alive : Prop) (conn : Nat) (stage : Stage) (world : World) :
    Prop where
  opened : alive → Open world conn
  stage : Open world conn → stageOn params world.trace conn = some stage

theorem Standing.kept {alive : Prop} {conn : Nat} {stage : Stage} (idle : ¬Serving (some stage)) :
    Kept params gentle me (Standing params alive conn stage) where
  worker := by
    intro worker before after move _ _ known
    constructor
    · intro living
      by_contra shut
      have serving := move.shuts conn (known.opened living) shut
      rw [known.stage (known.opened living)] at serving
      exact idle serving
    · intro opened
      have standing := known.stage (move.closed conn opened)
      rcases move.stage conn opened with same | ⟨_, serving⟩
      · exact same.trans standing
      · rw [standing] at serving
        exact absurd serving idle
  other := by
    intro before after same known
    rw [same.same]
    exact ⟨known.opened, known.stage⟩

theorem Queued.kept : Kept params gentle me (Queued params) where
  worker := by
    intro worker before after move inv held known conn connEq tokenEq
    have kept : before.conn = some conn ∧ before.token = none := by
      rcases move.drop with ⟨sameConn, sameToken⟩ | ⟨_, _, gone, _⟩
      · exact ⟨sameConn ▸ connEq, sameToken ▸ tokenEq⟩
      · rw [gone] at connEq
        cases connEq
    obtain ⟨opened, queued, forgotten⟩ := known conn kept.1 kept.2
    have standing : Standing params True conn .queued before := ⟨fun _ => opened, fun _ => queued⟩
    have kept : Kept params gentle me (Standing params True conn .queued) :=
      Standing.kept (by simp [Serving])
    have standing' := kept.worker worker before after move inv held standing
    have same := move.same
    simp only [Prod.mk.injEq] at same
    exact ⟨standing'.opened trivial, standing'.stage (standing'.opened trivial),
      same.2.2.2.2.trans forgotten⟩
  other := by
    intro before after same known
    rw [same.same]
    exact known

theorem Live.of_untouched {worker : Nat} (same : Untouched before after) :
    Live after worker ↔ Live before worker := by
  have outcome : after.outcome = before.outcome := by rw [same.same]
  simp only [Live, same.workers worker, outcome]

theorem Core.untouched (core : Core params before) (same : Untouched before after) :
    Core params after := by
  have live (worker : Nat) : Live after worker ↔ Live before worker := Live.of_untouched same
  have stale := fun worker (made : worker < before.workers) living =>
    core.stale worker made ((live worker).mp living)
  have future := fun worker (beyond : before.workers ≤ worker) =>
    (⟨(live worker).mpr (core.future worker beyond).1, (core.future worker beyond).2⟩ :
      Live after worker ∧ before.renewTask ≠ some worker)
  revert stale future
  rw [same.same]
  intro stale future
  exact { core with stale := stale, future := future }

theorem Invariant.untouched (inv : Invariant params gentle before) (same : Untouched before after) :
    Invariant params gentle after := by
  have core := inv.toCore.untouched same
  have live (worker : Nat) : Live after worker ↔ Live before worker := Live.of_untouched same
  have watched := fun held worker taskEq =>
    (⟨(live worker).mpr (inv.watched held worker taskEq).1,
      (inv.watched held worker taskEq).2⟩ : Live after worker ∧ _)
  have unwatched := fun free worker taskEq =>
    fun living => inv.unwatched free worker taskEq ((live worker).mp living)
  revert core watched unwatched
  rw [same.same]
  intro core watched unwatched
  exact { core with
    settled := inv.settled, watched := watched, unwatched := unwatched, rested := inv.rested }

structure Dropped (before after : World) : Prop where
  same : after = { before with
    renewTask := none, cancelling := after.cancelling, undelivered := after.undelivered }
  live : ∀ worker, Live after worker ↔ Live before worker ∧ before.renewTask ≠ some worker
  callers : ∀ id, after.cancelling (.caller id) = before.cancelling (.caller id) ∧
    after.undelivered (.caller id) = before.undelivered (.caller id)

theorem Counted.of_same {id : Nat}
    (same : after.cancelling (.caller id) = before.cancelling (.caller id) ∧
      after.undelivered (.caller id) = before.undelivered (.caller id)) :
    Counted id before after := by
  refine ⟨Nat.le_of_eq same.1.symm, fun known => same.2.trans known, ?_⟩
  intro less
  rw [same.1] at less
  exact absurd less (Nat.lt_irrefl _)

theorem Dropped.core (dropped : Dropped before after) (core : Core params before) :
    Core params after := by
  obtain ⟨same, live, _⟩ := dropped
  generalize after.cancelling = cancelling at same
  generalize after.undelivered = undelivered at same
  subst same
  refine { core with stale := ?_, future := ?_ }
  · intro worker made living
    have known := (live worker).mp living
    exact absurd (core.stale worker made known.1) known.2
  · intro worker beyond
    exact ⟨(live worker).mpr (core.future worker beyond), by simp⟩

theorem Invariant.forgotten (core : Core params world) (settled : Settled params world)
    (held : world.stateLock = some (.caller me)) (gone : world.renewTask = none) :
    Invariant params gentle world where
  toCore := core
  settled := settled
  watched := fun _ worker taskEq => by simp [gone] at taskEq
  unwatched := fun _ worker taskEq => by simp [gone] at taskEq
  rested := fun free => by simp [held] at free

theorem outside_held (held : before.stateLock = some (.caller me)) (other : Nat)
    (holds : before.stateLock = some (.caller other)) (different : other ≠ me) :
    Untouched before after := by
  rw [held] at holds
  cases holds
  exact absurd rfl different

theorem CallerMove.within (held : before.stateLock = some (.caller me))
    (same : (after.stateLock, after.ioLock, after.outcome, after.cancelling, after.undelivered) =
      (before.stateLock, before.ioLock, before.outcome, before.cancelling, before.undelivered))
    (stage : ∀ conn, Open after conn →
      stageOn params after.trace conn = stageOn params before.trace conn ∨
        ¬Renewing (stageOn params before.trace conn) ∧
          ¬Renewing (stageOn params after.trace conn))
    (closed : ∀ conn, Open after conn → Open before conn)
    (serves : ∀ conn, Open after conn → Renewing (stageOn params before.trace conn) →
      before.conn = some conn → after.conn = some conn ∧ after.token = before.token ∧
        (after.renewTask = before.renewTask ∨ after.renewTask = none))
    (renewed : ∀ worker, worker < before.workers → after.renewTask = some worker →
      before.renewTask = some worker ∧ after.conn = before.conn ∧ after.token = before.token)
    (conns : before.conns ≤ after.conns) (workers : before.workers ≤ after.workers) :
    CallerMove params me before after := by
  simp only [Prod.mk.injEq] at same
  obtain ⟨stateLock, ioLock, outcome, cancelling, undelivered⟩ := same
  exact {
    outside := outside_held held
    taken := fun thread held => .inr (stateLock ▸ held)
    ioWorker := fun worker => by rw [ioLock]
    stage := stage
    closed := closed
    serves := serves
    renewed := renewed
    conns := conns
    workers := workers
    outcome := outcome
    counted := fun other _ => .of_same ⟨by rw [cancelling], by rw [undelivered]⟩ }

theorem Dropped.move (dropped : Dropped before after) (held : before.stateLock = some (.caller me)) :
    CallerMove params me before after := by
  obtain ⟨same, _, callers⟩ := dropped
  generalize after.cancelling = cancelling at same
  generalize after.undelivered = undelivered at same
  subst same
  exact { CallerMove.refl with
    outside := outside_held held
    serves := fun _ _ _ connEq => ⟨connEq, rfl, .inr rfl⟩
    renewed := fun _ _ taskEq => by cases taskEq
    counted := fun other _ => .of_same (callers other) }

def detached (me : Nat) (world : World) : World :=
  { ({ world with closed := true }).setConn (.caller me) none with token := none, lease := 0 }

def closing (conn : Nat) (world : World) : World :=
  { world with closedConn := Function.update world.closedConn conn true }

def shutDown (me : Nat) (world : World) : World :=
  match world.conn with
  | none => detached me world
  | some conn => closing conn (detached me world)

theorem open_closing {conn other : Nat} :
    Open (closing conn world) other ↔ Open world other ∧ other ≠ conn := by
  by_cases same : other = conn
  · simp [Open, closing, same]
  · simp [Open, closing, same, Function.update_of_ne]

/-- What is left of an instance that was taken down. -/
structure Shut (me : Nat) (before after : World) : Prop where
  same : after = { before with
    closed := true, conn := none, token := none, lease := 0,
    inHand := after.inHand, closedConn := after.closedConn }
  opened : ∀ conn, Open after conn ↔ Open before conn ∧ before.conn ≠ some conn
  inHand : ∀ conn, Open after conn → after.inHand conn = before.inHand conn

theorem shutDown_shut : Shut me before (shutDown me before) := by
  cases connEq : before.conn with
  | none =>
      simp only [shutDown, connEq]
      exact ⟨rfl, by simp [Open, detached, World.setConn, connEq],
        fun _ _ => by simp [detached, World.setConn, connEq]⟩
  | some conn =>
      simp only [shutDown, connEq]
      refine ⟨rfl, ?_, ?_⟩
      · intro other
        rw [open_closing, connEq]
        simp only [Open, detached, World.setConn, ne_eq, Option.some.injEq]
        exact and_congr_right fun _ => not_congr eq_comm
      · intro other opened
        have different := (open_closing.mp opened).2
        simp [closing, detached, World.setConn, connEq, Ne.symm different]

theorem Shut.core (shut : Shut me before after) (core : Core params before) : Core params after := by
  obtain ⟨same, opened, inHand⟩ := shut
  generalize after.inHand = hands at same inHand
  generalize after.closedConn = closedConn at same
  subst same
  have earlier : ∀ conn, Open { before with
      closed := true, conn := none, token := none, lease := 0,
      inHand := hands, closedConn := closedConn } conn → Open before conn :=
    fun conn now => ((opened conn).mp now).1
  refine { core with
    unmade := ?_
    made := fun conn connEq => by cases connEq
    accounted := ?_
    hand := ?_
    tokenConn := fun _ => rfl
    tokenLease := fun _ => rfl
    shut := fun _ => rfl
    renewing := fun conn now => core.renewing conn (earlier conn now) }
  · intro conn beyond
    refine ⟨(opened conn).mpr ⟨(core.unmade conn beyond).1, ?_⟩, (core.unmade conn beyond).2⟩
    intro connEq
    exact absurd (core.made conn connEq).1 (Nat.not_lt.mpr beyond)
  · intro conn made now
    rcases core.accounted conn made (earlier conn now) with connEq | held
    · exact absurd connEq ((opened conn).mp now).2
    · exact .inr fun gone => held ((inHand conn now).symm.trans gone)
  · intro thread conn held now
    exact core.hand thread conn ((inHand conn now).symm.trans held) (earlier conn now)

theorem Shut.move {middle : World} (shut : Shut me before middle) (dropped : Dropped middle after)
    (held : before.stateLock = some (.caller me)) :
    CallerMove params me before after := by
  obtain ⟨same, opened, inHand⟩ := shut
  obtain ⟨same', _, callers⟩ := dropped
  generalize middle.inHand = hands at same inHand
  generalize middle.closedConn = closedConn at same
  generalize after.cancelling = cancelling at same'
  generalize after.undelivered = undelivered at same'
  subst same
  subst same'
  exact { (CallerMove.refl : CallerMove params me before before) with
    outside := outside_held held
    stage := fun _ _ => .inl rfl
    closed := fun conn now => ((opened conn).mp now).1
    serves := fun conn now _ connEq => absurd connEq ((opened conn).mp now).2
    renewed := fun _ _ taskEq => by cases taskEq
    counted := fun other _ => .of_same (callers other) }

section Steps

variable {conn : Nat} {event : Event}

theorem open_of_closing {other : Nat} (now : Open (closing conn world) other) : Open world other :=
  (open_closing.mp now).1

theorem closing_move (held : world.stateLock = some (.caller me)) :
    CallerMove params me world (closing conn world) :=
  .within held rfl (fun _ _ => .inl rfl) (fun _ now => open_of_closing now)
    (fun _ _ _ connEq => ⟨connEq, rfl, .inl rfl⟩) (fun _ _ taskEq => ⟨taskEq, rfl, rfl⟩)
    (Nat.le_refl _) (Nat.le_refl _)

theorem Core.closing (core : Core params world) (made : conn < world.conns) :
    Core params (closing conn world) where
  ordered := core.ordered
  unmade := by
    intro other beyond
    have beyond : world.conns ≤ other := beyond
    exact ⟨open_closing.mpr ⟨(core.unmade other beyond).1, by omega⟩, (core.unmade other beyond).2⟩
  made := core.made
  accounted := fun other known now => core.accounted other known (open_of_closing now)
  hand := fun thread other held now => core.hand thread other held (open_of_closing now)
  locker := core.locker
  ioCaller := core.ioCaller
  tokenConn := core.tokenConn
  tokenLease := core.tokenLease
  shut := core.shut
  renewing := fun other now => core.renewing other (open_of_closing now)
  ended := core.ended
  stale := core.stale
  future := core.future

theorem Settled.closing (settled : Settled params world) : Settled params (closing conn world) :=
  fun other token connEq tokenEq now => settled other token connEq tokenEq (open_of_closing now)

theorem log_move (held : world.stateLock = some (.caller me)) (own : connOf event = conn)
    (was : Open world conn → ¬Renewing (stageOn params world.trace conn))
    (is : Open world conn → ¬Renewing (stageOn params (world.trace ++ [event]) conn)) :
    CallerMove params me world (world.log [event]) := by
  refine .within held rfl ?_ (fun _ now => now) (fun _ _ _ connEq => ⟨connEq, rfl, .inl rfl⟩)
    (fun _ _ taskEq => ⟨taskEq, rfl, rfl⟩) (Nat.le_refl _) (Nat.le_refl _)
  intro other now
  by_cases same : connOf event = other
  · rw [own] at same
    subst same
    exact .inr ⟨was now, is now⟩
  · exact .inl (stageOn_other same)

theorem Core.log (core : Core params world) (own : connOf event = conn) (made : conn < world.conns)
    (ordered : stageOn params (world.trace ++ [event]) conn ≠ none)
    (is : Open world conn → ¬Renewing (stageOn params (world.trace ++ [event]) conn)) :
    Core params (world.log [event]) := by
  refine { core with ordered := ?_, unmade := ?_, renewing := ?_ }
  · intro other
    by_cases same : connOf event = other
    · rw [own] at same
      subst same
      exact ordered
    · rw [World.log, stageOn_other same]
      exact core.ordered other
  · intro other beyond
    have beyond : world.conns ≤ other := beyond
    rw [World.log, stageOn_other (by rw [own]; omega)]
    exact core.unmade other beyond
  · intro other now renewing
    by_cases same : connOf event = other
    · rw [own] at same
      subst same
      exact absurd renewing (is now)
    · rw [World.log, stageOn_other same] at renewing
      exact core.renewing other now renewing

theorem Settled.quiet (quiet : world.token = none ∨ world.ioLock = some (.caller me)) :
    Settled params world := by
  intro conn token _ tokenEq _
  rcases quiet with free | locked
  · rw [free] at tokenEq
    cases tokenEq
  · exact .inr (.inr ⟨me, locked⟩)

theorem Settled.free (free : world.token = none) : Settled params world := by
  intro conn token _ tokenEq
  rw [free] at tokenEq
  cases tokenEq

def dialled (me : Nat) (world : World) : World :=
  { world with
    conns := world.conns + 1
    inHand := Function.update world.inHand world.conns (some (.caller me)) }

theorem dialled_move (held : world.stateLock = some (.caller me)) :
    CallerMove params me world (dialled me world) :=
  .within held rfl (fun _ _ => .inl rfl) (fun _ now => now)
    (fun _ _ _ connEq => ⟨connEq, rfl, .inl rfl⟩) (fun _ _ taskEq => ⟨taskEq, rfl, rfl⟩)
    (Nat.le_succ _) (Nat.le_refl _)

theorem dialled_inHand (different : conn ≠ world.conns) :
    (dialled me world).inHand conn = world.inHand conn :=
  Function.update_of_ne different _ _

theorem Core.dialled (core : Core params world) (held : world.stateLock = some (.caller me)) :
    Core params (dialled me world) := by
  refine { core with unmade := ?_, made := ?_, accounted := ?_, hand := ?_ }
  · intro conn beyond
    exact core.unmade conn (Nat.le_of_succ_le beyond)
  · intro conn connEq
    obtain ⟨made, free⟩ := core.made conn connEq
    exact ⟨Nat.lt_succ_of_lt made, (dialled_inHand (Nat.ne_of_lt made)).trans free⟩
  · intro conn made now
    by_cases same : conn = world.conns
    · exact .inr (by simp [Shared.dialled, same])
    · have made : conn < world.conns + 1 := made
      rw [dialled_inHand same]
      exact core.accounted conn (by omega) now
  · intro thread conn inHand now
    by_cases same : conn = world.conns
    · simp only [Shared.dialled, same, Function.update_self, Option.some.injEq] at inHand
      exact inHand ▸ held
    · rw [dialled_inHand same] at inHand
      exact core.hand thread conn inHand now

theorem install_move (held : world.stateLock = some (.caller me)) (gone : world.conn = none)
    (forgotten : world.renewTask = none) :
    CallerMove params me world (world.setConn (.caller me) (some conn)) := by
  refine .within held rfl (fun _ _ => .inl rfl) (fun _ now => now) ?_ ?_ (Nat.le_refl _)
    (Nat.le_refl _)
  · intro other _ _ connEq
    rw [gone] at connEq
    cases connEq
  · intro worker _ taskEq
    have taskEq : world.renewTask = some worker := taskEq
    rw [forgotten] at taskEq
    cases taskEq

theorem Core.install (core : Core params world) (gone : world.conn = none)
    (made : conn < world.conns) (opened : world.closed = false) :
    Core params (world.setConn (.caller me) (some conn)) := by
  refine { core with made := ?_, accounted := ?_, hand := ?_, tokenConn := ?_, shut := ?_ }
  · rintro other connEq
    cases connEq
    exact ⟨made, by simp [World.setConn]⟩
  · intro other known now
    by_cases same : conn = other
    · exact .inl (by rw [same]; rfl)
    · rcases core.accounted other known now with connEq | held
      · rw [gone] at connEq
        cases connEq
      · exact .inr (by simpa [World.setConn, same, gone] using held)
  · intro thread other held now
    by_cases same : conn = other
    · simp [World.setConn, same] at held
    · have held : world.inHand other = some thread := by
        simpa [World.setConn, same, gone] using held
      exact core.hand thread other held now
  · intro none
    cases none
  · intro shut
    have shut : world.closed = true := shut
    rw [opened] at shut
    cases shut

def stored (grant : Str × Int) (world : World) : World :=
  { world with token := some grant.1, lease := grant.2 }

theorem stored_move {grant : Str × Int} (held : world.stateLock = some (.caller me))
    (connEq : world.conn = some conn)
    (granted : Open world conn → ¬Renewing (stageOn params world.trace conn))
    (forgotten : world.renewTask = none) : CallerMove params me world (stored grant world) := by
  refine .within held rfl (fun _ _ => .inl rfl) (fun _ now => now) ?_ ?_ (Nat.le_refl _)
    (Nat.le_refl _)
  · intro other now renewing otherEq
    rw [connEq] at otherEq
    cases otherEq
    exact absurd renewing (granted now)
  · intro worker _ taskEq
    have taskEq : world.renewTask = some worker := taskEq
    rw [forgotten] at taskEq
    cases taskEq

theorem Core.stored {grant : Str × Int} (core : Core params world)
    (connEq : world.conn = some conn) : Core params (stored grant world) := by
  refine { core with tokenConn := ?_, tokenLease := ?_ }
  · intro gone
    have gone : world.conn = none := gone
    rw [connEq] at gone
    cases gone
  · intro none
    cases none

def started (world : World) : World :=
  { world with workers := world.workers + 1, renewTask := some world.workers }

theorem started_move (held : world.stateLock = some (.caller me))
    (connEq : world.conn = some conn)
    (granted : Open world conn → ¬Renewing (stageOn params world.trace conn)) :
    CallerMove params me world (started world) := by
  refine .within held rfl (fun _ _ => .inl rfl) (fun _ now => now) ?_ ?_ (Nat.le_refl _)
    (Nat.le_succ _)
  · intro other now renewing otherEq
    rw [connEq] at otherEq
    cases otherEq
    exact absurd renewing (granted now)
  · intro worker made taskEq
    cases taskEq
    exact absurd made (Nat.lt_irrefl _)

theorem Core.started (core : Core params world) (forgotten : world.renewTask = none) :
    Core params (started world) := by
  refine { core with stale := ?_, future := ?_ }
  · intro worker made living
    by_cases same : worker = world.workers
    · rw [same]
      rfl
    · have made : worker < world.workers + 1 := made
      have taskEq := core.stale worker (by omega) living
      rw [forgotten] at taskEq
      cases taskEq
  · intro worker beyond
    have beyond : world.workers + 1 ≤ worker := beyond
    refine ⟨(core.future worker (by omega)).1, ?_⟩
    intro taskEq
    cases taskEq
    omega

theorem Invariant.started {token : Str} (inv : Invariant params gentle world)
    (held : world.stateLock = some (.caller me)) (forgotten : world.renewTask = none)
    (connEq : world.conn = some conn) (tokenEq : world.token = some token)
    (opened : Open world conn) : Invariant params gentle (started world) where
  toCore := inv.toCore.started forgotten
  settled := inv.settled
  watched := by
    rintro _ worker taskEq
    cases taskEq
    refine ⟨(inv.future world.workers (Nat.le_refl _)).1, ?_⟩
    intro other otherEq
    have otherEq : world.conn = some other := otherEq
    rw [connEq] at otherEq
    cases otherEq
    exact opened
  unwatched := by
    intro free
    have free : world.token = none := free
    rw [tokenEq] at free
    cases free
  rested := by
    intro free
    have free : world.stateLock = none := free
    rw [held] at free
    cases free

end Steps

theorem deliver_untouched : Untouched world (world.deliver (.caller me)) where
  same := rfl
  workers := fun worker => by simp [World.deliver]

theorem tells_cases (thread : Thread) (choice : Choice) (world : World) :
    (tells thread choice world = true ∧ world.undelivered thread = true) ∨
      (tells thread choice world = false ∧
        ∀ worker, thread = .worker worker → world.undelivered (.worker worker) = false) := by
  cases told : tells thread choice world with
  | true =>
      refine .inl ⟨rfl, ?_⟩
      by_contra quiet
      rw [tells_quiet (by simpa using quiet)] at told
      cases told
  | false =>
      refine .inr ⟨rfl, ?_⟩
      rintro worker rfl
      exact told

theorem suspend_cases {α : Type} {thread : Thread} {choice : Choice}
    {resume : Option (Except PyError α × World)} {result : Except PyError α}
    (executed : suspend thread choice world resume = some (result, after)) :
    (world.undelivered thread = true ∧ result = .error cancelled ∧ after = world.deliver thread) ∨
      ((∀ worker, thread = .worker worker → world.undelivered (.worker worker) = false) ∧
        resume = some (result, after)) := by
  unfold suspend at executed
  rcases tells_cases thread choice world with ⟨told, pending⟩ | ⟨untold, quiet⟩
  · rw [if_pos told] at executed
    cases executed
    exact .inl ⟨pending, rfl, rfl⟩
  · rw [if_neg (by simp [untold])] at executed
    exact .inr ⟨quiet, executed⟩

theorem suspendExchange_cases {α : Type} {thread : Thread} {choice : Choice} {conn : Nat}
    {cmd : Str} {resume : Option (Except PyError α × World)} {result : Except PyError α}
    (executed : suspendExchange thread choice conn cmd world resume = some (result, after)) :
    (world.undelivered thread = true ∧ result = .error cancelled ∧
        after = (world.deliver thread).log [.noAnswer conn cmd]) ∨
      ((∀ worker, thread = .worker worker → world.undelivered (.worker worker) = false) ∧
        resume = some (result, after)) := by
  unfold suspendExchange at executed
  rcases tells_cases thread choice world with ⟨told, pending⟩ | ⟨untold, quiet⟩
  · rw [if_pos told] at executed
    cases executed
    exact .inl ⟨pending, rfl, rfl⟩
  · rw [if_neg (by simp [untold])] at executed
    exact .inr ⟨quiet, executed⟩

theorem deliver_move : CallerMove params me world (world.deliver (.caller me)) :=
  { (CallerMove.refl : CallerMove params me world world) with
    outside := fun _ _ _ => deliver_untouched
    serves := fun _ _ _ connEq => ⟨connEq, rfl, .inl rfl⟩
    counted := fun other different => .of_same ⟨rfl, by
      simp [World.deliver, Function.update_of_ne, different]⟩ }

end DflockdClient.Async.Shared
