import DflockdClient.AsyncOperations

/-! Every round of a renewal task keeps to the contract. -/

namespace DflockdClient.Async.Shared

open Interleaving Session
open Sync (Event)

variable {params : Params} {gentle : Bool} {me : Nat} {before middle after world : World}

abbrev WorkerStable (params : Params) (gentle : Bool) (me : Nat) (fact : World → Prop) : Prop :=
  (contract params gentle).Stable (.worker me) fact

theorem WorkerMove.refl : WorkerMove params me world world where
  same := rfl
  ioLock := fun _ _ => Iff.rfl
  stage := fun _ _ => .inl rfl
  closed := fun _ opened => opened
  shuts := fun _ opened shut => absurd opened shut
  drop := .inl ⟨rfl, rfl⟩
  inHand := fun _ _ held => held
  outcome := fun _ _ => rfl
  counted := fun _ => .refl

theorem WorkerMove.access (move : WorkerMove params me before after)
    (mine : after.ioLock = none ∨ after.ioLock = some (.worker me)) :
    before.ioLock = none ∨ before.ioLock = some (.worker me) := by
  cases held : before.ioLock with
  | none => exact .inl rfl
  | some thread =>
      by_cases same : thread = .worker me
      · exact .inr (by rw [same])
      · have held' := (move.ioLock thread same).mp held
        rw [held'] at mine
        simp [same] at mine

theorem WorkerMove.serving {conn : Nat} (move : WorkerMove params me before after)
    (opened : Open after conn) (serving : Serving (stageOn params after.trace conn)) :
    Serving (stageOn params before.trace conn) := by
  rcases move.stage conn opened with same | ⟨_, serving'⟩
  · rw [← same]
    exact serving
  · exact serving'

theorem WorkerMove.trans (first : WorkerMove params me before middle)
    (second : WorkerMove params me middle after) : WorkerMove params me before after where
  same := second.same.trans first.same
  ioLock := fun thread other => (first.ioLock thread other).trans (second.ioLock thread other)
  stage := by
    intro conn opened
    have still := second.closed conn opened
    rcases second.stage conn opened with same | ⟨mine, serving⟩
    · rw [same]
      exact first.stage conn still
    · exact .inr ⟨first.access mine, first.serving still serving⟩
  closed := fun conn opened => first.closed conn (second.closed conn opened)
  shuts := by
    intro conn opened shut
    by_cases still : Open middle conn
    · exact first.serving still (second.shuts conn still shut)
    · exact first.shuts conn opened still
  drop := by
    rcases second.drop with ⟨conn, token⟩ | ⟨mine, held, conn, token⟩
    · rw [conn, token]
      exact first.drop
    · refine .inr ⟨first.access mine, ?_, conn, token⟩
      rcases first.drop with ⟨_, same⟩ | ⟨_, held', _⟩
      · exact same ▸ held
      · exact held'
  inHand := fun id conn held => first.inHand id conn (second.inHand id conn held)
  outcome := fun other different => (second.outcome other different).trans
    (first.outcome other different)
  counted := fun other => (first.counted other).trans (second.counted other)

/-- Started, not ended, and outside the I/O lock. -/
structure Awake (me : Nat) (world : World) : Prop where
  made : me < world.workers
  outcome : world.outcome me = none
  free : world.ioLock ≠ some (.worker me)

structure Around (me : Nat) (before after : World) : Prop where
  workers : before.workers ≤ after.workers
  outcome : after.outcome me = before.outcome me
  ioLock : before.ioLock = some (.worker me) ↔ after.ioLock = some (.worker me)

theorem around {other : Thread} (different : other ≠ .worker me)
    (within : (contract params gentle).guarantee other before after) : Around me before after := by
  cases other with
  | caller id =>
      have move : CallerMove params id before after := within
      exact ⟨move.workers, by rw [move.outcome], move.ioWorker me⟩
  | worker other =>
      have move : WorkerMove params other before after := within
      have same := move.same
      simp only [Prod.mk.injEq] at same
      refine ⟨Nat.le_of_eq same.2.2.2.1.symm, move.outcome me ?_, move.ioLock _ different.symm⟩
      rintro rfl
      exact different rfl
  | other id =>
      have move : OtherMove before after := within
      rw [move.same]
      exact ⟨Nat.le_refl _, rfl, Iff.rfl⟩

theorem Awake.stable : WorkerStable params gentle me (Awake me) := by
  intro other different before after _ _ within known
  obtain ⟨workers, outcome, ioLock⟩ := around different within
  exact ⟨Nat.lt_of_lt_of_le known.made workers, outcome.trans known.outcome,
    fun held => known.free (ioLock.mpr held)⟩

structure Exchange (params : Params) (me conn : Nat) (token : Str) (world : World) : Prop where
  made : me < world.workers
  outcome : world.outcome me = none
  lock : world.ioLock = some (.worker me)
  conns : conn < world.conns
  serving : world.renewTask = some me → world.conn = some conn ∧ world.token = some token
  opened : Open world conn → stageOn params world.trace conn = some (.renewing token) ∧
    world.conn = some conn ∧ (world.renewTask = some me ∨ world.renewTask = none)
  only : ∀ other, Open world other → Renewing (stageOn params world.trace other) → other = conn

theorem Exchange.stable {conn : Nat} {token : Str} :
    WorkerStable params gentle me (Exchange params me conn token) := by
  intro other different before after _ _ within known
  obtain ⟨workers, outcome, ioLock⟩ := around different within
  have made := Nat.lt_of_lt_of_le known.made workers
  have lock := ioLock.mp known.lock
  cases other with
  | caller id =>
      have move : CallerMove params id before after := within
      refine ⟨made, outcome.trans known.outcome, lock, Nat.lt_of_lt_of_le known.conns move.conns,
        ?_, ?_, ?_⟩
      · intro taskEq
        obtain ⟨taskEq, connEq, tokenEq⟩ := move.renewed me known.made taskEq
        rw [connEq, tokenEq]
        exact known.serving taskEq
      · intro now
        have opened := move.closed conn now
        obtain ⟨stands, connEq, task⟩ := known.opened opened
        have renewing : Renewing (stageOn params before.trace conn) := ⟨token, stands⟩
        obtain ⟨connEq', _, task'⟩ := move.serves conn now renewing connEq
        refine ⟨?_, connEq', ?_⟩
        · rcases move.stage conn now with same | ⟨quiet, _⟩
          · exact same.trans stands
          · exact absurd renewing quiet
        · rcases task' with same | gone
          · rw [same]
            exact task
          · exact .inr gone
      · intro other now renewing
        rcases move.stage other now with same | ⟨_, quiet⟩
        · exact known.only other (move.closed other now) (same ▸ renewing)
        · exact absurd renewing quiet
  | worker other =>
      have move : WorkerMove params other before after := within
      have same := move.same
      simp only [Prod.mk.injEq] at same
      obtain ⟨_, _, conns, _, task⟩ := same
      have shut : ¬(before.ioLock = none ∨ before.ioLock = some (.worker other)) := by
        rintro (free | mine)
        · rw [known.lock] at free
          cases free
        · rw [known.lock] at mine
          cases mine
          exact different rfl
      have stage (conn : Nat) (now : Open after conn) :
          stageOn params after.trace conn = stageOn params before.trace conn := by
        rcases move.stage conn now with same | ⟨free, _⟩
        · exact same
        · exact absurd free shut
      have kept : after.conn = before.conn ∧ after.token = before.token := by
        rcases move.drop with same | ⟨free, _⟩
        · exact same
        · exact absurd free shut
      refine ⟨made, outcome.trans known.outcome, lock, conns ▸ known.conns, ?_, ?_, ?_⟩
      · rw [task, kept.1, kept.2]
        exact known.serving
      · intro now
        rw [stage conn now, task, kept.1]
        exact known.opened (move.closed conn now)
      · intro other now renewing
        rw [stage other now] at renewing
        exact known.only other (move.closed other now) renewing
  | other id =>
      have move : OtherMove before after := within
      rw [move.same]
      exact ⟨known.made, known.outcome, known.lock, known.conns, known.serving, known.opened,
        known.only⟩

def ended (me : Nat) (outcome : Except PyError Unit) (world : World) : World :=
  { world with outcome := Function.update world.outcome me (some outcome) }

def Ended (params : Params) (gentle : Bool) (me : Nat) (outcome : Except PyError Unit)
    (origin state : World) : Prop :=
  WorkerMove params me origin (ended me outcome state) ∧
    Invariant params gentle (ended me outcome state)

variable {outcome : Except PyError Unit}

theorem live_ended {worker : Nat} {undelivered : Thread → Bool}
    (others : ∀ thread, thread ≠ .worker me → undelivered thread = world.undelivered thread) :
    Live (ended me outcome { world with undelivered := undelivered }) worker ↔
      Live world worker ∧ worker ≠ me := by
  by_cases same : worker = me
  · simp [Live, ended, same]
  · have elsewhere : Thread.worker worker ≠ .worker me := by simpa using same
    simp [Live, ended, same, Function.update_of_ne, others _ elsewhere]

theorem ended_errors
    (earlier : ∀ worker error, world.outcome worker = some (.error error) →
      error.cls = .cancelledError)
    (stops : ∀ error, outcome = .error error → error.cls = .cancelledError) (worker : Nat)
    (error : PyError) (known : (ended me outcome world).outcome worker = some (.error error)) :
    error.cls = .cancelledError := by
  by_cases same : worker = me
  · subst same
    simp only [ended, Function.update_self, Option.some.injEq] at known
    exact stops error known
  · simp only [ended, Function.update_of_ne same] at known
    exact earlier worker error known

theorem ended_quietly {undelivered : Thread → Bool} (inv : Invariant params gentle world)
    (made : me < world.workers)
    (others : ∀ thread, thread ≠ .worker me → undelivered thread = world.undelivered thread)
    (stopped : world.undelivered (.worker me) = true ∨ world.token = none)
    (stops : ∀ error, outcome = .error error → error.cls = .cancelledError) :
    Ended params gentle me outcome world { world with undelivered := undelivered } := by
  have live (worker : Nat) :
      Live (ended me outcome { world with undelivered := undelivered }) worker ↔
        Live world worker ∧ worker ≠ me := live_ended others
  refine ⟨?_, ?_⟩
  · exact { (WorkerMove.refl : WorkerMove params me world world) with
      outcome := fun other different => Function.update_of_ne different _ _
      counted := fun other => .of_same ⟨rfl, others _ (by simp)⟩ }
  · refine { inv with ended := ended_errors inv.ended stops, stale := ?_, future := ?_,
                      watched := ?_, unwatched := ?_ }
    · exact fun worker known living => inv.stale worker known ((live worker).mp living).1
    · intro worker beyond
      have beyond : world.workers ≤ worker := beyond
      exact ⟨(live worker).mpr ⟨(inv.future worker beyond).1, by omega⟩,
        (inv.future worker beyond).2⟩
    · intro held worker taskEq
      have held : world.token ≠ none := held
      obtain ⟨living, opened⟩ := inv.watched held worker taskEq
      refine ⟨(live worker).mpr ⟨living, ?_⟩, opened⟩
      rintro rfl
      rcases stopped with pending | gone
      · rw [living.2] at pending
        cases pending
      · exact held gone
    · exact fun free worker taskEq living => inv.unwatched free worker taskEq ((live worker).mp living).1

/-! An exchange -/

section Exchange

variable {conn : Nat} {token : Str}

/-- A task that has not been cancelled, over the connection of the lock it renews. -/
structure Attending (params : Params) (me conn : Nat) (token : Str) (world : World) : Prop where
  made : me < world.workers
  conns : conn < world.conns
  live : Live world me
  lock : world.ioLock = none ∨ world.ioLock = some (.worker me)
  task : world.renewTask = some me
  held : world.conn = some conn ∧ world.token = some token
  closed : world.closed = false
  opened : Open world conn
  serving : Serving (stageOn params world.trace conn)
  only : ∀ other, Open world other → Renewing (stageOn params world.trace other) → other = conn

theorem Exchange.attending (inv : Invariant params gentle world)
    (known : Exchange params me conn token world) (quiet : world.undelivered (.worker me) = false) :
    Attending params me conn token world := by
  have live : Live world me := ⟨known.outcome, quiet⟩
  have task := inv.stale me known.made live
  obtain ⟨connEq, tokenEq⟩ := known.serving task
  have opened := (inv.watched (by simp [tokenEq]) me task).2 conn connEq
  refine ⟨known.made, known.conns, live, .inr known.lock, task, ⟨connEq, tokenEq⟩, ?_, opened,
    ⟨token, .inr (known.opened opened).1⟩, known.only⟩
  cases closed : world.closed with
  | false => rfl
  | true =>
      have gone := inv.shut closed
      rw [connEq] at gone
      cases gone

theorem Awake.attending (inv : Invariant params gentle world) (known : Awake me world)
    (quiet : world.undelivered (.worker me) = false) (free : world.ioLock = none)
    (connEq : world.conn = some conn) (tokenEq : world.token = some token) :
    Attending params me conn token world ∧
      stageOn params world.trace conn = some (.granted token) := by
  have live : Live world me := ⟨known.outcome, quiet⟩
  have task := inv.stale me known.made live
  have opened := (inv.watched (by simp [tokenEq]) me task).2 conn connEq
  have stands : stageOn params world.trace conn = some (.granted token) := by
    rcases inv.settled conn token connEq tokenEq opened with stands | ⟨_, _, locked⟩ | ⟨_, locked⟩
    · exact stands
    · rw [free] at locked
      cases locked
    · rw [free] at locked
      cases locked
  refine ⟨⟨known.made, (inv.made conn connEq).1, live, .inl free, task, ⟨connEq, tokenEq⟩, ?_,
    opened, ⟨token, .inl stands⟩, ?_⟩, stands⟩
  · cases closed : world.closed with
    | false => rfl
    | true =>
        have gone := inv.shut closed
        rw [connEq] at gone
        cases gone
  · intro other now renewing
    obtain ⟨worker, locked⟩ := inv.renewing other now renewing
    rw [free] at locked
    cases locked

def asked (me conn : Nat) (request : Request) (world : World) : World :=
  ({ world with ioLock := some (.worker me) } : World).log [.frame conn request]

theorem Attending.asked {request : Request} (attending : Attending params me conn token world)
    (inv : Invariant params gentle world) (free : world.ioLock = none)
    (stands : stageOn params world.trace conn = some (.granted token))
    (built : params.renewRequest token = .ok request) :
    WorkerMove params me world (asked me conn request world) ∧
      Invariant params gentle (asked me conn request world) ∧
      Exchange params me conn token (asked me conn request world) := by
  have own : connOf (.frame conn request) = conn := rfl
  have now : stageOn params (world.trace ++ [.frame conn request]) conn = some (.renewing token) := by
    rw [stageOn_own own, stands]
    exact send_renew built
  have elsewhere {other : Nat} (different : other ≠ conn) :
      stageOn params (world.trace ++ [.frame conn request]) other =
        stageOn params world.trace other :=
    stageOn_other (by rw [own]; exact different.symm)
  have only : ∀ other, Open world other →
      Renewing (stageOn params (world.trace ++ [.frame conn request]) other) → other = conn := by
    intro other opened renewing
    by_contra different
    rw [elsewhere different] at renewing
    exact different (attending.only other opened renewing)
  refine ⟨?_, ?_, ?_⟩
  · exact { (WorkerMove.refl : WorkerMove params me world world) with
      ioLock := fun thread other => by simp [Shared.asked, World.log, free, other.symm]
      stage := fun other opened => by
        by_cases same : other = conn
        · rw [same]
          exact .inr ⟨.inl free, attending.serving⟩
        · exact .inl (elsewhere same)
      counted := fun other => .of_same ⟨rfl, rfl⟩ }
  · refine { inv with ordered := ?_, unmade := ?_, ioCaller := ?_, renewing := ?_, settled := ?_,
                      rested := ?_ }
    · intro other
      by_cases same : other = conn
      · rw [same, Shared.asked, World.log, now]
        simp
      · rw [Shared.asked, World.log, elsewhere same]
        exact inv.ordered other
    · intro other beyond
      have beyond : world.conns ≤ other := beyond
      have made := attending.conns
      rw [Shared.asked, World.log, elsewhere (by omega)]
      exact inv.unmade other beyond
    · intro id locked
      cases locked
    · exact fun _ _ _ => ⟨me, rfl⟩
    · intro other granted connEq tokenEq _
      have connEq : world.conn = some other := connEq
      have tokenEq : world.token = some granted := tokenEq
      rw [attending.held.1] at connEq
      rw [attending.held.2] at tokenEq
      cases connEq
      cases tokenEq
      exact .inr (.inl ⟨now, me, rfl⟩)
    · intro unlocked
      refine ⟨?_, (inv.rested unlocked).2⟩
      intro other _ tokenEq
      have tokenEq : world.token = none := tokenEq
      rw [attending.held.2] at tokenEq
      cases tokenEq
  · exact ⟨attending.made, attending.live.1, rfl, attending.conns, fun _ => attending.held,
      fun _ => ⟨now, attending.held.1, .inl attending.task⟩, only⟩

def withdrawn (conn : Nat) (cmd : Str) (world : World) : World :=
  { closing conn (world.log [.noAnswer conn cmd]) with ioLock := none }

theorem Exchange.withdrawn (cmd : Str) (known : Exchange params me conn token world)
    (inv : Invariant params gentle world) (pending : world.undelivered (.worker me) = true) :
    WorkerMove params me world (withdrawn conn cmd world) ∧
      Invariant params gentle (withdrawn conn cmd world) := by
  have own : connOf (.noAnswer conn cmd) = conn := rfl
  have elsewhere {other : Nat} (different : other ≠ conn) :
      stageOn params (world.trace ++ [.noAnswer conn cmd]) other =
        stageOn params world.trace other :=
    stageOn_other (by rw [own]; exact different.symm)
  have opened {other : Nat} : Open (Shared.withdrawn conn cmd world) other ↔
      Open world other ∧ other ≠ conn := open_closing
  have quiet {other : Nat} (now : Open (Shared.withdrawn conn cmd world) other) :
      ¬Renewing (stageOn params world.trace other) := fun renewing =>
    (opened.mp now).2 (known.only other (opened.mp now).1 renewing)
  have free {thread : Thread} (locked : world.ioLock = some thread) : thread = .worker me := by
    rw [known.lock] at locked
    cases locked
    rfl
  refine ⟨?_, ?_⟩
  · exact { (WorkerMove.refl : WorkerMove params me world world) with
      ioLock := fun thread other => by
        simp [Shared.withdrawn, known.lock, other.symm]
      stage := fun other now => .inl (elsewhere (opened.mp now).2)
      closed := fun other now => (opened.mp now).1
      shuts := fun other was shut => by
        by_cases same : other = conn
        · rw [same] at was ⊢
          exact ⟨token, .inr (known.opened was).1⟩
        · exact absurd (opened.mpr ⟨was, same⟩) shut
      counted := fun other => .of_same ⟨rfl, rfl⟩ }
  · refine { inv with ordered := ?_, unmade := ?_, accounted := ?_, hand := ?_, ioCaller := ?_,
                      renewing := ?_, settled := ?_, watched := ?_, rested := ?_ }
    · intro other
      by_cases same : other = conn
      · rw [same]
        exact ended_accepted inv own fun _ => ⟨_, rfl⟩
      · rw [Shared.withdrawn, closing, World.log, elsewhere same]
        exact inv.ordered other
    · intro other beyond
      have beyond : world.conns ≤ other := beyond
      have different : other ≠ conn := by
        have made := known.conns
        omega
      refine ⟨opened.mpr ⟨(inv.unmade other beyond).1, different⟩, ?_⟩
      rw [Shared.withdrawn, closing, World.log, elsewhere different]
      exact (inv.unmade other beyond).2
    · exact fun other made now => inv.accounted other made (opened.mp now).1
    · exact fun thread other held now => inv.hand thread other held (opened.mp now).1
    · intro id locked
      cases locked
    · intro other now renewing
      rw [Shared.withdrawn, closing, World.log, elsewhere (opened.mp now).2] at renewing
      exact absurd renewing (quiet now)
    · intro other granted connEq tokenEq now
      obtain ⟨was, different⟩ := opened.mp now
      rw [Shared.withdrawn, closing, World.log, elsewhere different]
      rcases inv.settled other granted connEq tokenEq was with stands | ⟨renewing, _⟩ | ⟨_, locked⟩
      · exact .inl stands
      · exact absurd ⟨granted, renewing⟩ (quiet now)
      · cases free locked
    · -- The task that is known, if any, is another one, and the connection another one with it.
      intro held worker taskEq
      have held : world.token ≠ none := held
      obtain ⟨living, open_⟩ := inv.watched held worker taskEq
      refine ⟨living, ?_⟩
      intro other connEq
      refine opened.mpr ⟨open_ other connEq, ?_⟩
      rintro rfl
      have taskEq : world.renewTask = some worker := taskEq
      rcases (known.opened (open_ other connEq)).2.2 with mine | gone
      · rw [mine] at taskEq
        cases taskEq
        rw [living.2] at pending
        cases pending
      · rw [gone] at taskEq
        cases taskEq
    · intro unlocked
      obtain ⟨queued, watched⟩ := inv.rested unlocked
      refine ⟨?_, watched⟩
      intro other connEq tokenEq
      obtain ⟨was, stands, gone⟩ := queued other connEq tokenEq
      have different : other ≠ conn := by
        rintro rfl
        rw [(known.opened was).1] at stands
        cases stands
      refine ⟨opened.mpr ⟨was, different⟩, ?_, gone⟩
      rw [Shared.withdrawn, closing, World.log, elsewhere different]
      exact stands

structure Apart (params : Params) (conn : Nat) (before after : World) : Prop where
  same : after = { before with
    ioLock := after.ioLock, trace := after.trace, closedConn := after.closedConn }
  stage : ∀ other, other ≠ conn →
    stageOn params after.trace other = stageOn params before.trace other
  closed : ∀ other, other ≠ conn → after.closedConn other = before.closedConn other
  ordered : stageOn params after.trace conn ≠ none

def lost (me conn : Nat) (world : World) : World :=
  { closing conn (world.setConn (.worker me) none) with token := none, lease := 0, ioLock := none }

theorem Attending.lost (attending : Attending params me conn token before)
    (inv : Invariant params gentle before) (apart : Apart params conn before after) :
    Ended params gentle me (.ok ()) before (lost me conn after) := by
  obtain ⟨same, stage, closedConn, ordered⟩ := apart
  generalize after.ioLock = ioLock at same
  generalize after.trace = trace at same stage ordered
  generalize after.closedConn = shuts at same closedConn
  obtain ⟨final, isFinal⟩ : ∃ final, ended me (.ok ()) (Shared.lost me conn after) = final :=
    ⟨_, rfl⟩
  have opened {other : Nat} : Open final other ↔ Open before other ∧ other ≠ conn := by
    rw [← isFinal]
    refine open_closing.trans (and_congr_left fun different => ?_)
    rw [same]
    exact Eq.congr (closedConn other different) rfl
  have inHand {other : Nat} (different : other ≠ conn) :
      final.inHand other = before.inHand other := by
    rw [← isFinal, same]
    simp [ended, Shared.lost, closing, World.setConn, attending.held.1, different.symm]
  have live {worker : Nat} : Live final worker ↔ Live before worker ∧ worker ≠ me := by
    rw [← isFinal]
    refine (live_ended fun _ _ => rfl).trans (and_congr_left fun _ => ?_)
    rw [same]
    rfl
  have errors : ∀ worker error, final.outcome worker = some (.error error) →
      error.cls = .cancelledError := by
    rw [← isFinal]
    exact ended_errors (by rw [same]; exact inv.ended) (by simp)
  have mine : final.inHand conn = some (.worker me) := by
    rw [← isFinal, same]
    simp [ended, Shared.lost, closing, World.setConn, attending.held.1]
  unfold Ended
  rw [isFinal]
  rw [same] at isFinal
  subst isFinal
  refine ⟨?_, ?_⟩
  · exact {
      same := rfl
      ioLock := fun thread other => by
        rcases attending.lock with free | mine
        · simp [ended, Shared.lost, free]
        · simp [ended, Shared.lost, mine, other.symm]
      stage := fun other now => .inl (stage other (opened.mp now).2)
      closed := fun other now => (opened.mp now).1
      shuts := fun other was shut => by
        by_cases same : other = conn
        · rw [same]
          exact attending.serving
        · exact absurd (opened.mpr ⟨was, same⟩) shut
      drop := .inr ⟨attending.lock, by simp [attending.held.2], rfl, rfl⟩
      inHand := fun id other held => by
        by_cases same : other = conn
        · rw [same, mine] at held
          cases held
        · rw [inHand same] at held
          exact held
      outcome := fun other different => Function.update_of_ne different _ _
      counted := fun other => .of_same ⟨rfl, rfl⟩ }
  · have core : Core params (ended me (.ok ()) (Shared.lost me conn
        { before with ioLock := ioLock, trace := trace, closedConn := shuts })) := {
      ordered := fun other => by
        by_cases same : other = conn
        · rw [same]
          exact ordered
        · exact (stage other same).trans_ne (inv.ordered other)
      unmade := fun other beyond => by
        have beyond : before.conns ≤ other := beyond
        have different : other ≠ conn := by
          have made := attending.conns
          omega
        obtain ⟨was, stands⟩ := inv.unmade other beyond
        exact ⟨opened.mpr ⟨was, different⟩, (stage other different).trans stands⟩
      made := fun other connEq => by cases connEq
      accounted := fun other made now => by
        obtain ⟨was, different⟩ := opened.mp now
        rcases inv.accounted other made was with connEq | held
        · rw [attending.held.1] at connEq
          exact absurd (Option.some.inj connEq).symm different
        · exact .inr (by rwa [inHand different])
      hand := fun thread other held now => by
        obtain ⟨was, different⟩ := opened.mp now
        rw [inHand different] at held
        exact inv.hand thread other held was
      locker := inv.locker
      ioCaller := fun id locked => by cases locked
      tokenConn := fun _ => rfl
      tokenLease := fun _ => rfl
      shut := fun _ => rfl
      renewing := fun other now renewing => by
        obtain ⟨was, different⟩ := opened.mp now
        have renewing : Renewing (stageOn params trace other) := renewing
        rw [stage other different] at renewing
        exact absurd (attending.only other was renewing) different
      ended := errors
      stale := fun worker made living => inv.stale worker made (live.mp living).1
      future := fun worker beyond => by
        have beyond : before.workers ≤ worker := beyond
        have different : worker ≠ me := by
          have made := attending.made
          omega
        exact ⟨live.mpr ⟨(inv.future worker beyond).1, different⟩, (inv.future worker beyond).2⟩ }
    refine { core with settled := ?_, watched := ?_, unwatched := ?_, rested := ?_ }
    · intro other granted connEq
      cases connEq
    · exact fun held => absurd rfl held
    · intro _ worker taskEq living
      have taskEq : before.renewTask = some worker := taskEq
      rw [attending.task] at taskEq
      cases taskEq
      exact (live.mp living).2 rfl
    · intro _
      refine ⟨?_, fun _ held => absurd rfl held⟩
      intro other connEq
      cases connEq

def answered (conn : Nat) (cmd line : Str) (world : World) : World :=
  { world.log [.answer conn cmd line] with ioLock := none }

theorem Exchange.answered {line op : Str} {remaining : Int} (cmd : Str)
    (known : Exchange params me conn token world) (inv : Invariant params gentle world)
    (quiet : world.undelivered (.worker me) = false)
    (renewed : parseRenewResponse line op = .ok remaining) :
    WorkerMove params me world (answered conn cmd line world) ∧
      Invariant params gentle (answered conn cmd line world) ∧
      Awake me (answered conn cmd line world) := by
  have attending := known.attending inv quiet
  have own : connOf (.answer conn cmd line) = conn := rfl
  have plain : parseRenewResponse line [] = .ok remaining := parseRenewResponse_label [] renewed
  have now : stageOn params (world.trace ++ [.answer conn cmd line]) conn =
      some (.granted token) := by
    rw [stageOn_own own, (known.opened attending.opened).1]
    simp [step, receive, plain]
  have elsewhere {other : Nat} (different : other ≠ conn) :
      stageOn params (world.trace ++ [.answer conn cmd line]) other =
        stageOn params world.trace other :=
    stageOn_other (by rw [own]; exact different.symm)
  refine ⟨?_, ?_, ⟨known.made, known.outcome, by simp [Shared.answered]⟩⟩
  · exact { (WorkerMove.refl : WorkerMove params me world world) with
      ioLock := fun thread other => by simp [Shared.answered, known.lock, other.symm]
      stage := fun other opened => by
        by_cases same : other = conn
        · rw [same]
          exact .inr ⟨attending.lock, attending.serving⟩
        · exact .inl (elsewhere same)
      counted := fun other => .of_same ⟨rfl, rfl⟩ }
  · refine { inv with ordered := ?_, unmade := ?_, ioCaller := ?_, renewing := ?_, settled := ?_,
                      rested := ?_ }
    · intro other
      by_cases same : other = conn
      · rw [same, Shared.answered, World.log, now]
        simp
      · rw [Shared.answered, World.log, elsewhere same]
        exact inv.ordered other
    · intro other beyond
      have beyond : world.conns ≤ other := beyond
      have made := attending.conns
      rw [Shared.answered, World.log, elsewhere (by omega)]
      exact inv.unmade other beyond
    · intro id locked
      cases locked
    · intro other opened renewing
      have opened : Open world other := opened
      by_cases same : other = conn
      · rw [same, Shared.answered, World.log, now] at renewing
        simp [Renewing] at renewing
      · rw [Shared.answered, World.log, elsewhere same] at renewing
        exact absurd (attending.only other opened renewing) same
    · intro other granted connEq tokenEq _
      have connEq : world.conn = some other := connEq
      have tokenEq : world.token = some granted := tokenEq
      rw [attending.held.1] at connEq
      rw [attending.held.2] at tokenEq
      cases connEq
      cases tokenEq
      exact .inl now
    · intro unlocked
      refine ⟨?_, (inv.rested unlocked).2⟩
      intro other _ tokenEq
      have tokenEq : world.token = none := tokenEq
      rw [attending.held.2] at tokenEq
      cases tokenEq

end Exchange

def Ticked (params : Params) (gentle : Bool) (me : Nat) (result : Option Int)
    (origin state : World) : Prop :=
  match result with
  | none => Ended params gentle me (.ok ()) origin state
  | some _ => WorkerMove params me origin state ∧ Invariant params gentle state ∧ Awake me state ∧
      state.token ≠ none

def Stopped (params : Params) (gentle : Bool) (me : Nat) (error : PyError)
    (origin state : World) : Prop :=
  error.cls = .cancelledError ∧ Ended params gentle me (.ok ()) origin state

abbrev Ticking (params : Params) (gentle : Bool) (me : Nat) (result : Option Int)
    (origin state : World) : Prop :=
  Ticked params gentle me result origin { state with ioLock := none }

abbrev Stopping (params : Params) (gentle : Bool) (me : Nat) (error : PyError)
    (origin state : World) : Prop :=
  Stopped params gentle me error origin { state with ioLock := none }

section Tick

variable {origin state : World} {conn : Nat} {token : Str}

theorem handleRenewFailure_wp {post : Unit → World → World → Prop}
    {raised : PyError → World → World → Prop} (opened : state.closed = false)
    (connEq : state.conn = some conn)
    (known : post () origin
      { closing conn (state.setConn (.worker me) none) with token := none, lease := 0 }) :
    wp (machine params) (contract params gentle) (.worker me) (handleRenewFailure conn) post raised
      origin state := by
  refine wp_run rfl (fun _ => rfl) ?_
  rw [opened]
  simp only [Bool.false_eq_true, if_false]
  rw [wp_bind]
  refine wp_run rfl (fun _ => rfl) ?_
  rw [opened]
  simp only [Bool.false_eq_true, if_false]
  refine wp_run rfl (fun _ => rfl) (wp_run rfl (fun _ => rfl) ?_)
  rw [if_pos connEq]
  refine wp_run rfl (fun _ => rfl) ?_
  rw [wp_bind]
  exact wp_run rfl (fun _ => rfl) (wp_perform rfl (fun _ => rfl) (wp_perform rfl (fun _ => rfl) known))

def renewFailed (conn : Nat) (error : PyError) : Py (Option Int) :=
  if error.isException then do
    handleRenewFailure conn
    pure none
  else throw error

theorem renewFailed_wp {error : PyError} (ordinary : error.isException = true)
    (attending : Attending params me conn token origin) (inv : Invariant params gentle origin)
    (apart : Apart params conn origin state) :
    wp (machine params) (contract params gentle) (.worker me) (renewFailed conn error)
      (Ticking params gentle me) (Stopping params gentle me) origin state := by
  have ends := attending.lost inv apart
  rw [renewFailed, if_pos ordinary, wp_bind]
  refine handleRenewFailure_wp ?_ ?_ ends
  · rw [apart.same]
    exact attending.closed
  · rw [apart.same]
    exact attending.held.1

abbrev Renewed (params : Params) (gentle : Bool) (me conn : Nat) (line : Str) :
    World → World → Prop :=
  wp (machine params) (contract params gentle) (.worker me)
    (Program.orRaise (parseRenewResponse line (opLabel params.pre (str "renew"))))
    (fun remaining => Ticking params gentle me (some remaining))
    (fun error => wp (machine params) (contract params gentle) (.worker me)
      (renewFailed conn error) (Ticking params gentle me) (Stopping params gentle me))

abbrev Failed (params : Params) (gentle : Bool) (me conn : Nat) (error : PyError) :
    World → World → Prop :=
  wp (machine params) (contract params gentle) (.worker me)
    (do
      perform (.closeNowait conn)
      throw error)
    (Renewed params gentle me conn)
    (fun error => wp (machine params) (contract params gentle) (.worker me)
      (renewFailed conn error) (Ticking params gentle me) (Stopping params gentle me))

variable {cmd : Str}

theorem cancelled_wp (known : Exchange params me conn token world)
    (inv : Invariant params gentle world) (pending : world.undelivered (.worker me) = true) :
    Failed params gentle me conn cancelled world
      ((world.deliver (.worker me)).log [.noAnswer conn cmd]) := by
  obtain ⟨move, inv'⟩ := known.withdrawn cmd inv pending
  have ends : Ended params gentle me (.ok ()) (withdrawn conn cmd world)
      { withdrawn conn cmd world with
        undelivered := Function.update world.undelivered (.worker me) false } :=
    ended_quietly inv' known.made (fun _ other => Function.update_of_ne other _ _) (.inl pending)
      (by simp)
  exact wp_run rfl (fun _ => rfl) ⟨rfl, move.trans ends.1, ends.2⟩

theorem failed_wp {error : PyError} (known : Exchange params me conn token world)
    (inv : Invariant params gentle world) (quiet : world.undelivered (.worker me) = false)
    (ordinary : error.isException = true) :
    Failed params gentle me conn error world (world.log [.noAnswer conn cmd]) := by
  refine wp_run rfl (fun _ => rfl) (renewFailed_wp ordinary (known.attending inv quiet) inv ?_)
  refine ⟨rfl, ?_, ?_, ?_⟩
  · exact fun other different => stageOn_other fun own => different own.symm
  · exact fun other different => Function.update_of_ne different _ _
  · exact ended_accepted inv rfl fun _ => ⟨_, rfl⟩

theorem answered_wp {line : Str} (known : Exchange params me conn token world)
    (inv : Invariant params gentle world) (quiet : world.undelivered (.worker me) = false) :
    Renewed params gentle me conn line world (world.log [.answer conn cmd line]) := by
  unfold Renewed
  cases parsed : parseRenewResponse line (opLabel params.pre (str "renew")) with
  | ok remaining =>
      obtain ⟨move, inv', awake⟩ := known.answered cmd inv quiet parsed
      have held : world.token ≠ none := by simp [(known.attending inv quiet).held.2]
      exact ⟨move, inv', awake, held⟩
  | error error =>
      refine renewFailed_wp (ordinary_parseRenewResponse _ _ error parsed)
        (known.attending inv quiet) inv ⟨rfl, ?_, fun _ _ => rfl, ?_⟩
      · exact fun other different => stageOn_other fun own => different own.symm
      · exact ended_accepted inv rfl fun _ => ⟨_, rfl⟩

theorem converse_wp (within : WorkerMove params me origin state) (inv : Invariant params gentle state)
    (known : Exchange params me conn token state) :
    wp (machine params) (contract params gentle) (.worker me)
      (Program.handle
        (do
          raising (perform (.drain conn cmd))
          raising (perform (.readLine conn cmd)))
        fun error => do
          perform (.closeNowait conn)
          throw error)
      (Renewed params gentle me conn)
      (fun error => wp (machine params) (contract params gentle) (.worker me)
        (renewFailed conn error) (Ticking params gentle me) (Stopping params gentle me))
      origin state := by
  rw [wp_handle, wp_bind]
  refine wp_await rfl Exchange.stable within inv known ?_
  intro world choice result after inv known _ executed
  rcases suspendExchange_cases executed with ⟨pending, rfl, rfl⟩ | ⟨quiet, resumed⟩
  · exact cancelled_wp known inv pending
  · split at resumed
    · split at resumed
      · rename_i ordinary
        cases resumed
        exact failed_wp known inv (quiet me rfl) ordinary
      · cases resumed
    · cases resumed
      refine wp_await rfl Exchange.stable .refl inv known ?_
      intro world choice result after inv known _ executed
      rcases suspendExchange_cases executed with ⟨pending, rfl, rfl⟩ | ⟨quiet, resumed⟩
      · exact cancelled_wp known inv pending
      · split at resumed
        · cases resumed
          exact answered_wp known inv (quiet me rfl)
        · split at resumed
          · rename_i ordinary
            cases resumed
            exact failed_wp known inv (quiet me rfl) ordinary
          · cases resumed
        · cases resumed

theorem protoRenew_wp (attending : Attending params me conn token origin)
    (inv : Invariant params gentle origin) (free : origin.ioLock = none)
    (stands : stageOn params origin.trace conn = some (.granted token)) :
    wp (machine params) (contract params gentle) (.worker me) (protoRenew params conn token)
      (fun remaining => Ticking params gentle me (some remaining))
      (fun error => wp (machine params) (contract params gentle) (.worker me)
        (renewFailed conn error) (Ticking params gentle me) (Stopping params gentle me))
      origin { origin with ioLock := some (.worker me) } := by
  have unsent {error : PyError} (ordinary : error.isException = true) :
      wp (machine params) (contract params gentle) (.worker me) (renewFailed conn error)
        (Ticking params gentle me) (Stopping params gentle me) origin
        { origin with ioLock := some (.worker me) } :=
    renewFailed_wp ordinary attending inv
      ⟨rfl, fun _ _ => rfl, fun _ _ => rfl, inv.ordered conn⟩
  unfold protoRenew exchange
  cases built : params.renewRequest token with
  | error error => exact unsent (ordinary_renewRequest _ _ _ _ _ error built)
  | ok request =>
      change wp _ _ _ (command conn request >>= _) _ _ _ _
      rw [wp_bind, command, wp_bind]
      cases encoded : encodeLines [request.cmd, request.key, request.arg] with
      | error error => exact unsent (ordinary_encodeLines _ error encoded)
      | ok bytes =>
          have opened : origin.closedConn conn = false := attending.opened
          obtain ⟨move, inv', known⟩ := attending.asked inv free stands built
          have written (choice : Choice) : (machine params).exec (.worker me) (.write conn request)
              choice { origin with ioLock := some (.worker me) } =
                some ((), asked me conn request origin) := by
            change some ((), if origin.closedConn conn then _ else _) = _
            rw [opened]
            rfl
          exact wp_run rfl written (converse_wp move inv' known)

theorem unlocked_quietly {undelivered : Thread → Bool} (inv : Invariant params gentle origin)
    (awake : Awake me origin) (free : origin.ioLock = none)
    (others : ∀ thread, thread ≠ .worker me → undelivered thread = origin.undelivered thread)
    (stopped : origin.undelivered (.worker me) = true ∨ origin.token = none) :
    Ended params gentle me (.ok ()) origin
      { origin with ioLock := none, undelivered := undelivered } := by
  have ends : Ended params gentle me (.ok ()) origin { origin with undelivered := undelivered } :=
    ended_quietly inv awake.made others stopped (by simp)
  rwa [← free]

theorem safeRenewOnce_wp (inv : Invariant params gentle origin) (awake : Awake me origin)
    (quiet : origin.undelivered (.worker me) = false) (free : origin.ioLock = none) :
    wp (machine params) (contract params gentle) (.worker me) (safeRenewOnce params)
      (Ticking params gentle me) (Stopping params gentle me) origin
      { origin with ioLock := some (.worker me) } := by
  have nothing (gone : origin.token = none) : Ended params gentle me (.ok ()) origin
      { origin with ioLock := none } :=
    unlocked_quietly inv awake free (fun _ _ => rfl) (.inr gone)
  obtain ⟨state, same⟩ : ∃ state, ({ origin with ioLock := some (.worker me) } : World) = state :=
    ⟨_, rfl⟩
  have conn : state.conn = origin.conn := by rw [← same]
  have token : state.token = origin.token := by rw [← same]
  rw [same]
  refine wp_run rfl (fun _ => rfl) (wp_run rfl (fun _ => rfl) ?_)
  rw [conn, token]
  cases connEq : origin.conn with
  | none =>
      rw [← same]
      exact nothing (inv.tokenConn connEq)
  | some conn =>
      cases tokenEq : origin.token with
      | none =>
          rw [← same]
          exact nothing tokenEq
      | some token =>
          obtain ⟨attending, stands⟩ := awake.attending inv quiet free connEq tokenEq
          rw [wp_handle, wp_bind, ← same]
          exact protoRenew_wp attending inv free stands

theorem renewTick_wp (within : WorkerMove params me origin state) (inv : Invariant params gentle state)
    (awake : Awake me state) :
    wp (machine params) (contract params gentle) (.worker me) (renewTick params)
      (Ticked params gentle me) (Stopped params gentle me) origin state := by
  unfold renewTick withIoLock raising
  rw [wp_bind, wp_ensure]
  refine wp_await rfl Awake.stable within inv awake ?_
  intro world choice result after inv awake _ executed
  rcases suspend_cases executed with ⟨pending, rfl, rfl⟩ | ⟨quiet, resumed⟩
  · refine ⟨rfl, ended_quietly inv awake.made ?_ (.inl pending) (by simp)⟩
    exact fun _ other => Function.update_of_ne other _ _
  · split at resumed
    · rename_i free
      cases resumed
      have renews := safeRenewOnce_wp inv awake (quiet me rfl) free
      have nothing (gone : world.token = none) : Ended params gentle me (.ok ()) world
          { world with ioLock := none } :=
        unlocked_quietly inv awake free (fun _ _ => rfl) (.inr gone)
      obtain ⟨state, same⟩ :
          ∃ state, ({ world with ioLock := some (.worker me) } : World) = state := ⟨_, rfl⟩
      have closedEq : state.closed = world.closed := by rw [← same]
      rw [same] at renews ⊢
      refine wp_run rfl (fun _ => rfl) ?_
      rw [closedEq]
      cases closed : world.closed with
      | true =>
          refine wp_perform rfl (fun _ => rfl) ?_
          rw [← same]
          exact nothing (inv.tokenConn (inv.shut closed))
      | false =>
          refine wp_mono renews ?_ ?_
          · exact fun _ _ _ known => wp_perform rfl (fun _ => rfl) known
          · exact fun _ _ _ known => wp_perform rfl (fun _ => rfl) known
    · cases resumed

theorem leased (lease : Int) (within : WorkerMove params me origin state)
    (inv : Invariant params gentle state) (held : state.token ≠ none) :
    WorkerMove params me origin { state with lease := lease } ∧
      Invariant params gentle { state with lease := lease } := by
  refine ⟨within.trans ?_, ?_⟩
  · exact { (WorkerMove.refl : WorkerMove params me state state) with
      counted := fun _ => .of_same ⟨rfl, rfl⟩ }
  · refine { inv with tokenLease := ?_ }
    exact fun gone => absurd gone held

/-- What a task knows between two rounds. -/
def WorkerRest (me : Nat) (outcome : Except PyError WorkerState) (world : World) : Prop :=
  match outcome with
  | .ok .fresh => world.outcome me = none ∧ world.ioLock ≠ some (.worker me)
  | .ok (.sleeping _) => Awake me world
  | _ => True

theorem WorkerRest.stable {outcome : Except PyError WorkerState} :
    WorkerStable params gentle me (WorkerRest me outcome) := by
  cases outcome with
  | ok state =>
      cases state with
      | fresh =>
          intro other different before after _ _ within known
          obtain ⟨_, outcome, ioLock⟩ := around different within
          exact ⟨outcome.trans known.1, fun held => known.2 (ioLock.mpr held)⟩
      | sleeping interval => exact Awake.stable
      | done => exact .const
  | error error => exact .const

abbrev Rests (params : Params) (gentle : Bool) (me : Nat) (outcome : Except PyError WorkerState)
    (origin state : World) : Prop :=
  WorkerMove params me origin state ∧ Invariant params gentle state ∧ WorkerRest me outcome state

theorem updateLease_wp {remaining : Int}
    (known : Ticked params gentle me (some remaining) origin state) :
    wp (machine params) (contract params gentle) (.worker me) (updateLease remaining)
      (fun _ origin state => WorkerMove params me origin state ∧ Invariant params gentle state ∧
        Awake me state) (fun _ _ _ => False) origin state := by
  obtain ⟨within, inv, awake, held⟩ := known
  unfold updateLease
  split
  · refine wp_run rfl (fun _ => rfl) ?_
    split
    · refine wp_run rfl (fun _ => rfl) ?_
      split
      · exact ⟨within, inv, awake⟩
      · obtain ⟨within', inv'⟩ := leased remaining within inv held
        exact wp_perform rfl (fun _ => rfl) ⟨within', inv', awake.made, awake.outcome, awake.free⟩
    · exact ⟨within, inv, awake⟩
  · exact ⟨within, inv, awake⟩

def Left (params : Params) (gentle : Bool) (me : Nat) (next : WorkerState)
    (origin state : World) : Prop :=
  match next with
  | .done => Ended params gentle me (.ok ()) origin state
  | next => Rests params gentle me (.ok next) origin state

theorem renewLoopBody_wp {interval : Rat} (inv : Invariant params gentle world)
    (awake : Awake me world) :
    wp (machine params) (contract params gentle) (.worker me) (renewLoopBody params interval)
      (Left params gentle me) (Stopped params gentle me) world world := by
  unfold renewLoopBody raising
  rw [wp_bind]
  refine wp_await rfl Awake.stable .refl inv awake ?_
  intro world choice result after inv awake _ executed
  rcases suspend_cases executed with ⟨pending, rfl, rfl⟩ | ⟨quiet, resumed⟩
  · refine ⟨rfl, ended_quietly inv awake.made ?_ (.inl pending) (by simp)⟩
    exact fun _ other => Function.update_of_ne other _ _
  · split at resumed
    · cases resumed
      change wp _ _ _ (renewTick params >>= _) _ _ _ _
      rw [wp_bind]
      refine wp_mono (renewTick_wp .refl inv awake) ?_ fun _ _ _ known => known
      intro result origin state known
      cases result with
      | none => exact known
      | some remaining =>
          change wp _ _ _ (updateLease remaining >>= _) _ _ _ _
          rw [wp_bind]
          refine wp_mono (updateLease_wp known) ?_ fun _ _ _ never => never.elim
          exact fun _ _ _ known => known
    · cases resumed

theorem renewRound_wp {interval : Rat} (inv : Invariant params gentle world)
    (awake : Awake me world) :
    wp (machine params) (contract params gentle) (.worker me) (renewRound params interval)
      (fun next => Rests params gentle me (.ok next))
      (fun error => Rests params gentle me (.error error)) world world := by
  have marks (next : WorkerState) {origin state : World}
      (known : Left params gentle me next origin state) :
      wp (machine params) (contract params gentle) (.worker me)
        (do
          if next = .done then perform (.endTask (.ok ())) else pure ()
          pure next)
        (fun next => Rests params gentle me (.ok next))
        (fun error => Rests params gentle me (.error error)) origin state := by
    cases next with
    | done => exact wp_run rfl (fun _ => rfl) ⟨known.1, known.2, trivial⟩
    | fresh | sleeping interval => exact known
  unfold renewRound
  rw [wp_bind, wp_handle]
  refine wp_mono (renewLoopBody_wp inv awake) (fun next _ _ known => marks next known) ?_
  rintro error origin state ⟨cancellation, ends⟩
  rw [if_pos cancellation]
  exact marks .done ends

theorem renewLoop_wp (inv : Invariant params gentle world) (fresh : WorkerRest me (.ok .fresh) world) :
    wp (machine params) (contract params gentle) (.worker me) (renewLoop params)
      (fun next => Rests params gentle me (.ok next))
      (fun error => Rests params gentle me (.error error)) world world := by
  unfold renewLoop
  rw [perform, Program.perform, Program.act_bind, wp_act rfl]
  intro choice result after executed
  have executed : (if me < world.workers then
      some (world.undelivered (.worker me), world.deliver (.worker me)) else none) =
        some (result, after) := executed
  split at executed
  · rename_i made
    cases executed
    have others : ∀ thread, thread ≠ .worker me →
        (world.deliver (.worker me)).undelivered thread = world.undelivered thread :=
      fun _ other => Function.update_of_ne other _ _
    cases pending : world.undelivered (.worker me) with
    | true =>
        have ends : Ended params gentle me (.error cancelled) world (world.deliver (.worker me)) :=
          ended_quietly inv made others (.inl pending) fun error same => by cases same; rfl
        exact wp_run rfl (fun _ => rfl) ⟨ends.1, ends.2, trivial⟩
    | false =>
        have unmoved : world.deliver (.worker me) = world := by
          rw [World.deliver, ← pending, Function.update_eq_self]
        rw [unmoved]
        exact wp_run rfl (fun _ => rfl) ⟨.refl, inv, made, fresh.1, fresh.2⟩
  · cases executed

end Tick

end DflockdClient.Async.Shared
