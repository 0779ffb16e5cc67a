import DflockdClient.AsyncCallers

/-! The operations of an asynchronous instance keep to the contract. -/

namespace DflockdClient.Async.Shared

open Interleaving Session
open Sync (Call CallValue Event)

variable {params : Params} {gentle : Bool} {me : Nat}

abbrev CallerTriple (params : Params) (gentle : Bool) (me : Nat) {α : Type} (pre : World → Prop)
    (program : Py α) (post : α → World → Prop) (raised : PyError → World → Prop) : Prop :=
  Triple (machine params) (contract params gentle) (.caller me) pre program post raised

structure Asked (me count : Nat) (world : World) : Prop where
  more : count ≤ world.cancelling (.caller me)
  asked : count < world.cancelling (.caller me) → world.undelivered (.caller me) = true

theorem Asked.counted {count : Nat} {before after : World} (counted : Counted me before after)
    (known : Asked me count before) : Asked me count after := by
  refine ⟨Nat.le_trans known.more counted.more, ?_⟩
  intro less
  by_cases earlier : count < before.cancelling (.caller me)
  · exact counted.kept (known.asked earlier)
  · exact counted.asked (Nat.lt_of_le_of_lt (Nat.not_lt.mp earlier) less)

theorem Asked.stable {count : Nat} : (contract params gentle).Stable (.caller me) (Asked me count) := by
  intro other different before after _ _ within known
  cases other with
  | caller id =>
      have move : CallerMove params id before after := within
      exact known.counted (move.counted me fun same => different (congrArg Thread.caller same.symm))
  | worker worker =>
      have move : WorkerMove params worker before after := within
      exact known.counted (move.counted me)
  | other id =>
      have move : OtherMove before after := within
      exact known.counted (move.counted me)

/-- A caller that is cancelled while it stops the renewal task of a held lock, before it has the
I/O lock: what gentle runs exclude. -/
def Excused (gentle : Bool) (me : Nat) (world : World) : Prop :=
  gentle = true → world.token = none ∨ world.ioLock = some (.caller me)

def At (params : Params) (gentle : Bool) (me : Nat) (fact : World → Prop)
    (origin state : World) : Prop :=
  CallerMove params me origin state ∧ Invariant params gentle state ∧ fact state

theorem dropped_none {world : World} (none : world.renewTask = none) :
    Dropped world { world with renewTask := .none } := by
  refine ⟨by rw [← none], fun worker => ?_, fun id => ⟨rfl, rfl⟩⟩
  simp [Live, none]

theorem dropped_ended {world : World} {task : Nat} (taskEq : world.renewTask = some task)
    (ended : (world.outcome task).isSome) : Dropped world { world with renewTask := none } := by
  refine ⟨rfl, fun worker => ?_, fun id => ⟨rfl, rfl⟩⟩
  simp only [Live, taskEq, ne_eq, Option.some.injEq]
  constructor
  · rintro ⟨outcome, undelivered⟩
    refine ⟨⟨outcome, undelivered⟩, ?_⟩
    rintro rfl
    rw [outcome] at ended
    cases ended
  · exact fun known => known.1

theorem dropped_running {world : World} {task : Nat} (taskEq : world.renewTask = some task) :
    Dropped world (({ world with renewTask := none }).request (.worker task)) := by
  refine ⟨rfl, fun worker => ?_, fun id => ⟨by simp [World.request], by simp [World.request]⟩⟩
  simp only [Live, World.request, taskEq, ne_eq, Option.some.injEq]
  by_cases same : worker = task
  · simp [same]
  · simp [same, Function.update_of_ne, Ne.symm same]

/-- What `_cancel_and_wait` makes of a cancellation: it is raised if it was meant for the caller. -/
theorem swallow_wp {fact : World → Prop} {origin state : World} {count : Nat} {error : PyError}
    (cancellation : error.cls = .cancelledError) (known : At params gentle me fact origin state)
    (excused : count < state.cancelling (.caller me) → Excused gentle me state) :
    wp (machine params) (contract params gentle) (.caller me)
      (if error.cls = .cancelledError then do
        if (← perform .cancelling) > count then throw error else pure ()
      else if error.isException then pure ()
      else throw error)
      (fun _ => At params gentle me fact)
      (fun error => At params gentle me fun world =>
        fact world ∧ error.cls = .cancelledError ∧ Excused gentle me world) origin state := by
  rw [if_pos cancellation]
  refine wp_run rfl (fun _ => rfl) ?_
  split
  · rename_i more
    exact ⟨known.1, known.2.1, known.2.2, cancellation, excused more⟩
  · exact known

theorem cancelRenew_wp {fact : World → Prop} {origin state : World}
    (kept : Kept params gentle me fact)
    (holds : ∀ world, fact world → world.stateLock = some (.caller me))
    (step : ∀ after, Dropped state after → At params gentle me fact origin after) :
    wp (machine params) (contract params gentle) (.caller me) cancelRenew
      (fun _ => At params gentle me fact)
      (fun error => At params gentle me fun world =>
        fact world ∧ error.cls = .cancelledError ∧ Excused gentle me world) origin state := by
  refine wp_run rfl (fun _ => rfl) (wp_run rfl (fun _ => rfl) ?_)
  cases taskEq : state.renewTask with
  | none => exact step _ (dropped_none taskEq)
  | some task =>
      refine wp_run rfl (fun _ => rfl) (wp_run rfl (fun _ => rfl) ?_)
      rw [wp_handle]
      refine wp_run rfl (fun _ => rfl) ?_
      cases ended : state.outcome task with
      | some outcome =>
          have known := step _ (dropped_ended taskEq (by simp [ended]))
          simp only [ended, Option.isNone_some, Bool.false_eq_true, if_false]
          cases outcome with
          | ok value => exact known
          | error error =>
              refine swallow_wp (known.2.1.ended task error ended) known fun more => ?_
              exact absurd more (Nat.lt_irrefl _)
      | none =>
          have known := step _ (dropped_running taskEq)
          simp only [ended, Option.isNone_none, if_true, World.request]
          have asked : Asked me (state.cancelling (.caller me))
              (({ state with renewTask := none }).request (.worker task)) := by
            constructor <;> simp [World.request]
          have awaited : CallerTriple params gentle me
              (fun world => fact world ∧ Asked me (state.cancelling (.caller me)) world)
              (raising (perform (.awaitOuter task))) (fun _ => fact)
              (fun error world => fact world ∧ error.cls = .cancelledError ∧
                (state.cancelling (.caller me) < world.cancelling (.caller me) →
                  Excused gentle me world)) := by
            refine Triple.raising (Triple.perform rfl ((kept.stable holds).and Asked.stable) ?_)
            intro world choice result after inv ⟨known, asked⟩ permitted executed
            rcases suspend_cases executed with ⟨pending, rfl, rfl⟩ | ⟨_, resumed⟩
            · refine ⟨deliver_move, inv.untouched deliver_untouched,
                kept.other _ _ deliver_untouched known, rfl, fun _ gently => ?_⟩
              exact permitted gently ⟨task, rfl⟩ pending
            · rw [Option.map_eq_some_iff] at resumed
              obtain ⟨outcome, ended, same⟩ := resumed
              cases same
              refine ⟨.refl, inv, ?_⟩
              cases result with
              | ok value => exact known
              | error error =>
                  refine ⟨known, inv.ended task error ended, fun more => ?_⟩
                  exact fun gently => permitted gently ⟨task, rfl⟩ (asked.asked more)
          refine wp_mono (awaited origin _ known.1 known.2.1 ⟨known.2.2, asked⟩)
            (fun _ _ _ ended => ended) ?_
          intro error origin state ⟨move, inv, known, cancellation, excused⟩
          exact swallow_wp cancellation ⟨move, inv, known⟩ excused

section Close

variable {origin state : World} {raised : PyError → World → World → Prop}

theorem clearHeldState_wp {post : Unit → World → World → Prop}
    (known : post () origin { state with token := none, lease := 0 }) :
    wp (machine params) (contract params gentle) (.caller me) clearHeldState post raised origin
      state :=
  wp_run rfl (fun _ => rfl) (wp_perform rfl (fun _ => rfl) known)

theorem detachConn_wp {post : Option Nat → World → World → Prop}
    (known : post state.conn origin
      { state.setConn (.caller me) none with token := none, lease := 0 }) :
    wp (machine params) (contract params gentle) (.caller me) detachConn post raised origin
      state := by
  refine wp_run rfl (fun _ => rfl) (wp_run rfl (fun _ => rfl) ?_)
  rw [wp_bind]
  exact clearHeldState_wp known

theorem closeConn_triple {conn : Nat} {pre fact : World → Prop}
    (ready : ∀ world, pre world → conn < world.conns ∧ world.renewTask = none ∧
      world.stateLock = some (.caller me))
    (shuts : ∀ world, pre world → fact (closing conn world)) (kept : Kept params gentle me fact)
    (holds : ∀ world, fact world → world.stateLock = some (.caller me)) :
    CallerTriple params gentle me pre (closeConn conn) (fun _ => fact) (fun _ => fact) := by
  have closes {raised : PyError → World → Prop} :
      CallerTriple params gentle me pre (perform (.closeNowait conn)) (fun _ => fact) raised := by
    refine Triple.act rfl (fun _ _ _ => CallerMove.trans) ?_
    intro world choice result after inv known executed
    cases executed
    obtain ⟨made, forgotten, held⟩ := ready world known
    exact ⟨closing_move held, .forgotten (inv.toCore.closing made) inv.settled.closing held
      forgotten, shuts world known⟩
  have waits : CallerTriple params gentle me fact (raising (perform (.waitClosed conn)))
      (fun _ => fact) (fun _ => fact) := by
    refine Triple.raising (Triple.perform rfl (kept.stable holds) ?_)
    intro world choice result after inv known _ executed
    rcases suspend_cases executed with ⟨_, rfl, rfl⟩ | ⟨_, resumed⟩
    · exact ⟨deliver_move, inv.untouched deliver_untouched,
        kept.other _ _ deliver_untouched known⟩
    · have unmoved : after = world := by
        split at resumed
        · split at resumed
          · cases resumed
            rfl
          · cases resumed
        · cases resumed
          rfl
      subst unmoved
      refine ⟨.refl, inv, ?_⟩
      cases result with
      | ok value => exact known
      | error error => exact known
  refine closes.bind fun _ => Triple.handle waits fun error => ?_
  split
  · exact Triple.ret fun _ _ known => known
  · exact Triple.raise fun _ _ known => known

structure Down (me : Nat) (world : World) : Prop extends Busy me false none world where
  conn : world.conn = none
  closed : world.closed = true
  task : world.renewTask = none

theorem Down.kept : Kept params gentle me (Down me) := by
  have all : Kept params gentle me fun world => Busy me false none world ∧ world.conn = none ∧
      world.closed = true ∧ world.renewTask = none :=
    Busy.kept.and (connNone_kept.and (closed_kept.and taskNone_kept))
  constructor
  · intro worker before after move inv held known
    obtain ⟨busy, conn, closed, task⟩ := all.worker worker before after move inv held
      ⟨known.toBusy, known.conn, known.closed, known.task⟩
    exact ⟨busy, conn, closed, task⟩
  · intro before after same known
    obtain ⟨busy, conn, closed, task⟩ := all.other before after same
      ⟨known.toBusy, known.conn, known.closed, known.task⟩
    exact ⟨busy, conn, closed, task⟩

theorem Down.closing {conn : Nat} {world : World} (down : Down me world) :
    Down me (closing conn world) :=
  ⟨⟨down.lock, down.io, fun other held now => down.hand other held (open_of_closing now)⟩,
    down.conn, down.closed, down.task⟩

theorem Shut.down {middle after : World} (shut : Shut me state middle)
    (dropped : Dropped middle after) (core : Core params state) (busy : Busy me false none state)
    (move : CallerMove params me origin state) : At params gentle me (Down me) origin after := by
  have settled : Settled params after := by
    intro conn token connEq
    rw [dropped.same, shut.same] at connEq
    cases connEq
  have down : Down me after := by
    have opened : ∀ conn, Open after conn → Open middle conn := by
      intro conn
      rw [dropped.same]
      exact id
    refine ⟨⟨?_, ?_, ?_⟩, ?_, ?_, ?_⟩
    · rw [dropped.same, shut.same]
      exact busy.lock
    · rw [dropped.same, shut.same]
      exact busy.io
    · intro conn held now
      have now := opened conn now
      rw [dropped.same] at held
      have held : middle.inHand conn = some (.caller me) := held
      rw [shut.inHand conn now] at held
      exact busy.hand conn held ((shut.opened conn).mp now).1
    · rw [dropped.same, shut.same]
    · rw [dropped.same, shut.same]
    · rw [dropped.same]
  exact ⟨move.trans (shut.move dropped busy.lock),
    .forgotten (dropped.core (shut.core core)) settled down.lock down.task, down⟩

theorem closeUnlocked_wp (move : CallerMove params me origin state) (core : Core params state)
    (busy : Busy me false none state) :
    wp (machine params) (contract params gentle) (.caller me) closeUnlocked
      (fun _ => At params gentle me (Down me)) (fun _ => At params gentle me (Down me))
      origin state := by
  refine wp_run rfl (fun _ => rfl) (wp_run rfl (fun _ => rfl) (wp_run rfl (fun _ => rfl) ?_))
  split
  · rename_i shut
    simp only [Bool.and_eq_true, Option.isNone_iff_eq_none] at shut
    obtain ⟨⟨closed, conn⟩, task⟩ := shut
    have token := core.tokenConn conn
    have lease := core.tokenLease token
    have unmoved : { state with token := none, lease := 0 } = state := by
      rw [← token, ← lease]
    refine clearHeldState_wp ?_
    rw [unmoved]
    refine ⟨move, .forgotten core (.free token) busy.lock task, busy, conn, closed, task⟩
  · refine wp_run rfl (fun _ => rfl) ?_
    rw [wp_bind]
    refine detachConn_wp ?_
    change wp _ _ _ _ _ _ origin (detached me state)
    have shut : Shut me state (shutDown me state) := shutDown_shut
    simp only [shutDown] at shut
    generalize detached me state = middle at shut ⊢
    cases connEq : state.conn with
    | none =>
        simp only [connEq] at shut
        refine wp_mono (cancelRenew_wp Down.kept (fun _ down => down.lock) fun after dropped =>
          shut.down dropped core busy move) (fun _ _ _ known => known) ?_
        exact fun _ _ _ known => ⟨known.1, known.2.1, known.2.2.1⟩
    | some conn =>
        simp only [connEq] at shut
        refine wp_run rfl (fun _ => rfl) ?_
        rw [wp_bind]
        have kept : Kept params gentle me fun world => Down me world ∧ conn < world.conns :=
          Down.kept.and made_kept
        refine wp_mono (cancelRenew_wp kept (fun _ known => known.1.lock) fun after dropped => ?_)
          ?_ ?_
        · obtain ⟨move, inv, down⟩ := shut.down dropped core busy move
          have step : CallerMove params me state after := shut.move dropped busy.lock
          exact ⟨move, inv, down, Nat.lt_of_lt_of_le (core.made conn connEq).1 step.conns⟩
        · rintro - origin state ⟨move, inv, down, made⟩
          have closes : CallerTriple params gentle me
              (fun world => Down me world ∧ conn < world.conns) (closeConn conn)
              (fun _ => Down me) (fun _ => Down me) := by
            refine closeConn_triple ?_ ?_ Down.kept fun _ down => down.lock
            · exact fun world known => ⟨known.2, known.1.task, known.1.lock⟩
            · exact fun world known => known.1.closing
          exact closes origin state move inv ⟨down, made⟩
        · rintro error origin state ⟨move, inv, ⟨down, _⟩, _⟩
          exact ⟨move, inv, down⟩

theorem closeUnlocked_triple :
    CallerTriple params gentle me (Busy me false none) closeUnlocked (fun _ => Down me)
      (fun _ => Down me) :=
  fun _ _ move inv busy => closeUnlocked_wp move inv.toCore busy

end Close

/-! Exchanges -/

section Exchange

variable {conn : Nat} {alive : Prop} {fact : World → Prop} {world : World}

structure Exchanging (params : Params) (gentle : Bool) (me conn : Nat) (fact : World → Prop) :
    Prop where
  kept : Kept params gentle me fact
  holds : ∀ world, fact world → world.stateLock = some (.caller me)
  ready : ∀ world, Invariant params gentle world → fact world → conn < world.conns ∧
    world.renewTask = none ∧ (world.token = none ∨ world.ioLock = some (.caller me))
  log : ∀ world event, fact world → fact (world.log [event])
  close : ∀ world, fact world → fact (closing conn world)

def With (params : Params) (alive : Prop) (conn : Nat) (fact : World → Prop) (stage : Stage)
    (world : World) : Prop :=
  fact world ∧ Standing params alive conn stage world

theorem Exchanging.logs {event : Event} {before during : Stage}
    (exchanging : Exchanging params gentle me conn fact) (inv : Invariant params gentle world)
    (known : With params alive conn fact before world) (own : connOf event = conn)
    (accepted : stageOn params (world.trace ++ [event]) conn ≠ none)
    (moved : step params before event = some during)
    (quiet : ¬Renewing (some before)) (quiet' : ¬Renewing (some during)) :
    CallerMove params me world (world.log [event]) ∧ Invariant params gentle (world.log [event]) ∧
      With params alive conn fact during (world.log [event]) := by
  obtain ⟨known, standing⟩ := known
  obtain ⟨made, forgotten, free⟩ := exchanging.ready world inv known
  have held := exchanging.holds world known
  have was : Open world conn → ¬Renewing (stageOn params world.trace conn) := by
    intro opened
    rw [standing.stage opened]
    exact quiet
  have stands : Open world conn →
      stageOn params (world.trace ++ [event]) conn = some during := by
    intro opened
    rw [stageOn_own own, standing.stage opened]
    exact moved
  have is : Open world conn → ¬Renewing (stageOn params (world.trace ++ [event]) conn) := by
    intro opened
    rw [stands opened]
    exact quiet'
  refine ⟨log_move held own was is, ?_, exchanging.log world event known, standing.opened, stands⟩
  exact .forgotten (inv.toCore.log own made accepted is) (.quiet free) held forgotten

theorem deliver_known (kept : Kept params gentle me fact) (inv : Invariant params gentle world)
    (known : fact world) :
    CallerMove params me world (world.deliver (.caller me)) ∧
      Invariant params gentle (world.deliver (.caller me)) ∧
      fact (world.deliver (.caller me)) :=
  ⟨deliver_move, inv.untouched deliver_untouched, kept.other _ _ deliver_untouched known⟩

variable {cmd : Str} {during : Stage}

theorem quiet_of_idle (idle : ¬Serving (some during)) : ¬Renewing (some during) := by
  rintro ⟨token, same⟩
  exact idle ⟨token, .inr same⟩

theorem ended_accepted {event : Event} (inv : Invariant params gentle world)
    (own : connOf event = conn) (ends : ∀ stage, ∃ next, step params stage event = some next) :
    stageOn params (world.trace ++ [event]) conn ≠ none := by
  obtain ⟨stage, stands⟩ := Option.ne_none_iff_exists'.mp (inv.ordered conn)
  obtain ⟨next, moved⟩ := ends stage
  rw [stageOn_own own, stands]
  simp [moved]

theorem Exchanging.unanswered (exchanging : Exchanging params gentle me conn fact)
    (idle : ¬Serving (some during)) (inv : Invariant params gentle world)
    (known : With params alive conn fact during world) :
    CallerMove params me world (world.log [.noAnswer conn cmd]) ∧
      Invariant params gentle (world.log [.noAnswer conn cmd]) ∧
      fact (world.log [.noAnswer conn cmd]) := by
  have quiet := quiet_of_idle idle
  have quiet' : ¬Renewing (some (lose during)) := by
    rintro ⟨token, same⟩
    cases during <;> cases same
  have lost : step params during (.noAnswer conn cmd) = some (lose during) := rfl
  obtain ⟨move, inv, known, _⟩ := exchanging.logs inv known rfl
    (ended_accepted inv rfl fun _ => ⟨_, rfl⟩) lost quiet quiet'
  exact ⟨move, inv, known⟩

theorem Exchanging.cancelled (exchanging : Exchanging params gentle me conn fact)
    (idle : ¬Serving (some during)) (inv : Invariant params gentle world)
    (known : With params alive conn fact during world) :
    CallerMove params me world ((world.deliver (.caller me)).log [.noAnswer conn cmd]) ∧
      Invariant params gentle ((world.deliver (.caller me)).log [.noAnswer conn cmd]) ∧
      fact ((world.deliver (.caller me)).log [.noAnswer conn cmd]) := by
  obtain ⟨delivered, inv, known⟩ :=
    deliver_known (exchanging.kept.and (Standing.kept idle)) inv known
  obtain ⟨move, inv, known⟩ := exchanging.unanswered idle inv known
  exact ⟨delivered.trans move, inv, known⟩

theorem Exchanging.stable (exchanging : Exchanging params gentle me conn fact)
    (idle : ¬Serving (some during)) :
    (contract params gentle).Stable (.caller me) (With params alive conn fact during) :=
  (exchanging.kept.and (Standing.kept idle)).stable fun world known =>
    exchanging.holds world known.1

theorem write_triple {request : Request} {before : Stage} {raised : PyError → World → Prop}
    (exchanging : Exchanging params gentle me conn fact)
    (moved : send params before request = some during)
    (quiet : ¬Renewing (some before)) (idle : ¬Serving (some during)) :
    CallerTriple params gentle me (With params alive conn fact before)
      (perform (.write conn request)) (fun _ => With params alive conn fact during) raised := by
  refine Triple.act rfl (fun _ _ _ => CallerMove.trans) ?_
  intro world choice result after inv known executed
  have executed : some ((), if world.closedConn conn then world
      else world.log [.frame conn request]) = some (result, after) := executed
  split at executed
  · rename_i closed
    cases executed
    have shut : ¬Open world conn := by simp [Open, closed]
    refine ⟨.refl, inv, known.1, fun living => ?_, fun opened => absurd opened shut⟩
    exact absurd (known.2.opened living) shut
  · rename_i opened
    cases executed
    have opened : Open world conn := by simpa [Open] using opened
    refine exchanging.logs inv known rfl ?_ moved quiet (quiet_of_idle idle)
    have own : connOf (.frame conn request) = conn := rfl
    rw [stageOn_own own, known.2.stage opened]
    simp [step, moved]

theorem drain_triple (exchanging : Exchanging params gentle me conn fact)
    (idle : ¬Serving (some during)) :
    CallerTriple params gentle me (With params alive conn fact during)
      (raising (perform (.drain conn cmd))) (fun _ => With params alive conn fact during)
      (fun _ => fact) := by
  refine Triple.raising (Triple.perform rfl (exchanging.stable idle) ?_)
  intro world choice result after inv known _ executed
  rcases suspendExchange_cases executed with ⟨_, rfl, rfl⟩ | ⟨_, resumed⟩
  · exact exchanging.cancelled idle inv known
  · split at resumed
    · split at resumed
      · cases resumed
        exact exchanging.unanswered idle inv known
      · cases resumed
    · cases resumed
      exact ⟨.refl, inv, known⟩

theorem receive_quiet {line : Str} (quiet : ¬Renewing (some during)) :
    ¬Renewing (some (receive during cmd line)) := by
  rintro ⟨token, same⟩
  simp only [Option.some.injEq] at same
  cases during with
  | renewing token => exact quiet ⟨token, rfl⟩
  | authenticating | asking asked =>
      simp only [receive] at same
      split at same <;> grind
  | opened | ready | queued | granted token | releasing | spent => cases same

theorem readLine_triple (exchanging : Exchanging params gentle me conn fact)
    (idle : ¬Serving (some during)) :
    CallerTriple params gentle me (With params alive conn fact during)
      (raising (perform (.readLine conn cmd)))
      (fun line => With params alive conn fact (receive during cmd line)) (fun _ => fact) := by
  refine Triple.raising (Triple.perform rfl (exchanging.stable idle) ?_)
  intro world choice result after inv known _ executed
  have quiet := quiet_of_idle idle
  rcases suspendExchange_cases executed with ⟨_, rfl, rfl⟩ | ⟨_, resumed⟩
  · exact exchanging.cancelled idle inv known
  · split at resumed
    · rename_i line
      cases resumed
      refine exchanging.logs inv known rfl (ended_accepted inv rfl fun _ => ⟨_, rfl⟩) rfl quiet ?_
      exact receive_quiet quiet
    · split at resumed
      · cases resumed
        exact exchanging.unanswered idle inv known
      · cases resumed
    · cases resumed

theorem exchange_triple {α : Type} {request : Except PyError Request}
    {parse : Str → Except PyError α} {before : Stage} (during : Request → Stage)
    (exchanging : Exchanging params gentle me conn fact)
    (sends : ∀ built, request = .ok built → send params before built = some (during built))
    (quiet : ¬Renewing (some before)) (idle : ∀ built, ¬Serving (some (during built))) :
    CallerTriple params gentle me (With params alive conn fact before)
      (exchange conn request parse)
      (fun value world => ∃ built line, request = .ok built ∧ parse line = .ok value ∧
        With params alive conn fact (receive (during built) built.cmd line) world)
      (fun _ => fact) := by
  cases request with
  | error error => exact Triple.raise fun _ _ known => known.1
  | ok built =>
      have exchanged : CallerTriple params gentle me (With params alive conn fact before)
          (command conn built)
          (fun line => With params alive conn fact (receive (during built) built.cmd line))
          (fun _ => fact) := by
        refine (Triple.orRaise (fun _ _ _ known => known) fun _ _ _ known =>
          known.1).discard.bind fun _ => ?_
        refine (write_triple exchanging (sends built rfl) quiet (idle built)).bind fun _ => ?_
        refine Triple.handle ((drain_triple exchanging (idle built)).bind fun _ =>
          readLine_triple exchanging (idle built)) fun error => ?_
        have closes : CallerTriple params gentle me fact (perform (.closeNowait conn))
            (fun _ => fact) (fun _ => fact) := by
          refine Triple.act rfl (fun _ _ _ => CallerMove.trans) ?_
          intro world choice result after inv known executed
          cases executed
          obtain ⟨made, forgotten, free⟩ := exchanging.ready world inv known
          have held := exchanging.holds world known
          exact ⟨closing_move held, .forgotten (inv.toCore.closing made) inv.settled.closing held
            forgotten, exchanging.close world known⟩
        exact closes.bind fun _ => Triple.raise fun _ _ known => known
      refine exchanged.bind fun line => Triple.orRaise ?_ ?_
      · exact fun value parsed world known => ⟨built, line, rfl, parsed, known⟩
      · exact fun _ _ _ known => known.1

end Exchange

structure Entered (params : Params) (gentle : Bool) (me : Nat) (world : World) : Prop
    extends Busy me false none world where
  queued : Queued params world
  watched : Watched gentle world

theorem Entered.vacant {world : World} (inv : Invariant params gentle world)
    (busy : Busy me false none world) (gone : world.conn = none) :
    Entered params gentle me world := by
  refine ⟨busy, ?_, ?_⟩
  · intro conn connEq
    rw [gone] at connEq
    cases connEq
  · intro _ held
    exact absurd (inv.tokenConn gone) held

def Shelved (world : World) : Prop := ∀ conn, conn < world.conns → ¬Open world conn

structure Nothing (world : World) : Prop where
  conn : world.conn = none
  token : world.token = none
  lease : world.lease = 0
  stopped : ∀ worker, worker < world.workers → ¬Live world worker
  shelved : Shelved world

theorem Nothing.of {world : World} (inv : Invariant params gentle world)
    (busy : Busy me false none world) (gone : world.conn = none) : Nothing world := by
  have token := inv.tokenConn gone
  refine ⟨gone, token, inv.tokenLease token, ?_, ?_⟩
  · intro worker made living
    exact inv.unwatched token worker (inv.stale worker made living) living
  · intro conn made opened
    rcases inv.accounted conn made opened with connEq | held
    · rw [gone] at connEq
      cases connEq
    · obtain ⟨thread, held⟩ := Option.ne_none_iff_exists'.mp held
      have locked := inv.hand thread conn held opened
      rw [busy.lock] at locked
      cases locked
      exact absurd (busy.hand conn held opened) (by simp)

def Raised (params : Params) (gentle : Bool) (me : Nat) (error : PyError) (world : World) : Prop :=
  Entered params gentle me world ∧ (error.cls = .cancelledError ∨ Nothing world)

def Emptied (params : Params) (gentle : Bool) (me : Nat) (world : World) : Prop :=
  Entered params gentle me world ∧ Nothing world

theorem Emptied.of {world : World} (inv : Invariant params gentle world)
    (busy : Busy me false none world) (gone : world.conn = none) :
    Emptied params gentle me world :=
  ⟨.vacant inv busy gone, .of inv busy gone⟩

theorem Emptied.raised {error : PyError} {world : World} (known : Emptied params gentle me world) :
    Raised params gentle me error world :=
  ⟨known.1, .inr known.2⟩

theorem Down.emptied {world : World} (inv : Invariant params gentle world) (down : Down me world) :
    Emptied params gentle me world :=
  .of inv down.toBusy down.conn

theorem close_triple {pre : World → Prop} (busy : ∀ world, pre world → Busy me false none world) :
    CallerTriple params gentle me pre closeUnlocked (fun _ => Emptied params gentle me)
      (Raised params gentle me) :=
  closeUnlocked_triple.weaken (fun world _ known => busy world known)
    (fun _ _ inv down => down.emptied inv) (fun _ _ inv down => (down.emptied inv).raised)

structure Vacant (me : Nat) (hand : Option Nat) (world : World) : Prop
    extends Busy me false hand world where
  conn : world.conn = none
  closed : world.closed = false
  task : world.renewTask = none

theorem Vacant.kept {hand : Option Nat} : Kept params gentle me (Vacant me hand) := by
  have all : Kept params gentle me fun world => Busy me false hand world ∧ world.conn = none ∧
      world.closed = false ∧ world.renewTask = none :=
    Busy.kept.and (connNone_kept.and (closed_kept.and taskNone_kept))
  constructor
  · intro worker before after move inv held known
    obtain ⟨busy, conn, closed, task⟩ := all.worker worker before after move inv held
      ⟨known.toBusy, known.conn, known.closed, known.task⟩
    exact ⟨busy, conn, closed, task⟩
  · intro before after same known
    obtain ⟨busy, conn, closed, task⟩ := all.other before after same
      ⟨known.toBusy, known.conn, known.closed, known.task⟩
    exact ⟨busy, conn, closed, task⟩

theorem Vacant.emptied {world : World} (inv : Invariant params gentle world)
    (vacant : Vacant me none world) : Emptied params gentle me world :=
  .of inv vacant.toBusy vacant.conn

theorem stopForAttempt_triple : CallerTriple params gentle me (Entered params gentle me) cancelRenew
    (fun _ => Busy me false none) (Raised params gentle me) := by
  intro origin state move inv known
  have kept : Kept params gentle me fun world =>
      Busy me false none world ∧ Queued params world ∧ world.renewTask = none :=
    Busy.kept.and (Queued.kept.and taskNone_kept)
  refine wp_mono (cancelRenew_wp kept (fun _ known => known.1.lock) fun after dropped => ?_) ?_ ?_
  · have settled : Settled params after := by
      rw [dropped.same]
      exact inv.settled
    refine ⟨move.trans (dropped.move known.lock), ?_, ?_, ?_, ?_⟩
    · have held : after.stateLock = some (.caller me) := by
        rw [dropped.same]
        exact known.lock
      exact .forgotten (dropped.core inv.toCore) settled held (by rw [dropped.same])
    · rw [dropped.same]
      exact ⟨known.lock, known.io, known.hand⟩
    · rw [dropped.same]
      intro conn connEq tokenEq
      obtain ⟨opened, queued, _⟩ := known.queued conn connEq tokenEq
      exact ⟨opened, queued, rfl⟩
    · rw [dropped.same]
  · exact fun _ _ _ known => ⟨known.1, known.2.1, known.2.2.1⟩
  · rintro error origin state ⟨move, inv, ⟨busy, queued, _⟩, cancellation, excused⟩
    refine ⟨move, inv, ⟨busy, queued, ?_⟩, .inl cancellation⟩
    intro gently held
    rcases excused gently with free | locked
    · exact absurd free held
    · exact absurd (busy.io.mp locked) (by simp)

theorem reset_triple : CallerTriple params gentle me (Entered params gentle me) resetForNewAttempt
    (fun _ => Vacant me none) (Raised params gentle me) := by
  have closes : CallerTriple params gentle me (Busy me false none) closeUnlocked (fun _ => Down me)
      (Raised params gentle me) :=
    closeUnlocked_triple.weaken (fun _ _ known => known) (fun _ _ _ down => down)
      (fun _ _ inv down => (down.emptied inv).raised)
  refine stopForAttempt_triple.bind fun _ => closes.bind fun _ => ?_
  refine Triple.act rfl (fun _ _ _ => CallerMove.trans) ?_
  intro world choice result after inv down executed
  cases executed
  have core := inv.toCore
  refine ⟨?_, ?_, ⟨⟨down.lock, down.io, down.hand⟩, down.conn, rfl, down.task⟩⟩
  · exact .within down.lock rfl (fun _ _ => .inl rfl) (fun _ now => now)
      (fun _ _ _ connEq => ⟨connEq, rfl, .inl rfl⟩) (fun _ _ taskEq => ⟨taskEq, rfl, rfl⟩)
      (Nat.le_refl _) (Nat.le_refl _)
  · refine .forgotten { core with shut := ?_ } inv.settled down.lock down.task
    intro closed
    cases closed

/-! Opening a connection -/

def Dialled (me conn : Nat) (world : World) : Prop :=
  Vacant me (some conn) world ∧ conn < world.conns

theorem Vacant.closing {conn : Nat} {hand : Option Nat} {world : World}
    (vacant : Vacant me hand world) : Vacant me hand (closing conn world) :=
  ⟨⟨vacant.lock, vacant.io, fun other held now => vacant.hand other held (open_of_closing now)⟩,
    vacant.conn, vacant.closed, vacant.task⟩

theorem Dialled.exchanging {conn : Nat} : Exchanging params gentle me conn (Dialled me conn) where
  kept := Vacant.kept.and made_kept
  holds := fun _ known => known.1.lock
  ready := fun _ inv known => ⟨known.2, known.1.task, .inl (inv.tokenConn known.1.conn)⟩
  log := fun _ _ ⟨vacant, made⟩ =>
    ⟨⟨⟨vacant.lock, vacant.io, vacant.hand⟩, vacant.conn, vacant.closed, vacant.task⟩, made⟩
  close := fun _ known => ⟨known.1.closing, known.2⟩

theorem dial_triple {host : Str} {port : Int} :
    CallerTriple params gentle me (Vacant me none) (raising (perform (.dial host port)))
      (fun conn => With params True conn (Dialled me conn) .opened) (fun _ => Vacant me none) := by
  refine Triple.raising (Triple.perform rfl (Vacant.kept.stable fun _ known => known.lock) ?_)
  intro world choice result after inv known _ executed
  rcases suspend_cases executed with ⟨_, rfl, rfl⟩ | ⟨_, resumed⟩
  · exact deliver_known Vacant.kept inv known
  · split at resumed
    · split at resumed
      · cases resumed
        exact ⟨.refl, inv, known⟩
      · cases resumed
    · cases resumed
      obtain ⟨opened, stands⟩ := inv.unmade world.conns (Nat.le_refl _)
      refine ⟨dialled_move known.lock,
        .forgotten (inv.toCore.dialled known.lock) inv.settled known.lock known.task,
        ⟨⟨⟨known.lock, known.io, ?_⟩, known.conn, known.closed, known.task⟩, Nat.lt_succ_self _⟩,
        fun _ => opened, fun _ => stands⟩
      intro conn held now
      by_cases same : conn = world.conns
      · rw [same]
      · have held : (dialled me world).inHand conn = some (.caller me) := held
        rw [dialled_inHand same] at held
        exact absurd (known.hand conn held now) (by simp)

def idle (params : Params) : Stage :=
  match params.authToken with
  | none => .opened
  | some _ => .ready

theorem send_idle {request : Request} : send params (idle params) request = ask params request := by
  unfold idle
  split
  · rename_i free
    simp only [send, free]
  · rfl

theorem quiet_idle : ¬Renewing (some (idle params)) := by
  unfold idle
  split <;> simp [Renewing]

theorem authenticate_triple {conn : Nat} :
    CallerTriple params gentle me (With params True conn (Dialled me conn) .opened)
      (maybeAuthenticate conn params.authToken)
      (fun found world => found = conn ∧ With params True conn (Dialled me conn) (idle params) world)
      (fun _ => Vacant me none) := by
  cases given : params.authToken with
  | none =>
      refine Triple.ret fun _ _ known => ⟨rfl, ?_⟩
      simpa only [idle, given] using known
  | some authToken =>
      have exchanged : CallerTriple params gentle me (With params True conn (Dialled me conn) .opened)
          (authenticate conn authToken)
          (fun _ => With params True conn (Dialled me conn) (idle params))
          (fun _ => Dialled me conn) := by
        refine (exchange_triple (fun _ => .authenticating) Dialled.exchanging ?_ ?_ ?_).post ?_
        · intro built same
          simp [send, given, same]
        · simp [Renewing]
        · simp [Serving]
        · rintro value world _ ⟨built, line, _, parsed, known⟩
          simpa only [receive, parsed, if_true, idle, given] using known
      have closes : CallerTriple params gentle me (Dialled me conn) (closeConn conn)
          (fun _ => Vacant me none) (fun _ => Vacant me none) := by
        refine closeConn_triple ?_ ?_ Vacant.kept fun _ known => known.lock
        · exact fun world known => ⟨known.2, known.1.task, known.1.lock⟩
        · rintro world ⟨vacant, _⟩
          refine ⟨⟨vacant.lock, vacant.io, ?_⟩, vacant.conn, vacant.closed, vacant.task⟩
          intro other held now
          obtain ⟨opened, different⟩ := open_closing.mp now
          have same := vacant.hand other held opened
          simp only [Option.some.injEq] at same
          exact absurd same.symm different
      refine Triple.handle (exchanged.bind fun _ => Triple.ret fun _ _ known => ⟨rfl, known⟩)
        fun error => ?_
      exact closes.bind fun _ => Triple.raise fun _ _ known => known

structure Asking (me conn : Nat) (world : World) : Prop extends Busy me false none world where
  asking : world.conn = some conn ∧ world.token = none
  task : world.renewTask = none
  made : conn < world.conns

theorem Asking.kept {conn : Nat} : Kept params gentle me (Asking me conn) := by
  have all : Kept params gentle me fun world => Busy me false none world ∧
      (world.conn = some conn ∧ world.token = none) ∧ world.renewTask = none ∧
      conn < world.conns :=
    Busy.kept.and (asking_kept.and (taskNone_kept.and made_kept))
  constructor
  · intro worker before after move inv held known
    obtain ⟨busy, asking, task, made⟩ := all.worker worker before after move inv held
      ⟨known.toBusy, known.asking, known.task, known.made⟩
    exact ⟨busy, asking, task, made⟩
  · intro before after same known
    obtain ⟨busy, asking, task, made⟩ := all.other before after same
      ⟨known.toBusy, known.asking, known.task, known.made⟩
    exact ⟨busy, asking, task, made⟩

theorem Asking.exchanging {conn : Nat} : Exchanging params gentle me conn (Asking me conn) where
  kept := Asking.kept
  holds := fun _ known => known.lock
  ready := fun _ _ known => ⟨known.made, known.task, .inl known.asking.2⟩
  log := fun _ _ known => ⟨⟨known.lock, known.io, known.hand⟩, known.asking, known.task, known.made⟩
  close := fun _ known =>
    ⟨⟨known.lock, known.io, fun other held now => known.hand other held (open_of_closing now)⟩,
      known.asking, known.task, known.made⟩

theorem install_triple {conn : Nat} {raised : PyError → World → Prop} :
    CallerTriple params gentle me (With params True conn (Dialled me conn) (idle params))
      (perform (.setConn (some conn)))
      (fun _ => With params True conn (Asking me conn) (idle params)) raised := by
  refine Triple.act rfl (fun _ _ _ => CallerMove.trans) ?_
  rintro world choice result after inv ⟨⟨vacant, made⟩, standing⟩ executed
  cases executed
  have token := inv.tokenConn vacant.conn
  refine ⟨install_move vacant.lock vacant.conn vacant.task, ?_, ?_, standing.opened, standing.stage⟩
  · exact .forgotten (inv.toCore.install vacant.conn made vacant.closed) (.free token) vacant.lock
      vacant.task
  · refine ⟨⟨vacant.lock, vacant.io, ?_⟩, ⟨rfl, token⟩, vacant.task, made⟩
    intro other held now
    by_cases same : conn = other
    · simp [World.setConn, same] at held
    · have held : world.inHand other = some (.caller me) := by
        simpa [World.setConn, same, vacant.conn] using held
      exact absurd (Option.some.inj (vacant.hand other held now)) same

theorem open_triple : CallerTriple params gentle me (Vacant me none) (openAndAuthenticate params)
    (fun _ world => ∃ conn, With params True conn (Asking me conn) (idle params) world)
    (Raised params gentle me) := by
  have opened : CallerTriple params gentle me (Vacant me none) (openAndAuthenticate params)
      (fun _ world => ∃ conn, With params True conn (Asking me conn) (idle params) world)
      (fun _ => Vacant me none) := by
    have picked : CallerTriple params gentle me (Vacant me none) (Program.orRaise params.endpoint)
        (fun _ => Vacant me none) (fun _ => Vacant me none) :=
      Triple.orRaise (fun _ _ _ known => known) fun _ _ _ known => known
    refine picked.bind fun (host, port) => dial_triple.bind fun conn =>
      authenticate_triple.bind fun found => Triple.assuming fun same => ?_
    rw [same]
    exact install_triple.post fun _ _ _ known => ⟨conn, known⟩
  exact opened.weaken (fun _ _ known => known) (fun _ _ _ known => known)
    fun _ _ inv known => (known.emptied inv).raised

structure Holding (me conn : Nat) (token : Str) (world : World) : Prop
    extends Busy me false none world where
  held : world.conn = some conn ∧ world.token = some token
  task : world.renewTask = none

theorem storeGrant_triple {conn : Nat} (grant : Str × Int) {raised : PyError → World → Prop} :
    CallerTriple params gentle me (With params True conn (Asking me conn) (.granted grant.1))
      (storeGrant grant)
      (fun _ => With params True conn (Holding me conn grant.1) (.granted grant.1)) raised := by
  rintro origin state move inv ⟨known, standing⟩
  refine wp_run rfl (fun _ => rfl) (wp_perform rfl (fun _ => rfl) ?_)
  change CallerMove params me origin (stored grant state) ∧ _
  have stands := standing.stage (standing.opened trivial)
  have quiet : Open state conn → ¬Renewing (stageOn params state.trace conn) := by
    intro _ renewing
    rw [stands] at renewing
    simp [Renewing] at renewing
  refine ⟨move.trans (stored_move known.lock known.asking.1 quiet known.task), ?_,
    ⟨⟨known.lock, known.io, known.hand⟩, ⟨known.asking.1, rfl⟩, known.task⟩, standing.opened,
    standing.stage⟩
  refine .forgotten (inv.toCore.stored known.asking.1) ?_ known.lock known.task
  intro other token connEq tokenEq _
  have connEq : state.conn = some other := connEq
  rw [known.asking.1] at connEq
  cases connEq
  cases tokenEq
  exact .inl stands

/-- The lock is held: its token was granted on the installed, open connection, and is renewed by
a live task. -/
structure Held (params : Params) (conn worker : Nat) (token : Str) (world : World) : Prop where
  installed : world.conn = some conn ∧ conn < world.conns ∧ Open world conn
  owned : world.token = some token
  granted : stageOn params world.trace conn = some (.granted token)
  renewed : world.renewTask = some worker ∧ worker < world.workers ∧ Live world worker

def Owned (params : Params) (gentle : Bool) (me : Nat) (world : World) : Prop :=
  Entered params gentle me world ∧ ∃ conn worker token, Held params conn worker token world

theorem startRenew_triple {conn : Nat} {token : Str} {raised : PyError → World → Prop} :
    CallerTriple params gentle me (With params True conn (Holding me conn token) (.granted token))
      startRenew (fun _ => Owned params gentle me) raised := by
  rintro origin state move inv ⟨known, standing⟩
  refine wp_run rfl (fun _ => rfl) (wp_perform rfl (fun _ => rfl) ?_)
  change CallerMove params me origin (started state) ∧ _
  have opened := standing.opened trivial
  refine ⟨move.trans (started_move known.lock known.held.1 ?_),
    inv.started known.lock known.task known.held.1 known.held.2 opened,
    ⟨⟨known.lock, known.io, known.hand⟩, ?_, ?_⟩, conn, state.workers, token,
    ⟨known.held.1, (inv.made conn known.held.1).1, opened⟩, known.held.2, standing.stage opened,
    rfl, Nat.lt_succ_self _, (inv.future state.workers (Nat.le_refl _)).1⟩
  · intro _ renewing
    rw [standing.stage opened] at renewing
    simp [Renewing] at renewing
  · intro other _ tokenEq
    have tokenEq : state.token = none := tokenEq
    rw [known.held.2] at tokenEq
    cases tokenEq
  · simp [Watched]

theorem requireConn_triple {conn : Nat} {message : Str} {fact : World → Prop}
    {raised : PyError → World → Prop} (installed : ∀ world, fact world → world.conn = some conn) :
    CallerTriple params gentle me fact (requireConn message)
      (fun found world => found = conn ∧ fact world) raised := by
  intro origin state move inv known
  refine wp_run rfl (fun _ => rfl) ?_
  rw [installed state known]
  exact ⟨move, inv, rfl, known⟩

def Obtained (params : Params) (gentle : Bool) (me : Nat) (value : CallValue) (world : World) :
    Prop :=
  (value = .bool true ∧ Owned params gentle me world) ∨
    (value = .bool false ∧ Emptied params gentle me world)

theorem invoke_triple {conn : Nat} {pre : World → Prop} {asks : Py (Str × Int)}
    (asked : CallerTriple params gentle me pre asks
      (fun grant => With params True conn (Asking me conn) (.granted grant.1))
      (fun _ => Asking me conn)) :
    CallerTriple params gentle me pre
      (do
        let granted ← grantOrClose asks storeGrant
        if granted.isNone then pure (.bool false)
        else do
          startRenew
          pure (CallValue.bool true))
      (Obtained params gentle me) (Raised params gentle me) := by
  have closes : CallerTriple params gentle me (Asking me conn) closeUnlocked
      (fun _ => Emptied params gentle me) (Raised params gentle me) :=
    close_triple fun _ known => known.toBusy
  have settled : CallerTriple params gentle me pre (grantOrClose asks storeGrant)
      (fun granted world => match granted with
        | none => Emptied params gentle me world
        | some grant => With params True conn (Holding me conn grant.1) (.granted grant.1) world)
      (Raised params gentle me) := by
    refine Triple.handle (asked.bind fun grant => (storeGrant_triple grant).bind fun _ =>
      Triple.ret fun _ _ known => known) fun error => closes.bind fun _ => ?_
    split
    · exact Triple.ret fun _ _ known => known
    · exact Triple.raise fun _ _ known => known.raised
  refine settled.bind fun granted => ?_
  cases granted with
  | none => exact Triple.ret fun _ _ known => .inr ⟨rfl, known⟩
  | some grant =>
      exact startRenew_triple.bind fun _ => Triple.ret fun _ _ known => .inl ⟨rfl, known⟩

theorem receive_granted {cmd line token : Str} (granted : grantedToken cmd line = some token) :
    receive (.asking cmd) cmd line = .granted token := by
  simp only [receive, if_true, granted]

theorem invokeAcquire_triple {conn : Nat} :
    CallerTriple params gentle me (With params True conn (Asking me conn) (idle params))
      (invokeAcquire params) (Obtained params gentle me) (Raised params gentle me) := by
  have asks : CallerTriple params gentle me (With params True conn (Asking me conn) (idle params))
      (requireConn (str "not connected") >>= protoAcquire params)
      (fun grant => With params True conn (Asking me conn) (.granted grant.1))
      (fun _ => Asking me conn) := by
    refine (requireConn_triple fun _ known => known.1.asking.1).bind fun found =>
      Triple.assuming fun same => ?_
    rw [same]
    refine (exchange_triple (fun built => .asking built.cmd) Asking.exchanging ?_ quiet_idle
      ?_).post ?_
    · exact fun built same => send_idle.trans (ask_acquire same)
    · simp [Serving]
    · rintro ⟨token, lease⟩ world _ ⟨built, line, same, parsed, known⟩
      rwa [receive_granted (grantedToken_grant (.inl (acquireRequest_kind same)) parsed)] at known
  exact invoke_triple asks

theorem receive_queued {cmd line op : Str} (kind : commandKind cmd = some .enqueue)
    (parsed : parseEnqueueResponse line op = .ok .queued) :
    receive (.asking cmd) cmd line = .queued := by
  have plain : parseEnqueueResponse line [] = .ok .queued := parseEnqueueResponse_label [] parsed
  have nothing : grantedToken cmd line = none := by simp only [grantedToken, kind, plain]
  simp [receive, nothing, kind, plain]

def Enqueued (params : Params) (me conn : Nat) (status : EnqueueStatus) (world : World) : Prop :=
  (∃ token lease, status = .acquired token lease ∧
      With params True conn (Asking me conn) (.granted token) world) ∨
    (status = .queued ∧ With params True conn (Asking me conn) .queued world)

structure InQueue (params : Params) (conn : Nat) (world : World) : Prop where
  installed : world.conn = some conn ∧ conn < world.conns ∧ Open world conn
  token : world.token = none
  queued : stageOn params world.trace conn = some .queued
  task : world.renewTask = none

def Placed (params : Params) (gentle : Bool) (me : Nat) (value : CallValue) (world : World) :
    Prop :=
  (value = .status true ∧ Owned params gentle me world) ∨
    (value = .status false ∧ Entered params gentle me world ∧ ∃ conn, InQueue params conn world)

theorem invokeEnqueue_triple {conn : Nat} :
    CallerTriple params gentle me (With params True conn (Asking me conn) (idle params))
      (invokeEnqueue params) (Placed params gentle me) (Raised params gentle me) := by
  have asks : CallerTriple params gentle me (With params True conn (Asking me conn) (idle params))
      (requireConn (str "not connected") >>= protoEnqueue params)
      (Enqueued params me conn) (fun _ => Asking me conn) := by
    refine (requireConn_triple fun _ known => known.1.asking.1).bind fun found =>
      Triple.assuming fun same => ?_
    rw [same]
    refine (exchange_triple (fun built => .asking built.cmd) Asking.exchanging ?_ quiet_idle
      ?_).post ?_
    · exact fun built same => send_idle.trans (ask_enqueue same)
    · simp [Serving]
    · rintro status world _ ⟨built, line, same, parsed, known⟩
      have kind := enqueueRequest_kind same
      cases status with
      | acquired token lease =>
          rw [receive_granted (grantedToken_enqueue kind parsed)] at known
          exact .inl ⟨token, lease, rfl, known⟩
      | queued =>
          rw [receive_queued kind parsed] at known
          exact .inr ⟨rfl, known⟩
  have closes : CallerTriple params gentle me (Asking me conn) closeUnlocked
      (fun _ => Emptied params gentle me) (Raised params gentle me) :=
    close_triple fun _ known => known.toBusy
  refine (Triple.handle asks fun error => closes.bind fun _ =>
    Triple.raise fun _ _ known => known.raised).bind fun status => ?_
  cases status with
  | acquired token lease =>
      have starts : CallerTriple params gentle me
          (With params True conn (Asking me conn) (.granted token))
          (handleEnqueueStatus (.acquired token lease)) (Placed params gentle me)
          (Raised params gentle me) :=
        (storeGrant_triple (token, lease)).bind fun _ => startRenew_triple.bind fun _ =>
          Triple.ret fun _ _ known => .inl ⟨rfl, known⟩
      refine starts.pre ?_
      rintro world _ (⟨_, _, same, known⟩ | ⟨same, _⟩)
      · cases same
        exact known
      · cases same
  | queued =>
      refine Triple.ret ?_
      rintro world inv (⟨_, _, same, _⟩ | ⟨_, known, standing⟩)
      · cases same
      have opened := standing.opened trivial
      have queued := standing.stage opened
      refine .inr ⟨rfl, ⟨known.toBusy, ?_, fun _ held => absurd known.asking.2 held⟩, conn,
        ⟨known.asking.1, known.made, opened⟩, known.asking.2, queued, known.task⟩
      intro other connEq _
      rw [known.asking.1] at connEq
      cases connEq
      exact ⟨opened, queued, known.task⟩

def Waited (params : Params) (gentle : Bool) (me : Nat) (value : CallValue) (world : World) :
    Prop :=
  (value = .bool true ∧ Entered params gentle me world ∧ world.token ≠ none) ∨
    (value = .bool false ∧ Emptied params gentle me world)

theorem invokeWait_triple {timeoutS : Value} :
    CallerTriple params gentle me
      (fun world => Entered params gentle me world ∧ world.token = none)
      (invokeWait params timeoutS) (Obtained params gentle me) (Raised params gentle me) := by
  rintro origin state move inv ⟨entered, token⟩
  refine wp_run rfl (fun _ => rfl) ?_
  cases connEq : state.conn with
  | none => exact ⟨move, inv, (Emptied.of inv entered.toBusy connEq).raised⟩
  | some conn =>
      obtain ⟨opened, queued, task⟩ := entered.queued conn connEq token
      have asking : With params True conn (Asking me conn) .queued state :=
        ⟨⟨entered.toBusy, ⟨connEq, token⟩, task, (inv.made conn connEq).1⟩, fun _ => opened,
          fun _ => queued⟩
      have asks : CallerTriple params gentle me (With params True conn (Asking me conn) .queued)
          (protoWait params conn timeoutS)
          (fun grant => With params True conn (Asking me conn) (.granted grant.1))
          (fun _ => Asking me conn) := by
        refine (exchange_triple (fun built => .asking built.cmd) Asking.exchanging ?_ ?_ ?_).post ?_
        · exact fun built same => send_wait same
        · simp [Renewing]
        · simp [Serving]
        · rintro ⟨granted, lease⟩ world _ ⟨built, line, same, parsed, known⟩
          rwa [receive_granted (grantedToken_grant (.inr (waitRequest_kind same)) parsed)] at known
      exact invoke_triple asks origin state move inv asking

theorem waitUnlocked_triple {timeoutS : Option Value} :
    CallerTriple params gentle me (Entered params gentle me) (waitUnlocked params timeoutS)
      (Waited params gentle me) (Raised params gentle me) := by
  have invoked {timeoutS : Value} : CallerTriple params gentle me
      (fun world => Entered params gentle me world ∧ world.token = none)
      (invokeWait params timeoutS) (Waited params gentle me) (Raised params gentle me) := by
    refine invokeWait_triple.post ?_
    rintro value world _ (⟨same, entered, _, _, token, held⟩ | emptied)
    · exact .inl ⟨same, entered, by simp [held.owned]⟩
    · exact .inr emptied
  intro origin state move inv entered
  refine wp_run rfl (fun _ => rfl) ?_
  cases token : state.token with
  | none => exact invoked origin state move inv ⟨entered, token⟩
  | some token => exact ⟨move, inv, .inl ⟨rfl, entered, by simp [token]⟩⟩

/-! Giving the lock back -/

structure Locked (params : Params) (me : Nat) (world : World) : Prop
    extends Busy me true none world where
  granted : ∀ conn token, world.conn = some conn → world.token = some token → Open world conn →
    stageOn params world.trace conn = some (.granted token)

theorem Locked.kept : Kept params gentle me (Locked params me) where
  worker := by
    intro worker before after move inv held known
    have busy := Busy.kept.worker worker before after move inv held known.toBusy
    obtain ⟨conn, token, stage⟩ := locked_same move (known.io.mpr rfl)
    refine ⟨busy, ?_⟩
    intro other granted connEq tokenEq opened
    rw [stage other opened]
    exact known.granted other granted (conn ▸ connEq) (token ▸ tokenEq) (move.closed other opened)
  other := by
    intro before after same known
    rw [same.same]
    exact ⟨⟨known.lock, known.io, known.hand⟩, known.granted⟩

theorem lockIo_triple : CallerTriple params gentle me (Busy me false none)
    (raising (perform .lockIo)) (fun _ => Locked params me) (fun _ => Busy me false none) := by
  refine Triple.raising (Triple.perform rfl (Busy.kept.stable fun _ known => known.lock) ?_)
  intro world choice result after inv known _ executed
  rcases suspend_cases executed with ⟨_, rfl, rfl⟩ | ⟨_, resumed⟩
  · exact deliver_known Busy.kept inv known
  · split at resumed
    · rename_i free
      cases resumed
      have move : CallerMove params me world { world with ioLock := some (.caller me) } :=
        { (CallerMove.refl : CallerMove params me world world) with
          outside := outside_held known.lock
          ioWorker := fun worker => by simp [free]
          serves := fun _ _ _ connEq => ⟨connEq, rfl, .inl rfl⟩
          counted := fun _ _ => .of_same ⟨rfl, rfl⟩ }
      refine ⟨move, ?_, ⟨⟨known.lock, by simp, known.hand⟩, ?_⟩⟩
      · refine { inv with ioCaller := ?_, renewing := ?_, settled := ?_, rested := ?_ }
        · rintro id locked
          cases locked
          exact known.lock
        · intro conn opened renewing
          obtain ⟨worker, locked⟩ := inv.renewing conn opened renewing
          rw [free] at locked
          cases locked
        · exact fun _ _ _ _ _ => .inr (.inr ⟨me, rfl⟩)
        · intro unlocked
          have unlocked : world.stateLock = none := unlocked
          rw [known.lock] at unlocked
          cases unlocked
      · intro conn token connEq tokenEq opened
        rcases inv.settled conn token connEq tokenEq opened with stands | ⟨_, _, locked⟩ |
          ⟨_, locked⟩
        · exact stands
        · rw [free] at locked
          cases locked
        · rw [free] at locked
          cases locked
    · cases resumed

def Releasing (me conn : Nat) (world : World) : Prop :=
  (Busy me true none world ∧ world.renewTask = none) ∧ conn < world.conns

theorem Releasing.exchanging {conn : Nat} :
    Exchanging params gentle me conn (Releasing me conn) where
  kept := (Busy.kept.and taskNone_kept).and made_kept
  holds := fun _ known => known.1.1.lock
  ready := fun _ _ known => ⟨known.2, known.1.2, .inr (known.1.1.io.mpr rfl)⟩
  log := fun _ _ ⟨⟨busy, task⟩, made⟩ => ⟨⟨⟨busy.lock, busy.io, busy.hand⟩, task⟩, made⟩
  close := fun _ ⟨⟨busy, task⟩, made⟩ =>
    ⟨⟨⟨busy.lock, busy.io, fun other held now => busy.hand other held (open_of_closing now)⟩,
      task⟩, made⟩

theorem sendRelease_triple :
    CallerTriple params gentle me (fun world => Locked params me world ∧ world.renewTask = none)
      (sendReleaseQuietly params) (fun _ => Busy me true none) (fun _ => Busy me true none) := by
  rintro origin state move inv ⟨locked, task⟩
  refine wp_run rfl (fun _ => rfl) (wp_run rfl (fun _ => rfl) ?_)
  cases connEq : state.conn with
  | none => exact ⟨move, inv, locked.toBusy⟩
  | some conn =>
      cases tokenEq : state.token with
      | none => exact ⟨move, inv, locked.toBusy⟩
      | some token =>
          have releases : CallerTriple params gentle me
              (With params False conn (Releasing me conn) (.granted token))
              (safeRelease params conn token) (fun _ => Busy me true none)
              (fun _ => Busy me true none) := by
            have exchanged : CallerTriple params gentle me
                (With params False conn (Releasing me conn) (.granted token))
                (protoRelease params conn token) (fun _ => Busy me true none)
                (fun _ => Busy me true none) := by
              refine (exchange_triple (fun _ => .releasing) Releasing.exchanging ?_ ?_ ?_).weaken
                (fun _ _ known => known) ?_ fun _ _ _ known => known.1.1
              · exact fun built same => send_release same
              · simp [Renewing]
              · simp [Serving]
              · rintro value world _ ⟨_, _, _, _, known, _⟩
                exact known.1.1
            refine Triple.handle (exchanged.bind fun _ => Triple.ret fun _ _ known => known)
              fun error => ?_
            split
            · exact Triple.ret fun _ _ known => known
            · exact Triple.raise fun _ _ known => known
          exact releases origin state move inv ⟨⟨⟨locked.toBusy, task⟩, (inv.made conn connEq).1⟩,
            False.elim, locked.granted conn token connEq tokenEq⟩

theorem stopAndRelease_triple : CallerTriple params gentle me (Locked params me)
    (do
      cancelRenew
      sendReleaseQuietly params)
    (fun _ => Busy me true none) (fun _ => Busy me true none) := by
  have stops : CallerTriple params gentle me (Locked params me) cancelRenew
      (fun _ world => Locked params me world ∧ world.renewTask = none)
      (fun _ => Busy me true none) := by
    intro origin state move inv known
    have kept : Kept params gentle me fun world => Locked params me world ∧
        world.renewTask = none := Locked.kept.and taskNone_kept
    refine wp_mono (cancelRenew_wp kept (fun _ known => known.1.lock) fun after dropped => ?_) ?_ ?_
    · have locked : after.ioLock = some (.caller me) := by
        rw [dropped.same]
        exact known.io.mpr rfl
      have held : after.stateLock = some (.caller me) := by
        rw [dropped.same]
        exact known.lock
      have gone : after.renewTask = none := by rw [dropped.same]
      refine ⟨move.trans (dropped.move known.lock),
        .forgotten (dropped.core inv.toCore) (.quiet (.inr locked)) held gone, ?_, gone⟩
      rw [dropped.same]
      exact ⟨⟨known.lock, known.io, known.hand⟩, known.granted⟩
    · exact fun _ _ _ known => known
    · exact fun _ _ _ ⟨move, inv, ⟨locked, _⟩, _⟩ => ⟨move, inv, locked.toBusy⟩
  exact stops.bind fun _ => sendRelease_triple

def Unlocked (params : Params) (me : Nat) (origin state : World) : Prop :=
  CallerMove params me origin state ∧ Core params state ∧ Busy me false none state

theorem unlocked {origin state : World} (move : CallerMove params me origin state)
    (core : Core params state) (busy : Busy me true none state) :
    Unlocked params me origin { state with ioLock := none } := by
  have locked : state.ioLock = some (.caller me) := busy.io.mpr rfl
  refine ⟨move.trans ?_, ?_, busy.lock, by simp, busy.hand⟩
  · exact { (CallerMove.refl : CallerMove params me state state) with
      outside := outside_held busy.lock
      ioWorker := fun worker => by simp [locked]
      serves := fun _ _ _ connEq => ⟨connEq, rfl, .inl rfl⟩
      counted := fun _ _ => .of_same ⟨rfl, rfl⟩ }
  · refine { core with ioCaller := ?_, renewing := ?_ }
    · intro id held
      cases held
    · intro conn opened renewing
      obtain ⟨worker, held⟩ := core.renewing conn opened renewing
      rw [locked] at held
      cases held

theorem releaseUnlocked_triple :
    CallerTriple params gentle me (Entered params gentle me) (releaseUnlocked params)
      (fun _ => Down me) (fun _ => Down me) := by
  intro origin state move inv entered
  have inside : ∀ origin state, CallerMove params me origin state →
      Invariant params gentle state → Locked params me state →
      wp (machine params) (contract params gentle) (.caller me)
        (Program.ensure
          (do
            cancelRenew
            sendReleaseQuietly params) (perform .unlockIo))
        (fun _ => Unlocked params me) (fun _ => Unlocked params me) origin state := by
    intro origin state move inv locked
    rw [wp_ensure]
    refine wp_mono (stopAndRelease_triple origin state move inv locked) ?_ ?_
    · rintro released origin state ⟨move, inv, busy⟩
      exact wp_perform rfl (fun _ => rfl) (unlocked move inv.toCore busy)
    · rintro error origin state ⟨move, inv, busy⟩
      exact wp_perform rfl (fun _ => rfl) (unlocked move inv.toCore busy)
  have guarded : wp (machine params) (contract params gentle) (.caller me)
      (withIoLock do
        cancelRenew
        sendReleaseQuietly params)
      (fun _ => Unlocked params me) (fun _ => Unlocked params me) origin state := by
    rw [withIoLock, wp_bind]
    refine wp_mono (lockIo_triple origin state move inv entered.toBusy) ?_ ?_
    · exact fun _ origin state ⟨move, inv, locked⟩ => inside origin state move inv locked
    · exact fun _ _ _ ⟨move, inv, busy⟩ => ⟨move, inv.toCore, busy⟩
  rw [releaseUnlocked, wp_ensure, wp_bind]
  refine wp_mono guarded ?_ ?_
  · exact fun _ _ _ known => closeUnlocked_wp known.1 known.2.1 known.2.2
  · exact fun _ _ _ known => closeUnlocked_wp known.1 known.2.1 known.2.2

theorem release_triple :
    CallerTriple params gentle me (Entered params gentle me) (releaseUnlocked params)
      (fun _ => Emptied params gentle me) (Raised params gentle me) :=
  releaseUnlocked_triple.weaken (fun _ _ known => known) (fun _ _ inv down => down.emptied inv)
    (fun _ _ inv down => (down.emptied inv).raised)

/-- What an operation leaves behind, by what it returns or raises. -/
def Outcome (params : Params) (call : Call) (result : Except PyError CallValue) (world : World) :
    Prop :=
  match result with
  | .error error => error.cls = .cancelledError ∨ Nothing world
  | .ok value =>
      match call with
      | .acquire =>
          (value = .bool true ∧ ∃ conn worker token, Held params conn worker token world) ∨
            (value = .bool false ∧ Nothing world)
      | .enqueue =>
          (value = .status true ∧ ∃ conn worker token, Held params conn worker token world) ∨
            (value = .status false ∧ ∃ conn, InQueue params conn world)
      | .wait _ =>
          (value = .bool true ∧ world.token ≠ none) ∨ (value = .bool false ∧ Nothing world)
      | .release | .close => Nothing world

def Concluded (params : Params) (gentle : Bool) (me : Nat) (call : Call)
    (result : Except PyError CallValue) (world : World) : Prop :=
  Entered params gentle me world ∧ Outcome params call result world

theorem body_triple {call : Call} :
    CallerTriple params gentle me (Entered params gentle me) (body params call)
      (fun value => Concluded params gentle me call (.ok value))
      (fun error => Concluded params gentle me call (.error error)) := by
  cases call with
  | acquire =>
      refine (reset_triple.bind fun _ => open_triple.bind fun _ => Triple.exists fun _ =>
        invokeAcquire_triple).post ?_
      rintro value world _ (⟨same, entered, held⟩ | ⟨same, entered, nothing⟩)
      · exact ⟨entered, .inl ⟨same, held⟩⟩
      · exact ⟨entered, .inr ⟨same, nothing⟩⟩
  | enqueue =>
      refine (reset_triple.bind fun _ => open_triple.bind fun _ => Triple.exists fun _ =>
        invokeEnqueue_triple).post ?_
      rintro value world _ (⟨same, entered, held⟩ | ⟨same, entered, queued⟩)
      · exact ⟨entered, .inl ⟨same, held⟩⟩
      · exact ⟨entered, .inr ⟨same, queued⟩⟩
  | wait timeoutS =>
      refine waitUnlocked_triple.post ?_
      rintro value world _ (⟨same, entered, held⟩ | ⟨same, entered, nothing⟩)
      · exact ⟨entered, .inl ⟨same, held⟩⟩
      · exact ⟨entered, .inr ⟨same, nothing⟩⟩
  | release => exact release_triple
  | close =>
      exact (close_triple fun _ known => known.toBusy).bind fun _ =>
        Triple.ret fun _ _ known => known

def Resting (me : Nat) (world : World) : Prop := world.stateLock ≠ some (.caller me)

theorem Resting.stable : (contract params gentle).Stable (.caller me) (Resting me) := by
  intro other different before after _ _ within known held
  cases other with
  | caller id =>
      have move : CallerMove params id before after := within
      rcases move.taken _ held with mine | earlier
      · exact different mine.symm
      · exact known earlier
  | worker worker =>
      have move : WorkerMove params worker before after := within
      have same := move.same
      simp only [Prod.mk.injEq] at same
      exact known (same.1 ▸ held)
  | other id =>
      have move : OtherMove before after := within
      rw [move.same] at held
      exact known held

theorem lockState_triple : CallerTriple params gentle me (Resting me) (raising (perform .lockState))
    (fun _ => Entered params gentle me)
    (fun error world => Resting me world ∧ error.cls = .cancelledError) := by
  refine Triple.raising (Triple.perform rfl Resting.stable ?_)
  intro world choice result after inv known _ executed
  rcases suspend_cases executed with ⟨_, rfl, rfl⟩ | ⟨_, resumed⟩
  · exact ⟨deliver_move, inv.untouched deliver_untouched, known, rfl⟩
  · split at resumed
    · rename_i free
      cases resumed
      have alone (conn : Nat) {thread : Thread} (held : world.inHand conn = some thread)
          (opened : Open world conn) : False := by
        have locked := inv.hand thread conn held opened
        rw [free] at locked
        cases locked
      have unlocked (id : Nat) (locked : world.ioLock = some (.caller id)) : False := by
        have held := inv.ioCaller id locked
        rw [free] at held
        cases held
      obtain ⟨queued, watched⟩ := inv.rested free
      refine ⟨?_, ?_, ⟨rfl, ?_, fun conn held opened => (alone conn held opened).elim⟩, queued,
        watched⟩
      · exact { (CallerMove.refl : CallerMove params me world world) with
          outside := fun other held => by simp [free] at held
          taken := fun thread held => .inl (by cases held; rfl)
          serves := fun _ _ _ connEq => ⟨connEq, rfl, .inl rfl⟩
          counted := fun _ _ => .of_same ⟨rfl, rfl⟩ }
      · refine { inv with hand := ?_, locker := ?_, ioCaller := ?_, rested := ?_ }
        · exact fun thread conn held opened => (alone conn held opened).elim
        · rintro thread held
          cases held
          exact ⟨me, rfl⟩
        · exact fun id locked => (unlocked id locked).elim
        · intro gone
          cases gone
      · simp only [Bool.false_eq_true, iff_false]
        exact unlocked me
    · cases resumed

theorem Outcome.unlocked {call : Call} {result : Except PyError CallValue} {world : World}
    (known : Outcome params call result world) :
    Outcome params call result { world with stateLock := none } := by
  have nothing (known : Nothing world) : Nothing { world with stateLock := none } :=
    ⟨known.conn, known.token, known.lease, known.stopped, known.shelved⟩
  have held (known : ∃ conn worker token, Held params conn worker token world) :
      ∃ conn worker token, Held params conn worker token { world with stateLock := none } := by
    obtain ⟨conn, worker, token, held⟩ := known
    exact ⟨conn, worker, token, held.installed, held.owned, held.granted, held.renewed⟩
  cases result with
  | error error => exact known.imp id nothing
  | ok value =>
      cases call with
      | acquire => exact known.imp (And.imp_right held) (And.imp_right nothing)
      | enqueue =>
          refine known.imp (And.imp_right held) (And.imp_right ?_)
          rintro ⟨conn, queued⟩
          exact ⟨conn, queued.installed, queued.token, queued.queued, queued.task⟩
      | wait timeoutS => exact known.imp id (And.imp_right nothing)
      | release => exact nothing known
      | close => exact nothing known

theorem unlockState_triple {call : Call} {result : Except PyError CallValue}
    {raised : PyError → World → Prop} :
    CallerTriple params gentle me (Concluded params gentle me call result) (perform .unlockState)
      (fun _ world => Resting me world ∧ Outcome params call result world) raised := by
  refine Triple.act rfl (fun _ _ _ => CallerMove.trans) ?_
  rintro world choice done after inv ⟨entered, outcome⟩ executed
  cases executed
  refine ⟨?_, ?_, by simp [Resting], outcome.unlocked⟩
  · exact { (CallerMove.refl : CallerMove params me world world) with
      outside := outside_held entered.lock
      taken := fun thread held => by cases held
      serves := fun _ _ _ connEq => ⟨connEq, rfl, .inl rfl⟩
      counted := fun _ _ => .of_same ⟨rfl, rfl⟩ }
  · refine { inv with hand := ?_, locker := ?_, ioCaller := ?_, rested := ?_ }
    · intro thread conn held opened
      have locked := inv.hand thread conn held opened
      rw [entered.lock] at locked
      cases locked
      exact absurd (entered.hand conn held opened) (by simp)
    · intro thread held
      cases held
    · intro id locked
      have held := inv.ioCaller id locked
      rw [entered.lock] at held
      cases held
      exact absurd (entered.io.mp locked) (by simp)
    · exact fun _ => ⟨entered.queued, entered.watched⟩

theorem program_triple {call : Call} :
    CallerTriple params gentle me (Resting me) (program params call)
      (fun value world => Resting me world ∧ Outcome params call (.ok value) world)
      (fun error world => Resting me world ∧ Outcome params call (.error error) world) := by
  have locks : CallerTriple params gentle me (Resting me) (raising (perform .lockState))
      (fun _ => Entered params gentle me)
      (fun error world => Resting me world ∧ Outcome params call (.error error) world) :=
    lockState_triple.weaken (fun _ _ known => known) (fun _ _ _ known => known)
      (fun _ _ _ known => ⟨known.1, .inl known.2⟩)
  exact locks.bind fun _ => body_triple.ensure (fun _ => unlockState_triple)
    fun _ => unlockState_triple

end DflockdClient.Async.Shared
