import DflockdClient.SyncLifecycle

/-! Renewal iterations, each taken as one step. -/

namespace DflockdClient.Sync

open Interleaving

variable {faults : Faults} {params : Params} {me event : Nat} {origin world : World}
  {raised : PyError → World → Prop}

/-- A worker between two of its rounds. -/
structure Sleeping (me event : Nat) (world : World) : Prop where
  started : world.started me = true
  event : world.workerEvent me = event
  alive : world.alive me = true

theorem wlp_waitEvent {thread : Thread} {interval : Rat} {post : Bool → World → Prop}
    (set : world.eventSet event = true → post true world) (expired : post false world) :
    wlp (sequential faults params) thread (perform (.waitEvent event interval)) post raised
      world := by
  intro choice result after executed
  have outcome : (world.eventSet event = true ∧ result = true ∧ after = world) ∨
      (result = false ∧ after = world) := by
    simp only [sequential, exec] at executed
    cases choice <;> grind
  rcases outcome with ⟨isSet, rfl, rfl⟩ | ⟨rfl, rfl⟩
  · exact set isSet
  · exact expired

@[simp] theorem wlp_endThread {post : Unit → World → Prop} :
    wlpSync Unit faults params (.worker me) (perform .endThread) post raised =
      fun world => post () { world with alive := Function.update world.alive me false } :=
  wlp_sure .endThread (fun _ => ()) _ fun _ _ => rfl

theorem wlp_beginThread {post : Nat → World → Prop}
    (known : world.started me = true → post (world.workerEvent me) world) :
    wlp (sequential faults params) (.worker me) (perform .beginThread) post raised world := by
  intro choice result after executed
  simp only [sequential, exec, Option.ite_none_right_eq_some, Option.some.injEq, Prod.mk.injEq]
    at executed
  obtain ⟨started, rfl, rfl⟩ := executed
  exact known started

structure Leaving (me : Nat) (origin world : World) : Prop extends
    Entered (.worker me) origin world where
  began : origin.started me = true
  unset : world.closed = false → world.eventSet world.stopEvent = false
  last : (¬Renews world me ∧ ∃ mode : Mode, mode.Holds world) ∨
    (world.conn = none ∧ world.token = none ∧ world.lease = 0 ∧
      ∀ other, Renews world other → other = me)

abbrev World.without (world : World) (worker : Nat) : World :=
  { world with alive := Function.update world.alive worker false }

theorem renews_without (worker other : Nat) :
    Renews (world.without worker) other ↔ Renews world other ∧ other ≠ worker := by
  simp only [Renews]
  by_cases same : other = worker
  · simp [same]
  · simp [same]

theorem Mode.Holds.without {mode : Mode} (holds : mode.Holds world)
    (idle : ¬Renews world me) : mode.Holds (world.without me) := by
  have quiet (known : ∀ worker, ¬Renews world worker) (worker : Nat) :
      ¬Renews (world.without me) worker := fun renews =>
    known worker ((renews_without me worker).mp renews).1
  cases mode with
  | idle =>
      obtain ⟨conn, token, lease, none⟩ := holds
      exact ⟨conn, token, lease, quiet none⟩
  | queued =>
      obtain ⟨conn, connEq, opened, answered, token, lease, none⟩ := holds
      exact ⟨conn, connEq, opened, answered, token, lease, quiet none⟩
  | held =>
      obtain ⟨conn, token, connEq, opened, tokenEq, grant, one, rest⟩ := holds
      obtain ⟨worker, renews, event, only⟩ := one
      have different : worker ≠ me := fun same => idle (same ▸ renews)
      refine ⟨conn, token, connEq, opened, tokenEq, grant, ⟨worker, ?_, event, ?_⟩, rest⟩
      · exact (renews_without me worker).mpr ⟨renews, different⟩
      · exact fun other renews => only other ((renews_without me other).mp renews).1

theorem Leaving.done (known : Leaving me origin world) :
    Rested (.worker me) origin (world.without me) := by
  have aliveBefore {worker : Nat} (alive : (world.without me).alive worker = true) :
      world.alive worker = true := by
    by_cases same : worker = me
    · simp [same] at alive
    · simpa only [Function.update_of_ne same] using alive
  refine { known with
    aliveStarted := fun worker alive => known.aliveStarted worker (aliveBefore alive)
    frame := ?_
    watched := fun worker renews => known.watched worker ((renews_without me worker).mp renews).1
    mode := ?_ }
  · intro worker
    obtain ⟨kept, fresh⟩ := known.frame worker
    by_cases same : worker = me
    · subst same
      exact ⟨fun before => ⟨(kept before).1, (kept before).2.1, fun other => absurd rfl other⟩,
        fun before => by simp [known.began] at before⟩
    · simpa only [Function.update_of_ne same] using known.frame worker
  · rcases known.last with ⟨idle, mode, holds⟩ | ⟨conn, token, lease, only⟩
    · exact ⟨mode, holds.without idle⟩
    · refine ⟨.idle, conn, token, lease, fun worker renews => ?_⟩
      obtain ⟨renews, different⟩ := (renews_without me worker).mp renews
      exact different (only worker renews)

structure Renewed (me : Nat) (origin : World) (remaining : Int) (world : World) : Prop where
  rested : Rested (.worker me) origin { world with
    lease := if remaining > 0 then remaining else world.lease }
  renews : Renews world me
  token : world.token.isSome
  opened : world.closed = false

theorem handleRenewFailure_wlp {conn : Nat} {post : Unit → World → Prop}
    (connEq : world.conn = some conn)
    (known : ∀ armed, post () { (world.setConn (.worker me) none) with
      armed := armed, token := none, lease := 0
      closedConn := Function.update world.closedConn conn true }) :
    wlp (sequential faults params) (.worker me) (handleRenewFailure conn event) post raised
      world := by
  have rest (armed : Option Thread) : wlp (sequential faults params) (.worker me)
      (do
        if (← perform .getConn) = some conn then do
          perform (.setConn none)
          clearHeldState
          perform (.closeConn conn)
        else pure ()) post raised { world with armed := armed } := by
    simp only [wlp_bind, wlp_getConn]
    rw [if_pos connEq]
    simp only [wlp_bind, wlp_setConn, clearHeldState, wlp_setToken, wlp_setLease, wlp_closeConn]
    exact known armed
  simp only [handleRenewFailure, logRenewFailure, wlp_bind, wlp_getClosed]
  split
  · exact rest world.armed
  · simp only [wlp_bind, wlp_isSet]
    split
    · exact rest world.armed
    · simp only [wlp_discard, wlp_getToken]
      exact rest _

def TickDone (me : Nat) (origin : World) (result : Option Int) (world : World) : Prop :=
  match result with
  | none => Leaving me origin world
  | some remaining => Renewed me origin remaining world

theorem renewFailure_wlp {conn : Nat} {error : PyError} (ordinary : error.isException = true)
    (known : Entered (.worker me) origin world.unlocked) (began : origin.started me = true)
    (unset : world.closed = false → world.eventSet world.stopEvent = false)
    (connEq : world.conn = some conn) (only : ∀ other, Renews world other → other = me) :
    wlp (sequential faults params) (.worker me)
      (if error.isException then do
        handleRenewFailure conn event
        pure none
      else throw error)
      (fun result world => TickDone me origin result world.unlocked) raised world := by
  simp only [ordinary, if_true, wlp_bind, Program.pure_eq, wlp_ret]
  apply handleRenewFailure_wlp connEq
  intro armed
  exact { known.broken connEq [] with
    began := began
    closed := fun closed => ⟨rfl, rfl, rfl, (known.closed closed).2.2.2⟩
    others := fun other made _ => by
      by_cases same : other = conn
      · simp [same]
      · exact closed_update (known.others other made fun back =>
          same (Option.some.inj (back.symm.trans connEq)))
    connMade := by simp [World.setConn]
    unset := unset
    last := .inr ⟨rfl, rfl, rfl, only⟩ }

theorem Rested.held {thread : Thread} (known : Rested thread origin world)
    (renews : Renews world me) : Mode.held.Holds world := by
  obtain ⟨mode, holds⟩ := known.mode
  cases mode with
  | idle => exact absurd renews (holds.2.2.2 me)
  | queued =>
      obtain ⟨_, _, _, _, _, _, quiet⟩ := holds
      exact absurd renews (quiet me)
  | held => exact holds

theorem safeRenewOnce_wlp (known : Rested (.worker me) origin world.unlocked)
    (began : origin.started me = true) (renews : Renews world me) :
    wlp (sequential faults params) (.worker me) (safeRenewOnce params event)
      (fun result world => TickDone me origin result world.unlocked) raised world := by
  obtain ⟨conn, token, connEq, opened, tokenEq, grant, one, report, range⟩ :=
    @Rested.held me _ _ _ known renews
  have connEq : world.conn = some conn := connEq
  have tokenEq : world.token = some token := tokenEq
  have notClosed : world.closed = false := known.notClosed connEq
  have only (other : Nat) (renewsToo : Renews world other) : other = me := by
    obtain ⟨worker, _, _, unique⟩ := one
    exact (unique other renewsToo).trans (unique me renews).symm
  simp only [safeRenewOnce, wlp_bind, wlp_getConn, wlp_getToken]
  rw [connEq, tokenEq]
  simp only [wlp_handle, wlp_bind, Program.pure_eq, wlp_ret]
  apply exchange_wlp
  · rintro error (built | ordinary)
    · exact renewFailure_wlp (ordinary_renewRequest _ _ _ _ _ error built) known.toEntered began
        known.unset connEq only
    · exact renewFailure_wlp ordinary known.toEntered began known.unset connEq only
  · intro error request events built raises
    have ordinary : error.isException = true := by simpa [Faults.raises] using raises
    exact renewFailure_wlp ordinary (known.broken connEq events) began known.unset connEq only
  · intro error request line built parsed
    exact renewFailure_wlp (ordinary_parseRenewResponse _ _ error parsed) { known.toEntered with }
      began known.unset connEq only
  · intro request line remaining built _ parsed
    have kind := (renewRequest_ok built).1
    have accepted := parseRenewResponse_range parsed
    refine ⟨?_, renews, by simp [World.log, tokenEq], notClosed⟩
    have newReport : reported (world.log [.frame conn request, .answer conn request.cmd line]).trace
        conn = some (if remaining > 0 then remaining else world.lease) := by
      have report : reported world.trace conn = some world.lease := report
      simp only [reported] at report
      simp only [World.log, reported, List.foldl_append, List.foldl_cons, List.foldl_nil,
        reportedStep, if_true, report, reportedLease_renew kind parsed]
      split <;> rfl
    have newRange : 1 ≤ (if remaining > 0 then remaining else world.lease) ∧
        (if remaining > 0 then remaining else world.lease) ≤ maxProtocolSeconds := by
      have range : 1 ≤ world.lease ∧ world.lease ≤ maxProtocolSeconds := range
      split
      · exact ⟨by omega, accepted.2⟩
      · exact range
    have sameGrant : granted (world.log [.frame conn request, .answer conn request.cmd line]).trace
        conn = some token := by
      have grant : granted world.trace conn = some token := grant
      simp only [granted] at grant
      simp only [World.log, granted, List.foldl_append, List.foldl_cons, List.foldl_nil, grantStep,
        if_true, grant, grantedToken_none (.inl kind), Option.none_or]
    exact { known with
      closed := fun closed => by
        rw [show (world.log _).closed = false from notClosed] at closed
        cases closed
      mode := ⟨.held, conn, token, connEq, opened, tokenEq, sameGrant, one, newReport, newRange⟩ }

theorem Sleeping.renews (sleeping : Sleeping me event world)
    (unset : world.eventSet event = false) : Renews world me :=
  ⟨sleeping.alive, by rw [sleeping.event]; exact unset⟩

theorem renewTick_wlp (known : Rested (.worker me) origin world)
    (began : origin.started me = true) (sleeping : Sleeping me event world) :
    wlp (sequential faults params) (.worker me) (renewTick params event) (TickDone me origin) raised
      world := by
  have leaves (idle : ¬Renews world me) : Leaving me origin world.unlocked :=
    { known with
      free := rfl
      began := began
      last := .inl ⟨idle, known.mode⟩ }
  simp only [renewTick, withIoLock, wlp_bind, wlp_ensure]
  apply wlp_lockIo
  simp only [wlp_getClosed, wlp_unlockIo]
  split
  · rename_i closed
    refine leaves fun renews => ?_
    obtain ⟨conn, token, connEq, _⟩ := known.held renews
    rw [(known.closed closed).1] at connEq
    cases connEq
  · simp only [wlp_bind, wlp_isSet]
    split
    · rename_i set
      refine leaves fun renews => ?_
      have unset := renews.2
      rw [sleeping.event, show world.eventSet event = true from set] at unset
      cases unset
    · rename_i unset
      refine safeRenewOnce_wlp { known with free := rfl } began ?_
      exact sleeping.renews (by simpa using unset)

theorem updateLease_wlp {remaining : Int} (known : Renewed me origin remaining world) :
    wlp (sequential faults params) (.worker me) (updateLease remaining)
      (fun _ world => Rested (.worker me) origin world ∧ Renews world me) raised world := by
  have rested := known.rested
  simp only [updateLease]
  split
  · rename_i positive
    simp only [positive, if_true] at rested
    simp only [wlp_bind, wlp_getToken]
    rw [if_pos known.token]
    simp only [wlp_bind, wlp_getClosed]
    rw [if_neg (by simp [known.opened])]
    simp only [wlp_setLease]
    exact ⟨rested, known.renews⟩
  · rename_i nothing
    simp only [nothing, if_false] at rested
    exact ⟨rested, known.renews⟩

/-- What each thread may rely on between two steps. -/
def Promise (thread : Thread) (outcome : Except PyError (Val thread)) (world : World) : Prop :=
  match thread, outcome with
  | .worker me, .ok .fresh => world.started me = true → world.alive me = true
  | .worker me, .ok (.sleeping event _) => Sleeping me event world
  | _, _ => True

theorem renewRound_wlp {interval : Rat} (known : Rested (.worker me) origin origin)
    (sleeping : Sleeping me event origin) :
    wlp (sequential faults params) (.worker me) (renewRound params event interval)
      (fun state world => Rested (.worker me) origin world ∧ Promise (.worker me) (.ok state) world)
      raised origin := by
  simp only [renewRound, wlp_bind]
  apply wlp_waitEvent
  · intro set
    simp only [if_true, wlp_bind, wlp_endThread, Program.pure_eq, wlp_ret]
    have idle : ¬Renews origin me := by
      rintro ⟨_, unset⟩
      rw [sleeping.event, set] at unset
      cases unset
    have leaving : Leaving me origin origin :=
      { known with began := sleeping.started, last := .inl ⟨idle, known.mode⟩ }
    exact ⟨leaving.done, trivial⟩
  · simp only [Bool.false_eq_true, if_false, wlp_bind]
    have ticks := @renewTick_wlp faults params me event origin origin raised known
      sleeping.started sleeping
    refine wlp_mono ticks ?_ fun _ _ known => known
    intro result world ticked
    cases result with
    | none =>
        simp only [wlp_bind, wlp_endThread, Program.pure_eq, wlp_ret]
        exact ⟨Leaving.done ticked, trivial⟩
    | some remaining =>
        have renewed : Renewed me origin remaining world := ticked
        obtain ⟨started, sameEvent, _⟩ := (renewed.rested.frame me).1 sleeping.started
        have sameEvent : world.workerEvent me = event := sameEvent.trans sleeping.event
        have unset : world.eventSet event = false := sameEvent ▸ renewed.renews.2
        simp only [wlp_bind, wlp_isSet, unset, Bool.false_eq_true, if_false, Program.pure_eq,
          wlp_ret]
        refine wlp_mono (updateLease_wlp { renewed with rested := { renewed.rested with } }) ?_
          fun _ _ known => known
        rintro _ after ⟨rested, renews⟩
        obtain ⟨started, sameEvent, _⟩ := (rested.frame me).1 sleeping.started
        exact ⟨rested, started, sameEvent.trans sleeping.event, renews.1⟩

end DflockdClient.Sync
