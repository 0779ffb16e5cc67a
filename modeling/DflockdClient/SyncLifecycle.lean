import DflockdClient.SyncAttempts

/-! Whole operations and renewal iterations, and the modes they lead between. -/

namespace DflockdClient.Sync

open Interleaving

variable {faults : Faults} {params : Params} {thread : Thread} {origin world : World}
  {raised : PyError → World → Prop}

namespace Rested

theorem emptied (known : Rested thread origin world) (gone : world.conn = none) :
    Emptied thread origin world := by
  refine { known with
    idle := ?_
    shut := fun conn made => known.others conn made (by simp [gone]) }
  obtain ⟨mode, holds⟩ := known.mode
  cases mode with
  | idle => exact holds
  | queued =>
      obtain ⟨conn, connEq, _⟩ := holds
      rw [gone] at connEq
      cases connEq
  | held =>
      obtain ⟨conn, token, connEq, _⟩ := holds
      rw [gone] at connEq
      cases connEq

theorem notClosed {conn : Nat} (known : Rested thread origin world)
    (connEq : world.conn = some conn) : world.closed = false := by
  cases closed : world.closed with
  | false => rfl
  | true =>
      rw [(known.closed closed).1] at connEq
      cases connEq

theorem ungranted {conn : Nat} (known : Rested thread origin world)
    (connEq : world.conn = some conn) (empty : world.token = none) :
    Ungranted thread origin (some conn) (some conn) world := by
  have opened := known.notClosed connEq
  have waiting : NoneRenews world ∧ world.lease = 0 := by
    obtain ⟨mode, holds⟩ := known.mode
    cases mode with
    | idle =>
        obtain ⟨gone, _⟩ := holds
        rw [connEq] at gone
        cases gone
    | queued =>
        obtain ⟨_, _, _, _, _, lease, quiet⟩ := holds
        exact ⟨quiet, lease⟩
    | held =>
        obtain ⟨_, _, _, _, tokenEq, _⟩ := holds
        rw [empty] at tokenEq
        cases tokenEq
  exact { known with
    quiet := waiting.1
    opened := opened
    unset := known.unset opened
    conn := connEq
    token := empty
    lease := waiting.2
    others := fun other made elsewhere => known.others other made (connEq ▸ elsewhere)
    connMade := fun other otherEq => known.connMade other (connEq.trans otherEq) }

end Rested

/-- `acquire` and `wait` report failure by `False`. -/
def Call.fails (call : Call) (value : CallValue) : Bool :=
  match call with
  | .acquire | .wait _ => value == .bool false
  | _ => false

def Finished (call : Call) (thread : Thread) (origin : World) (value : CallValue)
    (world : World) : Prop :=
  Rested thread origin world ∧ (call.fails value = true → Emptied thread origin world)

def Asked (thread : Thread) (origin : World) (granted : Option (Str × Int)) (world : World) : Prop :=
  if granted.isNone then Emptied thread origin world else GrantStored thread origin world

theorem askAcquire_wlp {conn : Nat} (known : Ungranted thread origin (some conn) (some conn) world) :
    wlp (sequential faults params) thread
      (grantOrClose
        (do
          let conn ← requireConn (str "not connected")
          protoAcquire params conn) storeGrant)
      (Asked thread origin) (fun _ => Emptied thread origin) world := by
  refine grantOrClose_wlp ?_
  simp only [requireConn, wlp_bind, wlp_getConn, known.conn, Option.isNone_some,
    Bool.false_eq_true, if_false]
  exact grantExchange_wlp (fun _ built => .inl (acquireRequest_kind built)) known

theorem invokeAcquire_wlp {conn : Nat} (benign : faults.Benign)
    (known : Ungranted thread origin (some conn) (some conn) world) :
    wlp (sequential faults params) thread (invokeAcquire params)
      (Finished .acquire thread origin) (fun _ => Emptied thread origin) world := by
  simp only [invokeAcquire, wlp_bind]
  refine wlp_mono (askAcquire_wlp known) ?_ fun _ _ known => known
  intro granted world outcome
  cases granted with
  | none => exact ⟨Emptied.toRested outcome, fun _ => outcome⟩
  | some grant =>
      simp only [Option.isNone_some, Bool.false_eq_true, if_false, wlp_bind]
      refine wlp_mono (startRenew_wlp benign outcome) ?_ fun _ _ known => known
      intro _ world rested
      exact ⟨rested, fun failed => by cases failed⟩

theorem askWait_wlp {conn : Nat} {timeoutS : Value}
    (known : Ungranted thread origin (some conn) (some conn) world) :
    wlp (sequential faults params) thread
      (grantOrClose (protoWait params (some conn) timeoutS) storeGrant)
      (Asked thread origin) (fun _ => Emptied thread origin) world :=
  grantOrClose_wlp (grantExchange_wlp (fun _ built => .inr (waitRequest_kind built)) known)

theorem invokeWait_wlp {timeoutS : Value} (benign : faults.Benign)
    (known : Rested thread origin world) (empty : world.token = none) :
    wlp (sequential faults params) thread (invokeWait params timeoutS)
      (fun value world => Rested thread origin world ∧
        (value = .bool false → Emptied thread origin world))
      (fun _ => Emptied thread origin) world := by
  simp only [invokeWait, requireConn, wlp_bind, wlp_getConn]
  cases connEq : world.conn with
  | none => exact known.emptied connEq
  | some conn =>
      simp only [Option.isNone_some, Bool.false_eq_true, if_false, wlp_getConn, connEq]
      refine wlp_mono (askWait_wlp (known.ungranted connEq empty)) ?_ fun _ _ known => known
      intro granted world outcome
      cases granted with
      | none => exact ⟨Emptied.toRested outcome, fun _ => outcome⟩
      | some grant =>
          simp only [Option.isNone_some, Bool.false_eq_true, if_false, wlp_bind]
          refine wlp_mono (startRenew_wlp benign outcome) ?_ fun _ _ known => known
          intro _ world rested
          exact ⟨rested, fun failed => by cases failed⟩

def Enqueued (thread : Thread) (origin : World) (status : EnqueueStatus) (world : World) : Prop :=
  match status with
  | .acquired token lease => Granting thread origin (token, lease) world
  | .queued => Rested thread origin world

theorem enqueueExchange_wlp {conn : Nat} {op : Str}
    (known : Ungranted thread origin (some conn) (some conn) world) :
    wlp (sequential faults params) thread
      (exchange (some conn) params.enqueueRequest (parseEnqueueResponse · op))
      (Enqueued thread origin)
      (fun _ => Entered thread origin) world := by
  apply exchange_wlp
  · exact fun _ _ => known.entered
  · exact fun _ _ events _ _ => known.broken events
  · exact fun _ _ _ _ _ => (known.log _).entered
  · intro request line status built opened parsed
    have kind := enqueueRequest_kind built
    cases status with
    | acquired token lease =>
        exact known.grant opened (grantedToken_enqueue kind parsed)
          (reportedLease_enqueue kind parsed) (parseEnqueueResponse_range parsed)
    | queued =>
        have answered : AnsweredQueued
            (world.log [.frame conn request, .answer conn request.cmd line]) conn :=
          ⟨request.cmd, line, by simp [World.log, lastOn, lastStep, Event.conn], kind,
            parseEnqueueResponse_label [] parsed⟩
        exact { (known.log _).entered with
          unset := fun _ => known.unset
          mode := ⟨.queued, conn, known.conn, opened, answered, known.token, known.lease,
            known.quiet⟩ }

theorem askEnqueue_wlp {conn : Nat}
    (known : Ungranted thread origin (some conn) (some conn) world) :
    wlp (sequential faults params) thread
      (Program.handle
        (do
          let conn ← requireConn (str "not connected")
          protoEnqueue params conn)
        fun error => do
          closeUnlocked
          throw error)
      (Enqueued thread origin) (fun _ => Emptied thread origin) world := by
  simp only [protoEnqueue, requireConn, wlp_bind, wlp_handle, wlp_getConn, known.conn,
    Option.isNone_some, Bool.false_eq_true, if_false]
  refine wlp_mono (enqueueExchange_wlp known) (fun _ _ known => known) ?_
  intro error world entered
  refine wlp_mono (closeUnlocked_wlp entered) ?_ fun _ _ known => known
  exact fun _ _ torn => torn.emptied

theorem invokeEnqueue_wlp {conn : Nat} (benign : faults.Benign)
    (known : Ungranted thread origin (some conn) (some conn) world) :
    wlp (sequential faults params) thread (invokeEnqueue params)
      (fun _ => Rested thread origin) (fun _ => Emptied thread origin) world := by
  rw [invokeEnqueue, wlp_bind]
  refine wlp_mono (askEnqueue_wlp known) ?_ fun _ _ known => known
  intro status world outcome
  cases status with
  | acquired token lease =>
      simp only [handleEnqueueStatus, storeGrant, wlp_bind, wlp_setToken, wlp_setLease]
      refine wlp_mono (startRenew_wlp benign outcome) ?_ fun _ _ known => known
      exact fun _ _ rested => rested
  | queued => exact outcome

abbrev World.unlocked (world : World) : World := { world with ioLock := none, armed := none }

theorem Faults.Benign.release (benign : faults.Benign) {error : PyError}
    (raises : faults.raises thread (some .release) error = true) : error.isException = true := by
  simpa [Faults.raises, benign.releases] using raises

theorem Entered.broken {conn : Nat} (known : Entered thread origin world)
    (connEq : world.conn = some conn) (events : List Event) :
    Entered thread origin (world.broken conn events) :=
  { known with
    unmade := unmade_update known.unmade (known.connMade conn connEq)
    others := fun other made elsewhere => closed_update (known.others other made elsewhere) }

theorem sendReleaseQuietly_wlp (benign : faults.Benign)
    (known : Entered thread origin world.unlocked) :
    wlp (sequential faults params) thread (sendReleaseQuietly params)
      (fun _ world => Entered thread origin world.unlocked) raised world := by
  simp only [sendReleaseQuietly, wlp_bind, wlp_getConn]
  cases connEq : world.conn with
  | none => exact known
  | some conn =>
      simp only [Option.isNone_some, Bool.false_eq_true, if_false, wlp_bind, wlp_getToken]
      cases tokenEq : world.token with
      | none => exact known
      | some token =>
          simp only [Option.isNone_some, Bool.false_eq_true, if_false, wlp_bind, wlp_getConn,
            wlp_getToken, connEq, tokenEq, safeRelease, wlp_handle, Program.pure_eq, wlp_ret]
          have quietly {error : PyError} {after : World} (ordinary : error.isException = true)
              (entered : Entered thread origin after.unlocked) :
              wlp (sequential faults params) thread
                (if error.isException = true then .ret false else throw error)
                (fun _ world => Entered thread origin world.unlocked) raised after := by
            rw [if_pos ordinary]
            exact entered
          apply exchange_wlp
          · rintro error (built | ordinary)
            · exact quietly (ordinary_releaseRequest _ _ _ error built) known
            · exact quietly ordinary known
          · intro error request events built raises
            rw [(releaseRequest_ok built).1] at raises
            exact quietly (benign.release raises) (known.broken connEq events)
          · intro error request line built parsed
            exact quietly (ordinary_parseReleaseResponse _ _ error parsed) { known with }
          · intro request line value built opened parsed
            exact { known with }

theorem releaseStopped_wlp (benign : faults.Benign) (known : Entered thread origin world) :
    wlp (sequential faults params) thread
      (do
        let released ← withIoLock (sendReleaseQuietly params)
        closeUnlocked
        pure (CallValue.bool released))
      (fun _ => Emptied thread origin) raised world := by
  simp only [withIoLock, wlp_bind, wlp_ensure]
  apply wlp_lockIo
  have locked : Entered thread origin
      { world with ioLock := some thread }.unlocked := { known with free := rfl }
  refine wlp_mono (@sendReleaseQuietly_wlp _ _ _ _ _ (fun _ _ => False) benign locked) ?_
    fun _ _ impossible => impossible.elim
  intro released world entered
  simp only [wlp_unlockIo]
  refine wlp_mono (closeUnlocked_wlp entered) ?_ fun _ _ known => known
  exact fun _ _ torn => torn.emptied

theorem releaseUnlocked_wlp (benign : faults.Benign) (known : Entered thread origin world) :
    wlp (sequential faults params) thread (releaseUnlocked params)
      (fun _ => Emptied thread origin) raised world := by
  rw [releaseUnlocked, wlp_bind]
  refine wlp_mono (stopRenew_wlp known) ?_ fun _ _ known => known
  rintro _ world ⟨entered, -⟩
  exact releaseStopped_wlp benign entered

theorem body_wlp (call : Call) (benign : faults.Benign) (known : Rested thread origin world) :
    wlp (sequential faults params) thread (call.body params) (Finished call thread origin)
      (fun _ => Emptied thread origin) world := by
  cases call with
  | acquire =>
      simp only [Call.body, acquireUnlocked, wlp_bind]
      refine wlp_mono (resetForNewAttempt_wlp known.toEntered) ?_ fun _ _ known => known
      intro _ world fresh
      refine wlp_mono (openAndAuthenticate_wlp fresh) ?_ fun _ _ known => known
      rintro _ world ⟨conn, opened⟩
      exact invokeAcquire_wlp benign opened
  | enqueue =>
      simp only [Call.body, enqueueUnlocked, wlp_bind]
      refine wlp_mono (resetForNewAttempt_wlp known.toEntered) ?_ fun _ _ known => known
      intro _ world fresh
      refine wlp_mono (openAndAuthenticate_wlp fresh) ?_ fun _ _ known => known
      rintro _ world ⟨conn, opened⟩
      refine wlp_mono (invokeEnqueue_wlp benign opened) ?_ fun _ _ known => known
      exact fun _ _ rested => ⟨rested, fun failed => by cases failed⟩
  | wait timeoutS =>
      simp only [Call.body, waitUnlocked, wlp_bind, wlp_getToken]
      cases tokenEq : world.token with
      | some token => exact ⟨known, fun failed => by cases failed⟩
      | none =>
          refine wlp_mono (invokeWait_wlp benign known tokenEq) ?_ fun _ _ known => known
          rintro value _ ⟨rested, failing⟩
          exact ⟨rested, fun failed => failing (by simpa [Call.fails] using failed)⟩
  | release =>
      refine wlp_mono (releaseUnlocked_wlp benign known.toEntered) ?_ fun _ _ known => known
      exact fun _ _ emptied => ⟨emptied.toRested, fun failed => by cases failed⟩
  | close =>
      simp only [Call.body, closeCall, wlp_bind]
      refine wlp_mono (closeUnlocked_wlp known.toEntered) ?_ fun _ _ known => known
      exact fun _ _ torn => ⟨torn.emptied.toRested, fun failed => by cases failed⟩

theorem program_wlp {me : Nat} (call : Call) (benign : faults.Benign)
    (known : Rested (.caller me) origin world) :
    wlp (sequential faults params) (.caller me) (call.program params)
      (fun value world => world.stateLock = none ∧ Finished call (.caller me) origin value world)
      (fun _ world => world.stateLock = none ∧ Emptied (.caller me) origin world) world := by
  simp only [Call.program, wlp_bind]
  apply wlp_lockState
  intro _
  simp only [wlp_handle, wlp_bind, wlp_unlockState, Program.pure_eq, wlp_ret, Program.throw_eq,
    wlp_raise]
  have locked : Rested (.caller me) origin
      { world with stateLock := some (.caller me), lastReturn := none } :=
    { known with stateLock := nofun }
  refine wlp_mono (body_wlp call benign locked) ?_ ?_
  · rintro value world ⟨rested, failing⟩
    exact ⟨trivial, { rested with stateLock := nofun },
      fun failed => { failing failed with stateLock := nofun }⟩
  · intro error world emptied
    exact ⟨trivial, { emptied with stateLock := nofun }⟩

end DflockdClient.Sync
