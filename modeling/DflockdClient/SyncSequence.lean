import DflockdClient.SyncModes

/-! Operations and renewal iterations, each run to its end before the next one. -/

namespace DflockdClient.Sync

open Interleaving

variable {faults : Faults} {params : Params} {thread : Thread} {origin world : World}

/-- No thread start fails and nothing but an ordinary exception ends a release exchange. -/
structure Faults.Benign (faults : Faults) : Prop where
  starts : faults.startFails = false
  releases : faults.interrupts (some .release) = false

abbrev wlpSync (α : Type) (faults : Faults) (params : Params) (thread : Thread) (program : Py α)
    (post : α → World → Prop) (raised : PyError → World → Prop) : World → Prop :=
  wlp (sequential faults params) thread program post raised

section Operations

variable {α : Type} {raised : PyError → World → Prop}

theorem wlp_sure (op : Op) {post : op.Res → World → Prop} (value : World → op.Res)
    (effect : World → World)
    (sure : ∀ choice world, exec faults thread op choice world = some (value world, effect world)) :
    wlp (sequential faults params) thread (perform op) post raised =
      fun world => post (value world) (effect world) := by
  funext world
  apply propext
  constructor
  · intro known
    exact known .go _ _ (sure .go world)
  · exact fun known => wlp_certain (fun choice => sure choice world) known

@[simp] theorem wlp_getConn {post : Option Nat → World → Prop} :
    wlpSync (Option Nat) faults params thread (perform .getConn) post raised =
      fun world => post world.conn world :=
  wlp_sure .getConn World.conn id fun _ _ => rfl

@[simp] theorem wlp_getToken {post : Option Str → World → Prop} :
    wlpSync (Option Str) faults params thread (perform .getToken) post raised =
      fun world => post world.token world :=
  wlp_sure .getToken World.token id fun _ _ => rfl

@[simp] theorem wlp_getLease {post : Int → World → Prop} :
    wlpSync Int faults params thread (perform .getLease) post raised =
      fun world => post world.lease world :=
  wlp_sure .getLease World.lease id fun _ _ => rfl

@[simp] theorem wlp_getRenewThread {post : Option Nat → World → Prop} :
    wlpSync (Option Nat) faults params thread (perform .getRenewThread) post raised =
      fun world => post world.renewThread world :=
  wlp_sure .getRenewThread World.renewThread id fun _ _ => rfl

@[simp] theorem wlp_getStopEvent {post : Nat → World → Prop} :
    wlpSync Nat faults params thread (perform .getStopEvent) post raised =
      fun world => post world.stopEvent world :=
  wlp_sure .getStopEvent World.stopEvent id fun _ _ => rfl

@[simp] theorem wlp_getClosed {post : Bool → World → Prop} :
    wlpSync Bool faults params thread (perform .getClosed) post raised =
      fun world => post world.closed world :=
  wlp_sure .getClosed World.closed id fun _ _ => rfl

section Effects

variable {post : Unit → World → Prop}

@[simp] theorem wlp_setConn {conn : Option Nat} :
    wlpSync Unit faults params thread (perform (.setConn conn)) post raised =
      fun world => post () (world.setConn thread conn) :=
  wlp_sure (.setConn conn) (fun _ => ()) _ fun _ _ => rfl

@[simp] theorem wlp_setToken {token : Option Str} :
    wlpSync Unit faults params thread (perform (.setToken token)) post raised =
      fun world => post () { world with token := token } :=
  wlp_sure (.setToken token) (fun _ => ()) _ fun _ _ => rfl

@[simp] theorem wlp_setLease {lease : Int} :
    wlpSync Unit faults params thread (perform (.setLease lease)) post raised =
      fun world => post () { world with lease := lease } :=
  wlp_sure (.setLease lease) (fun _ => ()) _ fun _ _ => rfl

@[simp] theorem wlp_setRenewThread {worker : Option Nat} :
    wlpSync Unit faults params thread (perform (.setRenewThread worker)) post raised =
      fun world => post () { world with renewThread := worker } :=
  wlp_sure (.setRenewThread worker) (fun _ => ()) _ fun _ _ => rfl

@[simp] theorem wlp_setClosed {closed : Bool} :
    wlpSync Unit faults params thread (perform (.setClosed closed)) post raised =
      fun world => post () { world with closed := closed } :=
  wlp_sure (.setClosed closed) (fun _ => ()) _ fun _ _ => rfl

@[simp] theorem wlp_newStopEvent :
    wlpSync Unit faults params thread (perform .newStopEvent) post raised =
      fun world => post () { world with stopEvent := world.stopEvent + 1 } :=
  wlp_sure .newStopEvent (fun _ => ()) _ fun _ _ => rfl

@[simp] theorem wlp_setEvent {event : Nat} :
    wlpSync Unit faults params thread (perform (.setEvent event)) post raised =
      fun world => post () { world with
        eventSet := Function.update world.eventSet event true } :=
  wlp_sure (.setEvent event) (fun _ => ()) _ fun _ _ => rfl

@[simp] theorem wlp_unlockIo :
    wlpSync Unit faults params thread (perform .unlockIo) post raised =
      fun world => post () { world with ioLock := none, armed := none } :=
  wlp_sure .unlockIo (fun _ => ()) _ fun _ _ => rfl

@[simp] theorem wlp_unlockState {returned : Option Call} :
    wlpSync Unit faults params thread (perform (.unlockState returned)) post raised =
      fun world => post () { world with stateLock := none, lastReturn := returned } :=
  wlp_sure (.unlockState returned) (fun _ => ()) _ fun _ _ => rfl

@[simp] theorem wlp_shutdownRead {conn : Nat} :
    wlpSync Unit faults params thread (perform (.shutdownRead conn)) post raised = post () :=
  wlp_sure (.shutdownRead conn) (fun _ => ()) id fun _ _ => rfl

@[simp] theorem wlp_closeConn {conn : Nat} :
    wlpSync Unit faults params thread (perform (.closeConn conn)) post raised =
      fun world => post () { world with
        closedConn := Function.update world.closedConn conn true } :=
  wlp_sure (.closeConn conn) (fun _ => ()) _ fun _ _ => rfl

end Effects

@[simp] theorem wlp_newThread {event : Nat} {post : Nat → World → Prop} :
    wlpSync Nat faults params thread (perform (.newThread event)) post raised =
      fun world => post world.workers { world with
        workers := world.workers + 1
        workerEvent := Function.update world.workerEvent world.workers event } :=
  wlp_sure (.newThread event) World.workers _ fun _ _ => rfl

@[simp] theorem wlp_isSet {event : Nat} {post : Bool → World → Prop} :
    wlpSync Bool faults params thread (perform (.isSet event)) post raised =
      fun world => post (world.eventSet event) (if world.eventSet event then world else
        { world with armed := if world.ioLock = some thread then some thread else world.armed }) := by
  refine wlp_sure (.isSet event) (fun world => world.eventSet event) _ fun _ world => ?_
  cases set : world.eventSet event <;> simp [exec, set]

theorem wlp_lockState {post : Unit → World → Prop}
    (known : world.stateLock = none → post () { world with
      stateLock := some thread, lastReturn := none }) :
    wlp (sequential faults params) thread (perform .lockState) post raised world := by
  intro choice result after executed
  simp only [sequential, exec, Option.ite_none_right_eq_some, Option.some.injEq, Prod.mk.injEq]
    at executed
  obtain ⟨free, -, rfl⟩ := executed
  exact known free

theorem wlp_lockIo {post : Unit → World → Prop}
    (known : post () { world with ioLock := some thread }) :
    wlp (sequential faults params) thread (perform .lockIo) post raised world := by
  intro choice result after executed
  simp only [sequential, exec, Option.ite_none_right_eq_some, Option.some.injEq, Prod.mk.injEq]
    at executed
  obtain ⟨-, -, rfl⟩ := executed
  exact known

theorem wlp_raising {program : Py (Except PyError α)} {post : α → World → Prop}
    (known : wlp (sequential faults params) thread program
      (fun result world => match result with
        | .ok value => post value world
        | .error error => raised error world) raised world) :
    wlp (sequential faults params) thread (raising program) post raised world := by
  simp only [raising, wlp_bind]
  refine wlp_mono known ?_ fun _ _ ended => ended
  intro result world ended
  cases result <;> exact ended

theorem wlp_joinThread {worker : Nat} {post : Unit → World → Prop}
    (started : world.started worker = true) (known : post () world) :
    wlp (sequential faults params) thread (raising (perform (.joinThread worker))) post raised world := by
  apply wlp_raising
  intro choice result after executed
  have same : after = world ∧ result = .ok () := by
    simp only [sequential, exec, started] at executed
    cases choice <;> grind
  obtain ⟨rfl, rfl⟩ := same
  exact known

theorem wlp_startThread {worker : Nat} {post : Unit → World → Prop} (benign : faults.Benign)
    (known : post () { world with
      started := Function.update world.started worker true
      alive := Function.update world.alive worker true }) :
    wlp (sequential faults params) thread (raising (perform (.startThread worker))) post raised world := by
  apply wlp_raising
  intro choice result after executed
  have same : result = .ok () ∧ after = { world with
      started := Function.update world.started worker true
      alive := Function.update world.alive worker true } := by
    simp only [sequential, exec, benign.starts] at executed
    cases choice <;> grind
  obtain ⟨rfl, rfl⟩ := same
  exact known

theorem wlp_dial {host : Str} {port : Int} {post : Nat → World → Prop}
    (failed : ∀ error, raised error world)
    (known : post world.conns { world with
      conns := world.conns + 1
      inHand := Function.update world.inHand world.conns (some thread) }) :
    wlp (sequential faults params) thread (raising (perform (.dial host port))) post raised world := by
  apply wlp_raising
  intro choice result after executed
  have dialled : (∃ error, result = .error error ∧ after = world) ∨
      (result = .ok world.conns ∧ after = { world with
        conns := world.conns + 1
        inHand := Function.update world.inHand world.conns (some thread) }) := by
    simp only [sequential, exec] at executed
    cases choice <;> grind
  rcases dialled with ⟨error, rfl, rfl⟩ | ⟨rfl, rfl⟩
  · exact failed error
  · exact known

end Operations

def NoneRenews (world : World) : Prop := ∀ worker, ¬Renews world worker

theorem unmade_update {conn : Nat}
    (unmade : ∀ conn, world.conns ≤ conn → world.closedConn conn = false)
    (made : conn < world.conns) (other : Nat) (beyond : world.conns ≤ other) :
    Function.update world.closedConn conn true other = false := by
  have different : other ≠ conn := by omega
  simpa only [Function.update_of_ne different] using unmade other beyond

theorem Base.stopped {event : Nat} (base : Base thread origin world)
    (current : event = world.stopEvent) :
    Base thread origin { world with eventSet := Function.update world.eventSet event true } ∧
      NoneRenews { world with eventSet := Function.update world.eventSet event true } := by
  subst current
  refine ⟨{ base with pastSet := ?_, future := ?_ }, ?_⟩
  · intro event earlier
    simpa only [Function.update_of_ne (Nat.ne_of_lt earlier)] using base.pastSet event earlier
  · intro event later
    simpa only [Function.update_of_ne (Nat.ne_of_gt later)] using base.future event later
  · rintro worker ⟨alive, unset⟩
    have past := base.workerPast worker (base.startedMade worker (base.aliveStarted worker alive))
    simp only [Function.update_apply] at unset
    split at unset
    · cases unset
    · rename_i different
      have set := base.pastSet (world.workerEvent worker) (by
        have past' : world.workerEvent worker ≤ world.stopEvent := past
        omega)
      rw [set] at unset
      cases unset

theorem stopRenew_wlp {raised : PyError → World → Prop} (known : Entered thread origin world) :
    wlp (sequential faults params) thread stopRenew
      (fun _ world => Entered thread origin world ∧ NoneRenews world) raised world := by
  simp only [stopRenew, wlp_bind, wlp_getRenewThread]
  cases renew : world.renewThread with
  | none =>
      refine ⟨known, fun worker renews => ?_⟩
      rw [known.watched worker renews] at renew
      cases renew
  | some worker =>
      simp only [wlp_bind, wlp_getStopEvent, wlp_setEvent]
      refine wlp_joinThread ?_ ?_
      · exact known.joinable worker renew
      simp only [wlp_setRenewThread]
      obtain ⟨base, quiet⟩ := known.toBase.stopped rfl
      exact ⟨{ base with
        joinable := by simp
        watched := fun worker renews => absurd renews (quiet worker)
        closed := fun closed => by
          obtain ⟨conn, token, lease, _⟩ := known.closed closed
          exact ⟨conn, token, lease, by simp⟩
        others := known.others
        connMade := known.connMade }, quiet⟩

structure Tearing (thread : Thread) (origin world : World) : Prop extends
    Base thread origin world where
  quiet : NoneRenews world
  joinable : ∀ worker, world.renewThread = some worker → world.started worker = true
  closed : world.closed = true
  stopSet : world.eventSet world.stopEvent = true
  others : ∀ conn, conn < world.conns → world.conn ≠ some conn → world.closedConn conn = true
  connMade : ∀ conn, world.conn = some conn → conn < world.conns

structure Torn (thread : Thread) (origin world : World) : Prop extends
    Tearing thread origin world where
  conn : world.conn = none
  token : world.token = none
  lease : world.lease = 0

theorem shutdownAndCloseConn_wlp {raised : PyError → World → Prop}
    (known : Tearing thread origin world) :
    wlp (sequential faults params) thread shutdownAndCloseConn
      (fun _ world => Tearing thread origin world ∧ world.conn = none) raised world := by
  simp only [shutdownAndCloseConn, wlp_bind, wlp_getConn]
  cases installed : world.conn with
  | none => exact ⟨known, installed⟩
  | some conn =>
      simp only [wlp_bind, wlp_shutdownRead, withIoLock, wlp_ensure, wlp_setConn]
      apply wlp_lockIo
      simp only [wlp_closeConn, wlp_unlockIo]
      refine ⟨{ known with
        free := rfl
        unmade := unmade_update known.unmade (known.connMade conn installed)
        others := ?_
        connMade := by simp [World.setConn] }, rfl⟩
      intro other made _
      simp only [World.setConn]
      by_cases same : other = conn
      · simp [same]
      · have elsewhere : world.conn ≠ some other := by
          rw [installed]
          exact fun back => same (Option.some.inj back).symm
        exact closed_update (known.others other made elsewhere)

theorem joinRenewThread_wlp {raised : PyError → World → Prop}
    (known : Tearing thread origin world) (gone : world.conn = none) :
    wlp (sequential faults params) thread joinRenewThread
      (fun _ world => Tearing thread origin world ∧ world.conn = none) raised world := by
  have forgets : Tearing thread origin { world with renewThread := none } :=
    { known with joinable := by simp }
  simp only [joinRenewThread, wlp_bind, wlp_getRenewThread]
  cases renew : world.renewThread with
  | none =>
      simp only [wlp_setRenewThread]
      exact ⟨forgets, gone⟩
  | some worker =>
      simp only [wlp_bind, wlp_setRenewThread]
      exact wlp_joinThread (known.joinable worker renew) ⟨forgets, gone⟩

theorem closeUnlocked_wlp {raised : PyError → World → Prop} (known : Entered thread origin world) :
    wlp (sequential faults params) thread closeUnlocked (fun _ => Torn thread origin) raised
      world := by
  simp only [closeUnlocked, wlp_bind, wlp_getClosed]
  cases closed : world.closed with
  | true =>
      obtain ⟨conn, token, lease, stopSet⟩ := known.closed closed
      have quiet := (known.toBase.stopped rfl).2
      have same : Function.update world.eventSet world.stopEvent true = world.eventSet := by
        rw [← stopSet, Function.update_eq_self]
      rw [same] at quiet
      exact { known with closed, quiet, stopSet, conn, token, lease }
  | false =>
      have starts : Tearing thread origin { world with
          closed := true
          eventSet := Function.update world.eventSet world.stopEvent true } := by
        obtain ⟨base, quiet⟩ := known.toBase.stopped rfl
        exact { base with
          quiet := quiet
          joinable := known.joinable
          closed := rfl
          stopSet := by simp
          others := known.others
          connMade := known.connMade }
      simp only [Bool.false_eq_true, if_false, wlp_bind, beginClose, wlp_setClosed,
        wlp_getStopEvent, wlp_setEvent, tearDownConnAndThread]
      refine wlp_mono (shutdownAndCloseConn_wlp starts) ?_ fun _ _ known => known
      rintro _ world ⟨tearing, gone⟩
      refine wlp_mono (joinRenewThread_wlp tearing gone) ?_ fun _ _ known => known
      rintro _ world ⟨tearing, gone⟩
      simp only [clearHeldState, wlp_bind, wlp_setToken, wlp_setLease]
      exact { tearing with conn := gone, token := rfl, lease := rfl }

end DflockdClient.Sync
