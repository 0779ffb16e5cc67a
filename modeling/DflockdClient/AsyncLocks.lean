import DflockdClient.Interleaving.Discipline
import DflockdClient.Exchanges
import DflockdClient.AsyncCore

/-!
The order in which tasks take the two locks of an instance and wait for each
other. A caller may wait for the renewal task with the I/O lock in its hands, but
only after it has cancelled that task, and a cancelled task waits for nothing.
-/

namespace DflockdClient.Async.Locks

open Interleaving
open Sync (Call CallValue)

/-- How far a renewal task has got; `dying` once it has been told that it is cancelled. -/
inductive Stage
  | fresh | running | dying | ended
  deriving DecidableEq

/-- What a task has by its own doing: the locks, the renewal task that it knows of and the one that
it has cancelled; a renewal task also has its stage. -/
structure Held where
  state : Bool := false
  io : Bool := false
  known : Option Nat := none
  asked : Option Nat := none
  stage : Stage := .fresh
  deriving DecidableEq

def taken {α : Type} (result : Except PyError α) : Bool :=
  match result with
  | .ok _ => true
  | .error _ => false

def callerRules : Discipline Op Op.Res Held where
  allowed held op := match op with
    | .lockState => held = {}
    | .unlockState => held.state = true ∧ held.io = false
    | .lockIo => held.state = true ∧ held.io = false
    | .unlockIo => held.state = true ∧ held.io = true
    | .getRenewTask | .createTask => held.state = true
    | .setRenewTask task => held.state = true ∧ ∀ number, task = some number → held.known = task
    | .cancelTask task => held.state = true ∧ held.known = some task
    | .awaitOuter task => held.state = true ∧ held.asked = some task
    | .beginTask | .endTask _ | .sleep _ | .cancelCaller _ => False
    | _ => True
  returns _ _ _ := True
  after held op := match op with
    | .lockState => fun result => { held with state := taken result }
    | .unlockState => fun _ => {}
    | .lockIo => fun result => { held with io := taken result }
    | .unlockIo => fun _ => { held with io := false }
    | .getRenewTask => fun task => { held with known := task }
    | .createTask => fun task => { held with known := some task }
    | .cancelTask task => fun _ => { held with asked := some task }
    | _ => fun _ => held

def told {α : Type} (held : Held) (result : Except PyError α) : Held :=
  match result with
  | .ok _ => held
  | .error error => if error = cancelled then { held with stage := .dying } else held

def Fails {α : Type} (result : Except PyError α) : Prop :=
  ∀ error, result = .error error → error = cancelled ∨ error.isException = true

def workerRules : Discipline Op Op.Res Held where
  allowed held op := match op with
    | .lockState | .unlockState | .setRenewTask _ | .createTask | .cancelTask _ | .awaitOuter _
    | .cancelCaller _ | .dial _ _ | .waitClosed _ => False
    | .lockIo => held.io = false ∧ held.stage = .running
    | .unlockIo => held.io = true
    | .beginTask => held = {}
    | .endTask _ => held.io = false ∧ (held.stage = .running ∨ held.stage = .dying)
    | .drain _ _ | .readLine _ _ | .sleep _ => held.stage = .running
    | _ => True
  returns _ op := match op with
    | .lockIo | .sleep _ => fun result => ∀ error, result = .error error → error = cancelled
    | .drain _ _ | .readLine _ _ => fun result => Fails result
    | _ => fun _ => True
  after held op := match op with
    | .lockIo => fun result => told { held with io := taken result } result
    | .unlockIo => fun _ => { held with io := false }
    | .beginTask => fun undelivered =>
        { held with stage := if undelivered then .dying else .running }
    | .endTask _ => fun _ => { held with stage := .ended }
    | .drain _ _ | .readLine _ _ | .sleep _ => fun result => told held result
    | _ => fun _ => held

def otherRules : Discipline Op Op.Res Held where
  allowed _ op := ∃ id, op = .cancelCaller id
  returns _ _ _ := True
  after held _ := fun _ => held

def rules (thread : Thread) : Discipline Op Op.Res Held :=
  match thread with
  | .caller _ => callerRules
  | .worker _ => workerRules
  | .other _ => otherRules

def Left (thread : Thread) (outcome : Except PyError (Val thread)) (held : Held) : Prop :=
  match thread, outcome with
  | .caller _, _ => held = {}
  | .worker _, .ok .fresh => held = {}
  | .worker _, .ok (.sleeping _) => held = { stage := .running }
  | .worker _, _ => held = { stage := .ended }
  | .other _, _ => held = {}

def untied (op : Op) : Bool :=
  match op with
  | .getConn | .setConn _ | .getToken | .setToken _ | .getLease | .setLease _ | .getClosed
  | .setClosed _ | .cancelling | .taskOutcome _ | .dial _ _ | .closeNowait _ | .waitClosed _
  | .write _ _ | .drain _ _ | .readLine _ _ => true
  | _ => false

abbrev Plain {α : Type} (program : Py α) : Prop := program.Uses fun op => untied op = true

theorem plain_perform {op : Op} (plain : untied op = true) : Plain (perform op) := .perform plain

theorem plain_raising {α : Type} {program : Py (Except PyError α)} (plain : Plain program) :
    Plain (raising program) :=
  plain.bind fun _ => .orRaise

theorem command_plain {conn : Nat} {request : Request} : Plain (command conn request) := by
  refine .bind (.discard .orRaise) fun _ => .bind (plain_perform rfl) fun _ =>
    .handle ?_ fun error => ?_
  · exact .bind (plain_raising (plain_perform rfl)) fun _ => plain_raising (plain_perform rfl)
  · exact .bind (plain_perform rfl) fun _ => .raise

theorem exchange_plain {α : Type} {conn : Nat} {request : Except PyError Request}
    {parse : Str → Except PyError α} : Plain (exchange conn request parse) :=
  .bind .orRaise fun _ => .bind command_plain fun _ => .orRaise

theorem clearHeldState_plain : Plain clearHeldState :=
  .bind (plain_perform rfl) fun _ => plain_perform rfl

theorem closeConn_plain {conn : Nat} : Plain (closeConn conn) := by
  refine .bind (plain_perform rfl) fun _ => ?_
  refine .handle (plain_raising (plain_perform rfl)) fun error => ?_
  split
  · exact .ret
  · exact .raise

/-! Programs of callers -/

section Callers

variable {params : Params} {α : Type} {post : α → Held → Prop} {raised : PyError → Held → Prop}
  {held : Held}

structure Inside (io : Bool) (held : Held) : Prop where
  state : held.state = true
  io : held.io = io

theorem caller_plain {program : Py α} (plain : Plain program) (ends : ∀ value, post value held)
    (fails : ∀ error, raised error held) : Obeys callerRules program post raised held := by
  refine plain.obeys (fun op free => ?_) ends fails
  cases op <;> first | exact ⟨trivial, fun _ => rfl⟩ | cases free

theorem caller_skip {β : Type} {program : Py β} {rest : β → Py α} (plain : Plain program)
    (known : ∀ value, Obeys callerRules (rest value) post raised held)
    (fails : ∀ error, raised error held) :
    Obeys callerRules (program >>= rest) post raised held := by
  rw [obeys_bind]
  exact caller_plain plain known fails

theorem caller_op {op : Op} {rest : op.Res → Py α} (allowed : callerRules.allowed held op)
    (known : ∀ result, Obeys callerRules (rest result) post raised
      (callerRules.after held op result)) :
    Obeys callerRules (perform op >>= rest) post raised held :=
  ⟨allowed, fun result _ => known result⟩

theorem cancelAndWait_obeys {io : Bool} {task : Nat} (inside : Inside io held)
    (known : held.known = some task) :
    Obeys callerRules (cancelAndWait (perform .cancelling) (perform (.cancelTask task))
      (shield task)) (fun _ => Inside io) (fun _ => Inside io) held := by
  have asked : Inside io { held with asked := some task } := ⟨inside.state, inside.io⟩
  refine caller_op trivial fun count => caller_op ⟨inside.state, known⟩ fun _ => ?_
  have handles (error : PyError) :
      Obeys callerRules (if error.cls = .cancelledError then do
          if (← perform .cancelling) > count then throw error else pure ()
        else if error.isException then pure ()
        else throw error) (fun _ => Inside io) (fun _ => Inside io)
        { held with asked := some task } := by
    split
    · refine caller_op trivial fun more => ?_
      split
      · exact asked
      · exact asked
    · split
      · exact asked
      · exact asked
  rw [obeys_handle]
  refine caller_op trivial fun outcome => ?_
  cases outcome with
  | some outcome =>
      cases outcome with
      | ok _ => exact asked
      | error error => exact handles error
  | none =>
      refine ⟨⟨inside.state, rfl⟩, fun result _ => ?_⟩
      cases result with
      | ok _ => exact asked
      | error error => exact handles error

theorem cancelRenew_obeys {io : Bool} (inside : Inside io held) :
    Obeys callerRules cancelRenew (fun _ => Inside io) (fun _ => Inside io) held := by
  refine caller_op inside.state fun task => caller_op ⟨inside.state, by simp⟩ fun _ => ?_
  cases task with
  | none => exact ⟨inside.state, inside.io⟩
  | some task => exact cancelAndWait_obeys ⟨inside.state, inside.io⟩ rfl

theorem detachConn_plain : Plain detachConn :=
  .bind (plain_perform rfl) fun _ => .bind (plain_perform rfl) fun _ =>
    .bind clearHeldState_plain fun _ => .ret

theorem closeUnlocked_obeys (inside : Inside false held) :
    Obeys callerRules closeUnlocked (fun _ => Inside false) (fun _ => Inside false) held := by
  refine caller_op trivial fun closed => ?_
  refine caller_op trivial fun conn => ?_
  refine caller_op inside.state fun task => ?_
  have still : Inside false { held with known := task } := ⟨inside.state, inside.io⟩
  split
  · exact caller_plain clearHeldState_plain (fun _ => still) fun _ => still
  · refine caller_op trivial fun _ => caller_skip detachConn_plain (fun conn => ?_) fun _ => still
    cases conn with
    | none => exact cancelRenew_obeys still
    | some conn =>
        refine caller_op trivial fun _ => ?_
        rw [obeys_bind]
        refine (cancelRenew_obeys still).mono (fun _ after inside => ?_) fun _ _ => id
        exact caller_plain closeConn_plain (fun _ => inside) fun _ => inside

theorem closeThen_obeys {value : α} (inside : Inside false held) :
    Obeys callerRules (closeUnlocked >>= fun _ => pure value) (fun _ => Inside false)
      (fun _ => Inside false) held := by
  rw [obeys_bind]
  exact closeUnlocked_obeys inside

theorem resetForNewAttempt_obeys (inside : Inside false held) :
    Obeys callerRules resetForNewAttempt (fun _ => Inside false) (fun _ => Inside false) held := by
  rw [resetForNewAttempt, obeys_bind]
  refine (cancelRenew_obeys inside).mono (fun _ after inside => ?_) fun _ _ => id
  rw [obeys_bind]
  refine (closeUnlocked_obeys inside).mono (fun _ after inside => ?_) fun _ _ => id
  exact caller_plain (plain_perform rfl) (fun _ => inside) fun _ => inside

theorem openAndAuthenticate_plain : Plain (openAndAuthenticate params) := by
  refine .bind .orRaise fun endpoint => ?_
  refine .bind (plain_raising (plain_perform rfl)) fun conn => .bind ?_ fun conn =>
    plain_perform rfl
  unfold maybeAuthenticate
  split
  · exact .ret
  · exact .handle (.bind exchange_plain fun _ => .ret) fun error =>
      .bind closeConn_plain fun _ => .raise

theorem startRenew_obeys (inside : Inside false held) :
    Obeys callerRules startRenew (fun _ => Inside false) (fun _ => Inside false) held := by
  refine caller_op inside.state fun task => ⟨⟨inside.state, ?_⟩, fun _ _ => ?_⟩
  · exact fun number same => rfl
  · exact ⟨inside.state, inside.io⟩

theorem requireConn_plain {message : Str} : Plain (requireConn message) := by
  refine .bind (plain_perform rfl) fun conn => ?_
  cases conn with
  | none => exact .raise
  | some conn => exact .ret

theorem storeGrant_plain {grant : Str × Int} : Plain (storeGrant grant) :=
  .bind (plain_perform rfl) fun _ => plain_perform rfl

theorem grantOrClose_obeys {exchange : Py (Str × Int)} (plain : Plain exchange)
    (inside : Inside false held) :
    Obeys callerRules (grantOrClose exchange storeGrant) (fun _ => Inside false)
      (fun _ => Inside false) held := by
  rw [grantOrClose, obeys_handle]
  refine caller_plain (.bind plain fun _ => .bind storeGrant_plain fun _ => .ret)
    (fun _ => inside) fun error => ?_
  rw [obeys_bind]
  refine (closeUnlocked_obeys inside).mono (fun _ after inside => ?_) fun _ _ => id
  split
  · exact inside
  · exact inside

theorem granted_obeys {exchange : Py (Str × Int)} (plain : Plain exchange)
    (inside : Inside false held) :
    Obeys callerRules (do
      let granted ← grantOrClose exchange storeGrant
      if granted.isNone then pure (CallValue.bool false)
      else do
        startRenew
        pure (CallValue.bool true)) (fun _ => Inside false) (fun _ => Inside false) held := by
  rw [obeys_bind]
  refine (grantOrClose_obeys plain inside).mono (fun granted after inside => ?_) fun _ _ => id
  split
  · exact inside
  · rw [obeys_bind]
    exact startRenew_obeys inside

theorem handleEnqueueStatus_obeys {status : EnqueueStatus} (inside : Inside false held) :
    Obeys callerRules (handleEnqueueStatus status) (fun _ => Inside false) (fun _ => Inside false)
      held := by
  cases status with
  | acquired token lease =>
      refine caller_skip storeGrant_plain (fun _ => ?_) fun _ => inside
      rw [obeys_bind]
      exact startRenew_obeys inside
  | queued => exact inside

theorem invokeEnqueue_obeys (inside : Inside false held) :
    Obeys callerRules (invokeEnqueue params) (fun _ => Inside false) (fun _ => Inside false)
      held := by
  rw [invokeEnqueue, obeys_bind, obeys_handle]
  refine caller_plain (.bind requireConn_plain fun _ => exchange_plain)
    (fun _ => handleEnqueueStatus_obeys inside) fun error => ?_
  rw [obeys_bind]
  exact closeUnlocked_obeys inside

theorem attempt_obeys {program : Py CallValue} (inside : Inside false held)
    (invoke : ∀ held, Inside false held →
      Obeys callerRules program (fun _ => Inside false) (fun _ => Inside false) held) :
    Obeys callerRules (do
      resetForNewAttempt
      openAndAuthenticate params
      program) (fun _ => Inside false) (fun _ => Inside false) held := by
  rw [obeys_bind]
  refine (resetForNewAttempt_obeys inside).mono (fun _ after inside => ?_) fun _ _ => id
  exact caller_skip openAndAuthenticate_plain (fun _ => invoke after inside) fun _ => inside

theorem sendReleaseQuietly_plain : Plain (sendReleaseQuietly params) := by
  refine .bind (plain_perform rfl) fun conn => .bind (plain_perform rfl) fun token => ?_
  cases conn with
  | none => exact .ret
  | some conn =>
      cases token with
      | none => exact .ret
      | some token =>
          refine .handle (.bind exchange_plain fun _ => .ret) fun error => ?_
          split
          · exact .ret
          · exact .raise

theorem stopAndRelease_obeys (inside : Inside false held) :
    Obeys callerRules (withIoLock do
      cancelRenew
      sendReleaseQuietly params) (fun _ => Inside false) (fun _ => Inside false) held := by
  refine ⟨⟨inside.state, inside.io⟩, fun result _ => ?_⟩
  cases result with
  | error error => exact ⟨inside.state, rfl⟩
  | ok _ =>
      have locked : Inside true { held with io := true } := ⟨inside.state, rfl⟩
      have unlocks {after : Held} (locked : Inside true after) :
          Obeys callerRules (perform .unlockIo) (fun _ => Inside false) (fun _ => Inside false)
            after :=
        ⟨⟨locked.state, locked.io⟩, fun _ _ => ⟨locked.state, rfl⟩⟩
      change Obeys callerRules (Program.ensure _ _) _ _ _
      rw [obeys_ensure, obeys_bind]
      refine (cancelRenew_obeys locked).mono (fun _ after locked => ?_) fun _ after locked =>
        unlocks locked
      exact caller_plain sendReleaseQuietly_plain (fun _ => unlocks locked) fun _ => unlocks locked

theorem releaseUnlocked_obeys (inside : Inside false held) :
    Obeys callerRules (releaseUnlocked params) (fun _ => Inside false) (fun _ => Inside false)
      held := by
  rw [releaseUnlocked, obeys_ensure, obeys_bind]
  refine (stopAndRelease_obeys inside).mono (fun _ after inside => ?_) fun _ after inside => ?_
  · exact closeUnlocked_obeys inside
  · exact closeUnlocked_obeys inside

theorem body_obeys (call : Call) (inside : Inside false held) :
    Obeys callerRules (body params call) (fun _ => Inside false) (fun _ => Inside false) held := by
  cases call with
  | acquire =>
      exact attempt_obeys inside fun held inside =>
        granted_obeys (.bind requireConn_plain fun _ => exchange_plain) inside
  | enqueue => exact attempt_obeys inside fun held inside => invokeEnqueue_obeys inside
  | wait timeoutS =>
      refine caller_skip (plain_perform rfl) (fun token => ?_) fun _ => inside
      split
      · exact inside
      · exact caller_skip requireConn_plain (fun conn => granted_obeys exchange_plain inside)
          fun _ => inside
  | release => exact releaseUnlocked_obeys inside
  | close => exact closeThen_obeys inside

theorem program_obeys (call : Call) :
    Obeys callerRules (program params call) (fun _ after => after = {}) (fun _ after => after = {})
      {} := by
  refine ⟨rfl, fun result _ => ?_⟩
  cases result with
  | error error => rfl
  | ok _ =>
      have inside : Inside false (callerRules.after {} .lockState (.ok ())) := ⟨rfl, rfl⟩
      have unlocks {after : Held} (inside : Inside false after) :
          Obeys callerRules (perform .unlockState) (fun _ after => after = {})
            (fun _ after => after = {}) after :=
        ⟨⟨inside.state, inside.io⟩, fun _ _ => rfl⟩
      change Obeys callerRules (Program.ensure _ _) _ _ _
      rw [obeys_ensure]
      exact (body_obeys call inside).mono (fun _ _ => unlocks) fun _ _ => unlocks

end Callers

section Workers

variable {params : Params} {α : Type} {post : α → Held → Prop} {raised : PyError → Held → Prop}
  {held : Held}

theorem worker_op {op : Op} {rest : op.Res → Py α} (allowed : workerRules.allowed held op)
    (known : ∀ result, Obeys workerRules (rest result) post raised
      (workerRules.after held op result)) :
    Obeys workerRules (perform op >>= rest) post raised held :=
  ⟨allowed, fun result _ => known result⟩

def Struck (held : Held) (error : PyError) (after : Held) : Prop :=
  error.isException = true ∧ after = held ∨
    error = cancelled ∧ after = { held with stage := .dying }

theorem told_struck {result : Except PyError α} {error : PyError} (fails : Fails result)
    (same : result = .error error) : Struck held error (told held result) := by
  subst same
  rcases fails error rfl with rfl | ordinary
  · exact .inr ⟨rfl, by simp [told]⟩
  · refine .inl ⟨ordinary, if_neg ?_⟩
    rintro rfl
    cases ordinary

theorem worker_command {conn : Nat} {request : Request} {post : Str → Held → Prop}
    (running : held.stage = .running) (ends : ∀ line, post line held)
    (fails : ∀ error after, Struck held error after → raised error after) :
    Obeys workerRules (command conn request) post raised held := by
  have closes {error : PyError} {after : Held} (struck : Struck held error after) :
      Obeys workerRules (perform (.closeNowait conn) >>= fun _ => throw error) post raised after :=
    worker_op trivial fun _ => fails error after struck
  unfold command
  rw [obeys_bind, obeys_discard, obeys_orRaise]
  cases encoded : encodeLines [request.cmd, request.key, request.arg] with
  | error error => exact fails error held (.inl ⟨ordinary_encodeLines _ error encoded, rfl⟩)
  | ok frame =>
      refine worker_op trivial fun _ => ?_
      rw [obeys_handle]
      refine ⟨running, fun drained failing => ?_⟩
      cases drained with
      | error error => exact closes (told_struck failing rfl)
      | ok _ =>
          refine ⟨running, fun line failing => ?_⟩
          cases line with
          | error error => exact closes (told_struck failing rfl)
          | ok line => exact ends line

theorem protoRenew_obeys {conn : Nat} {token : Str} {post : Int → Held → Prop}
    (running : held.stage = .running) (ends : ∀ remaining, post remaining held)
    (fails : ∀ error after, Struck held error after → raised error after) :
    Obeys workerRules (protoRenew params conn token) post raised held := by
  rw [protoRenew, exchange, obeys_bind, obeys_orRaise]
  cases built : params.renewRequest token with
  | error error =>
      exact fails error held (.inl ⟨ordinary_renewRequest _ _ _ _ _ error built, rfl⟩)
  | ok request =>
      change Obeys workerRules (_ >>= _) post raised held
      rw [obeys_bind]
      refine worker_command running (fun line => ?_) fails
      rw [obeys_orRaise]
      cases parsed : parseRenewResponse line (opLabel params.pre (str "renew")) with
      | error error =>
          exact fails error held (.inl ⟨ordinary_parseRenewResponse _ _ error parsed, rfl⟩)
      | ok remaining => exact ends remaining

theorem handleRenewFailure_obeys {conn : Nat} {post : Unit → Held → Prop}
    (ends : ∀ value, post value held) :
    Obeys workerRules (handleRenewFailure conn) post raised held := by
  have drops : Obeys workerRules (do
      if (← perform .getConn) = some conn then do
        perform (.setConn none)
        clearHeldState
        perform (.closeNowait conn)
      else pure ()) post raised held := by
    refine worker_op trivial fun installed => ?_
    split
    · refine worker_op trivial fun _ => worker_op trivial fun _ => worker_op trivial fun _ => ?_
      exact ⟨trivial, fun value _ => ends value⟩
    · exact ends ()
  refine worker_op trivial fun closed => ?_
  split
  · exact ends ()
  · rw [obeys_bind, logRenewFailure]
    refine worker_op trivial fun closed => ?_
    split
    · exact drops
    · exact worker_op trivial fun _ => drops

theorem safeRenewOnce_obeys {post : Option Int → Held → Prop} (running : held.stage = .running)
    (ends : ∀ renewed, post renewed held)
    (dies : raised cancelled { held with stage := .dying }) :
    Obeys workerRules (safeRenewOnce params) post raised held := by
  refine worker_op trivial fun conn => worker_op trivial fun token => ?_
  cases conn with
  | none => exact ends none
  | some conn =>
      cases token with
      | none => exact ends none
      | some token =>
          change Obeys workerRules (Program.handle _ _) post _ held
          rw [obeys_handle, obeys_bind]
          refine protoRenew_obeys running (fun remaining => ends _) fun error after struck => ?_
          rcases struck with ⟨ordinary, rfl⟩ | ⟨rfl, rfl⟩
          · rw [if_pos ordinary, obeys_bind]
            exact handleRenewFailure_obeys fun _ => ends none
          · exact dies

theorem renewTick_obeys {post : Option Int → Held → Prop}
    (ends : ∀ renewed, post renewed { stage := .running })
    (dies : raised cancelled { stage := .dying }) :
    Obeys workerRules (renewTick params) post raised { stage := .running } := by
  refine ⟨⟨rfl, rfl⟩, fun result failing => ?_⟩
  cases result with
  | error error =>
      cases failing error rfl
      exact dies
  | ok _ =>
      have unlocks (renewed : Option Int) : Obeys workerRules (perform .unlockIo)
          (fun _ => post renewed) raised { io := true, stage := .running } :=
        ⟨rfl, fun _ _ => ends renewed⟩
      change Obeys workerRules (Program.ensure _ _) post raised { io := true, stage := .running }
      rw [obeys_ensure]
      refine worker_op trivial fun closed => ?_
      split
      · exact unlocks none
      · exact safeRenewOnce_obeys rfl unlocks ⟨rfl, fun _ _ => dies⟩

theorem updateLease_obeys {remaining : Int} {post : Unit → Held → Prop}
    (ends : ∀ value, post value held) :
    Obeys workerRules (updateLease remaining) post raised held := by
  unfold updateLease
  split
  · refine worker_op trivial fun token => ?_
    split
    · refine worker_op trivial fun closed => ?_
      split
      · exact ends ()
      · exact ⟨trivial, fun value _ => ends value⟩
    · exact ends ()
  · exact ends ()

theorem renewLoop_obeys {me : Nat} : KeepsTo rules Left (.worker me) (renewLoop params) {} := by
  refine worker_op rfl fun undelivered => ?_
  cases undelivered with
  | true => exact worker_op ⟨rfl, .inr rfl⟩ fun _ => rfl
  | false => exact worker_op trivial fun _ => rfl

theorem sleep_obeys {interval : Rat} {rest : Unit → Py α} (running : held.stage = .running)
    (known : Obeys workerRules (rest ()) post raised held)
    (dies : raised cancelled { held with stage := .dying }) :
    Obeys workerRules (raising (perform (.sleep interval)) >>= rest) post raised held := by
  refine ⟨running, fun result failing => ?_⟩
  cases result with
  | ok _ => exact known
  | error error =>
      cases failing error rfl
      exact dies

theorem renewLoopBody_obeys {interval : Rat} {post : WorkerState → Held → Prop}
    (sleeps : ∀ interval, post (.sleeping interval) { stage := .running })
    (done : post .done { stage := .running }) (dies : raised cancelled { stage := .dying }) :
    Obeys workerRules (renewLoopBody params interval) post raised { stage := .running } := by
  refine sleep_obeys rfl ?_ dies
  rw [obeys_bind]
  refine renewTick_obeys (fun renewed => ?_) dies
  cases renewed with
  | none => exact done
  | some remaining =>
      change Obeys workerRules (_ >>= _) post raised { stage := .running }
      rw [obeys_bind]
      exact updateLease_obeys fun _ => sleeps _

theorem renewRound_obeys {me : Nat} {interval : Rat} :
    KeepsTo rules Left (.worker me) (renewRound params interval) { stage := .running } := by
  have finish {stage : Stage} (alive : stage = .running ∨ stage = .dying) :
      Obeys workerRules (do
        if WorkerState.done = .done then perform (.endTask (.ok ())) else pure ()
        pure WorkerState.done) (fun value => Left (.worker me) (.ok value))
        (fun error => Left (.worker me) (.error error)) { stage := stage } := by
    rw [if_pos rfl]
    exact worker_op ⟨rfl, alive⟩ fun _ => rfl
  change Obeys workerRules (_ >>= _) _ _ _
  rw [obeys_bind, obeys_handle]
  refine renewLoopBody_obeys (fun interval => ?_) (finish (.inl rfl)) ?_
  · rfl
  · exact finish (.inr rfl)

end Workers

end DflockdClient.Async.Locks
