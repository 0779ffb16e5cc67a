import DflockdClient.Interleaving.Discipline
import DflockdClient.Exchanges
import DflockdClient.SyncCore

/-!
The order in which threads take the two locks of an instance and wait for each
other: the state lock before the I/O lock, and a join only under the state lock
alone and after the current stop event was set.
-/

namespace DflockdClient.Sync.Locks

open Interleaving

/-- What a thread has by its own doing: the locks, the current stop event as it has read it, whether
`_closed` was set ahead of that event, whether the event is set, whether `_closed` was cleared, and
a thread that it has made and not started; a worker also has its stop event, and its end. -/
structure Held where
  state : Bool := false
  io : Bool := false
  event : Option Nat := none
  closing : Bool := false
  stopped : Bool := false
  reopened : Bool := false
  made : Option Nat := none
  begun : Option Nat := none
  ended : Bool := false
  deriving DecidableEq

def callerRules : Discipline Op Op.Res Held where
  allowed held op := match op with
    | .lockState => held = {}
    | .unlockState _ => held.state = true ∧ held.io = false ∧ held.closing = false
    | .lockIo => held.state = true ∧ held.io = false
    | .unlockIo => held.state = true ∧ held.io = true
    | .getStopEvent | .getClosed | .setClosed _ | .setEvent _ => held.state = true
    | .newStopEvent => held.state = true ∧ held.stopped = true ∧ held.reopened = true
    | .newThread event => held.state = true ∧ held.event = some event
    | .startThread worker => held.state = true ∧ held.made = some worker
    | .joinThread _ => held.state = true ∧ held.io = false ∧ held.stopped = true
    | .beginThread | .endThread => False
    | _ => True
  returns _ _ _ := True
  after held op := match op with
    | .lockState => fun _ => { held with state := true }
    | .unlockState _ => fun _ => {}
    | .lockIo => fun _ => { held with io := true }
    | .unlockIo => fun _ => { held with io := false }
    | .getStopEvent => fun event => { held with event := some event }
    | .getClosed => fun closed => { held with stopped := held.stopped || closed && !held.closing }
    | .setClosed closed => fun _ => { held with
        closing := closed && !held.stopped
        reopened := !closed }
    | .setEvent event => fun _ =>
        if held.event = some event then { held with closing := false, stopped := true } else held
    | .newStopEvent => fun _ => { held with event := none, stopped := false }
    | .newThread _ => fun worker => { held with made := some worker }
    | .startThread _ => fun _ => { held with made := none }
    | _ => fun _ => held

def workerRules : Discipline Op Op.Res Held where
  allowed held op := match op with
    | .lockState | .unlockState _ | .setClosed _ | .setEvent _ | .newStopEvent | .newThread _
    | .startThread _ | .joinThread _ => False
    | .lockIo => held.io = false
    | .unlockIo => held.io = true
    | .beginThread => held = {}
    | .endThread => held.begun.isSome = true
    | _ => True
  -- A worker gets no `KeyboardInterrupt`.
  returns _ op := match op with
    | .send _ _ | .recv _ _ => fun result => Ordinary result
    | _ => fun _ => True
  after held op := match op with
    | .lockIo => fun _ => { held with io := true }
    | .unlockIo => fun _ => { held with io := false }
    | .beginThread => fun event => { held with begun := some event }
    | .endThread => fun _ => { held with ended := true }
    | _ => fun _ => held

def rules (thread : Thread) : Discipline Op Op.Res Held :=
  match thread with
  | .caller _ => callerRules
  | .worker _ => workerRules

/-- What a thread has between two programs. -/
def Left (thread : Thread) (outcome : Except PyError (Val thread)) (held : Held) : Prop :=
  match thread, outcome with
  | .caller _, _ => held = {}
  | .worker _, .ok .fresh => held = {}
  | .worker _, .ok (.sleeping event _) => held = { begun := some event }
  | .worker _, _ => held.ended = true ∧ held.io = false

def untied (op : Op) : Bool :=
  match op with
  | .getConn | .setConn _ | .getToken | .setToken _ | .getLease | .setLease _ | .getRenewThread
  | .setRenewThread _ | .isSet _ | .waitEvent _ _ | .dial _ _ | .shutdownRead _ | .closeConn _
  | .send _ _ | .recv _ _ => true
  | _ => false

abbrev Plain {α : Type} (program : Py α) : Prop := program.Uses fun op => untied op = true

theorem plain_perform {op : Op} (plain : untied op = true) : Plain (perform op) := .perform plain

theorem plain_raising {α : Type} {program : Py (Except PyError α)} (plain : Plain program) :
    Plain (raising program) :=
  plain.bind fun _ => .orRaise

theorem command_uses {kind : Op → Prop} {conn : Option Nat}
    (sends : ∀ conn request, kind (.send conn request))
    (receives : ∀ conn cmd, kind (.recv conn cmd))
    (closes : ∀ number, conn = some number → kind (.closeConn number)) {request : Request} :
    (command conn request).Uses kind := by
  cases conn with
  | none => exact .raise
  | some conn =>
      refine .bind (.discard .orRaise) fun _ => .handle ?_ fun error => ?_
      · exact .bind (.bind (.perform (sends _ _)) fun _ => .orRaise) fun _ =>
          .bind (.perform (receives _ _)) fun _ => .orRaise
      · exact .bind (.perform (closes _ rfl)) fun _ => .raise

theorem exchange_uses {α : Type} {kind : Op → Prop} {conn : Option Nat}
    (sends : ∀ conn request, kind (.send conn request))
    (receives : ∀ conn cmd, kind (.recv conn cmd))
    (closes : ∀ number, conn = some number → kind (.closeConn number))
    {request : Except PyError Request} {parse : Str → Except PyError α} :
    (exchange conn request parse).Uses kind :=
  .bind .orRaise fun _ => .bind (command_uses sends receives closes) fun _ => .orRaise

theorem exchange_plain {α : Type} {conn : Option Nat} {request : Except PyError Request}
    {parse : Str → Except PyError α} : Plain (exchange conn request parse) :=
  exchange_uses (fun _ _ => rfl) (fun _ _ => rfl) fun _ _ => rfl

theorem clearHeldState_plain : Plain clearHeldState :=
  .bind (plain_perform rfl) fun _ => plain_perform rfl

/-! Programs of callers -/

section Callers

variable {params : Params} {α : Type} {post : α → Held → Prop} {raised : PyError → Held → Prop}
  {held : Held}

structure Inside (held : Held) : Prop where
  state : held.state = true
  io : held.io = false
  closing : held.closing = false

theorem caller_plain {program : Py α} (plain : Plain program) (ends : ∀ value, post value held)
    (fails : ∀ error, raised error held) : Obeys callerRules program post raised held := by
  refine plain.obeys (fun op free => ?_) ends fails
  cases op <;> first | exact ⟨trivial, fun _ => rfl⟩ | cases free

theorem caller_skip {β : Type} {program : Py β} {rest : β → Py α} (plain : Plain program)
    (known : ∀ value, Obeys callerRules (rest value) post raised held)
    (fails : ∀ error, raised error held) :
    Obeys callerRules (program >>= rest) post raised held := by
  rw [obeys_bind]
  exact caller_plain plain known fails

theorem caller_op {op : Op} {rest : op.Res → Py α} (allowed : callerRules.allowed held op)
    (known : ∀ result, Obeys callerRules (rest result) post raised
      (callerRules.after held op result)) :
    Obeys callerRules (perform op >>= rest) post raised held :=
  ⟨allowed, fun result _ => known result⟩

theorem joinThread_obeys {worker : Nat} {rest : Unit → Py α}
    (allowed : callerRules.allowed held (.joinThread worker))
    (known : Obeys callerRules (rest ()) post raised held) (fails : ∀ error, raised error held) :
    Obeys callerRules (raising (perform (.joinThread worker)) >>= rest) post raised held := by
  refine ⟨allowed, fun result _ => ?_⟩
  cases result with
  | ok value => exact known
  | error error => exact fails error

structure Quieted (held : Held) : Prop extends Inside held where
  stopped : held.stopped = true

theorem setStopEvent_obeys (rest : Unit → Py α) (state : held.state = true) (io : held.io = false)
    (known : ∀ after, Quieted after → Obeys callerRules (rest ()) post raised after) :
    Obeys callerRules (perform .getStopEvent >>= fun event => perform (.setEvent event) >>= rest)
      post raised held := by
  refine caller_op state fun event => caller_op state fun _ => known _ ?_
  have same : callerRules.after { held with event := some event } (.setEvent event) () =
      { held with event := some event, closing := false, stopped := true } := if_pos rfl
  exact same ▸ ⟨⟨state, io, rfl⟩, rfl⟩

theorem stopRenew_obeys (inside : Inside held) :
    Obeys callerRules stopRenew (fun _ => Inside) (fun _ => Inside) held := by
  refine caller_skip (plain_perform rfl) (fun thread => ?_) fun _ => inside
  cases thread with
  | none => exact inside
  | some thread =>
      refine setStopEvent_obeys _ inside.state inside.io fun after quieted => ?_
      have kept : Inside after := quieted.toInside
      refine joinThread_obeys ⟨kept.state, kept.io, quieted.stopped⟩ ?_ fun _ => kept
      exact caller_plain (plain_perform rfl) (fun _ => kept) fun _ => kept

theorem withIoLock_obeys {body : Py α} (plain : Plain body) (inside : Inside held)
    (ends : ∀ value, post value held) (fails : ∀ error, raised error held) :
    Obeys callerRules (withIoLock body) post raised held := by
  have back : callerRules.after { held with io := true } .unlockIo () = held := by
    obtain ⟨state, io, event, closing, stopped, reopened, made, begun, ended⟩ := held
    cases inside.io
    rfl
  refine caller_op ⟨inside.state, inside.io⟩ fun _ => ?_
  rw [obeys_ensure]
  refine caller_plain plain (fun value => ⟨⟨inside.state, rfl⟩, fun _ _ => ?_⟩) fun error =>
    ⟨⟨inside.state, rfl⟩, fun _ _ => ?_⟩
  · exact back ▸ ends value
  · exact back ▸ fails error

theorem shutdownAndCloseConn_obeys {post : Unit → Held → Prop} (inside : Inside held)
    (ends : ∀ value, post value held)
    (fails : ∀ error, raised error held) :
    Obeys callerRules shutdownAndCloseConn post raised held := by
  refine caller_skip (plain_perform rfl) (fun conn => ?_) fails
  cases conn with
  | none => exact ends ()
  | some conn =>
      refine caller_skip (plain_perform rfl) (fun _ => ?_) fails
      rw [obeys_bind]
      refine withIoLock_obeys (plain_perform rfl) inside (fun _ => ?_) fails
      exact caller_plain (plain_perform rfl) ends fails

theorem joinRenewThread_obeys {post : Unit → Held → Prop} (quieted : Quieted held)
    (ends : ∀ value, post value held)
    (fails : ∀ error, raised error held) :
    Obeys callerRules joinRenewThread post raised held := by
  refine caller_skip (plain_perform rfl) (fun thread => ?_) fails
  cases thread with
  | none => exact caller_plain (plain_perform rfl) ends fails
  | some thread =>
      refine joinThread_obeys ⟨quieted.state, quieted.io, quieted.stopped⟩ ?_ fails
      exact caller_plain (plain_perform rfl) ends fails

theorem beginClose_obeys (state : held.state = true) (io : held.io = false) :
    Obeys callerRules beginClose (fun _ => Quieted) (fun _ => Inside) held := by
  refine caller_op state fun _ => ?_
  exact setStopEvent_obeys pure state io fun after quieted => quieted

theorem tearDownConnAndThread_obeys (quieted : Quieted held) :
    Obeys callerRules tearDownConnAndThread (fun _ => Quieted) (fun _ => Inside) held := by
  have kept : Inside held := quieted.toInside
  rw [tearDownConnAndThread, obeys_bind]
  refine shutdownAndCloseConn_obeys kept (fun _ => ?_) fun _ => kept
  rw [obeys_bind]
  refine joinRenewThread_obeys quieted (fun _ => ?_) fun _ => kept
  exact caller_plain clearHeldState_plain (fun _ => quieted) fun _ => kept

theorem closeUnlocked_obeys (inside : Inside held) :
    Obeys callerRules closeUnlocked (fun _ => Quieted) (fun _ => Inside) held := by
  refine caller_op inside.state fun closed => ?_
  cases closed with
  | true =>
      refine ⟨⟨inside.state, inside.io, inside.closing⟩, ?_⟩
      simp [callerRules, inside.closing]
  | false =>
      rw [if_neg Bool.false_ne_true, obeys_bind]
      refine Obeys.mono (beginClose_obeys ?_ ?_)
        (fun _ after quieted => tearDownConnAndThread_obeys quieted) fun _ _ => id
      · exact inside.state
      · exact inside.io

theorem closeThen_obeys {value : α} (inside : Inside held) :
    Obeys callerRules (closeUnlocked >>= fun _ => pure value) (fun _ => Inside) (fun _ => Inside)
      held := by
  rw [obeys_bind]
  exact (closeUnlocked_obeys inside).mono (fun _ after quieted => quieted.toInside) fun _ _ => id

theorem resetForNewAttempt_obeys (inside : Inside held) :
    Obeys callerRules resetForNewAttempt (fun _ => Inside) (fun _ => Inside) held := by
  rw [resetForNewAttempt, obeys_bind]
  refine (stopRenew_obeys inside).mono (fun _ after inside => ?_) fun _ _ => id
  rw [obeys_bind]
  refine (closeUnlocked_obeys inside).mono (fun _ after quieted => ?_) fun _ _ => id
  refine caller_op quieted.state fun _ => ?_
  refine ⟨⟨quieted.state, quieted.stopped, rfl⟩, fun _ _ => ?_⟩
  exact ⟨quieted.state, quieted.io, rfl⟩

theorem openAndAuthenticate_plain : Plain (openAndAuthenticate params) := by
  refine .bind .orRaise fun endpoint => ?_
  refine .bind (plain_raising (plain_perform rfl)) fun conn => .bind ?_ fun conn =>
    plain_perform rfl
  unfold maybeAuthenticate
  split
  · exact .ret
  · exact .handle (.bind exchange_plain fun _ => .ret) fun error =>
      .bind (plain_perform rfl) fun _ => .raise

theorem startRenew_obeys (inside : Inside held) :
    Obeys callerRules startRenew (fun _ => Inside) (fun _ => Inside) held := by
  refine caller_op inside.state fun event => caller_op ⟨inside.state, rfl⟩ fun worker => ?_
  refine caller_skip (plain_perform rfl) (fun _ => ?_) fun _ =>
    ⟨inside.state, inside.io, inside.closing⟩
  refine ⟨⟨inside.state, rfl⟩, fun result _ => ?_⟩
  cases result with
  | ok _ => exact ⟨inside.state, inside.io, inside.closing⟩
  | error _ => exact ⟨inside.state, inside.io, inside.closing⟩

theorem requireConn_plain {message : Str} : Plain (requireConn message) := by
  refine .bind (plain_perform rfl) fun conn => ?_
  split
  · exact .raise
  · exact plain_perform rfl

theorem storeGrant_plain {grant : Str × Int} : Plain (storeGrant grant) :=
  .bind (plain_perform rfl) fun _ => plain_perform rfl

theorem grantOrClose_obeys {exchange : Py (Str × Int)} (plain : Plain exchange)
    (inside : Inside held) :
    Obeys callerRules (grantOrClose exchange storeGrant) (fun _ => Inside) (fun _ => Inside)
      held := by
  rw [grantOrClose, obeys_handle]
  refine caller_plain (.bind plain fun _ => .bind storeGrant_plain fun _ => .ret)
    (fun _ => inside) fun error => ?_
  rw [obeys_bind]
  refine (closeUnlocked_obeys inside).mono (fun _ after quieted => ?_) fun _ _ => id
  split
  · exact quieted.toInside
  · exact quieted.toInside

theorem granted_obeys {exchange : Py (Str × Int)} (plain : Plain exchange)
    (inside : Inside held) :
    Obeys callerRules (do
      let granted ← grantOrClose exchange storeGrant
      if granted.isNone then pure (CallValue.bool false)
      else do
        startRenew
        pure (CallValue.bool true)) (fun _ => Inside) (fun _ => Inside) held := by
  rw [obeys_bind]
  refine (grantOrClose_obeys plain inside).mono (fun granted after inside => ?_) fun _ _ => id
  split
  · exact inside
  · rw [obeys_bind]
    exact startRenew_obeys inside

theorem handleEnqueueStatus_obeys {status : EnqueueStatus} (inside : Inside held) :
    Obeys callerRules (handleEnqueueStatus status) (fun _ => Inside) (fun _ => Inside) held := by
  cases status with
  | acquired token lease =>
      refine caller_skip storeGrant_plain (fun _ => ?_) fun _ => inside
      rw [obeys_bind]
      exact startRenew_obeys inside
  | queued => exact inside

theorem invokeEnqueue_obeys (inside : Inside held) :
    Obeys callerRules (invokeEnqueue params) (fun _ => Inside) (fun _ => Inside) held := by
  rw [invokeEnqueue, obeys_bind, obeys_handle]
  refine caller_plain (.bind requireConn_plain fun _ => exchange_plain)
    (fun _ => handleEnqueueStatus_obeys inside) fun error => ?_
  rw [obeys_bind]
  exact (closeUnlocked_obeys inside).mono (fun _ after quieted => quieted.toInside) fun _ _ => id

theorem attempt_obeys {program : Py CallValue} (inside : Inside held)
    (invoke : ∀ held, Inside held →
      Obeys callerRules program (fun _ => Inside) (fun _ => Inside) held) :
    Obeys callerRules (do
      resetForNewAttempt
      openAndAuthenticate params
      program) (fun _ => Inside) (fun _ => Inside) held := by
  rw [obeys_bind]
  refine (resetForNewAttempt_obeys inside).mono (fun _ after inside => ?_) fun _ _ => id
  exact caller_skip openAndAuthenticate_plain (fun _ => invoke after inside) fun _ => inside

theorem sendReleaseQuietly_plain : Plain (sendReleaseQuietly params) := by
  refine .bind (plain_perform rfl) fun conn => ?_
  split
  · exact .ret
  · refine .bind (plain_perform rfl) fun token => ?_
    split
    · exact .ret
    · refine .bind (plain_perform rfl) fun conn => .bind (plain_perform rfl) fun token => ?_
      refine .handle ?_ fun error => ?_
      · cases token with
        | none => exact .raise
        | some token => exact .bind exchange_plain fun _ => .ret
      · split
        · exact .ret
        · exact .raise

theorem body_obeys (call : Call) (inside : Inside held) :
    Obeys callerRules (call.body params) (fun _ => Inside) (fun _ => Inside) held := by
  cases call with
  | acquire =>
      exact attempt_obeys inside fun held inside =>
        granted_obeys (.bind requireConn_plain fun _ => exchange_plain) inside
  | enqueue => exact attempt_obeys inside fun held inside => invokeEnqueue_obeys inside
  | wait timeoutS =>
      refine caller_skip (plain_perform rfl) (fun token => ?_) fun _ => inside
      split
      · exact inside
      · exact caller_skip requireConn_plain (fun conn => granted_obeys exchange_plain inside)
          fun _ => inside
  | release =>
      change Obeys callerRules (releaseUnlocked params) _ _ held
      rw [releaseUnlocked, obeys_bind]
      refine (stopRenew_obeys inside).mono (fun _ after inside => ?_) fun _ _ => id
      rw [obeys_bind]
      refine withIoLock_obeys sendReleaseQuietly_plain inside (fun released => ?_) fun _ => inside
      exact closeThen_obeys inside
  | close => exact closeThen_obeys inside

theorem program_obeys (call : Call) :
    Obeys callerRules (call.program params) (fun _ after => after = {}) (fun _ after => after = {})
      {} := by
  have inside : Inside (callerRules.after {} .lockState ()) := ⟨rfl, rfl, rfl⟩
  refine caller_op rfl fun _ => ?_
  rw [obeys_bind, obeys_handle]
  refine (body_obeys call inside).mono (fun value after inside => ?_) fun error after inside => ?_
  · exact ⟨⟨inside.state, inside.io, inside.closing⟩, fun _ _ => rfl⟩
  · exact ⟨⟨inside.state, inside.io, inside.closing⟩, fun _ _ => rfl⟩

end Callers

section Workers

variable {params : Params} {α : Type} {post : α → Held → Prop} {raised : PyError → Held → Prop}
  {held : Held}

theorem worker_op {op : Op} {rest : op.Res → Py α} (allowed : workerRules.allowed held op)
    (known : ∀ result, Obeys workerRules (rest result) post raised
      (workerRules.after held op result)) :
    Obeys workerRules (perform op >>= rest) post raised held :=
  ⟨allowed, fun result _ => known result⟩

theorem worker_command {conn : Nat} {request : Request} {post : Str → Held → Prop}
    (ends : ∀ line, post line held)
    (fails : ∀ error, error.isException = true → raised error held) :
    Obeys workerRules (command (some conn) request) post raised held := by
  have closes (error : PyError) (ordinary : error.isException = true) :
      Obeys workerRules (perform (.closeConn conn) >>= fun _ => throw error) post raised held :=
    worker_op trivial fun _ => fails error ordinary
  unfold command
  rw [obeys_bind, obeys_discard, obeys_orRaise]
  cases encoded : encodeLines [request.cmd, request.key, request.arg] with
  | error error => exact fails error (ordinary_encodeLines _ error encoded)
  | ok frame =>
      rw [obeys_handle]
      refine ⟨trivial, fun sent ordinary => ?_⟩
      cases sent with
      | error error => exact closes error (ordinary error rfl)
      | ok _ =>
          refine ⟨trivial, fun line ordinary => ?_⟩
          cases line with
          | error error => exact closes error (ordinary error rfl)
          | ok line => exact ends line

theorem protoRenew_obeys {conn : Nat} {token : Str} {post : Int → Held → Prop}
    (ends : ∀ remaining, post remaining held)
    (fails : ∀ error, error.isException = true → raised error held) :
    Obeys workerRules (protoRenew params (some conn) token) post raised held := by
  rw [protoRenew, exchange, obeys_bind, obeys_orRaise]
  cases built : params.renewRequest token with
  | error error => exact fails error (ordinary_renewRequest _ _ _ _ _ error built)
  | ok request =>
      change Obeys workerRules (_ >>= _) post raised held
      rw [obeys_bind]
      refine worker_command (fun line => ?_) fails
      rw [obeys_orRaise]
      cases parsed : parseRenewResponse line (opLabel params.pre (str "renew")) with
      | error error => exact fails error (ordinary_parseRenewResponse _ _ error parsed)
      | ok remaining => exact ends remaining

theorem handleRenewFailure_obeys {conn event : Nat} {post : Unit → Held → Prop}
    (ends : ∀ value, post value held) :
    Obeys workerRules (handleRenewFailure conn event) post (fun _ _ => False) held := by
  have drops : Obeys workerRules (do
      if (← perform .getConn) = some conn then do
        perform (.setConn none)
        clearHeldState
        perform (.closeConn conn)
      else pure ()) post (fun _ _ => False) held := by
    refine worker_op trivial fun installed => ?_
    split
    · refine worker_op trivial fun _ => worker_op trivial fun _ => worker_op trivial fun _ => ?_
      exact ⟨trivial, fun value _ => ends value⟩
    · exact ends ()
  rw [handleRenewFailure, obeys_bind, logRenewFailure]
  refine worker_op trivial fun closed => ?_
  split
  · exact drops
  · refine worker_op trivial fun set => ?_
    split
    · exact drops
    · exact worker_op trivial fun _ => drops

theorem safeRenewOnce_obeys {event : Nat} {post : Option Int → Held → Prop}
    (ends : ∀ renewed, post renewed held) :
    Obeys workerRules (safeRenewOnce params event) post (fun _ _ => False) held := by
  refine worker_op trivial fun conn => worker_op trivial fun token => ?_
  cases conn with
  | none => exact ends none
  | some conn =>
      cases token with
      | none => exact ends none
      | some token =>
          change Obeys workerRules (Program.handle _ _) post _ held
          rw [obeys_handle, obeys_bind]
          refine protoRenew_obeys (fun remaining => ends _) fun error ordinary => ?_
          rw [if_pos ordinary, obeys_bind]
          exact handleRenewFailure_obeys fun _ => ends none

theorem renewTick_obeys {event : Nat} {post : Option Int → Held → Prop} (free : held.io = false)
    (ends : ∀ renewed, post renewed held) :
    Obeys workerRules (renewTick params event) post (fun _ _ => False) held := by
  have back : workerRules.after { held with io := true } .unlockIo () = held := by
    obtain ⟨state, io, lastEvent, closing, stopped, reopened, made, begun, ended⟩ := held
    cases free
    rfl
  have unlocks (renewed : Option Int) : Obeys workerRules (perform .unlockIo)
      (fun _ => post renewed) (fun _ _ => False) { held with io := true } :=
    ⟨rfl, fun _ _ => back ▸ ends renewed⟩
  refine worker_op free fun _ => ?_
  rw [obeys_ensure]
  refine worker_op trivial fun closed => ?_
  split
  · exact unlocks none
  · refine worker_op trivial fun set => ?_
    split
    · exact unlocks none
    · exact (safeRenewOnce_obeys unlocks).mono (fun _ _ => id) fun _ _ => False.elim

theorem updateLease_obeys {remaining : Int} {post : Unit → Held → Prop}
    (ends : ∀ value, post value held) :
    Obeys workerRules (updateLease remaining) post raised held := by
  unfold updateLease
  split
  · refine worker_op trivial fun token => ?_
    split
    · refine worker_op trivial fun closed => ?_
      split
      · exact ends ()
      · exact ⟨trivial, fun value _ => ends value⟩
    · exact ends ()
  · exact ends ()

theorem renewLoop_obeys {me : Nat} :
    KeepsTo rules Left (.worker me) (renewLoop params) {} :=
  worker_op rfl fun _ => worker_op trivial fun _ => rfl

theorem renewRound_obeys {me event : Nat} {interval : Rat} :
    KeepsTo rules Left (.worker me) (renewRound params event interval) { begun := some event } := by
  have finish : Obeys workerRules (perform .endThread >>= fun _ => pure WorkerState.done)
      (fun value => Left (.worker me) (.ok value)) (fun error => Left (.worker me) (.error error))
      { begun := some event } :=
    worker_op rfl fun _ => ⟨rfl, rfl⟩
  refine worker_op trivial fun set => ?_
  split
  · exact finish
  · rw [obeys_bind]
    refine (renewTick_obeys rfl fun renewed => ?_).mono (fun _ _ => id) fun _ _ => False.elim
    cases renewed with
    | none => exact finish
    | some remaining =>
        refine worker_op trivial fun set => ?_
        split
        · exact finish
        · rw [obeys_bind]
          exact updateLease_obeys fun _ => rfl

end Workers

end DflockdClient.Sync.Locks
