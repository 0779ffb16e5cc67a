import DflockdClient.CancelAndWait
import DflockdClient.SyncCore

/-!
`_AsyncBase` of `_async.py`, statement by statement. Coroutines switch only at an
await, so that exactly the operations that wait give way to the other tasks. The
connection's own mutex is left out, as in the model of `_sync.py`.
-/

namespace DflockdClient.Async

open Interleaving
open Sync (Call CallValue Event)

inductive Thread
  | caller (id : Nat)
  | worker (id : Nat)
  | other (id : Nat)
  deriving DecidableEq

/-- The attributes of an instance, what asyncio knows of the tasks and connections, and two
auxiliary fields that no program reads: the trace and the connections in some task's hands. -/
structure World where
  conn : Option Nat := none
  token : Option Str := none
  lease : Int := 0
  renewTask : Option Nat := none
  closed : Bool := false
  ioLock : Option Thread := none
  stateLock : Option Thread := none
  workers : Nat := 0
  outcome : Nat → Option (Except PyError Unit) := fun _ => none
  cancelling : Thread → Nat := fun _ => 0
  undelivered : Thread → Bool := fun _ => false
  conns : Nat := 0
  closedConn : Nat → Bool := fun _ => false
  trace : List Event := []
  inHand : Nat → Option Thread := fun _ => none

inductive Op
  | lockState | unlockState | lockIo | unlockIo
  | getConn | setConn (conn : Option Nat)
  | getToken | setToken (token : Option Str)
  | getLease | setLease (lease : Int)
  | getRenewTask | setRenewTask (task : Option Nat)
  | getClosed | setClosed (closed : Bool)
  | createTask | beginTask | endTask (outcome : Except PyError Unit)
  | cancelling | cancelTask (task : Nat) | taskOutcome (task : Nat) | awaitOuter (task : Nat)
  | cancelCaller (id : Nat)
  | dial (host : Str) (port : Int) | closeNowait (conn : Nat) | waitClosed (conn : Nat)
  | write (conn : Nat) (request : Request) | drain (conn : Nat) (cmd : Str)
  | readLine (conn : Nat) (cmd : Str)
  | sleep (interval : Rat)

abbrev Op.Res (op : Op) : Type :=
  match op with
  | .getConn | .getRenewTask => Option Nat
  | .getToken => Option Str
  | .getLease => Int
  | .getClosed | .beginTask => Bool
  | .createTask | .cancelling => Nat
  | .taskOutcome _ => Option (Except PyError Unit)
  | .lockState | .lockIo | .awaitOuter _ | .waitClosed _ | .drain _ _ | .sleep _ =>
      Except PyError Unit
  | .dial _ _ => Except PyError Nat
  | .readLine _ _ => Except PyError Str
  | _ => Unit

def Op.yields (op : Op) : Bool :=
  match op with
  | .lockState | .lockIo | .awaitOuter _ | .waitClosed _ | .drain _ _ | .sleep _ | .dial _ _
  | .readLine _ _ => true
  | _ => false

/-- What the environment decides. A `late` choice is for a caller that was running when the request
to cancel it came. -/
inductive Choice
  | go
  | expire
  | fail (error : PyError)
  | reply (line : Str)
  | call (call : Call)
  | cancel (caller : Nat)
  | late (choice : Choice)
  deriving DecidableEq

instance : Inhabited Choice := ⟨.go⟩

@[simp] def Choice.inner (choice : Choice) : Choice :=
  match choice with
  | .late choice => choice
  | choice => choice

namespace World

def log (world : World) (events : List Event) : World :=
  { world with trace := world.trace ++ events }

/-- Assigning `_conn` takes the old connection into the task's hands and the new one out. -/
def setConn (world : World) (thread : Thread) (conn : Option Nat) : World :=
  { world with
    conn := conn
    inHand := fun c =>
      if conn = some c then none
      else if world.conn = some c then some thread
      else world.inHand c }

def request (world : World) (thread : Thread) : World :=
  { world with
    cancelling := Function.update world.cancelling thread (world.cancelling thread + 1)
    undelivered := Function.update world.undelivered thread true }

def deliver (world : World) (thread : Thread) : World :=
  { world with undelivered := Function.update world.undelivered thread false }

end World

/-- Whether an await tells the task of a request. One that came while the task was suspended is told
as the task wakes up, and so is every one of a renewal task, which only others cancel. But a task
can be asked while it runs, by itself or by a signal handler. Then an await that need not suspend,
such as that of a free lock, leaves the request to a later one. -/
def tells (thread : Thread) (choice : Choice) (world : World) : Bool :=
  match thread, choice with
  | .caller _, .late _ => false
  | _, _ => world.undelivered thread

def suspend {α : Type} (thread : Thread) (choice : Choice) (world : World)
    (resume : Option (Except PyError α × World)) : Option (Except PyError α × World) :=
  if tells thread choice world then some (.error cancelled, world.deliver thread) else resume

def suspendExchange {α : Type} (thread : Thread) (choice : Choice) (conn : Nat) (cmd : Str)
    (world : World) (resume : Option (Except PyError α × World)) :
    Option (Except PyError α × World) :=
  if tells thread choice world then
    some (.error cancelled, (world.deliver thread).log [.noAnswer conn cmd])
  else resume

def exec (thread : Thread) (op : Op) (choice : Choice) (world : World) :
    Option (op.Res × World) :=
  match op with
  | .lockState => suspend thread choice world
      (if world.stateLock = none then some (.ok (), { world with stateLock := some thread })
      else none)
  | .unlockState => some ((), { world with stateLock := none })
  | .lockIo => suspend thread choice world
      (if world.ioLock = none then some (.ok (), { world with ioLock := some thread }) else none)
  | .unlockIo => some ((), { world with ioLock := none })
  | .getConn => some (world.conn, world)
  | .setConn conn => some ((), world.setConn thread conn)
  | .getToken => some (world.token, world)
  | .setToken token => some ((), { world with token := token })
  | .getLease => some (world.lease, world)
  | .setLease lease => some ((), { world with lease := lease })
  | .getRenewTask => some (world.renewTask, world)
  | .setRenewTask task => some ((), { world with renewTask := task })
  | .getClosed => some (world.closed, world)
  | .setClosed closed => some ((), { world with closed := closed })
  | .createTask => some (world.workers, { world with workers := world.workers + 1 })
  | .beginTask =>
      match thread with
      | .worker worker =>
          if worker < world.workers then
            some (world.undelivered thread, world.deliver thread)
          else none
      | _ => none
  | .endTask outcome =>
      match thread with
      | .worker worker =>
          some ((), { world with outcome := Function.update world.outcome worker (some outcome) })
      | _ => none
  | .cancelling => some (world.cancelling thread, world)
  | .cancelTask task =>
      some ((), if (world.outcome task).isNone then world.request (.worker task) else world)
  | .taskOutcome task => some (world.outcome task, world)
  -- Cancelling the caller cancels the outer future of `shield`; the renewal task goes on.
  | .awaitOuter task => suspend thread choice world
      ((world.outcome task).map fun outcome => (outcome, world))
  | .cancelCaller id => some ((), world.request (.caller id))
  | .dial _ _ => suspend thread choice world
      (match choice.inner with
      | .fail error => if error.isException then some (.error error, world) else none
      | _ => some (.ok world.conns, { world with
          conns := world.conns + 1
          inHand := Function.update world.inHand world.conns (some thread) }))
  | .closeNowait conn =>
      some ((), { world with closedConn := Function.update world.closedConn conn true })
  | .waitClosed _ => suspend thread choice world
      (match choice.inner with
      | .fail error => if error.isException then some (.error error, world) else none
      | _ => some (.ok (), world))
  -- A closing transport drops what is written to it, when its send buffer is empty.
  | .write conn request =>
      some ((), if world.closedConn conn then world else world.log [.frame conn request])
  | .drain conn cmd => suspendExchange thread choice conn cmd world
      (match choice.inner with
      | .fail error =>
          if error.isException then some (.error error, world.log [.noAnswer conn cmd]) else none
      | _ => some (.ok (), world))
  | .readLine conn cmd => suspendExchange thread choice conn cmd world
      (match choice.inner with
      | .reply line => some (.ok line, world.log [.answer conn cmd line])
      | .fail error =>
          if error.isException then some (.error error, world.log [.noAnswer conn cmd]) else none
      | _ => none)
  | .sleep _ => suspend thread choice world
      (match choice.inner with
      | .expire => some (.ok (), world)
      | _ => none)

@[simp] theorem tells_worker {worker : Nat} {choice : Choice} {world : World} :
    tells (.worker worker) choice world = world.undelivered (.worker worker) := rfl

@[simp] theorem tells_go {thread : Thread} {world : World} :
    tells thread .go world = world.undelivered thread := by
  cases thread <;> rfl

@[simp] theorem tells_quiet {thread : Thread} {choice : Choice} {world : World}
    (quiet : world.undelivered thread = false) : tells thread choice world = false := by
  unfold tells
  split
  · rfl
  · exact quiet

abbrev Py := Program Op Op.Res PyError

def perform (op : Op) : Py op.Res := Program.perform op

def raising {α : Type} (program : Py (Except PyError α)) : Py α := program >>= Program.orRaise

def withIoLock {α : Type} (body : Py α) : Py α := do
  raising (perform .lockIo)
  body.ensure (perform .unlockIo)

def command (conn : Nat) (request : Request) : Py Str := do
  discard (Program.orRaise (encodeLines [request.cmd, request.key, request.arg]))
  perform (.write conn request)
  Program.handle
    (do
      raising (perform (.drain conn request.cmd))
      raising (perform (.readLine conn request.cmd)))
    fun error => do
      perform (.closeNowait conn)
      throw error

def closeConn (conn : Nat) : Py Unit := do
  perform (.closeNowait conn)
  (raising (perform (.waitClosed conn))).handle fun error =>
    if error.isException then pure () else throw error

def exchange {α : Type} (conn : Nat) (request : Except PyError Request)
    (parse : Str → Except PyError α) : Py α := do
  let request ← Program.orRaise request
  let resp ← command conn request
  Program.orRaise (parse resp)

variable (params : Params)

def authenticate (conn : Nat) (authToken : Str) : Py Unit :=
  exchange conn (authenticateRequest authToken) parseAuthResponse

def protoAcquire (conn : Nat) : Py (Str × Int) :=
  exchange conn params.acquireRequest (parseGrantResponse · (opLabel params.pre (str "acquire")))

def protoRelease (conn : Nat) (token : Str) : Py Unit :=
  exchange conn (params.releaseRequest token)
    (parseReleaseResponse · (opLabel params.pre (str "release")))

def protoRenew (conn : Nat) (token : Str) : Py Int :=
  exchange conn (params.renewRequest token)
    (parseRenewResponse · (opLabel params.pre (str "renew")))

def protoEnqueue (conn : Nat) : Py EnqueueStatus :=
  exchange conn params.enqueueRequest (parseEnqueueResponse · (opLabel params.pre (str "enqueue")))

def protoWait (conn : Nat) (timeoutS : Value) : Py (Str × Int) :=
  exchange conn (params.waitRequest timeoutS)
    (parseGrantResponse · (opLabel params.pre (str "wait")))

/-! Renew task -/

def startRenew : Py Unit := do
  let task ← perform .createTask
  perform (.setRenewTask (some task))

/-- `await asyncio.shield(task)`, which does not suspend for a finished task. -/
def shield (task : Nat) : Py Unit := do
  match ← perform (.taskOutcome task) with
  | some outcome => Program.orRaise outcome
  | none => raising (perform (.awaitOuter task))

-- A caller is never the renewal task. `_cancel_renew_locked` has the same body.
def cancelRenew : Py Unit := do
  let task ← perform .getRenewTask
  perform (.setRenewTask none)
  match task with
  | none => pure ()
  | some task => cancelAndWait (perform .cancelling) (perform (.cancelTask task)) (shield task)

def clearHeldState : Py Unit := do
  perform (.setToken none)
  perform (.setLease 0)

def logRenewFailure : Py Unit := do
  if ← perform .getClosed then pure ()
  else discard (perform .getToken)

def handleRenewFailure (conn : Nat) : Py Unit := do
  if ← perform .getClosed then pure ()
  else do
    logRenewFailure
    if (← perform .getConn) = some conn then do
      perform (.setConn none)
      clearHeldState
      perform (.closeNowait conn)
    else pure ()

def safeRenewOnce : Py (Option Int) := do
  let conn ← perform .getConn
  let token ← perform .getToken
  match conn, token with
  | some conn, some token =>
      Program.handle
        (do
          let remaining ← protoRenew params conn token
          pure (some remaining))
        fun error =>
          if error.isException then do
            handleRenewFailure conn
            pure none
          else throw error
  | _, _ => pure none

def renewTick : Py (Option Int) :=
  withIoLock do
    if ← perform .getClosed then pure none
    else safeRenewOnce params

def updateLease (remaining : Int) : Py Unit :=
  if remaining > 0 then do
    if (← perform .getToken).isSome then do
      if ← perform .getClosed then pure ()
      else perform (.setLease remaining)
    else pure ()
  else pure ()

inductive WorkerState
  | fresh
  | sleeping (interval : Rat)
  | done
  deriving DecidableEq

/-- A task that is cancelled before its first step never runs. -/
def renewLoop : Py WorkerState := do
  if ← perform .beginTask then do
    perform (.endTask (.error cancelled))
    pure .done
  else do
    let lease ← perform .getLease
    pure (.sleeping (renewInterval lease params.renewRatio))

def renewLoopBody (interval : Rat) : Py WorkerState := do
  raising (perform (.sleep interval))
  match ← renewTick params with
  | none => pure .done
  | some remaining => do
      updateLease remaining
      pure (.sleeping (renewInterval remaining params.renewRatio))

def renewRound (interval : Rat) : Py WorkerState := do
  let state ← (renewLoopBody params interval).handle fun error =>
    if error.cls = .cancelledError then pure .done
    else do
      perform (.endTask (.error error))
      throw error
  if state = .done then perform (.endTask (.ok ())) else pure ()
  pure state

def detachConn : Py (Option Nat) := do
  let conn ← perform .getConn
  perform (.setConn none)
  clearHeldState
  pure conn

def closeUnlocked : Py Unit := do
  if (← perform .getClosed) && (← perform .getConn).isNone && (← perform .getRenewTask).isNone then
    clearHeldState
  else do
    perform (.setClosed true)
    match ← detachConn with
    | none => cancelRenew
    | some conn => do
        perform (.closeNowait conn)
        cancelRenew
        closeConn conn

def resetForNewAttempt : Py Unit := do
  cancelRenew
  closeUnlocked
  perform (.setClosed false)

def maybeAuthenticate (conn : Nat) (authToken : Option Str) : Py Nat :=
  match authToken with
  | none => pure conn
  | some authToken =>
      Program.handle
        (do
          authenticate conn authToken
          pure conn)
        fun error => do
          closeConn conn
          throw error

def openAndAuthenticate : Py Unit := do
  let (host, port) ← Program.orRaise params.endpoint
  let conn ← raising (perform (.dial host port))
  let conn ← maybeAuthenticate conn params.authToken
  perform (.setConn (some conn))

/-- `_require_conn` and `_require_conn_for_wait`. -/
def requireConn (message : Str) : Py Nat := do
  match ← perform .getConn with
  | none => throw (Sync.notConnected message)
  | some conn => pure conn

/-! The operations -/

/-- The `except` clauses around the exchanges of `acquire` and `wait`. -/
def grantOrClose (exchange : Py (Str × Int)) (granted : Str × Int → Py Unit) :
    Py (Option (Str × Int)) :=
  Program.handle
    (do
      let grant ← exchange
      granted grant
      pure (some grant))
    fun error => do
      closeUnlocked
      if error.isTimeout then pure none else throw error

def storeGrant (grant : Str × Int) : Py Unit := do
  perform (.setToken (some grant.1))
  perform (.setLease grant.2)

def invokeAcquire : Py CallValue := do
  let granted ← grantOrClose
    (do
      let conn ← requireConn (str "not connected")
      protoAcquire params conn) storeGrant
  if granted.isNone then pure (.bool false)
  else do
    startRenew
    pure (.bool true)

def acquireUnlocked : Py CallValue := do
  resetForNewAttempt
  openAndAuthenticate params
  invokeAcquire params

def handleEnqueueStatus (status : EnqueueStatus) : Py CallValue :=
  match status with
  | .acquired token lease => do
      storeGrant (token, lease)
      startRenew
      pure (.status true)
  | .queued => pure (.status false)

def invokeEnqueue : Py CallValue := do
  let status ← Program.handle
    (do
      let conn ← requireConn (str "not connected")
      protoEnqueue params conn)
    fun error => do
      closeUnlocked
      throw error
  handleEnqueueStatus status

def enqueueUnlocked : Py CallValue := do
  resetForNewAttempt
  openAndAuthenticate params
  invokeEnqueue params

def invokeWait (timeoutS : Value) : Py CallValue := do
  let conn ← requireConn (str "not connected; call enqueue() first")
  let granted ← grantOrClose (protoWait params conn timeoutS) storeGrant
  if granted.isNone then pure (.bool false)
  else do
    startRenew
    pure (.bool true)

def waitUnlocked (timeoutS : Option Value) : Py CallValue := do
  if (← perform .getToken).isSome then pure (.bool true)
  else invokeWait params (timeoutS.getD params.acquireTimeoutS)

def safeRelease (conn : Nat) (token : Str) : Py Bool :=
  Program.handle
    (do
      protoRelease params conn token
      pure true)
    fun error => if error.isException then pure false else throw error

def sendReleaseQuietly : Py Bool := do
  let conn ← perform .getConn
  let token ← perform .getToken
  match conn, token with
  | some conn, some token => safeRelease params conn token
  | _, _ => pure false

def releaseUnlocked : Py CallValue :=
  Program.ensure
    (do
      let released ← withIoLock do
        cancelRenew
        sendReleaseQuietly params
      pure (.bool released))
    closeUnlocked

def closeCall : Py CallValue := do
  closeUnlocked
  pure .none

/-- The operations of `_AsyncBase`; `close` stands for `aclose`. -/
def body (call : Call) : Py CallValue :=
  match call with
  | .acquire => acquireUnlocked params
  | .enqueue => enqueueUnlocked params
  | .wait timeoutS => waitUnlocked params timeoutS
  | .release => releaseUnlocked params
  | .close => closeCall

/-- `async with self._state_lock: return await self._..._unlocked()`. -/
def program (call : Call) : Py CallValue := do
  raising (perform .lockState)
  (body params call).ensure (perform .unlockState)

abbrev Val (thread : Thread) : Type :=
  match thread with
  | .caller _ => CallValue
  | .worker _ => WorkerState
  | .other _ => Unit

def start (thread : Thread) (outcome : Except PyError (Val thread)) (choice : Choice) :
    Option (Py (Val thread)) :=
  match thread with
  | .caller _ =>
      match choice with
      | .call call => some (program params call)
      | _ => none
  | .worker _ =>
      match outcome with
      | .ok .fresh => some (renewLoop params)
      | .ok (.sleeping interval) => some (renewRound params interval)
      | _ => none
  | .other _ =>
      match choice with
      | .cancel id => some (perform (.cancelCaller id))
      | _ => none

def machine : Machine Op Op.Res PyError Thread Val World Choice where
  exec := exec
  yields := Op.yields
  start := start params

def initialProgram (thread : Thread) : Py (Val thread) :=
  match thread with
  | .caller _ => .ret CallValue.none
  | .worker _ => .ret WorkerState.fresh
  | .other _ => .ret ()

def initial : Config Op Op.Res PyError Thread Val World where
  shared := {}
  program := initialProgram

end DflockdClient.Async
