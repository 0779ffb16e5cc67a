import DflockdClient.Interleaving.Machine
import DflockdClient.Commands

/-!
`_SyncBase` of `_sync.py`, statement by statement. Every read or write of an
attribute, every lock, thread and socket call is one operation, so that threads
may switch between any two of them. The connection's own mutex is left out: it
only removes interleavings.
-/

namespace DflockdClient.Sync

open Interleaving

inductive Thread
  | caller (id : Nat)
  | worker (id : Nat)
  deriving DecidableEq

inductive Call
  | acquire
  | enqueue
  | wait (timeoutS : Option Value)
  | release
  | close
  deriving DecidableEq

/-- What is written and read on the connections, in order. `noAnswer` ends an exchange by an
exception. -/
inductive Event
  | frame (conn : Nat) (request : Request)
  | answer (conn : Nat) (cmd line : Str)
  | noAnswer (conn : Nat) (cmd : Str)
  deriving DecidableEq

/-- The attributes of an instance, the threads, stop events and connections they refer to, and
four auxiliary fields that no program reads: the trace, the thread past the stop check of its
renew tick, the connections in some thread's hands, and the last attempt that has installed a
connection. Stop events are numbered by attempt. -/
structure World where
  conn : Option Nat := none
  token : Option Str := none
  lease : Int := 0
  renewThread : Option Nat := none
  stopEvent : Nat := 0
  closed : Bool := false
  ioLock : Option Thread := none
  stateLock : Option Thread := none
  eventSet : Nat → Bool := fun _ => false
  workers : Nat := 0
  workerEvent : Nat → Nat := fun _ => 0
  started : Nat → Bool := fun _ => false
  alive : Nat → Bool := fun _ => false
  conns : Nat := 0
  closedConn : Nat → Bool := fun _ => false
  trace : List Event := []
  armed : Option Thread := none
  inHand : Nat → Option Thread := fun _ => none
  installed : Nat := 0
  lastReturn : Option Call := none

inductive Op
  | lockState | unlockState (returned : Option Call) | lockIo | unlockIo
  | getConn | setConn (conn : Option Nat)
  | getToken | setToken (token : Option Str)
  | getLease | setLease (lease : Int)
  | getRenewThread | setRenewThread (worker : Option Nat)
  | getStopEvent | newStopEvent
  | getClosed | setClosed (closed : Bool)
  | setEvent (event : Nat) | isSet (event : Nat) | waitEvent (event : Nat) (interval : Rat)
  | newThread (event : Nat) | startThread (worker : Nat) | joinThread (worker : Nat)
  | beginThread | endThread
  | dial (host : Str) (port : Int) | shutdownRead (conn : Nat) | closeConn (conn : Nat)
  | send (conn : Nat) (request : Request) | recv (conn : Nat) (cmd : Str)

abbrev Op.Res (op : Op) : Type :=
  match op with
  | .getConn | .getRenewThread => Option Nat
  | .getToken => Option Str
  | .getLease => Int
  | .getStopEvent | .newThread _ | .beginThread => Nat
  | .getClosed | .isSet _ | .waitEvent _ _ => Bool
  | .startThread _ | .joinThread _ | .send _ _ => Except PyError Unit
  | .dial _ _ => Except PyError Nat
  | .recv _ _ => Except PyError Str
  | _ => Unit

/-- What the environment decides. `broken` is an exception after part of a frame was written. -/
inductive Choice
  | go
  | expire
  | fail (error : PyError)
  | broken (error : PyError)
  | reply (line : Str)
  | call (call : Call)
  deriving DecidableEq

instance : Inhabited Choice := ⟨.go⟩

/-- Which faults a run may have beyond ordinary exceptions of the network: joins that give up on
a live thread, `Thread.start` failing, and `KeyboardInterrupt` in a caller that dials or is in an
exchange of a kind. -/
structure Faults where
  joinGivesUp : Bool := false
  startFails : Bool := false
  interrupts : Option CommandKind → Bool := fun _ => false

def Faults.raises (faults : Faults) (thread : Thread) (kind : Option CommandKind)
    (error : PyError) : Bool :=
  error.isException || (faults.interrupts kind && match thread with
    | .caller _ => true
    | .worker _ => false)

namespace World

def log (world : World) (events : List Event) : World :=
  { world with trace := world.trace ++ events }

/-- Assigning `_conn` takes the old connection into the thread's hands and the new one out. -/
def setConn (world : World) (thread : Thread) (conn : Option Nat) : World :=
  { world with
    conn := conn
    inHand := fun c =>
      if conn = some c then none
      else if world.conn = some c then some thread
      else world.inHand c
    installed := if conn.isSome then world.stopEvent else world.installed }

end World

variable (faults : Faults)

def exec (thread : Thread) (op : Op) (choice : Choice) (world : World) :
    Option (op.Res × World) :=
  match op with
  | .lockState =>
      if world.stateLock = none then
        some ((), { world with stateLock := some thread, lastReturn := none })
      else none
  | .unlockState returned => some ((), { world with stateLock := none, lastReturn := returned })
  | .lockIo => if world.ioLock = none then some ((), { world with ioLock := some thread }) else none
  | .unlockIo => some ((), { world with ioLock := none, armed := none })
  | .getConn => some (world.conn, world)
  | .setConn conn => some ((), world.setConn thread conn)
  | .getToken => some (world.token, world)
  | .setToken token => some ((), { world with token := token })
  | .getLease => some (world.lease, world)
  | .setLease lease => some ((), { world with lease := lease })
  | .getRenewThread => some (world.renewThread, world)
  | .setRenewThread worker => some ((), { world with renewThread := worker })
  | .getStopEvent => some (world.stopEvent, world)
  | .newStopEvent => some ((), { world with stopEvent := world.stopEvent + 1 })
  | .getClosed => some (world.closed, world)
  | .setClosed closed => some ((), { world with closed := closed })
  | .setEvent event =>
      some ((), { world with eventSet := Function.update world.eventSet event true })
  | .isSet event =>
      if world.eventSet event then some (true, world)
      else some (false, { world with
        armed := if world.ioLock = some thread then some thread else world.armed })
  | .waitEvent event _ =>
      match choice with
      | .expire => some (false, world)
      | _ => if world.eventSet event then some (true, world) else none
  | .newThread event =>
      some (world.workers, { world with
        workers := world.workers + 1
        workerEvent := Function.update world.workerEvent world.workers event })
  | .startThread worker =>
      match choice with
      | .fail error =>
          if faults.startFails && error.cls == .runtimeError then some (.error error, world)
          else none
      | _ => some (.ok (), { world with
          started := Function.update world.started worker true
          alive := Function.update world.alive worker true })
  | .joinThread worker =>
      if !world.started worker then
        some (.error (runtimeError [.text (str "cannot join thread before it is started")]), world)
      else match choice with
        | .expire => if faults.joinGivesUp then some (.ok (), world) else none
        | _ => if world.alive worker then none else some (.ok (), world)
  | .beginThread =>
      match thread with
      | .worker worker =>
          if world.started worker then some (world.workerEvent worker, world) else none
      | .caller _ => none
  | .endThread =>
      match thread with
      | .worker worker => some ((), { world with alive := Function.update world.alive worker false })
      | .caller _ => none
  | .dial _ _ =>
      match choice with
      | .fail error => if faults.raises thread none error then some (.error error, world) else none
      | _ => some (.ok world.conns, { world with
          conns := world.conns + 1
          inHand := Function.update world.inHand world.conns (some thread) })
  | .shutdownRead _ => some ((), world)
  | .closeConn conn =>
      some ((), { world with closedConn := Function.update world.closedConn conn true })
  | .send conn request =>
      match choice with
      | .fail error =>
          if faults.raises thread (commandKind request.cmd) error then
            some (.error error, world)
          else none
      | .broken error =>
          if faults.raises thread (commandKind request.cmd) error && !world.closedConn conn then
            some (.error error, world.log [.frame conn request, .noAnswer conn request.cmd])
          else none
      | _ => if world.closedConn conn then none else some (.ok (), world.log [.frame conn request])
  | .recv conn cmd =>
      match choice with
      | .reply line => some (.ok line, world.log [.answer conn cmd line])
      | .fail error =>
          if faults.raises thread (commandKind cmd) error then
            some (.error error, world.log [.noAnswer conn cmd])
          else none
      | _ => none

abbrev Py := Program Op Op.Res PyError

def perform (op : Op) : Py op.Res := Program.perform op

def raising {α : Type} (program : Py (Except PyError α)) : Py α := program >>= Program.orRaise

def withIoLock {α : Type} (body : Py α) : Py α := do
  perform .lockIo
  body.ensure (perform .unlockIo)

/-- `conn.command(...)`; on `None` it is an `AttributeError`. That the socket does not take the
timeout is among the failures of a send before anything is written. -/
def command (conn : Option Nat) (request : Request) : Py Str :=
  match conn with
  | none => throw ⟨.attributeError, []⟩
  | some conn => do
      discard (Program.orRaise (encodeLines [request.cmd, request.key, request.arg]))
      Program.handle
        (do
          raising (perform (.send conn request))
          raising (perform (.recv conn request.cmd)))
        fun error => do
          perform (.closeConn conn)
          throw error

def exchange {α : Type} (conn : Option Nat) (request : Except PyError Request)
    (parse : Str → Except PyError α) : Py α := do
  let request ← Program.orRaise request
  let resp ← command conn request
  Program.orRaise (parse resp)

variable (params : Params)

def authenticate (conn : Nat) (authToken : Str) : Py Unit :=
  exchange (some conn) (authenticateRequest authToken) parseAuthResponse

def protoAcquire (conn : Option Nat) : Py (Str × Int) :=
  exchange conn params.acquireRequest (parseGrantResponse · (opLabel params.pre (str "acquire")))

def protoRelease (conn : Option Nat) (token : Str) : Py Unit :=
  exchange conn (params.releaseRequest token)
    (parseReleaseResponse · (opLabel params.pre (str "release")))

def protoRenew (conn : Option Nat) (token : Str) : Py Int :=
  exchange conn (params.renewRequest token)
    (parseRenewResponse · (opLabel params.pre (str "renew")))

def protoEnqueue (conn : Option Nat) : Py EnqueueStatus :=
  exchange conn params.enqueueRequest (parseEnqueueResponse · (opLabel params.pre (str "enqueue")))

def protoWait (conn : Option Nat) (timeoutS : Value) : Py (Str × Int) :=
  exchange conn (params.waitRequest timeoutS)
    (parseGrantResponse · (opLabel params.pre (str "wait")))

/-! Renew thread -/

def startRenew : Py Unit := do
  let stopEvent ← perform .getStopEvent
  let thread ← perform (.newThread stopEvent)
  perform (.setRenewThread (some thread))
  raising (perform (.startThread thread))

-- A caller is never the renewal worker, so `threading.current_thread()` never matches here.
def stopRenew : Py Unit := do
  match ← perform .getRenewThread with
  | none => pure ()
  | some thread => do
      let stopEvent ← perform .getStopEvent
      perform (.setEvent stopEvent)
      raising (perform (.joinThread thread))
      perform (.setRenewThread none)

def clearHeldState : Py Unit := do
  perform (.setToken none)
  perform (.setLease 0)

def logRenewFailure (stopEvent : Nat) : Py Unit := do
  if ← perform .getClosed then pure ()
  else if ← perform (.isSet stopEvent) then pure ()
  else discard (perform .getToken)

def handleRenewFailure (conn stopEvent : Nat) : Py Unit := do
  logRenewFailure stopEvent
  if (← perform .getConn) = some conn then do
    perform (.setConn none)
    clearHeldState
    perform (.closeConn conn)
  else pure ()

def safeRenewOnce (stopEvent : Nat) : Py (Option Int) := do
  let conn ← perform .getConn
  let token ← perform .getToken
  match conn, token with
  | some conn, some token =>
      Program.handle
        (do
          let remaining ← protoRenew params (some conn) token
          pure (some remaining))
        fun error =>
          if error.isException then do
            handleRenewFailure conn stopEvent
            pure none
          else throw error
  | _, _ => pure none

def renewTick (stopEvent : Nat) : Py (Option Int) :=
  withIoLock do
    if ← perform .getClosed then pure none
    else if ← perform (.isSet stopEvent) then pure none
    else safeRenewOnce params stopEvent

def updateLease (remaining : Int) : Py Unit :=
  if remaining > 0 then do
    if (← perform .getToken).isSome then do
      if ← perform .getClosed then pure ()
      else perform (.setLease remaining)
    else pure ()
  else pure ()

inductive WorkerState
  | fresh
  | sleeping (stopEvent : Nat) (interval : Rat)
  | done
  deriving DecidableEq

def renewLoop : Py WorkerState := do
  let stopEvent ← perform .beginThread
  let lease ← perform .getLease
  pure (.sleeping stopEvent (renewInterval lease params.renewRatio))

/-- One round of the `while` loop, from `active_stop_event.wait(interval)` on. -/
def renewRound (stopEvent : Nat) (interval : Rat) : Py WorkerState := do
  if ← perform (.waitEvent stopEvent interval) then do
    perform .endThread
    pure .done
  else do
    match ← renewTick params stopEvent with
    | none => do
        perform .endThread
        pure .done
    | some remaining => do
        if ← perform (.isSet stopEvent) then do
          perform .endThread
          pure .done
        else do
          updateLease remaining
          pure (.sleeping stopEvent (renewInterval remaining params.renewRatio))

def shutdownAndCloseConn : Py Unit := do
  match ← perform .getConn with
  | none => pure ()
  | some conn => do
      perform (.shutdownRead conn)
      withIoLock (perform (.closeConn conn))
      perform (.setConn none)

def joinRenewThread : Py Unit := do
  match ← perform .getRenewThread with
  | none => perform (.setRenewThread none)
  | some thread => do
      raising (perform (.joinThread thread))
      perform (.setRenewThread none)

def beginClose : Py Unit := do
  perform (.setClosed true)
  let stopEvent ← perform .getStopEvent
  perform (.setEvent stopEvent)

def tearDownConnAndThread : Py Unit := do
  shutdownAndCloseConn
  joinRenewThread
  clearHeldState

def closeUnlocked : Py Unit := do
  if ← perform .getClosed then pure ()
  else do
    beginClose
    tearDownConnAndThread

def resetForNewAttempt : Py Unit := do
  stopRenew
  closeUnlocked
  perform (.setClosed false)
  perform .newStopEvent

def maybeAuthenticate (conn : Nat) (authToken : Option Str) : Py Nat :=
  match authToken with
  | none => pure conn
  | some authToken =>
      Program.handle
        (do
          authenticate conn authToken
          pure conn)
        fun error => do
          perform (.closeConn conn)
          throw error

def openAndAuthenticate : Py Unit := do
  let (host, port) ← Program.orRaise params.endpoint
  let conn ← raising (perform (.dial host port))
  let conn ← maybeAuthenticate conn params.authToken
  perform (.setConn (some conn))

def notConnected (message : Str) : PyError := runtimeError [.text message]

def requireConn (message : Str) : Py (Option Nat) := do
  if (← perform .getConn).isNone then throw (notConnected message)
  else perform .getConn

/-! The operations -/

inductive CallValue
  | bool (value : Bool)
  | status (acquired : Bool)
  | none
  deriving DecidableEq

/-- The `except` clauses around the exchanges of `acquire` and `wait`. -/
def grantOrClose (exchange : Py (Str × Int)) (granted : Str × Int → Py Unit) :
    Py (Option (Str × Int)) :=
  Program.handle
    (do
      let grant ← exchange
      granted grant
      pure (some grant))
    fun error => do
      closeUnlocked
      if error.isTimeout then pure Option.none else throw error

def storeGrant (grant : Str × Int) : Py Unit := do
  perform (.setToken (some grant.1))
  perform (.setLease grant.2)

def invokeAcquire : Py CallValue := do
  let granted ← grantOrClose
    (do
      let conn ← requireConn (str "not connected")
      protoAcquire params conn) storeGrant
  if granted.isNone then pure (.bool false)
  else do
    startRenew
    pure (.bool true)

def acquireUnlocked : Py CallValue := do
  resetForNewAttempt
  openAndAuthenticate params
  invokeAcquire params

def handleEnqueueStatus (status : EnqueueStatus) : Py CallValue :=
  match status with
  | .acquired token lease => do
      storeGrant (token, lease)
      startRenew
      pure (.status true)
  | .queued => pure (.status false)

def invokeEnqueue : Py CallValue := do
  let status ← Program.handle
    (do
      let conn ← requireConn (str "not connected")
      protoEnqueue params conn)
    fun error => do
      closeUnlocked
      throw error
  handleEnqueueStatus status

def enqueueUnlocked : Py CallValue := do
  resetForNewAttempt
  openAndAuthenticate params
  invokeEnqueue params

def invokeWait (timeoutS : Value) : Py CallValue := do
  let conn ← requireConn (str "not connected; call enqueue() first")
  let granted ← grantOrClose (protoWait params conn timeoutS) storeGrant
  if granted.isNone then pure (.bool false)
  else do
    startRenew
    pure (.bool true)

def waitUnlocked (timeoutS : Option Value) : Py CallValue := do
  if (← perform .getToken).isSome then pure (.bool true)
  else invokeWait params (timeoutS.getD params.acquireTimeoutS)

def safeRelease (conn : Option Nat) (token : Option Str) : Py Bool :=
  Program.handle
    (do
      match token with
      | some token => protoRelease params conn token
      | none => throw ⟨.typeError, []⟩
      pure true)
    fun error => if error.isException then pure false else throw error

def sendReleaseQuietly : Py Bool := do
  if (← perform .getConn).isNone then pure false
  else if (← perform .getToken).isNone then pure false
  else do
    let conn ← perform .getConn
    let token ← perform .getToken
    safeRelease params conn token

def releaseUnlocked : Py CallValue := do
  stopRenew
  let released ← withIoLock (sendReleaseQuietly params)
  closeUnlocked
  pure (.bool released)

def closeCall : Py CallValue := do
  closeUnlocked
  pure .none

def Call.body (call : Call) : Py CallValue :=
  match call with
  | .acquire => acquireUnlocked params
  | .enqueue => enqueueUnlocked params
  | .wait timeoutS => waitUnlocked params timeoutS
  | .release => releaseUnlocked params
  | .close => closeCall

/-- `with self._state_lock: return self._..._unlocked()`. -/
def Call.program (call : Call) : Py CallValue := do
  perform .lockState
  let value ← (call.body params).handle fun error => do
    perform (.unlockState none)
    throw error
  perform (.unlockState (some call))
  pure value

abbrev Val (thread : Thread) : Type :=
  match thread with
  | .caller _ => CallValue
  | .worker _ => WorkerState

def start (thread : Thread) (outcome : Except PyError (Val thread)) (choice : Choice) :
    Option (Py (Val thread)) :=
  match thread with
  | .caller _ =>
      match choice with
      | .call call => some (call.program params)
      | _ => none
  | .worker _ =>
      match outcome with
      | .ok .fresh => some (renewLoop params)
      | .ok (.sleeping stopEvent interval) => some (renewRound params stopEvent interval)
      | _ => none

/-- Threads may switch before every operation. -/
def machine : Machine Op Op.Res PyError Thread Val World Choice where
  exec := exec faults
  yields := fun _ => true
  start := start params

/-- The same programs, each run to its end before another one moves. -/
def sequential : Machine Op Op.Res PyError Thread Val World Choice where
  exec := exec faults
  yields := fun _ => false
  start := start params

def initialProgram (thread : Thread) : Py (Val thread) :=
  match thread with
  | .caller _ => .ret CallValue.none
  | .worker _ => .ret WorkerState.fresh

def initial : Config Op Op.Res PyError Thread Val World where
  shared := {}
  program := initialProgram

end DflockdClient.Sync
