import DflockdClient.Interleaving.Machine
import DflockdClient.Wire

/-!
`SyncConn` of `_sync.py`, shared by any number of threads, with the server and
the network as one more thread. `sendall` hands over its octets one at a time,
and the thread may be preempted between any two of them.
-/

namespace DflockdClient.SyncConn

open Interleaving Wire

inductive Party
  | caller (id : Nat)
  | network
  deriving DecidableEq

structure World where
  mu : Option Nat := none
  fileClosed : Bool := false
  sockClosed : Bool := false
  net : Net := {}

inductive Op
  | lockMu | unlockMu (returned : Option Str)
  | settimeout (readTimeout : Rat)
  | send (frame rest : Bytes)
  | readline
  | closeFile | closeSock
  | respond | deliver | hangUp

abbrev Op.Res (op : Op) : Type :=
  match op with
  | .settimeout _ | .send _ _ => Except PyError Unit
  | .readline => Except PyError Bytes
  | _ => Unit

inductive Choice
  | go
  | fail (error : PyError)
  | call (request : Request)
  | line (text : Bytes)
  | arrive (count : Nat)
  | hangUp

instance : Inhabited Choice := ⟨.go⟩

def badDescriptor : PyError := ⟨.osError, [.text (str "[Errno 9] Bad file descriptor")]⟩

def closedFile : PyError := valueError [.text (str "I/O operation on closed file.")]

/-- A `send` hands over the first octet that is left. Any operation on the socket may fail. -/
def exec (party : Party) (op : Op) (choice : Choice) (world : World) : Option (op.Res × World) :=
  match party, op with
  | .caller me, .lockMu =>
      if world.mu = none then some ((), { world with mu := some me }) else none
  | .caller me, .unlockMu returned =>
      some ((), { world with
        mu := none
        net := world.net.log (match returned with
          | some value => .returned me value
          | none => .failed me) })
  | .caller _, .settimeout _ =>
      if world.sockClosed then some (.error badDescriptor, world)
      else match choice with
        | .fail error => some (.error error, world)
        | _ => some (.ok (), world)
  | .caller me, .send frame rest =>
      if world.sockClosed then some (.error badDescriptor, world)
      else match choice, rest with
        | .fail error, _ => some (.error error, world)
        | _, [] => none
        | _, byte :: _ => some (.ok (), { world with
            net := { world.net with
              sent := world.net.sent ++ [byte]
              trace := world.net.trace ++
                if rest.length = frame.length then [.sending me frame] else [] } })
  | .caller _, .readline =>
      if world.fileClosed then some (.error closedFile, world)
      else match choice with
        | .fail error => some (.error error, world)
        | _ => match fileReadline (maxResponseLineBytes + 1) world.net.incoming with
          | some (raw, rest) => some (.ok raw, { world with
              net := { world.net with incoming := ⟨rest, world.net.incoming.eof⟩ } })
          | none => none
  | .caller _, .closeFile => some ((), { world with fileClosed := true })
  | .caller _, .closeSock => some ((), { world with sockClosed := true })
  | .network, .respond =>
      match choice with
      | .line text => (world.net.respond text).map fun net => ((), { world with net := net })
      | _ => none
  | .network, .deliver =>
      match choice with
      | .arrive count => (world.net.deliver count).map fun net => ((), { world with net := net })
      | _ => none
  | .network, .hangUp => some ((), { world with net := world.net.hangUp })
  | _, _ => none

section

variable {me : Nat} {choice : Choice} {world : World}

theorem exec_lockMu : exec (.caller me) .lockMu choice world =
    if world.mu = none then some ((), { world with mu := some me }) else none := rfl

theorem exec_unlockMu {returned : Option Str} :
    exec (.caller me) (.unlockMu returned) choice world =
      some ((), { world with
        mu := none
        net := world.net.log (match returned with
          | some value => .returned me value
          | none => .failed me) }) := rfl

theorem exec_settimeout {readTimeout : Rat} :
    exec (.caller me) (.settimeout readTimeout) choice world =
      if world.sockClosed then some (.error badDescriptor, world)
      else match choice with
        | .fail error => some (.error error, world)
        | _ => some (.ok (), world) := rfl

theorem exec_send {frame rest : Bytes} :
    exec (.caller me) (.send frame rest) choice world =
      if world.sockClosed then some (.error badDescriptor, world)
      else match choice, rest with
        | .fail error, _ => some (.error error, world)
        | _, [] => none
        | _, byte :: _ => some (.ok (), { world with
            net := { world.net with
              sent := world.net.sent ++ [byte]
              trace := world.net.trace ++
                if rest.length = frame.length then [.sending me frame] else [] } }) := rfl

theorem exec_readline :
    exec (.caller me) .readline choice world =
      if world.fileClosed then some (.error closedFile, world)
      else match choice with
        | .fail error => some (.error error, world)
        | _ => match fileReadline (maxResponseLineBytes + 1) world.net.incoming with
          | some (raw, rest) => some (.ok raw, { world with
              net := { world.net with incoming := ⟨rest, world.net.incoming.eof⟩ } })
          | none => none := rfl

theorem exec_closeFile : exec (.caller me) .closeFile choice world =
    some ((), { world with fileClosed := true }) := rfl

theorem exec_closeSock : exec (.caller me) .closeSock choice world =
    some ((), { world with sockClosed := true }) := rfl

theorem exec_respond {text : Bytes} : exec .network .respond (.line text) world =
    (world.net.respond text).map fun net => ((), { world with net := net }) := rfl

theorem exec_deliver {count : Nat} : exec .network .deliver (.arrive count) world =
    (world.net.deliver count).map fun net => ((), { world with net := net }) := rfl

theorem exec_hangUp : exec .network .hangUp choice world =
    some ((), { world with net := world.net.hangUp }) := rfl

end

abbrev Py := Program Op Op.Res PyError

def perform (op : Op) : Py op.Res := Program.perform op

def raising {α : Type} (program : Py (Except PyError α)) : Py α := program >>= Program.orRaise

def sendFrom (frame rest : Bytes) : Py Unit :=
  match rest with
  | [] => pure ()
  | byte :: later => do
      raising (perform (.send frame (byte :: later)))
      sendFrom frame later

def sendall (frame : Bytes) : Py Unit := sendFrom frame frame

def readLine : Py Str := do
  let raw ← raising (perform .readline)
  Program.orRaise (acceptLine raw)

def close : Py Unit := do
  perform .closeFile
  perform .closeSock

/-- The body of `with self._mu` in `command`. -/
def exchange (request : Request) (frame : Bytes) : Py Str :=
  Program.handle
    (do
      raising (perform (.settimeout request.readTimeout))
      sendall frame
      readLine)
    fun error => do
      close
      throw error

def command (request : Request) : Py Str := do
  let frame ← Program.orRaise (encodeLines [request.cmd, request.key, request.arg])
  perform .lockMu
  let value ← (exchange request frame).handle fun error => do
    perform (.unlockMu none)
    throw error
  perform (.unlockMu (some value))
  pure value

abbrev Val (party : Party) : Type :=
  match party with
  | .caller _ => Option Str
  | .network => Unit

def start (party : Party) (_ : Except PyError (Val party)) (choice : Choice) :
    Option (Py (Val party)) :=
  match party with
  | .caller _ =>
      match choice with
      | .call request => some (some <$> command request)
      | _ => none
  | .network =>
      match choice with
      | .line _ => some (perform .respond)
      | .arrive _ => some (perform .deliver)
      | .hangUp => some (perform .hangUp)
      | _ => none

def machine : Machine Op Op.Res PyError Party Val World Choice where
  exec := exec
  yields := fun _ => true
  start := start

def initialProgram (party : Party) : Py (Val party) :=
  match party with
  | .caller _ => .ret (none : Option Str)
  | .network => .ret ()

def initial : Config Op Op.Res PyError Party Val World where
  shared := {}
  program := initialProgram

end DflockdClient.SyncConn
