import DflockdClient.Interleaving.Machine
import DflockdClient.Wire

/-!
`AsyncConn` of `_async.py`, shared by any number of tasks, with the server and the
transport as one more party. `close()` only begins to shut the transport down:
until `connection_lost` what is written is dropped, `drain()` succeeds, and what
has been received can be read. (It is dropped because the send buffer is taken to
be empty; behind octets that are still buffered it would go out with them.)
-/

namespace DflockdClient.AsyncConn

open Interleaving Wire

inductive Party
  | caller (id : Nat)
  | network
  deriving DecidableEq

structure World where
  mu : Option Nat := none
  closing : Bool := false
  lost : Bool := false
  net : Net := {}

/-- How a command gives the mutex back. A rejected one has written nothing. -/
inductive Ending
  | returned (value : Str)
  | failed
  | rejected

inductive Op
  | lockMu | unlockMu (ending : Ending)
  | write (frame : Bytes) | drain | readline
  | closeNowait
  | respond | deliver | hangUp | loseConnection

abbrev Op.Res (op : Op) : Type :=
  match op with
  | .lockMu | .drain => Except PyError Unit
  | .readline => Except PyError Bytes
  | _ => Unit

def Op.yields (op : Op) : Bool :=
  match op with
  | .lockMu | .drain | .readline => true
  | _ => false

/-- What the environment decides. A `fail` at an await is a timeout, a cancellation or an error of
the transport. -/
inductive Choice
  | go
  | fail (error : PyError)
  | call (request : Request)
  | line (text : Bytes)
  | arrive (count : Nat)
  | hangUp
  | lose

instance : Inhabited Choice := ⟨.go⟩

def connectionLost : PyError := ⟨.connectionError, [.text (str "Connection lost")]⟩

def Ending.event? (ending : Ending) (me : Nat) : Option Event :=
  match ending with
  | .returned value => some (.returned me value)
  | .failed => some (.failed me)
  | .rejected => none

def Choice.error? (choice : Choice) : Option PyError :=
  match choice with
  | .fail error => some error
  | _ => none

def exec (party : Party) (op : Op) (choice : Choice) (world : World) : Option (op.Res × World) :=
  match party, op with
  | .caller me, .lockMu =>
      match choice.error? with
      | some error => some (.error error, world)
      | none => if world.mu = none then some (.ok (), { world with mu := some me }) else none
  | .caller me, .unlockMu ending =>
      some ((), { world with
        mu := none
        net := { world.net with trace := world.net.trace ++ (ending.event? me).toList } })
  | .caller me, .write frame =>
      some ((), if world.closing || world.lost then world
        else { world with
          net := { world.net with
            sent := world.net.sent ++ frame
            trace := world.net.trace ++ [.sending me frame] } })
  | .caller _, .drain =>
      match choice.error? with
      | some error => some (.error error, world)
      | none => some (if world.lost then .error connectionLost else .ok (), world)
  | .caller _, .readline =>
      match choice.error? with
      | some error => some (.error error, world)
      | none => (streamReadline maxResponseLineBytes world.net.incoming).map
          fun (outcome, rest) => (outcome, { world with
            net := { world.net with incoming := ⟨rest, world.net.incoming.eof⟩ } })
  | .caller _, .closeNowait => some ((), { world with closing := true })
  | .network, .respond =>
      match choice with
      | .line text => (world.net.respond text).map fun net => ((), { world with net := net })
      | _ => none
  | .network, .deliver =>
      match choice with
      | .arrive count => (world.net.deliver count).map fun net => ((), { world with net := net })
      | _ => none
  | .network, .hangUp => some ((), { world with net := world.net.hangUp })
  | .network, .loseConnection => some ((), { world with lost := true, net := world.net.hangUp })
  | _, _ => none

section

variable {me : Nat} {choice : Choice} {world : World} {error : PyError}

theorem exec_lockMu (going : choice.error? = none) :
    exec (.caller me) .lockMu choice world =
      if world.mu = none then some (.ok (), { world with mu := some me }) else none := by
  simp only [exec, going]

theorem exec_lockMu_fail (fails : choice.error? = some error) :
    exec (.caller me) .lockMu choice world = some (.error error, world) := by
  simp only [exec, fails]

theorem exec_unlockMu {ending : Ending} : exec (.caller me) (.unlockMu ending) choice world =
    some ((), { world with
      mu := none
      net := { world.net with trace := world.net.trace ++ (ending.event? me).toList } }) := rfl

theorem exec_write {frame : Bytes} : exec (.caller me) (.write frame) choice world =
    some ((), if world.closing || world.lost then world
      else { world with
        net := { world.net with
          sent := world.net.sent ++ frame
          trace := world.net.trace ++ [.sending me frame] } }) := rfl

theorem exec_drain (going : choice.error? = none) : exec (.caller me) .drain choice world =
    some (if world.lost then .error connectionLost else .ok (), world) := by
  simp only [exec, going]

theorem exec_drain_fail (fails : choice.error? = some error) :
    exec (.caller me) .drain choice world = some (.error error, world) := by
  simp only [exec, fails]

theorem exec_readline (going : choice.error? = none) :
    exec (.caller me) .readline choice world =
      (streamReadline maxResponseLineBytes world.net.incoming).map
        fun (outcome, rest) => (outcome, { world with
          net := { world.net with incoming := ⟨rest, world.net.incoming.eof⟩ } }) := by
  simp only [exec, going]

theorem exec_readline_fail (fails : choice.error? = some error) :
    exec (.caller me) .readline choice world = some (.error error, world) := by
  simp only [exec, fails]

theorem exec_closeNowait : exec (.caller me) .closeNowait choice world =
    some ((), { world with closing := true }) := rfl

theorem exec_respond {text : Bytes} : exec .network .respond (.line text) world =
    (world.net.respond text).map fun net => ((), { world with net := net }) := rfl

theorem exec_deliver {count : Nat} : exec .network .deliver (.arrive count) world =
    (world.net.deliver count).map fun net => ((), { world with net := net }) := rfl

theorem exec_hangUp : exec .network .hangUp choice world =
    some ((), { world with net := world.net.hangUp }) := rfl

theorem exec_loseConnection : exec .network .loseConnection choice world =
    some ((), { world with lost := true, net := world.net.hangUp }) := rfl

end

abbrev Py := Program Op Op.Res PyError

def perform (op : Op) : Py op.Res := Program.perform op

def raising {α : Type} (program : Py (Except PyError α)) : Py α := program >>= Program.orRaise

def readLine : Py Str := do
  let raw ← (raising (perform .readline)).handle fun error =>
    if error.cls = .valueError then
      throw (runtimeError [.text (str "server response exceeded line length limit")])
    else throw error
  Program.orRaise (acceptLine raw)

def exchange : Py Str :=
  Program.handle
    (do
      raising (perform .drain)
      readLine)
    fun error => do
      perform .closeNowait
      perform (.unlockMu .failed)
      throw error

def command (request : Request) : Py Str := do
  raising (perform .lockMu)
  let frame ← (Program.orRaise (encodeLines [request.cmd, request.key, request.arg])).handle
    fun error => do
      perform (.unlockMu .rejected)
      throw error
  perform (.write frame)
  let value ← exchange
  perform (.unlockMu (.returned value))
  pure value

abbrev Val (party : Party) : Type :=
  match party with
  | .caller _ => Option Str
  | .network => Unit

def start (party : Party) (_ : Except PyError (Val party)) (choice : Choice) :
    Option (Py (Val party)) :=
  match party with
  | .caller _ =>
      match choice with
      | .call request => some (some <$> command request)
      | _ => none
  | .network =>
      match choice with
      | .line _ => some (perform .respond)
      | .arrive _ => some (perform .deliver)
      | .hangUp => some (perform .hangUp)
      | .lose => some (perform .loseConnection)
      | _ => none

/-- Tasks switch at awaits only. -/
def machine : Machine Op Op.Res PyError Party Val World Choice where
  exec := exec
  yields := Op.yields
  start := start

def initialProgram (party : Party) : Py (Val party) :=
  match party with
  | .caller _ => .ret (none : Option Str)
  | .network => .ret ()

def initial : Config Op Op.Res PyError Party Val World where
  shared := {}
  program := initialProgram

end DflockdClient.AsyncConn
