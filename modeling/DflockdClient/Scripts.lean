import Mathlib.Logic.Function.Basic
import DflockdClient.Exchanges
import DflockdClient.SyncCore

/-!
What a lock or semaphore does when its operations and due renewals follow one
another: the client as its users see it, without the threads, events, tasks and
flags of the two implementations.
-/

namespace DflockdClient

open Sync (Call CallValue)

/-- What an instance asks of the network. -/
inductive Ask
  | dial (host : Str) (port : Int)
  | command (conn : Nat) (request : Request)
  deriving DecidableEq

abbrev Failure := { error : PyError // error.isException = true }

/-- The answer to a command: an exception before or after its frame is out, or a line. Arming the
timeout of the command comes before its frame, and so does what it raises. -/
inductive Reply
  | unsent (failure : Failure)
  | unanswered (failure : Failure)
  | line (line : Str)

/-- The network: it answers what is asked by all that was asked before. -/
structure Oracle where
  dial : List Ask → Except Failure Unit
  command : List Ask → Reply

/-- An operation, or the end of the interval that a renewal worker waits for. -/
inductive Action
  | call (call : Call)
  | renew (worker : Nat)
  deriving DecidableEq

structure Seen where
  outcome : Except PyError CallValue
  asked : List Ask
  interval : Nat → Option Rat
  closedConn : Nat → Bool
  token : Option Str
  lease : Int
  connected : Bool

/-- Runs a script, unless it gets stuck. -/
def runScript {State : Type} (act : Action → State → Option (Except PyError CallValue × State))
    (seen : State → Except PyError CallValue → Seen) (script : List Action) (state : State) :
    Option (List Seen) :=
  match script with
  | [] => some []
  | action :: rest => (act action state).bind fun (outcome, after) =>
      (runScript act seen rest after).map (seen after outcome :: ·)

/-- What an instance holds. Workers are numbered by grants. -/
inductive Hold
  | idle
  | queued (conn : Nat)
  | held (conn : Nat) (token : Str) (lease : Int) (worker : Nat) (interval : Rat)

structure Client where
  hold : Hold := .idle
  conns : Nat := 0
  workers : Nat := 0
  closedConn : Nat → Bool := fun _ => false
  asked : List Ask := []

namespace Hold

def conn (hold : Hold) : Option Nat :=
  match hold with
  | .idle => none
  | .queued conn | .held conn _ _ _ _ => some conn

def token (hold : Hold) : Option Str :=
  match hold with
  | .held _ token _ _ _ => some token
  | _ => none

def lease (hold : Hold) : Int :=
  match hold with
  | .held _ _ lease _ _ => lease
  | _ => 0

def interval (hold : Hold) (worker : Nat) : Option Rat :=
  match hold with
  | .held _ _ _ renewing interval => if worker = renewing then some interval else none
  | _ => none

theorem forms (hold : Hold) : hold = .idle ∨ (∃ conn, hold = .queued conn) ∨
    ∃ conn token lease worker interval, hold = .held conn token lease worker interval := by
  cases hold <;> simp

theorem of_interval {hold : Hold} {worker : Nat} {interval : Rat}
    (waits : hold.interval worker = some interval) :
    ∃ conn token lease, hold = .held conn token lease worker interval := by
  cases hold with
  | idle => cases waits
  | queued => cases waits
  | held conn token lease renewing left =>
      simp only [Hold.interval] at waits
      split at waits
      · rename_i same
        cases waits
        exact ⟨conn, token, lease, by rw [same]⟩
      · cases waits

end Hold

namespace Client

def seen (client : Client) (outcome : Except PyError CallValue) : Seen where
  outcome := outcome
  asked := client.asked
  interval := client.hold.interval
  closedConn := client.closedConn
  token := client.hold.token
  lease := client.hold.lease
  connected := client.hold.conn.isSome

def drop (client : Client) : Client := { client with
  hold := .idle
  closedConn := match client.hold.conn with
    | some conn => Function.update client.closedConn conn true
    | none => client.closedConn }

variable (oracle : Oracle) (params : Params)

def exchange {α : Type} (conn : Nat) (built : Except PyError Request)
    (parse : Str → Except PyError α) (asked : List Ask) : Except PyError α × List Ask :=
  match built with
  | .error error => (.error error, asked)
  | .ok request =>
      match encodeLines [request.cmd, request.key, request.arg] with
      | .error error => (.error error, asked)
      | .ok _ =>
          let asked := asked ++ [.command conn request]
          match oracle.command asked with
          | .unsent failure | .unanswered failure => (.error failure.val, asked)
          | .line line => (parse line, asked)

def authenticate (conn : Nat) (client : Client) : Except PyError Nat × Client :=
  match params.authToken with
  | none => (.ok conn, { client with hold := .queued conn })
  | some authToken =>
      let result := exchange oracle conn (authenticateRequest authToken) parseAuthResponse client.asked
      let client := { client with asked := result.2 }
      match result.1 with
      | .ok () => (.ok conn, { client with hold := .queued conn })
      | .error error =>
          (.error error, { client with closedConn := Function.update client.closedConn conn true })

def connect (client : Client) : Except PyError Nat × Client :=
  match params.endpoint with
  | .error error => (.error error, client)
  | .ok (host, port) =>
      let asked := client.asked ++ [.dial host port]
      match oracle.dial asked with
      | .error failure => (.error failure.val, { client with asked := asked })
      | .ok () => { client with conns := client.conns + 1, asked := asked }.authenticate oracle params
          client.conns

def grant (conn : Nat) (token : Str) (lease : Int) (client : Client) : Client := { client with
  hold := .held conn token lease client.workers (renewInterval lease params.renewRatio)
  workers := client.workers + 1 }

def granted (conn : Nat) (result : Except PyError (Str × Int) × List Ask) (client : Client) :
    Except PyError CallValue × Client :=
  let client := { client with asked := result.2 }
  match result.1 with
  | .ok (token, lease) => (.ok (.bool true), grant params conn token lease client)
  | .error error => (if error.isTimeout then .ok (.bool false) else .error error, client.drop)

def acquire (client : Client) : Except PyError CallValue × Client :=
  let connected := connect oracle params client.drop
  match connected.1 with
  | .error error => (.error error, connected.2)
  | .ok conn => granted params conn (exchange oracle conn params.acquireRequest
      (parseGrantResponse · (opLabel params.pre (str "acquire"))) connected.2.asked) connected.2

def enqueue (client : Client) : Except PyError CallValue × Client :=
  let connected := connect oracle params client.drop
  match connected.1 with
  | .error error => (.error error, connected.2)
  | .ok conn =>
      let client := connected.2
      let result := exchange oracle conn params.enqueueRequest
        (parseEnqueueResponse · (opLabel params.pre (str "enqueue"))) client.asked
      let client := { client with asked := result.2 }
      match result.1 with
      | .ok (.acquired token lease) => (.ok (.status true), grant params conn token lease client)
      | .ok .queued => (.ok (.status false), client)
      | .error error => (.error error, client.drop)

def wait (timeoutS : Option Value) (client : Client) : Except PyError CallValue × Client :=
  match client.hold with
  | .idle => (.error (Sync.notConnected (str "not connected; call enqueue() first")), client)
  | .queued conn => granted params conn (exchange oracle conn
      (params.waitRequest (timeoutS.getD params.acquireTimeoutS))
      (parseGrantResponse · (opLabel params.pre (str "wait"))) client.asked) client
  | .held _ _ _ _ _ => (.ok (.bool true), client)

def release (client : Client) : Except PyError CallValue × Client :=
  match client.hold with
  | .held conn token _ _ _ =>
      let result := exchange oracle conn (params.releaseRequest token)
        (parseReleaseResponse · (opLabel params.pre (str "release"))) client.asked
      (.ok (.bool result.1.isOk), { client with asked := result.2 }.drop)
  | _ => (.ok (.bool false), client.drop)

def renew (worker : Nat) (client : Client) : Client :=
  match client.hold with
  | .held conn token lease renewing _ =>
      if worker = renewing then
        let result := exchange oracle conn (params.renewRequest token)
          (parseRenewResponse · (opLabel params.pre (str "renew"))) client.asked
        let client := { client with asked := result.2 }
        match result.1 with
        | .ok remaining => { client with
            hold := .held conn token (if remaining > 0 then remaining else lease) renewing
              (renewInterval remaining params.renewRatio) }
        | .error _ => client.drop
      else client
  | _ => client

def act (action : Action) (client : Client) : Except PyError CallValue × Client :=
  match action with
  | .call .acquire => client.acquire oracle params
  | .call .enqueue => client.enqueue oracle params
  | .call (.wait timeoutS) => client.wait oracle params timeoutS
  | .call .release => client.release oracle params
  | .call .close => (.ok .none, client.drop)
  | .renew worker => (.ok .none, client.renew oracle params worker)

variable {oracle : Oracle} {params : Params}

theorem release_unheld (client : Client) (unheld : client.hold.token = none) :
    client.release oracle params = (.ok (.bool false), client.drop) := by
  unfold release
  split
  · rename_i held
    rw [held] at unheld
    cases unheld
  · rfl

theorem renew_held {client : Client} {conn worker : Nat} {token : Str} {lease : Int}
    {interval : Rat} (held : client.hold = .held conn token lease worker interval) :
    client.renew oracle params worker =
      let result := exchange oracle conn (params.renewRequest token)
        (parseRenewResponse · (opLabel params.pre (str "renew"))) client.asked
      match result.1 with
      | .ok remaining => { client with
          asked := result.2
          hold := .held conn token (if remaining > 0 then remaining else lease) worker
            (renewInterval remaining params.renewRatio) }
      | .error _ => { client with asked := result.2 }.drop := by
  unfold renew
  split
  · rename_i found
    rw [held] at found
    cases found
    rw [if_pos rfl]
  · rename_i other
    exact absurd held (other conn token lease worker interval)

theorem renew_other {client : Client} {worker : Nat} (asleep : client.hold.interval worker = none) :
    client.renew oracle params worker = client := by
  unfold renew
  split
  · rename_i held
    rw [held] at asleep
    simp only [Hold.interval] at asleep
    split at asleep
    · cases asleep
    · rename_i different
      rw [if_neg different]
  · rfl

theorem exchange_ordinary {α : Type} {conn : Nat} {built : Except PyError Request}
    {parse : Str → Except PyError α} {asked : List Ask} (builds : Ordinary built)
    (parses : ∀ resp, Ordinary (parse resp)) :
    Ordinary (exchange oracle conn built parse asked).1 := by
  cases built with
  | error error => exact Ordinary.error_iff.mpr (builds error rfl)
  | ok request =>
      simp only [exchange]
      cases encoded : encodeLines [request.cmd, request.key, request.arg] with
      | error error => exact Ordinary.error_iff.mpr (ordinary_encodeLines _ error encoded)
      | ok frame =>
          cases oracle.command (asked ++ [.command conn request]) with
          | unsent failure => exact Ordinary.error_iff.mpr failure.property
          | unanswered failure => exact Ordinary.error_iff.mpr failure.property
          | line line => exact parses line

variable (oracle params) in
def script (script : List Action) (client : Client) : List Seen :=
  match script with
  | [] => []
  | action :: rest =>
      let result := client.act oracle params action
      result.2.seen result.1 :: Client.script rest result.2

/-- Any implementation whose actions follow the client's is seen to do what the client does. -/
theorem runScript_eq {State : Type} {act : Action → State → Option (Except PyError CallValue × State)}
    {seen : State → Except PyError CallValue → Seen} {Rests : Client → State → Prop}
    (acts : ∀ client state, Rests client state → ∀ action, ∃ after,
      act action state = some ((client.act oracle params action).1, after) ∧
        Rests (client.act oracle params action).2 after)
    (sees : ∀ client state, Rests client state → ∀ outcome, seen state outcome = client.seen outcome)
    {client : Client} {state : State} (rests : Rests client state) (script : List Action) :
    runScript act seen script state = some (client.script oracle params script) := by
  induction script generalizing client state with
  | nil => rfl
  | cons action rest ih =>
      obtain ⟨after, acted, rests⟩ := acts client state rests action
      simp only [runScript, acted, Option.bind_some, ih rests, Option.map_some, sees _ _ rests]
      rfl

end Client

/-- What both implementations keep of the client while an operation is at work: the connection
that is at work may be closed already. -/
structure Tracks (client : Client) (asked : List Ask) (conn : Option Nat) (conns workers : Nat)
    (closedConn : Nat → Bool) : Prop where
  asked : asked = client.asked
  conn : conn = client.hold.conn
  conns : conns = client.conns
  workers : workers = client.workers
  others : ∀ conn, client.hold.conn ≠ some conn → closedConn conn = client.closedConn conn
  made : ∀ conn, client.hold.conn = some conn → conn < client.conns
  unmade : ∀ conn, client.conns ≤ conn → client.closedConn conn = false

structure Shows (client : Client) (asked : List Ask) (conn : Option Nat) (token : Option Str)
    (lease : Int) (conns workers : Nat) (closedConn : Nat → Bool) (interval : Nat → Option Rat) :
    Prop extends Tracks client asked conn conns workers closedConn where
  token : token = client.hold.token
  lease : lease = client.hold.lease
  closedConn : closedConn = client.closedConn
  interval : interval = client.hold.interval
  opened : ∀ conn, client.hold.conn = some conn → client.closedConn conn = false

section

variable {client : Client} {asked asked' : List Ask} {conn : Option Nat} {token : Option Str}
  {lease : Int} {conns workers link : Nat} {closedConn closedConn' : Nat → Bool}
  {interval interval' : Nat → Option Rat}

theorem tracks_initial : Tracks {} [] none 0 0 fun _ => false :=
  ⟨rfl, rfl, rfl, rfl, fun _ _ => rfl, nofun, fun _ _ => rfl⟩

theorem Tracks.update_eq_drop (tracks : Tracks client asked conn conns workers closedConn)
    (installed : client.hold.conn = some link) :
    Function.update closedConn link true = client.drop.closedConn := by
  funext other
  simp only [Client.drop, installed]
  by_cases same : other = link
  · rw [same, Function.update_self, Function.update_self]
  · rw [Function.update_of_ne same, Function.update_of_ne same]
    exact tracks.others other (by simpa [installed] using Ne.symm same)

theorem Tracks.eq_drop (tracks : Tracks client asked conn conns workers closedConn)
    (gone : client.hold.conn = none) : closedConn = client.drop.closedConn := by
  funext other
  simp only [Client.drop, gone]
  exact tracks.others other (by simp [gone])

theorem Tracks.dropped (tracks : Tracks client asked conn conns workers closedConn)
    (same : closedConn' = client.drop.closedConn) :
    Tracks client.drop asked none conns workers closedConn' := by
  refine ⟨tracks.asked, rfl, tracks.conns, tracks.workers, fun other _ => congrFun same other,
    nofun, ?_⟩
  intro other beyond
  simp only [Client.drop]
  cases installed : client.hold.conn with
  | none => exact tracks.unmade other beyond
  | some conn =>
      have made := tracks.made conn installed
      have beyond : client.conns ≤ other := beyond
      have different : other ≠ conn := by omega
      simp only [Function.update_of_ne different]
      exact tracks.unmade other beyond

theorem Tracks.commanded (tracks : Tracks client asked conn conns workers closedConn)
    (installed : client.hold.conn = some link)
    (others : ∀ other, other ≠ link → closedConn' other = closedConn other) :
    Tracks { client with asked := asked' } asked' conn conns workers closedConn' := by
  refine ⟨rfl, tracks.conn, tracks.conns, tracks.workers, ?_, tracks.made, tracks.unmade⟩
  intro other different
  rw [installed] at different
  exact (others other (by rintro rfl; exact different rfl)).trans
    (tracks.others other (by rw [installed]; exact different))

theorem Tracks.idle (tracks : Tracks client asked conn conns workers closedConn)
    (idle : client.hold = .idle) (closedEq : closedConn = client.closedConn)
    (quiet : ∀ worker, interval worker = none) :
    Shows client asked conn none 0 conns workers closedConn interval := by
  refine ⟨tracks, ?_, ?_, closedEq, ?_, ?_⟩
  · rw [idle]
    rfl
  · rw [idle]
    rfl
  · funext worker
    rw [quiet, idle]
    rfl
  · simp [idle, Hold.conn]

namespace Shows

variable (shows : Shows client asked conn token lease conns workers closedConn interval)

include shows

theorem commanded :
    Shows { client with asked := asked' } asked' conn token lease conns workers closedConn
      interval :=
  ⟨⟨rfl, shows.conn, shows.conns, shows.workers, shows.others, shows.made, shows.unmade⟩,
    shows.token, shows.lease, shows.closedConn, shows.interval, shows.opened⟩

theorem dialled :
    Shows { client with conns := client.conns + 1, asked := asked' } asked' conn token lease
      (conns + 1) workers closedConn interval := by
  refine ⟨⟨rfl, shows.conn, congrArg (· + 1) shows.conns, shows.workers, shows.others, ?_, ?_⟩,
    shows.token, shows.lease, shows.closedConn, shows.interval, shows.opened⟩
  · intro conn installed
    exact Nat.lt_succ_of_lt (shows.made conn installed)
  · intro conn beyond
    exact shows.unmade conn (Nat.le_of_succ_le beyond)

theorem installed (idle : client.hold = .idle) (made : link < client.conns)
    (opened : client.closedConn link = false) :
    Shows { client with hold := .queued link } asked (some link) token lease conns workers
      closedConn interval := by
  have token := shows.token
  have lease := shows.lease
  have interval := shows.interval
  rw [idle] at token lease interval
  refine ⟨⟨shows.asked, rfl, shows.conns, shows.workers,
    fun other _ => congrFun shows.closedConn other, ?_, shows.unmade⟩, token, lease,
    shows.closedConn, interval, ?_⟩
  · rintro _ ⟨⟩
    exact made
  · rintro _ ⟨⟩
    exact opened

theorem abandoned (idle : client.hold = .idle) (made : link < client.conns)
    (others : ∀ other, other ≠ link → closedConn' other = closedConn other) :
    Shows { client with asked := asked', closedConn := Function.update client.closedConn link true }
      asked' conn token lease conns workers (Function.update closedConn' link true) interval := by
  have closedEq : Function.update closedConn' link true =
      Function.update client.closedConn link true := by
    funext other
    by_cases same : other = link
    · rw [same, Function.update_self, Function.update_self]
    · rw [Function.update_of_ne same, Function.update_of_ne same, others other same,
        shows.closedConn]
  refine ⟨⟨rfl, shows.conn, shows.conns, shows.workers, fun other _ => congrFun closedEq other,
    shows.made, ?_⟩, shows.token, shows.lease, closedEq, shows.interval, ?_⟩
  · intro other beyond
    have beyond : client.conns ≤ other := beyond
    have different : other ≠ link := by omega
    show Function.update client.closedConn link true other = false
    rw [Function.update_of_ne different]
    exact shows.unmade other beyond
  · intro other installed
    rw [show client.hold = .idle from idle] at installed
    cases installed

theorem granted {params : Params} {granted : Str} {left : Int}
    (queued : client.hold = .queued link)
    (slept : ∀ worker, interval' worker =
      if worker = workers then some (renewInterval left params.renewRatio) else interval worker) :
    Shows (client.grant params link granted left) asked conn (some granted) left conns
      (workers + 1) closedConn interval' := by
  have installed : client.hold.conn = some link := by rw [queued]; rfl
  refine ⟨⟨shows.asked, shows.conn.trans installed, shows.conns, congrArg (· + 1) shows.workers,
    fun other _ => congrFun shows.closedConn other, ?_, shows.unmade⟩, rfl, rfl, shows.closedConn,
    ?_, ?_⟩
  · rintro _ ⟨⟩
    exact shows.made link installed
  · funext worker
    rw [slept, shows.interval, shows.workers, queued]
    rfl
  · rintro _ ⟨⟩
    exact shows.opened link installed

theorem renewed {granted : Str} {left left' : Int} {worker : Nat} {slept slept' : Rat}
    (held : client.hold = .held link granted left worker slept)
    (sleeps : ∀ other, interval' other = if other = worker then some slept' else interval other) :
    Shows { client with asked := asked', hold := .held link granted left' worker slept' } asked'
      conn token left' conns workers closedConn interval' := by
  have installed : client.hold.conn = some link := by rw [held]; rfl
  have token := shows.token
  rw [held] at token
  refine ⟨⟨rfl, shows.conn.trans installed, shows.conns, shows.workers,
    fun other _ => congrFun shows.closedConn other, ?_, shows.unmade⟩, token, rfl,
    shows.closedConn, ?_, ?_⟩
  · rintro _ ⟨⟩
    exact shows.made link installed
  · funext other
    rw [sleeps, shows.interval, held]
    simp only [Hold.interval]
    split <;> rfl
  · rintro _ ⟨⟩
    exact shows.opened link installed

end Shows

end

end DflockdClient
