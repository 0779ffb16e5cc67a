import DflockdClient.Sharding

/-!
The low-level commands that `_sync.py` and `_async.py` share: what each writes on
a connection, how it reads the answer, and the attributes of a lock or semaphore.
-/

namespace DflockdClient

/-- The arguments of `command(cmd, key, arg, read_timeout=...)`. -/
structure Request where
  cmd : Str
  key : Str
  arg : Str
  readTimeout : Rat
  deriving DecidableEq

def ioSlackS : Rat := 30

def renewReadTimeoutS : Rat := 5

def releaseReadTimeoutS : Rat := ioSlackS

def defaultLeaseFallbackS : Int := 30

def authenticateRequest (authToken : Str) : Except PyError Request := do
  validateAuthToken authToken
  pure ⟨str "auth", str "_", authToken, ioSlackS⟩

def acquireRequest (key : Str) (acquireTimeoutS : Value) (leaseTtlS : Option Value) (pre : Str)
    (limit : Option Value) : Except PyError Request := do
  let limit ← validatePrefixLimit pre limit
  validateKey (str "key") key
  let (arg, seconds) ← makeAcquireArg acquireTimeoutS limit leaseTtlS
  pure ⟨← cmdName pre (str "l"), key, arg, seconds + ioSlackS⟩

def releaseRequest (key token pre : Str) : Except PyError Request := do
  validatePrefix pre
  validateKey (str "key") key
  validateToken token
  pure ⟨← cmdName pre (str "r"), key, token, releaseReadTimeoutS⟩

def renewRequest (key token : Str) (leaseTtlS : Option Value) (pre : Str) (readTimeout : Rat) :
    Except PyError Request := do
  validatePrefix pre
  validateKey (str "key") key
  let arg ← makeRenewArg token leaseTtlS
  pure ⟨← cmdName pre (str "n"), key, arg, readTimeout⟩

def enqueueRequest (key : Str) (leaseTtlS : Option Value) (pre : Str) (limit : Option Value) :
    Except PyError Request := do
  let limit ← validatePrefixLimit pre limit
  validateKey (str "key") key
  let arg ← makeEnqueueArg limit leaseTtlS
  pure ⟨← cmdName pre (str "e"), key, arg, ioSlackS⟩

def waitRequest (key : Str) (waitTimeoutS : Value) (pre : Str) : Except PyError Request := do
  validatePrefix pre
  validateKey (str "key") key
  let (arg, seconds) ← makeWaitArg waitTimeoutS
  pure ⟨← cmdName pre (str "w"), key, arg, seconds + ioSlackS⟩

inductive CommandKind
  | auth | acquire | enqueue | wait | renew | release
  deriving DecidableEq

/-- The command a frame carries, read off its first line. -/
def commandKind (cmd : Str) : Option CommandKind :=
  if cmd == str "auth" then some .auth
  else if cmd == str "l" || cmd == str "sl" then some .acquire
  else if cmd == str "e" || cmd == str "se" then some .enqueue
  else if cmd == str "w" || cmd == str "sw" then some .wait
  else if cmd == str "n" || cmd == str "sn" then some .renew
  else if cmd == str "r" || cmd == str "sr" then some .release
  else none

def renewInterval (lease : Int) (ratio : Rat) : Rat :=
  max 1 ((if lease > 0 then lease else defaultLeaseFallbackS) * ratio)

/-- The constructor's fields. A semaphore is an instance with a limit. -/
structure Params where
  key : Str
  acquireTimeoutS : Value := .int 10
  leaseTtlS : Option Value := none
  servers : List (Str × Value) := [(str "127.0.0.1", .int 6388)]
  shardingStrategy : Str → Nat → Except PyError Value
  renewRatio : Rat := 1 / 2
  authToken : Option Str := none
  connectTimeoutS : Value := .int 10
  limit : Option Value := none

namespace Params

variable (params : Params)

def pre : Str := if params.limit.isSome then str "s" else []

def acquireRequest : Except PyError Request :=
  DflockdClient.acquireRequest params.key params.acquireTimeoutS params.leaseTtlS params.pre
    params.limit

def enqueueRequest : Except PyError Request :=
  DflockdClient.enqueueRequest params.key params.leaseTtlS params.pre params.limit

def waitRequest (timeoutS : Value) : Except PyError Request :=
  DflockdClient.waitRequest params.key timeoutS params.pre

def renewRequest (token : Str) : Except PyError Request :=
  DflockdClient.renewRequest params.key token params.leaseTtlS params.pre renewReadTimeoutS

def releaseRequest (token : Str) : Except PyError Request :=
  DflockdClient.releaseRequest params.key token params.pre

def pickServer : Except PyError (Str × Value) := do
  let index ← params.shardingStrategy params.key params.servers.length
  let index ← validateShardIndex index params.servers.length
  match params.servers[index]? with
  | some server => pure server
  | none => throw ⟨.indexError, [.text (str "list index out of range")]⟩

def endpoint : Except PyError (Str × Int) := do
  let (host, port) ← params.pickServer
  validateConnectTimeoutS params.connectTimeoutS
  validateServerEndpoint host port

end Params

def grantedToken (cmd line : Str) : Option Str :=
  match commandKind cmd with
  | some .acquire | some .wait =>
      match parseGrantResponse line [] with
      | .ok (token, _) => some token
      | .error _ => none
  | some .enqueue =>
      match parseEnqueueResponse line [] with
      | .ok (.acquired token _) => some token
      | _ => none
  | _ => none

end DflockdClient
