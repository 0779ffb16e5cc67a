import Mathlib.Data.Rat.Defs
import Mathlib.Algebra.Order.Ring.Unbundled.Rat
import DflockdClient.Errors

/-!
`_protocol.py`: validators, encoders and decoders. Everything that can raise
returns an `Except`; the checks come in the order of the source.
-/

namespace DflockdClient

/-- A caller's number, as `isinstance` tells it apart. -/
inductive Value
  | int (value : Int)
  | bool (value : Bool)
  | float (value : Rat)
  | nonFinite
  | other
  deriving DecidableEq

def maxLineBytes : Nat := 256

def maxAuthTokenBytes : Nat := 64 * 1024

def maxResponseLineBytes : Nat := 1 * 1024 * 1024

def maxProtocolSeconds : Int := 9223372036

def byteLen (s : Str) : Except PyError Nat :=
  match encode s with
  | some bytes => .ok bytes.length
  | none => .error unicodeEncodeError

def hasWhitespace (s : Str) : Bool := s.any fun c => c == 0x20 || c == 9 || c == 10 || c == 13

def hasNewline (s : Str) : Bool := s.any fun c => c == 10 || c == 13

def checkNoNewlines (name value : Str) : Except PyError Unit :=
  if hasNewline value then
    .error (valueError [.text name, .text (str " must not contain newlines")])
  else .ok ()

def validateProtocolLine (name value : Str) (allowEmpty : Bool := true) : Except PyError Unit := do
  if !allowEmpty && value == [] then
    throw (valueError [.text name, .text (str " must not be empty")])
  checkNoNewlines name value
  if (← byteLen value) > maxLineBytes then
    throw (valueError [.text name, .text (str " too long (max 256 bytes)")])

def validateKey (name value : Str) : Except PyError Unit := do
  validateProtocolLine name value false
  if hasWhitespace value then
    throw (valueError [.text name, .text (str " must not contain whitespace")])

def validateToken (token : Str) : Except PyError Unit := do
  validateProtocolLine (str "token") token false
  if hasWhitespace token then
    throw (valueError [.text (str "token must not contain whitespace")])

def validateInt (name : Str) (value : Value) : Except PyError Int :=
  match value with
  | .int value => .ok value
  | _ => .error (typeError [.text name, .text (str " must be an integer")])

def validateSecondsRange (name : Str) (value minValue : Int) : Except PyError Unit := do
  if value < minValue then
    throw (valueError [.text name, .text (str " must be >= "),
      .text ((decimal minValue).getD [])])
  if value > maxProtocolSeconds then
    throw (valueError [.text name, .text (str " too large (max 9223372036)")])

def validateTimeoutS (name : Str) (value : Value) : Except PyError Int := do
  let seconds ← validateInt name value
  validateSecondsRange name seconds 0
  pure seconds

def validateLeaseTtlS (value : Option Value) : Except PyError (Option Int) :=
  match value with
  | none => pure none
  | some value => do
      let seconds ← validateInt (str "lease_ttl_s") value
      validateSecondsRange (str "lease_ttl_s") seconds 1
      pure (some seconds)

def validateSemaphoreLimit (limit : Value) : Except PyError Int := do
  let slots ← validateInt (str "limit") limit
  if slots ≤ 0 then
    throw (valueError [.text (str "limit must be > 0")])
  pure slots

def validateAuthToken (token : Str) : Except PyError Unit := do
  checkNoNewlines (str "auth token") token
  if (← byteLen token) > maxAuthTokenBytes then
    throw (valueError [.text (str "auth token too long (max 65536 bytes)")])

def validateConnectTimeoutS (value : Value) : Except PyError Unit := do
  let seconds ← match value with
    | .int value => pure (value : Rat)
    | .float value => pure value
    | .nonFinite => throw (valueError [.text (str "connect_timeout_s must be finite")])
    | _ => throw (typeError [.text (str "connect_timeout_s must be a number")])
  if seconds ≤ 0 then
    throw (valueError [.text (str "connect_timeout_s must be > 0")])
  if seconds > maxProtocolSeconds then
    throw (valueError [.text (str "connect_timeout_s too large (max 9223372036)")])

def validatePrefix (pre : Str) : Except PyError Unit :=
  if pre == [] || pre == str "s" then .ok ()
  else .error (valueError [.text (str "cmd_prefix must be '' or 's', got "), .repr pre])

def requireLimitForSemaphore (limit : Option Value) : Except PyError Int :=
  match limit with
  | none =>
      .error (valueError [.text (str "limit is required when cmd_prefix='s' (semaphore)")])
  | some limit => validateSemaphoreLimit limit

def validatePrefixLimit (pre : Str) (limit : Option Value) : Except PyError (Option Int) := do
  validatePrefix pre
  if pre == str "s" then
    pure (some (← requireLimitForSemaphore limit))
  else if limit.isSome then
    throw (valueError [.text (str "limit must not be set when cmd_prefix='' (lock)")])
  else pure none

def joinLines (lines : List Str) : Str := (lines.map (· ++ [10])).flatten

def encodeLines (lines : List Str) : Except PyError Bytes := do
  lines.forM fun line => checkNoNewlines (str "protocol argument") line
  match encode (joinLines lines) with
  | some bytes => pure bytes
  | none => throw unicodeEncodeError

def strInt (value : Int) : Except PyError Str :=
  match decimal value with
  | some digits => .ok digits
  | none => .error (valueError [.text (str "Exceeds the limit (4300 digits) for integer string conversion")])

def optionalInt (value : Option Int) : Except PyError (List Str) :=
  match value with
  | none => pure []
  | some value => do pure [← strInt value]

def buildAcquireArg (timeoutS : Int) (limit leaseTtlS : Option Int) : Except PyError Str := do
  let first ← strInt timeoutS
  let second ← optionalInt limit
  let third ← optionalInt leaseTtlS
  pure (joinSpaces (first :: second ++ third))

def buildRenewArg (token : Str) (leaseTtlS : Option Int) : Except PyError Str :=
  match leaseTtlS with
  | none => pure token
  | some seconds => do pure (token ++ str " " ++ (← strInt seconds))

def buildEnqueueArg (limit leaseTtlS : Option Int) : Except PyError Str := do
  let first ← optionalInt limit
  let second ← optionalInt leaseTtlS
  pure (joinSpaces (first ++ second))

def buildWaitArg (timeoutS : Int) : Except PyError Str := strInt timeoutS

def cmdName (pre op : Str) : Except PyError Str := do
  validatePrefix pre
  pure (pre ++ op)

def opLabel (pre op : Str) : Str := if pre == str "s" then str "sem_" ++ op else op

/-- The argument and the checked timeout, which also sets the read deadline. -/
def makeAcquireArg (timeoutS : Value) (limit : Option Int) (leaseTtlS : Option Value) :
    Except PyError (Str × Int) := do
  let seconds ← validateTimeoutS (str "acquire_timeout_s") timeoutS
  let lease ← validateLeaseTtlS leaseTtlS
  let arg ← buildAcquireArg seconds limit lease
  validateProtocolLine (str "acquire argument") arg
  pure (arg, seconds)

def makeRenewArg (token : Str) (leaseTtlS : Option Value) : Except PyError Str := do
  validateToken token
  let lease ← validateLeaseTtlS leaseTtlS
  let arg ← buildRenewArg token lease
  validateProtocolLine (str "renew argument") arg
  pure arg

def makeEnqueueArg (limit : Option Int) (leaseTtlS : Option Value) : Except PyError Str := do
  let lease ← validateLeaseTtlS leaseTtlS
  let arg ← buildEnqueueArg limit lease
  validateProtocolLine (str "enqueue argument") arg
  pure arg

def makeWaitArg (timeoutS : Value) : Except PyError (Str × Int) := do
  let seconds ← validateTimeoutS (str "wait_timeout_s") timeoutS
  let arg ← buildWaitArg seconds
  validateProtocolLine (str "wait argument") arg
  pure (arg, seconds)

def statusErrors : List (Str × ExcClass) :=
  [(str "error_auth", .authError), (str "error_max_locks", .maxLocksError),
    (str "error_max_waiters", .maxWaitersError),
    (str "error_limit_mismatch", .limitMismatchError),
    (str "error_not_enqueued", .notQueuedError),
    (str "error_already_enqueued", .alreadyQueuedError),
    (str "error_lease_expired", .leaseExpiredError), (str "error_draining", .drainingError)]

def statusError (operation resp : Str) : PyError :=
  ⟨(statusErrors.lookup resp).getD .dflockdError,
    [.text operation, .text (str " failed: "), .repr resp]⟩

def authError (resp : Str) : PyError :=
  if resp == str "error_draining" then
    ⟨.drainingError, [.text (str "authentication failed: "), .repr resp]⟩
  else ⟨.permissionError, [.text (str "authentication failed: "), .repr resp]⟩

def badResponse (op resp : Str) : PyError :=
  runtimeError [.text (str "bad "), .text op, .text (str " response: "), .repr resp]

def parseIntField (raw op resp : Str) (minValue : Int) : Except PyError Int :=
  match parseInt raw with
  | none => .error (badResponse op resp)
  | some value =>
      if value < minValue || value > maxProtocolSeconds then .error (badResponse op resp)
      else .ok value

def decodeTokenLease (resp status op : Str) : Except PyError (Str × Int) :=
  match split resp with
  | [first, token, lease] =>
      if first == status then do
        pure (token, ← parseIntField lease op resp 1)
      else .error (badResponse op resp)
  | _ => .error (badResponse op resp)

def decodeRemaining (resp op : Str) : Except PyError Int :=
  match split resp with
  | [first, remaining] =>
      if first == str "ok" then parseIntField remaining op resp 0
      else .error (badResponse op resp)
  | _ => .error (badResponse op resp)

def parseGrantResponse (resp op : Str) : Except PyError (Str × Int) :=
  if resp == str "timeout" then
    .error ⟨.dflockdTimeoutError, [.text (str "timeout in "), .text op]⟩
  else if !startswith resp (str "ok ") then .error (statusError op resp)
  else decodeTokenLease resp (str "ok") op

def parseRenewResponse (resp op : Str) : Except PyError Int :=
  if !startswith resp (str "ok") then .error (statusError op resp)
  else decodeRemaining resp op

/-- The answer to an enqueue: the token and lease of an immediate grant, or a place in the
queue. -/
inductive EnqueueStatus
  | acquired (token : Str) (lease : Int)
  | queued
  deriving DecidableEq

def parseEnqueueResponse (resp op : Str) : Except PyError EnqueueStatus :=
  if resp == str "queued" then .ok .queued
  else if startswith resp (str "acquired ") then do
    let (token, lease) ← decodeTokenLease resp (str "acquired") op
    pure (.acquired token lease)
  else .error (statusError op resp)

def parseReleaseResponse (resp op : Str) : Except PyError Unit :=
  if resp == str "ok" then .ok () else .error (statusError op resp)

def parseAuthResponse (resp : Str) : Except PyError Unit :=
  if resp == str "ok" then .ok () else .error (authError resp)

end DflockdClient
