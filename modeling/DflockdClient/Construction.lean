import Mathlib.Tactic.Linarith
import Mathlib.Tactic.NormNum
import Mathlib.Algebra.Order.Ring.Rat
import DflockdClient.Calls
import DflockdClient.Fence

/-!
What the constructors of locks and semaphores check, and which requests an
accepted instance can still fail to write.
-/

namespace DflockdClient

def validateRenewRatio (ratio : Rat) : Except PyError Unit :=
  if !(0 < ratio && ratio < 1) then
    .error (valueError [.text (str "renew_ratio must be between 0 and 1 (exclusive)")])
  else .ok ()

/-- What `__post_init__` of a semaphore does before that of its base. -/
def checkLimit (limit : Option Value) : Except PyError Unit :=
  match limit with
  | some limit => discard (validateSemaphoreLimit limit)
  | none => pure ()

def Params.postInit (params : Params) : Except PyError Unit := do
  checkLimit params.limit
  validateKey (str "key") params.key
  discard (validateTimeoutS (str "acquire_timeout_s") params.acquireTimeoutS)
  discard (validateLeaseTtlS params.leaseTtlS)
  validateConnectTimeoutS params.connectTimeoutS
  validateServers params.servers
  validateRenewRatio params.renewRatio

def maxPyTime : Int := 2 ^ 63 - 1

/-- `sock.settimeout(seconds)`, which rounds up to nanoseconds. -/
def settimeout (seconds : Rat) : Except PyError Unit :=
  if maxPyTime < seconds * 10 ^ 9 then
    .error ⟨.overflowError, [.text (str "timestamp too large to convert to C PyTime_t")]⟩
  else .ok ()

inductive Side
  | sync | async
  deriving DecidableEq

def Side.arm (side : Side) (readTimeout : Rat) : Except PyError Unit :=
  match side with
  | sync => settimeout readTimeout
  | async => .ok ()

/-- A request comes to be written. -/
def ReachesWire (side : Side) (built : Except PyError Request) : Prop :=
  ∃ request frame, built = .ok request ∧
    encodeLines [request.cmd, request.key, request.arg] = .ok frame ∧
    side.arm request.readTimeout = .ok ()

def HexToken (token : Str) : Prop := token.length = 32 ∧ ∀ c ∈ token, isHexDigit c = true

def Value.seconds? (value : Value) : Option Rat :=
  match value with
  | .int value => some value
  | .float value => some value
  | _ => none

/-- Nothing that an instance does on its connection fails before its frame is written. -/
structure Params.Complete (params : Params) (side : Side) : Prop where
  connected : ∃ seconds, params.connectTimeoutS.seconds? = some seconds ∧ side.arm seconds = .ok ()
  authenticated : ∀ authToken ∈ params.authToken, ReachesWire side (authenticateRequest authToken)
  acquired : ReachesWire side params.acquireRequest
  enqueued : ReachesWire side params.enqueueRequest
  waited : ReachesWire side (params.waitRequest params.acquireTimeoutS)
  renewed : ∀ token, HexToken token → ReachesWire side (params.renewRequest token)
  released : ∀ token, HexToken token → ReachesWire side (params.releaseRequest token)

def Value.digits (value : Value) : Nat :=
  match value with
  | .int value => (decimalNat value.natAbs).length
  | _ => 0

def Params.argumentBytes (params : Params) : Nat :=
  params.acquireTimeoutS.digits + (params.limit.elim 0 fun limit => 1 + limit.digits) +
    params.leaseTtlS.elim 0 fun lease => 1 + lease.digits

/-- What the constructor leaves unchecked. -/
structure Params.Checked (params : Params) (side : Side) : Prop where
  authToken : ∀ authToken ∈ params.authToken,
    hasNewline authToken = false ∧ Fits maxAuthTokenBytes authToken
  argument : params.argumentBytes ≤ maxLineBytes
  timeout : side = .sync → ∀ seconds, params.acquireTimeoutS = .int seconds → seconds ≤ 9223372006

theorem settimeout_iff {seconds : Rat} :
    settimeout seconds = .ok () ↔ seconds * 10 ^ 9 ≤ maxPyTime := by
  unfold settimeout
  split
  · rename_i long
    exact iff_of_false nofun (not_le.mpr long)
  · rename_i short
    exact iff_of_true rfl (not_lt.mp short)

theorem settimeout_int {seconds : Int} :
    settimeout seconds = .ok () ↔ seconds ≤ 9223372036 := by
  rw [settimeout_iff]
  have cast : (seconds : Rat) * 10 ^ 9 ≤ maxPyTime ↔ seconds * 10 ^ 9 ≤ maxPyTime := by
    constructor <;> intro bound <;> exact_mod_cast bound
  rw [cast, maxPyTime]
  omega

theorem settimeout_slack {seconds : Int} :
    settimeout (seconds + ioSlackS) = .ok () ↔ seconds ≤ 9223372006 := by
  have cast : (seconds : Rat) + ioSlackS = ((seconds + 30 : Int) : Rat) := by
    simp [ioSlackS]
  rw [cast, settimeout_int]
  omega

theorem arm_slack {side : Side} {seconds : Int} : side.arm (seconds + ioSlackS) = .ok () ↔
    (side = .sync → seconds ≤ 9223372006) := by
  cases side with
  | sync => simpa [Side.arm] using settimeout_slack
  | async => simp [Side.arm]

theorem arm_fixed {side : Side} {seconds : Int} (short : seconds ≤ 9223372036) :
    side.arm seconds = .ok () := by
  cases side with
  | sync => exact settimeout_int.mpr short
  | async => rfl

structure Params.Accepted (params : Params) (seconds : Int) (slots lease : Option Int) : Prop where
  key : Word params.key
  timeout : params.acquireTimeoutS = .int seconds ∧ 0 ≤ seconds ∧ seconds ≤ maxProtocolSeconds
  limit : validatePrefixLimit params.pre params.limit = .ok slots
  lease : validateLeaseTtlS params.leaseTtlS = .ok lease
  connect : validateConnectTimeoutS params.connectTimeoutS = .ok ()

theorem discard_ok {α : Type} {check : Except PyError α}
    (checked : (discard check : Except PyError PUnit) = .ok ()) : ∃ value, check = .ok value := by
  cases check with
  | ok value => exact ⟨value, rfl⟩
  | error error => cases checked

theorem postInit_accepted {params : Params} (accepted : params.postInit = .ok ()) :
    ∃ seconds slots lease, params.Accepted seconds slots lease := by
  unfold Params.postInit at accepted
  obtain ⟨limited, accepted⟩ := unit_bind_iff.mp accepted
  obtain ⟨word, accepted⟩ := unit_bind_iff.mp accepted
  obtain ⟨timed, accepted⟩ := unit_bind_iff.mp accepted
  obtain ⟨leased, accepted⟩ := unit_bind_iff.mp accepted
  obtain ⟨connect, _⟩ := unit_bind_iff.mp accepted
  obtain ⟨seconds, timed⟩ := discard_ok timed
  obtain ⟨lease, leased⟩ := discard_ok leased
  obtain ⟨slots, limited⟩ : ∃ slots, validatePrefixLimit params.pre params.limit = .ok slots := by
    cases given : params.limit with
    | none =>
        refine ⟨none, validatePrefixLimit_iff.mpr ⟨rfl, .inl ⟨?_, rfl⟩⟩⟩
        simp [Params.pre, given]
    | some limit =>
        simp only [given, checkLimit] at limited
        obtain ⟨count, checked⟩ := discard_ok limited
        obtain ⟨rfl, positive⟩ := validateSemaphoreLimit_iff.mp checked
        refine ⟨some count, validatePrefixLimit_iff.mpr ⟨rfl, .inr ⟨?_, count, positive, rfl⟩⟩⟩
        simp [Params.pre, given]
  exact ⟨seconds, slots, lease, validateKey_iff.mp word, validateTimeoutS_iff.mp timed, limited,
    leased, connect⟩

def decimalOf (value : Int) : Str := decimalNat value.natAbs

def decimals (value : Option Int) : List Str := (value.map decimalOf).toList

theorem strInt_iff {value : Int} {digits : Str} (natural : 0 ≤ value) : strInt value = .ok digits ↔
    digits = decimalOf value ∧ (decimalOf value).length ≤ maxIntDigits := by
  obtain ⟨n, rfl⟩ := Int.eq_ofNat_of_zero_le natural
  exact strInt_natCast

theorem optionalInt_iff {value : Option Int} {parts : List Str}
    (natural : ∀ number ∈ value, 0 ≤ number) : optionalInt value = .ok parts ↔
      parts = decimals value ∧ ∀ part ∈ decimals value, part.length ≤ maxIntDigits := by
  cases value with
  | none => simp [optionalInt, decimals, pure_iff]
  | some number =>
      simp only [optionalInt, Except.bind_ok_iff, pure_iff, strInt_iff (natural number rfl),
        decimals, Option.map_some, Option.toList_some, List.mem_singleton, forall_eq]
      constructor
      · rintro ⟨digits, ⟨rfl, short⟩, rfl⟩
        exact ⟨rfl, short⟩
      · rintro ⟨rfl, short⟩
        exact ⟨_, ⟨rfl, short⟩, rfl⟩

theorem joinSpaces_length (first : Str) (rest : List Str) :
    (joinSpaces (first :: rest)).length =
      first.length + (rest.map fun part => 1 + part.length).sum := by
  induction rest generalizing first with
  | nil => simp [joinSpaces]
  | cons next rest ih =>
      have joined : joinSpaces (first :: next :: rest) = first ++ str " " ++ joinSpaces (next :: rest) := by
        simp [joinSpaces]
      have space : (str " ").length = 1 := rfl
      rw [joined, List.length_append, List.length_append, ih, space, List.map_cons, List.sum_cons]
      omega

theorem joinSpaces_plain {parts : List Str} (ascii : ∀ part ∈ parts, ∀ c ∈ part, AsciiDigit c) :
    ∀ c ∈ joinSpaces parts, 0x20 ≤ c ∧ c < 0x80 := by
  have digit : ∀ c, AsciiDigit c → 0x20 ≤ c ∧ c < 0x80 := by
    rintro c ⟨low, high⟩
    omega
  induction parts with
  | nil => simp [joinSpaces]
  | cons first rest ih =>
      simp only [List.mem_cons, forall_eq_or_imp] at ascii
      cases rest with
      | nil =>
          have alone : joinSpaces [first] = first := by simp [joinSpaces]
          rw [alone]
          exact fun c member => digit c (ascii.1 c member)
      | cons next rest =>
          have joined : joinSpaces (first :: next :: rest) =
              first ++ str " " ++ joinSpaces (next :: rest) := by
            simp [joinSpaces]
          intro c member
          rw [joined, List.mem_append, List.mem_append] at member
          rcases member with (before | space) | after
          · exact digit c (ascii.1 c before)
          · have same : c = 0x20 := List.mem_singleton.mp space
            omega
          · exact ih ascii.2 c after

theorem line_iff {text : Str} (plain : ∀ c ∈ text, 0x20 ≤ c ∧ c < 0x80) :
    Line text ↔ text.length ≤ maxLineBytes := by
  constructor
  · rintro ⟨_, bytes, encoded, short⟩
    rw [encode_ascii fun c member => (plain c member).2] at encoded
    cases encoded
    simpa using short
  · exact line_plain plain

theorem decimals_ascii (value : Option Int) : ∀ part ∈ decimals value, ∀ c ∈ part, AsciiDigit c := by
  cases value with
  | none => simp [decimals]
  | some number =>
      simp only [decimals, Option.map_some, Option.toList_some, List.mem_singleton, forall_eq]
      exact decimalNat_ascii _

theorem decimals_length (value : Option Int) : ∀ part ∈ decimals value,
    part.length ≤ ((decimals value).map fun part => 1 + part.length).sum := by
  cases value with
  | none => simp [decimals]
  | some number => simp [decimals]

theorem buildAcquireArg_line {seconds : Int} {slots lease : Option Int} (natural : 0 ≤ seconds)
    (slotsNatural : ∀ count ∈ slots, 0 ≤ count) (leaseNatural : ∀ ttl ∈ lease, 0 ≤ ttl) :
    (∃ arg, buildAcquireArg seconds slots lease = .ok arg ∧ Line arg) ↔
      (joinSpaces (decimalOf seconds :: (decimals slots ++ decimals lease))).length ≤
        maxLineBytes := by
  have plain := @joinSpaces_plain (decimalOf seconds :: (decimals slots ++ decimals lease)) (by
    simp only [List.mem_cons, List.mem_append, forall_eq_or_imp]
    refine ⟨decimalNat_ascii _, fun part member => ?_⟩
    rcases member with first | second
    · exact decimals_ascii slots part first
    · exact decimals_ascii lease part second)
  constructor
  · rintro ⟨arg, built, line⟩
    obtain ⟨first, firstEq, built⟩ := Except.bind_eq_ok built
    obtain ⟨second, secondEq, built⟩ := Except.bind_eq_ok built
    obtain ⟨third, thirdEq, same⟩ := Except.bind_eq_ok built
    obtain ⟨rfl, _⟩ := (strInt_iff natural).mp firstEq
    obtain ⟨rfl, _⟩ := (optionalInt_iff slotsNatural).mp secondEq
    obtain ⟨rfl, _⟩ := (optionalInt_iff leaseNatural).mp thirdEq
    cases same
    exact (line_iff plain).mp line
  · intro short
    have parts := short
    rw [joinSpaces_length, List.map_append, List.sum_append] at parts
    simp only [maxLineBytes] at parts
    refine ⟨_, ?_, (line_iff plain).mpr short⟩
    refine Except.bind_ok_iff.mpr ⟨_, (strInt_iff natural).mpr ⟨rfl, ?_⟩, ?_⟩
    · simp only [maxIntDigits]
      omega
    refine Except.bind_ok_iff.mpr ⟨_, (optionalInt_iff slotsNatural).mpr ⟨rfl, ?_⟩, ?_⟩
    · intro part member
      have bound := decimals_length slots part member
      simp only [maxIntDigits]
      omega
    refine Except.bind_ok_iff.mpr ⟨_, (optionalInt_iff leaseNatural).mpr ⟨rfl, ?_⟩, rfl⟩
    intro part member
    have bound := decimals_length lease part member
    simp only [maxIntDigits]
    omega

theorem lines_encode {cmd key arg : Str} {limit : Nat} (cmdLine : Line cmd) (keyLine : Line key)
    (argLine : hasNewline arg = false ∧ Fits limit arg) :
    ∃ frame, encodeLines [cmd, key, arg] = .ok frame := by
  obtain ⟨clean, first, firstEq, _⟩ := cmdLine
  obtain ⟨clean', second, secondEq, _⟩ := keyLine
  obtain ⟨clean'', third, thirdEq, _⟩ := argLine
  exact ⟨_, encodeLines_three (by simp [clean, clean', clean'']) firstEq secondEq thirdEq⟩

theorem ReachesWire.of {side : Side} {built : Except PyError Request} {request : Request}
    {limit : Nat} (made : built = .ok request) (cmdLine : Line request.cmd)
    (keyLine : Line request.key) (argLine : hasNewline request.arg = false ∧ Fits limit request.arg)
    (armed : side.arm request.readTimeout = .ok ()) : ReachesWire side built := by
  obtain ⟨frame, encoded⟩ := lines_encode cmdLine keyLine argLine
  exact ⟨request, frame, made, encoded, armed⟩

theorem validateConnectTimeoutS_seconds {value : Value}
    (valid : validateConnectTimeoutS value = .ok ()) :
    ∃ seconds, value.seconds? = some seconds ∧ seconds ≤ maxProtocolSeconds := by
  have range : ∀ seconds : Rat, (do
      if seconds ≤ 0 then throw (valueError [.text (str "connect_timeout_s must be > 0")])
      if seconds > maxProtocolSeconds then
        throw (valueError [.text (str "connect_timeout_s too large (max 9223372036)")]) :
      Except PyError Unit) = .ok () → seconds ≤ maxProtocolSeconds := by
    intro seconds checked
    by_cases low : seconds ≤ 0
    · rw [if_pos low] at checked
      cases checked
    · rw [if_neg low] at checked
      exact not_lt.mp (guard_ok.mp checked)
  cases value with
  | int value => exact ⟨value, rfl, range value valid⟩
  | float value => exact ⟨value, rfl, range value valid⟩
  | bool _ => cases valid
  | nonFinite => cases valid
  | other => cases valid

theorem HexToken.word {token : Str} (hex : HexToken token) : Word token := by
  obtain ⟨length, digits⟩ := hex
  have plain : ∀ c ∈ token, 0x20 < c ∧ c < 0x80 := by
    intro c member
    have digit := isHexDigit_iff.mp (digits c member)
    omega
  refine ⟨?_, ?_, ?_⟩
  · rintro rfl
    cases length
  · simp only [hasWhitespace, List.any_eq_false, Bool.or_eq_true, beq_iff_eq, not_or]
    intro c member
    have visible := (plain c member).1
    omega
  · exact fits_ascii (fun c member => (plain c member).2) (by simp [length, maxLineBytes])

section

variable {params : Params} {side : Side} {seconds : Int} {slots lease : Option Int}

namespace Params.Accepted

theorem prefix_valid (accepted : params.Accepted seconds slots lease) :
    params.pre = [] ∨ params.pre = str "s" :=
  prefix_of_limit accepted.limit

theorem argumentBytes (accepted : params.Accepted seconds slots lease) :
    params.argumentBytes =
      (joinSpaces (decimalOf seconds :: (decimals slots ++ decimals lease))).length := by
  obtain ⟨limit, _⟩ := validatePrefixLimit_iff.mp accepted.limit
  obtain ⟨ttl, _⟩ := validateLeaseTtlS_iff.mp accepted.lease
  have optional : ∀ value : Option Int, ((value.map Value.int).elim 0 fun value => 1 + value.digits) =
      ((decimals value).map fun part => 1 + part.length).sum := by
    intro value
    cases value <;> simp [decimals, decimalOf, Value.digits]
  rw [joinSpaces_length, Params.argumentBytes, limit, ttl, accepted.timeout.1, optional, optional,
    List.map_append, List.sum_append, Nat.add_assoc]
  rfl

theorem timed (accepted : params.Accepted seconds slots lease) (name : Str) :
    validateTimeoutS name params.acquireTimeoutS = .ok seconds :=
  validateTimeoutS_iff.mpr accepted.timeout

theorem acquire (accepted : params.Accepted seconds slots lease) :
    ReachesWire side params.acquireRequest ↔ params.argumentBytes ≤ maxLineBytes ∧
      (side = .sync → seconds ≤ 9223372006) := by
  have slotsNatural := slots_natural accepted.limit
  have leaseNatural := lease_natural accepted.lease
  rw [accepted.argumentBytes,
    ← buildAcquireArg_line accepted.timeout.2.1 slotsNatural leaseNatural]
  constructor
  · rintro ⟨request, frame, built, _, armed⟩
    obtain ⟨slots', seconds', lease', arg, limited, _, timed, leased, argued, line, rfl⟩ :=
      acquireRequest_iff.mp built
    rw [accepted.limit] at limited
    rw [accepted.timed] at timed
    rw [accepted.lease] at leased
    cases limited
    cases timed
    cases leased
    exact ⟨⟨arg, argued, line⟩, arm_slack.mp armed⟩
  · rintro ⟨⟨arg, argued, line⟩, bound⟩
    exact .of (acquireRequest_iff.mpr ⟨slots, seconds, lease, arg, accepted.limit, accepted.key,
      accepted.timed _, accepted.lease, argued, line, rfl⟩)
      (line_cmd accepted.prefix_valid (by simp)) accepted.key.line line (arm_slack.mpr bound)

theorem enqueue (accepted : params.Accepted seconds slots lease)
    (fits : params.argumentBytes ≤ maxLineBytes) : ReachesWire side params.enqueueRequest := by
  have slotsNatural := slots_natural accepted.limit
  have leaseNatural := lease_natural accepted.lease
  rw [accepted.argumentBytes, joinSpaces_length, List.map_append, List.sum_append] at fits
  simp only [maxLineBytes] at fits
  have plain := @joinSpaces_plain (decimals slots ++ decimals lease) (by
    intro part member
    rcases List.mem_append.mp member with first | second
    · exact decimals_ascii slots part first
    · exact decimals_ascii lease part second)
  have short : (joinSpaces (decimals slots ++ decimals lease)).length ≤
      ((decimals slots ++ decimals lease).map fun part => 1 + part.length).sum := by
    cases decimals slots ++ decimals lease with
    | nil => simp [joinSpaces]
    | cons first rest =>
        rw [joinSpaces_length, List.map_cons, List.sum_cons]
        omega
  rw [List.map_append, List.sum_append] at short
  have line := line_plain plain (by simp only [maxLineBytes]; omega)
  have built : buildEnqueueArg slots lease = .ok (joinSpaces (decimals slots ++ decimals lease)) := by
    refine Except.bind_ok_iff.mpr ⟨_, (optionalInt_iff slotsNatural).mpr ⟨rfl, ?_⟩, ?_⟩
    · intro part member
      have bound := decimals_length slots part member
      simp only [maxIntDigits]
      omega
    refine Except.bind_ok_iff.mpr ⟨_, (optionalInt_iff leaseNatural).mpr ⟨rfl, ?_⟩, rfl⟩
    intro part member
    have bound := decimals_length lease part member
    simp only [maxIntDigits]
    omega
  exact .of (enqueueRequest_iff.mpr ⟨slots, lease, _, accepted.limit, accepted.key, accepted.lease,
    built, line, rfl⟩)
    (line_cmd accepted.prefix_valid (by simp)) accepted.key.line line
    (@arm_fixed side 30 (by omega))

theorem wait (accepted : params.Accepted seconds slots lease)
    (bound : side = .sync → seconds ≤ 9223372006) :
    ReachesWire side (params.waitRequest params.acquireTimeoutS) := by
  obtain ⟨digits, written, short⟩ := strInt_seconds accepted.timeout.2.1 accepted.timeout.2.2
  obtain ⟨_, ascii, _⟩ := strInt_reads accepted.timeout.2.1 written
  have line : Line digits := by
    refine line_plain (fun c member => ?_) (by simp only [maxLineBytes]; omega)
    obtain ⟨low, high⟩ := ascii c member
    omega
  exact .of (waitRequest_iff.mpr ⟨seconds, digits, accepted.prefix_valid, accepted.key,
    accepted.timed _, written, line, rfl⟩)
    (line_cmd accepted.prefix_valid (by simp)) accepted.key.line line (arm_slack.mpr bound)

theorem release (accepted : params.Accepted seconds slots lease) {token : Str}
    (hex : HexToken token) : ReachesWire side (params.releaseRequest token) := by
  have armed : side.arm releaseReadTimeoutS = .ok () := @arm_fixed side 30 (by omega)
  exact .of (releaseRequest_iff.mpr ⟨accepted.prefix_valid, accepted.key, hex.word, rfl⟩)
    (line_cmd accepted.prefix_valid (by simp)) accepted.key.line hex.word.line armed

theorem renew (accepted : params.Accepted seconds slots lease) {token : Str}
    (hex : HexToken token) : ReachesWire side (params.renewRequest token) := by
  have armed : side.arm renewReadTimeoutS = .ok () := @arm_fixed side 5 (by omega)
  obtain ⟨arg, built, line⟩ : ∃ arg, buildRenewArg token lease = .ok arg ∧ Line arg := by
    cases given : lease with
    | none => exact ⟨token, rfl, hex.word.line⟩
    | some ttl =>
        subst given
        have range := (validateLeaseTtlS_iff.mp accepted.lease).2 ttl rfl
        obtain ⟨digits, written, short⟩ := strInt_seconds (by omega) range.2
        obtain ⟨_, ascii, _⟩ := strInt_reads (by omega) written
        refine ⟨_, Except.bind_ok_iff.mpr ⟨digits, written, rfl⟩, line_plain ?_ ?_⟩
        · intro c member
          rw [List.mem_append, List.mem_append] at member
          rcases member with (letter | space) | digit
          · have hexadecimal := isHexDigit_iff.mp (hex.2 c letter)
            omega
          · have same : c = 0x20 := List.mem_singleton.mp space
            omega
          · obtain ⟨low, high⟩ := ascii c digit
            omega
        · have space : (str " ").length = 1 := rfl
          rw [List.length_append, List.length_append, hex.1, space]
          simp only [maxLineBytes]
          omega
  exact .of (renewRequest_iff.mpr ⟨lease, arg, accepted.prefix_valid, accepted.key, hex.word,
    accepted.lease, built, line, rfl⟩)
    (line_cmd accepted.prefix_valid (by simp)) accepted.key.line line armed

theorem connected (accepted : params.Accepted seconds slots lease) (side : Side) :
    ∃ seconds, params.connectTimeoutS.seconds? = some seconds ∧ side.arm seconds = .ok () := by
  obtain ⟨seconds, known, bound⟩ := validateConnectTimeoutS_seconds accepted.connect
  refine ⟨seconds, known, ?_⟩
  cases side with
  | async => rfl
  | sync =>
      refine settimeout_iff.mpr ?_
      simp only [maxProtocolSeconds, maxPyTime] at bound ⊢
      push_cast at bound ⊢
      linarith

end Params.Accepted

theorem authenticate_reaches {authToken : Str} : ReachesWire side (authenticateRequest authToken) ↔
    hasNewline authToken = false ∧ Fits maxAuthTokenBytes authToken := by
  constructor
  · rintro ⟨request, _, built, _⟩
    exact (authenticateRequest_iff.mp built).1
  · intro checked
    have auth : Line (str "auth") := line_plain (by decide) (by decide)
    have placeholder : Line (str "_") := line_plain (by decide) (by decide)
    exact .of (authenticateRequest_iff.mpr ⟨checked, rfl⟩) auth placeholder checked
      (@arm_fixed side 30 (by omega))

/-- An accepted instance comes to write all its requests exactly when the fields that its
constructor leaves unchecked are within the limits. -/
theorem construction_complete (side : Side) (accepted : params.postInit = .ok ()) :
    params.Complete side ↔ params.Checked side := by
  obtain ⟨seconds, slots, lease, accepted⟩ := postInit_accepted accepted
  constructor
  · intro complete
    obtain ⟨argument, timeout⟩ := accepted.acquire.mp complete.acquired
    refine ⟨fun authToken given => authenticate_reaches.mp (complete.authenticated authToken given),
      argument, fun sync seconds' given => ?_⟩
    rw [accepted.timeout.1] at given
    cases given
    exact timeout sync
  · intro checked
    have timeout : side = .sync → seconds ≤ 9223372006 :=
      fun sync => checked.timeout sync seconds accepted.timeout.1
    exact ⟨accepted.connected side,
      fun authToken given => authenticate_reaches.mpr (checked.authToken authToken given),
      accepted.acquire.mpr ⟨checked.argument, timeout⟩, accepted.enqueue checked.argument,
      accepted.wait timeout, fun _ hex => accepted.renew hex, fun _ hex => accepted.release hex⟩

def plainLock : Params where
  key := str "k"
  shardingStrategy := fun _ _ => .ok (.int 0)

example : plainLock.postInit = .ok () := by decide +kernel

def guardedSemaphore : Params := { plainLock with
  leaseTtlS := some (.int 30)
  authToken := some (str "secret")
  limit := some (.int 5) }

theorem guardedSemaphore_checked : guardedSemaphore.Checked .sync := by
  refine ⟨fun authToken given => ?_, by decide +kernel, fun _ seconds same => ?_⟩
  · cases given
    exact ⟨by decide, _, rfl, by decide⟩
  · cases same
    decide

theorem construction_complete_demo : guardedSemaphore.Complete .sync :=
  (construction_complete .sync (by decide +kernel)).mpr guardedSemaphore_checked

def longestWait : Params := { plainLock with acquireTimeoutS := .int 9223372036 }

theorem longestWait_fails : longestWait.postInit = .ok () ∧ ¬longestWait.Complete .sync := by
  have constructed : longestWait.postInit = .ok () := by decide +kernel
  refine ⟨constructed, fun complete => ?_⟩
  obtain ⟨seconds, slots, lease, accepted⟩ := postInit_accepted constructed
  have bound := (accepted.acquire.mp complete.acquired).2 rfl
  have same := accepted.timeout.1
  cases same
  contradiction

end

end DflockdClient
