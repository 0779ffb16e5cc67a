import DflockdClient.Commands

/-!
What the low-level commands raise, which command each of them sends, and what
its answer grants.
-/

namespace DflockdClient

/-- Raises nothing but what `except Exception` catches. -/
def Ordinary {α : Type} (outcome : Except PyError α) : Prop :=
  ∀ error, outcome = .error error → error.isException = true

namespace Ordinary

variable {α β : Type}

@[simp] theorem ok (value : α) : Ordinary (.ok value) := by
  intro error failed
  cases failed

@[simp] theorem pure (value : α) : Ordinary (pure value) := ok value

@[simp] theorem error_iff {error : PyError} :
    Ordinary (.error error : Except PyError α) ↔ error.isException = true := by
  constructor
  · intro ordinary
    exact ordinary error rfl
  · rintro exception _ ⟨⟩
    exact exception

@[simp] theorem throw_iff {error : PyError} :
    Ordinary (throw error : Except PyError α) ↔ error.isException = true := error_iff

theorem bind {first : Except PyError α} {rest : α → Except PyError β} (before : Ordinary first)
    (after : ∀ value, Ordinary (rest value)) : Ordinary (first >>= rest) := by
  cases first with
  | ok value => exact after value
  | error error =>
      rintro _ ⟨⟩
      exact before error rfl

theorem ite {condition : Prop} [Decidable condition] {first second : Except PyError α}
    (left : Ordinary first) (right : Ordinary second) :
    Ordinary (if condition then first else second) := by
  split
  · exact left
  · exact right

end Ordinary

@[simp] theorem valueError_isException (message : List Piece) :
    (valueError message).isException = true := rfl

@[simp] theorem typeError_isException (message : List Piece) :
    (typeError message).isException = true := rfl

@[simp] theorem runtimeError_isException (message : List Piece) :
    (runtimeError message).isException = true := rfl

@[simp] theorem badResponse_isException (op resp : Str) :
    (badResponse op resp).isException = true := rfl

theorem statusError_isException (operation resp : Str) :
    (statusError operation resp).isException = true := by
  have known : ∀ cls ∈ statusErrors.map Prod.snd, cls.isException = true := by decide
  simp only [statusError, PyError.isException]
  cases found : statusErrors.lookup resp with
  | none => rfl
  | some cls =>
      apply known
      obtain ⟨before, after, same, _⟩ := List.lookup_eq_some_iff.mp found
      simp [same]

theorem ordinary_byteLen (s : Str) : Ordinary (byteLen s) := by
  unfold byteLen
  split
  · exact .ok _
  · exact Ordinary.error_iff.mpr rfl

theorem ordinary_checkNoNewlines (name value : Str) : Ordinary (checkNoNewlines name value) := by
  unfold checkNoNewlines
  apply Ordinary.ite <;> simp

theorem ordinary_validateProtocolLine (name value : Str) (allowEmpty : Bool) :
    Ordinary (validateProtocolLine name value allowEmpty) := by
  unfold validateProtocolLine
  have rest : Ordinary (do
      checkNoNewlines name value
      if (← byteLen value) > maxLineBytes then
        throw (valueError [.text name, .text (str " too long (max 256 bytes)")])) := by
    refine (ordinary_checkNoNewlines name value).bind fun _ => ?_
    refine (ordinary_byteLen value).bind fun _ => ?_
    apply Ordinary.ite <;> simp
  exact .ite (.bind (Ordinary.throw_iff.mpr rfl) fun _ => rest) rest

theorem ordinary_validateKey (name value : Str) : Ordinary (validateKey name value) := by
  refine (ordinary_validateProtocolLine name value false).bind fun _ => ?_
  apply Ordinary.ite <;> simp

theorem ordinary_validateToken (token : Str) : Ordinary (validateToken token) := by
  refine (ordinary_validateProtocolLine (str "token") token false).bind fun _ => ?_
  apply Ordinary.ite <;> simp

theorem ordinary_validatePrefix (pre : Str) : Ordinary (validatePrefix pre) := by
  unfold validatePrefix
  apply Ordinary.ite <;> simp

theorem ordinary_cmdName (pre op : Str) : Ordinary (cmdName pre op) :=
  (ordinary_validatePrefix pre).bind fun _ => .pure _

theorem ordinary_strInt (value : Int) : Ordinary (strInt value) := by
  unfold strInt
  split <;> simp

theorem ordinary_validateSecondsRange (name : Str) (value minValue : Int) :
    Ordinary (validateSecondsRange name value minValue) := by
  have rest : Ordinary (if value > maxProtocolSeconds then
      throw (valueError [.text name, .text (str " too large (max 9223372036)")])
      else (pure () : Except PyError Unit)) := by
    apply Ordinary.ite <;> simp
  exact .ite (.bind (Ordinary.throw_iff.mpr rfl) fun _ => rest) rest

theorem ordinary_validateLeaseTtlS (value : Option Value) : Ordinary (validateLeaseTtlS value) := by
  unfold validateLeaseTtlS
  split
  · exact .pure _
  · refine Ordinary.bind ?_ fun seconds => Ordinary.bind ?_ fun _ => .pure _
    · unfold validateInt
      split <;> simp
    · exact ordinary_validateSecondsRange _ seconds 1

theorem ordinary_buildRenewArg (token : Str) (lease : Option Int) :
    Ordinary (buildRenewArg token lease) := by
  unfold buildRenewArg
  split
  · exact .pure _
  · exact (ordinary_strInt _).bind fun _ => .pure _

theorem ordinary_makeRenewArg (token : Str) (lease : Option Value) :
    Ordinary (makeRenewArg token lease) := by
  refine (ordinary_validateToken token).bind fun _ => ?_
  refine (ordinary_validateLeaseTtlS lease).bind fun lease => ?_
  refine (ordinary_buildRenewArg token lease).bind fun arg => ?_
  exact (ordinary_validateProtocolLine _ arg true).bind fun _ => .pure _

theorem ordinary_releaseRequest (key token pre : Str) : Ordinary (releaseRequest key token pre) := by
  refine (ordinary_validatePrefix pre).bind fun _ => ?_
  refine (ordinary_validateKey (str "key") key).bind fun _ => ?_
  refine (ordinary_validateToken token).bind fun _ => ?_
  exact (ordinary_cmdName pre (str "r")).bind fun _ => .pure _

theorem ordinary_renewRequest (key token : Str) (lease : Option Value) (pre : Str)
    (readTimeout : Rat) : Ordinary (renewRequest key token lease pre readTimeout) := by
  refine (ordinary_validatePrefix pre).bind fun _ => ?_
  refine (ordinary_validateKey (str "key") key).bind fun _ => ?_
  refine (ordinary_makeRenewArg token lease).bind fun _ => ?_
  exact (ordinary_cmdName pre (str "n")).bind fun _ => .pure _

theorem ordinary_encodeLines (lines : List Str) : Ordinary (encodeLines lines) := by
  have checks : Ordinary (lines.forM fun line =>
      checkNoNewlines (str "protocol argument") line) := by
    induction lines with
    | nil => exact .pure _
    | cons line rest ih => exact (ordinary_checkNoNewlines _ line).bind fun _ => ih
  refine checks.bind fun _ => ?_
  split
  · exact .pure _
  · exact Ordinary.throw_iff.mpr rfl

theorem ordinary_parseReleaseResponse (resp op : Str) : Ordinary (parseReleaseResponse resp op) := by
  unfold parseReleaseResponse
  apply Ordinary.ite <;> simp [statusError_isException]

theorem ordinary_parseIntField (raw op resp : Str) (minValue : Int) :
    Ordinary (parseIntField raw op resp minValue) := by
  unfold parseIntField
  split
  · simp
  · apply Ordinary.ite <;> simp

theorem ordinary_parseRenewResponse (resp op : Str) : Ordinary (parseRenewResponse resp op) := by
  unfold parseRenewResponse decodeRemaining
  apply Ordinary.ite
  · simp [statusError_isException]
  · split
    · exact .ite (ordinary_parseIntField _ _ _ _) (by simp)
    · simp

theorem Except.bind_eq_ok {α β : Type} {first : Except PyError α} {rest : α → Except PyError β}
    {value : β} (done : (first >>= rest) = .ok value) :
    ∃ middle, first = .ok middle ∧ rest middle = .ok value := by
  cases first with
  | ok middle => exact ⟨middle, rfl, done⟩
  | error error => cases done

theorem cmdName_kind {pre op cmd : Str} {kind : CommandKind}
    (plain : commandKind op = some kind) (semaphore : commandKind (str "s" ++ op) = some kind)
    (done : cmdName pre op = .ok cmd) : commandKind cmd = some kind := by
  obtain ⟨_, valid, same⟩ := Except.bind_eq_ok done
  cases same
  unfold validatePrefix at valid
  split at valid
  · rename_i known
    simp only [Bool.or_eq_true, beq_iff_eq] at known
    rcases known with rfl | rfl
    · exact plain
    · exact semaphore
  · cases valid

theorem authenticateRequest_kind {authToken : Str} {request : Request}
    (built : authenticateRequest authToken = .ok request) :
    commandKind request.cmd = some .auth := by
  obtain ⟨_, _, same⟩ := Except.bind_eq_ok built
  cases same
  rfl

theorem acquireRequest_kind {key pre : Str} {timeoutS : Value} {lease limit : Option Value}
    {request : Request} (built : acquireRequest key timeoutS lease pre limit = .ok request) :
    commandKind request.cmd = some .acquire := by
  obtain ⟨_, _, built⟩ := Except.bind_eq_ok built
  obtain ⟨_, _, built⟩ := Except.bind_eq_ok built
  obtain ⟨⟨arg, seconds⟩, _, built⟩ := Except.bind_eq_ok built
  obtain ⟨cmd, named, same⟩ := Except.bind_eq_ok built
  cases same
  exact cmdName_kind (by decide) (by decide) named

theorem enqueueRequest_kind {key pre : Str} {lease limit : Option Value} {request : Request}
    (built : enqueueRequest key lease pre limit = .ok request) :
    commandKind request.cmd = some .enqueue := by
  obtain ⟨_, _, built⟩ := Except.bind_eq_ok built
  obtain ⟨_, _, built⟩ := Except.bind_eq_ok built
  obtain ⟨arg, _, built⟩ := Except.bind_eq_ok built
  obtain ⟨cmd, named, same⟩ := Except.bind_eq_ok built
  cases same
  exact cmdName_kind (by decide) (by decide) named

theorem waitRequest_kind {key pre : Str} {timeoutS : Value} {request : Request}
    (built : waitRequest key timeoutS pre = .ok request) :
    commandKind request.cmd = some .wait := by
  obtain ⟨_, _, built⟩ := Except.bind_eq_ok built
  obtain ⟨_, _, built⟩ := Except.bind_eq_ok built
  obtain ⟨⟨arg, seconds⟩, _, built⟩ := Except.bind_eq_ok built
  obtain ⟨cmd, named, same⟩ := Except.bind_eq_ok built
  cases same
  exact cmdName_kind (by decide) (by decide) named

theorem releaseRequest_ok {key token pre : Str} {request : Request}
    (built : releaseRequest key token pre = .ok request) :
    commandKind request.cmd = some .release ∧ request.arg = token := by
  obtain ⟨_, _, built⟩ := Except.bind_eq_ok built
  obtain ⟨_, _, built⟩ := Except.bind_eq_ok built
  obtain ⟨_, _, built⟩ := Except.bind_eq_ok built
  obtain ⟨cmd, named, same⟩ := Except.bind_eq_ok built
  cases same
  exact ⟨cmdName_kind (by decide) (by decide) named, rfl⟩

theorem renewRequest_ok {key token pre : Str} {leaseTtlS : Option Value} {readTimeout : Rat}
    {request : Request} (built : renewRequest key token leaseTtlS pre readTimeout = .ok request) :
    commandKind request.cmd = some .renew ∧ request.key = key ∧
      ∃ lease, validateLeaseTtlS leaseTtlS = .ok lease ∧
        buildRenewArg token lease = .ok request.arg := by
  obtain ⟨_, _, built⟩ := Except.bind_eq_ok built
  obtain ⟨_, _, built⟩ := Except.bind_eq_ok built
  obtain ⟨arg, made, built⟩ := Except.bind_eq_ok built
  obtain ⟨cmd, named, same⟩ := Except.bind_eq_ok built
  obtain ⟨_, _, made⟩ := Except.bind_eq_ok made
  obtain ⟨lease, valid, made⟩ := Except.bind_eq_ok made
  obtain ⟨built, argument, made⟩ := Except.bind_eq_ok made
  obtain ⟨_, _, sameArg⟩ := Except.bind_eq_ok made
  cases sameArg
  cases same
  exact ⟨cmdName_kind (by decide) (by decide) named, rfl, lease, valid, argument⟩

/-- Passes the checks of `encode_lines`. -/
def Sendable (line : Str) : Prop := hasNewline line = false ∧ ∃ bytes, encode line = some bytes

theorem encode_append (first second : Str) : encode (first ++ second) = (do
    let left ← encode first
    let right ← encode second
    pure (left ++ right)) := by
  induction first with
  | nil => simp [encode]
  | cons c rest ih =>
      simp only [List.cons_append, encode, ih]
      cases encodeChar c with
      | none => rfl
      | some bytes =>
          cases encode rest with
          | none => rfl
          | some later => cases encode second <;> simp

theorem checkNoNewlines_ok {name value : Str} :
    checkNoNewlines name value = .ok () ↔ hasNewline value = false := by
  unfold checkNoNewlines
  split
  · rename_i found
    simp [found]
  · rename_i clean
    simpa using clean

theorem byteLen_ok {value : Str} {length : Nat} (done : byteLen value = .ok length) :
    ∃ bytes, encode value = some bytes := by
  unfold byteLen at done
  split at done
  · rename_i bytes encoded
    exact ⟨bytes, encoded⟩
  · cases done

theorem forM_ok_iff {α : Type} {check : α → Except PyError Unit} {values : List α} :
    values.forM check = .ok () ↔ ∀ value ∈ values, check value = .ok () := by
  induction values with
  | nil => simp [pure, Except.pure]
  | cons value rest ih =>
      simp only [List.mem_cons, forall_eq_or_imp, ← ih]
      change (check value >>= fun _ => rest.forM check) = .ok () ↔ _
      cases check value with
      | ok _ => exact ⟨fun rest => ⟨rfl, rest⟩, fun both => both.2⟩
      | error error => exact ⟨nofun, nofun⟩

theorem encodeLines_ok {lines : List Str} (sendable : ∀ line ∈ lines, Sendable line) :
    ∃ bytes, encodeLines lines = .ok bytes := by
  have checks : (lines.forM fun line => checkNoNewlines (str "protocol argument") line) = .ok () :=
    forM_ok_iff.mpr fun line member => checkNoNewlines_ok.mpr (sendable line member).1
  have encodes : ∃ bytes, encode (joinLines lines) = some bytes := by
    clear checks
    induction lines with
    | nil => exact ⟨[], rfl⟩
    | cons line lines ih =>
        simp only [List.mem_cons, forall_eq_or_imp] at sendable
        obtain ⟨⟨_, bytes, encoded⟩, others⟩ := sendable
        obtain ⟨later, rest⟩ := ih others
        have newline : encode [10] = some [10] := by decide
        have joined : joinLines (line :: lines) = line ++ [10] ++ joinLines lines := by
          simp [joinLines]
        refine ⟨bytes ++ [10] ++ later, ?_⟩
        rw [joined, encode_append, encode_append, encoded, newline, rest]
        rfl
  obtain ⟨bytes, encoded⟩ := encodes
  refine ⟨bytes, ?_⟩
  simp only [encodeLines, checks, encoded]
  rfl

theorem parseIntField_label {raw op resp : Str} {minValue value : Int} (op' resp' : Str)
    (done : parseIntField raw op resp minValue = .ok value) :
    parseIntField raw op' resp' minValue = .ok value := by
  unfold parseIntField at done ⊢
  split at done
  · cases done
  · split at done
    · cases done
    · rename_i inside
      rw [if_neg inside]
      exact done

theorem decodeTokenLease_label {resp status op : Str} {grant : Str × Int} (op' : Str)
    (done : decodeTokenLease resp status op = .ok grant) :
    decodeTokenLease resp status op' = .ok grant := by
  unfold decodeTokenLease at done ⊢
  split at done
  · split at done
    · rename_i same
      obtain ⟨lease, field, sameGrant⟩ := Except.bind_eq_ok done
      simp only [same, if_true, parseIntField_label op' resp field]
      exact sameGrant
    · cases done
  · cases done

/-- The label only occurs in messages. -/
theorem parseGrantResponse_label {resp op : Str} {grant : Str × Int} (op' : Str)
    (done : parseGrantResponse resp op = .ok grant) : parseGrantResponse resp op' = .ok grant := by
  unfold parseGrantResponse at done ⊢
  split at done
  · cases done
  · rename_i timely
    rw [if_neg timely]
    split at done
    · cases done
    · rename_i positive
      rw [if_neg positive]
      exact decodeTokenLease_label op' done

theorem parseEnqueueResponse_label {resp op : Str} {status : EnqueueStatus} (op' : Str)
    (done : parseEnqueueResponse resp op = .ok status) :
    parseEnqueueResponse resp op' = .ok status := by
  unfold parseEnqueueResponse at done ⊢
  split at done
  · rename_i queued
    rw [if_pos queued]
    exact done
  · rename_i waiting
    rw [if_neg waiting]
    split at done
    · rename_i acquired
      rw [if_pos acquired]
      obtain ⟨grant, decoded, same⟩ := Except.bind_eq_ok done
      rw [decodeTokenLease_label op' decoded]
      exact same
    · cases done

theorem parseRenewResponse_label {resp op : Str} {remaining : Int} (op' : Str)
    (done : parseRenewResponse resp op = .ok remaining) :
    parseRenewResponse resp op' = .ok remaining := by
  unfold parseRenewResponse decodeRemaining at done ⊢
  split at done
  · cases done
  · rename_i accepted
    rw [if_neg accepted]
    split at done
    · split at done
      · rename_i same
        simp only [same, if_true]
        exact parseIntField_label op' resp done
      · cases done
    · cases done

theorem parseIntField_range {raw op resp : Str} {minValue value : Int}
    (done : parseIntField raw op resp minValue = .ok value) :
    minValue ≤ value ∧ value ≤ maxProtocolSeconds := by
  unfold parseIntField at done
  split at done
  · cases done
  · split at done
    · cases done
    · rename_i inside
      cases done
      simp only [Bool.or_eq_true, decide_eq_true_eq, not_or] at inside
      omega

theorem decodeTokenLease_range {resp status op token : Str} {lease : Int}
    (done : decodeTokenLease resp status op = .ok (token, lease)) :
    1 ≤ lease ∧ lease ≤ maxProtocolSeconds := by
  unfold decodeTokenLease at done
  split at done
  · split at done
    · obtain ⟨value, field, same⟩ := Except.bind_eq_ok done
      cases same
      exact parseIntField_range field
    · cases done
  · cases done

theorem parseGrantResponse_range {resp op token : Str} {lease : Int}
    (done : parseGrantResponse resp op = .ok (token, lease)) :
    1 ≤ lease ∧ lease ≤ maxProtocolSeconds := by
  unfold parseGrantResponse at done
  split at done
  · cases done
  · split at done
    · cases done
    · exact decodeTokenLease_range done

theorem parseEnqueueResponse_range {resp op token : Str} {lease : Int}
    (done : parseEnqueueResponse resp op = .ok (.acquired token lease)) :
    1 ≤ lease ∧ lease ≤ maxProtocolSeconds := by
  unfold parseEnqueueResponse at done
  split at done
  · cases done
  · split at done
    · obtain ⟨⟨token, lease⟩, decoded, same⟩ := Except.bind_eq_ok done
      cases same
      exact decodeTokenLease_range decoded
    · cases done

theorem parseRenewResponse_range {resp op : Str} {remaining : Int}
    (done : parseRenewResponse resp op = .ok remaining) :
    0 ≤ remaining ∧ remaining ≤ maxProtocolSeconds := by
  unfold parseRenewResponse decodeRemaining at done
  split at done
  · cases done
  · split at done
    · split at done
      · exact parseIntField_range done
      · cases done
    · cases done

theorem grantedToken_grant {cmd line op token : Str} {lease : Int}
    (kind : commandKind cmd = some .acquire ∨ commandKind cmd = some .wait)
    (parsed : parseGrantResponse line op = .ok (token, lease)) :
    grantedToken cmd line = some token := by
  rcases kind with kind | kind <;>
    simp only [grantedToken, kind, parseGrantResponse_label [] parsed]

theorem grantedToken_enqueue {cmd line op token : Str} {lease : Int}
    (kind : commandKind cmd = some .enqueue)
    (parsed : parseEnqueueResponse line op = .ok (.acquired token lease)) :
    grantedToken cmd line = some token := by
  simp only [grantedToken, kind, parseEnqueueResponse_label [] parsed]

theorem grantedToken_none {cmd line : Str} (kind : commandKind cmd = some .renew ∨
    commandKind cmd = some .release ∨ commandKind cmd = some .auth) :
    grantedToken cmd line = none := by
  rcases kind with kind | kind | kind <;> simp only [grantedToken, kind]

end DflockdClient
