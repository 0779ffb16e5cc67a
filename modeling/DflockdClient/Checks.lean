import DflockdClient.Exchanges
import DflockdClient.Fields
import DflockdClient.Utf8

/-!
When the client-side checks pass, and what the decimal arguments they let through
look like on the wire.
-/

namespace DflockdClient

theorem decimalNat_ne_nil (n : Nat) : decimalNat n ≠ [] := by
  simp [decimalNat, Nat.toDigits_ne_nil]

theorem decimalNat_ascii (n : Nat) : ∀ c ∈ decimalNat n, AsciiDigit c := by
  intro c member
  obtain ⟨character, listed, rfl⟩ := List.mem_map.mp member
  have digit := Nat.isDigit_of_mem_toDigits (by omega) (Nat.le_refl 10) listed
  simp only [Char.isDigit, Bool.and_eq_true, decide_eq_true_eq] at digit
  exact digit

theorem decimalNat_value (n : Nat) :
    Numerals.value 10 ((decimalNat n).map (· - 0x30)) = n := by
  have read := @Nat.ofDigitChars_ten_toDigits n
  rw [Nat.ofDigitChars_eq_foldl] at read
  simp only [Numerals.value, decimalNat, List.map_map, List.foldl_map]
  exact read

theorem strInt_natCast {n : Nat} {digits : Str} : strInt n = .ok digits ↔
    digits = decimalNat n ∧ (decimalNat n).length ≤ maxIntDigits := by
  have natural : ¬(n : Int) < 0 := by omega
  by_cases short : (decimalNat n).length ≤ maxIntDigits
  · simp only [strInt, decimal, Int.natAbs_natCast, if_neg natural, short, if_true,
      Except.ok.injEq, and_true]
    exact eq_comm
  · simp [strInt, decimal, short]

theorem strInt_reads {value : Int} {digits : Str} (natural : 0 ≤ value)
    (written : strInt value = .ok digits) :
    digits ≠ [] ∧ (∀ c ∈ digits, AsciiDigit c) ∧ parseInt digits = some value := by
  obtain ⟨n, rfl⟩ := Int.eq_ofNat_of_zero_le natural
  obtain ⟨rfl, short⟩ := strInt_natCast.mp written
  refine ⟨decimalNat_ne_nil n, decimalNat_ascii n, ?_⟩
  rw [parseInt_ascii (decimalNat_ne_nil n) (decimalNat_ascii n), if_pos short, decimalNat_value]
  rfl

theorem decimalNat_length {n width : Nat} (positive : 0 < width) :
    (decimalNat n).length ≤ width ↔ n < 10 ^ width := by
  rw [decimalNat, List.length_map, Nat.length_toDigits_le_iff (by omega) positive]

theorem strInt_seconds {value : Int} (natural : 0 ≤ value) (bound : value ≤ maxProtocolSeconds) :
    ∃ digits, strInt value = .ok digits ∧ digits.length ≤ 10 := by
  obtain ⟨n, rfl⟩ := Int.eq_ofNat_of_zero_le natural
  have small : n < 10 ^ 10 := by
    simp only [maxProtocolSeconds] at bound
    omega
  have short := (decimalNat_length (by omega)).mpr small
  exact ⟨_, strInt_natCast.mpr ⟨rfl, by simp only [maxIntDigits]; omega⟩, short⟩

def Fits (limit : Nat) (line : Str) : Prop :=
  ∃ bytes, encode line = some bytes ∧ bytes.length ≤ limit

theorem encode_ascii {text : Str} (ascii : ∀ c ∈ text, c < 0x80) :
    encode text = some (text.map UInt8.ofNat) := by
  induction text with
  | nil => rfl
  | cons c rest ih =>
      simp only [List.mem_cons, forall_eq_or_imp] at ascii
      simp only [encode, encodeChar, if_pos ascii.1, ih ascii.2, Option.bind_eq_bind,
        Option.bind_some]
      rfl

theorem fits_ascii {text : Str} {limit : Nat} (ascii : ∀ c ∈ text, c < 0x80)
    (short : text.length ≤ limit) : Fits limit text :=
  ⟨_, encode_ascii ascii, by rw [List.length_map]; exact short⟩

theorem byteLen_eq {line : Str} {bytes : Bytes} (encoded : encode line = some bytes) :
    byteLen line = .ok bytes.length := by
  simp [byteLen, encoded]

theorem guard_ok {condition : Prop} [Decidable condition] {error : PyError} :
    (if condition then throw error else pure () : Except PyError Unit) = .ok () ↔ ¬condition := by
  by_cases holds : condition
  · rw [if_pos holds]
    exact iff_of_false nofun (fun refuted => refuted holds)
  · rw [if_neg holds]
    exact iff_of_true rfl holds

theorem Except.bind_ok_iff {α β : Type} {first : Except PyError α} {rest : α → Except PyError β}
    {value : β} : (first >>= rest) = .ok value ↔
      ∃ middle, first = .ok middle ∧ rest middle = .ok value := by
  constructor
  · exact Except.bind_eq_ok
  · rintro ⟨middle, rfl, done⟩
    exact done

theorem byteLen_le {line : Str} {limit : Nat} :
    (∃ length, byteLen line = .ok length ∧ ¬length > limit) ↔ Fits limit line := by
  constructor
  · rintro ⟨length, measured, short⟩
    obtain ⟨bytes, encoded⟩ := byteLen_ok measured
    rw [byteLen_eq encoded] at measured
    cases measured
    exact ⟨bytes, encoded, by omega⟩
  · rintro ⟨bytes, encoded, short⟩
    exact ⟨bytes.length, byteLen_eq encoded, by omega⟩

theorem validateProtocolLine_iff {name value : Str} {allowEmpty : Bool} :
    validateProtocolLine name value allowEmpty = .ok () ↔
      (allowEmpty = true ∨ value ≠ []) ∧ hasNewline value = false ∧ Fits maxLineBytes value := by
  have rest : (do
      checkNoNewlines name value
      if (← byteLen value) > maxLineBytes then
        throw (valueError [.text name, .text (str " too long (max 256 bytes)")]) :
      Except PyError Unit) = .ok () ↔ hasNewline value = false ∧ Fits maxLineBytes value := by
    rw [Except.bind_ok_iff, ← byteLen_le, ← @checkNoNewlines_ok name]
    constructor
    · rintro ⟨_, clean, measured⟩
      obtain ⟨length, measured, short⟩ := Except.bind_ok_iff.mp measured
      exact ⟨clean, length, measured, guard_ok.mp short⟩
    · rintro ⟨clean, length, measured, short⟩
      exact ⟨(), clean, Except.bind_ok_iff.mpr ⟨length, measured, guard_ok.mpr short⟩⟩
  unfold validateProtocolLine
  by_cases empty : (!allowEmpty && value == []) = true
  · simp only [empty, if_true]
    simp only [Bool.and_eq_true, Bool.not_eq_true', beq_iff_eq] at empty
    exact iff_of_false nofun (by simp [empty])
  · rw [if_neg empty]
    refine rest.trans ⟨fun ⟨clean, fits⟩ => ⟨?_, clean, fits⟩, And.right⟩
    cases allowEmpty with
    | true => exact .inl rfl
    | false => exact .inr (by simpa using empty)

theorem hasNewline_of_whitespace {line : Str} (solid : hasWhitespace line = false) :
    hasNewline line = false := by
  simp only [hasWhitespace, hasNewline, List.any_eq_false, Bool.or_eq_true, not_or] at solid ⊢
  intro c member
  exact ⟨(solid c member).1.2, (solid c member).2⟩

/-- A line with neither an end nor white space in it. -/
structure Word (line : Str) : Prop where
  full : line ≠ []
  solid : hasWhitespace line = false
  fits : Fits maxLineBytes line

theorem solidLine_iff {name value : Str} {error : PyError} :
    (validateProtocolLine name value false >>= fun _ =>
      if hasWhitespace value then throw error else pure () : Except PyError Unit) = .ok () ↔
      Word value := by
  rw [Except.bind_ok_iff]
  constructor
  · rintro ⟨_, line, solid⟩
    obtain ⟨full, _, fits⟩ := validateProtocolLine_iff.mp line
    exact ⟨full.resolve_left (by simp), by simpa using guard_ok.mp solid, fits⟩
  · intro word
    exact ⟨(), validateProtocolLine_iff.mpr
      ⟨.inr word.full, hasNewline_of_whitespace word.solid, word.fits⟩,
      guard_ok.mpr (by simp [word.solid])⟩

theorem validateKey_iff {name value : Str} : validateKey name value = .ok () ↔ Word value :=
  solidLine_iff

theorem validateToken_iff {token : Str} : validateToken token = .ok () ↔ Word token :=
  solidLine_iff

theorem validateAuthToken_iff {token : Str} : validateAuthToken token = .ok () ↔
    hasNewline token = false ∧ Fits maxAuthTokenBytes token := by
  unfold validateAuthToken
  rw [Except.bind_ok_iff, ← byteLen_le, ← @checkNoNewlines_ok (str "auth token")]
  constructor
  · rintro ⟨_, clean, measured⟩
    obtain ⟨length, measured, short⟩ := Except.bind_ok_iff.mp measured
    exact ⟨clean, length, measured, guard_ok.mp short⟩
  · rintro ⟨clean, length, measured, short⟩
    exact ⟨(), clean, Except.bind_ok_iff.mpr ⟨length, measured, guard_ok.mpr short⟩⟩

theorem validateInt_iff {name : Str} {value : Value} {seconds : Int} :
    validateInt name value = .ok seconds ↔ value = .int seconds := by
  cases value <;> simp [validateInt]

theorem validateSecondsRange_iff {name : Str} {value minValue : Int} :
    validateSecondsRange name value minValue = .ok () ↔
      minValue ≤ value ∧ value ≤ maxProtocolSeconds := by
  unfold validateSecondsRange
  by_cases low : value < minValue
  · simp only [low, if_true]
    exact iff_of_false nofun (by omega)
  · rw [if_neg low]
    refine guard_ok.trans ?_
    omega

theorem validateTimeoutS_iff {name : Str} {value : Value} {seconds : Int} :
    validateTimeoutS name value = .ok seconds ↔
      value = .int seconds ∧ 0 ≤ seconds ∧ seconds ≤ maxProtocolSeconds := by
  unfold validateTimeoutS
  constructor
  · intro valid
    obtain ⟨_, read, valid⟩ := Except.bind_eq_ok valid
    obtain ⟨_, range, same⟩ := Except.bind_eq_ok valid
    cases same
    exact ⟨validateInt_iff.mp read, validateSecondsRange_iff.mp range⟩
  · rintro ⟨rfl, range⟩
    refine Except.bind_ok_iff.mpr ⟨seconds, rfl, ?_⟩
    exact Except.bind_ok_iff.mpr ⟨(), validateSecondsRange_iff.mpr range, rfl⟩

theorem validateLeaseTtlS_iff {value : Option Value} {lease : Option Int} :
    validateLeaseTtlS value = .ok lease ↔ value = lease.map .int ∧
      ∀ seconds ∈ lease, 1 ≤ seconds ∧ seconds ≤ maxProtocolSeconds := by
  unfold validateLeaseTtlS
  constructor
  · intro valid
    split at valid
    · cases valid
      simp
    · obtain ⟨seconds, read, valid⟩ := Except.bind_eq_ok valid
      obtain ⟨_, range, same⟩ := Except.bind_eq_ok valid
      cases same
      rw [validateInt_iff.mp read]
      simpa using validateSecondsRange_iff.mp range
  · rintro ⟨rfl, range⟩
    cases lease with
    | none => rfl
    | some seconds =>
        refine Except.bind_ok_iff.mpr ⟨seconds, rfl, ?_⟩
        exact Except.bind_ok_iff.mpr ⟨(), validateSecondsRange_iff.mpr (range seconds rfl), rfl⟩

theorem validateSemaphoreLimit_iff {limit : Value} {slots : Int} :
    validateSemaphoreLimit limit = .ok slots ↔ limit = .int slots ∧ 0 < slots := by
  have checked : ∀ found : Int, (do
      if found ≤ 0 then throw (valueError [.text (str "limit must be > 0")])
      pure found : Except PyError Int) = .ok slots ↔ found = slots ∧ 0 < slots := by
    intro found
    by_cases low : found ≤ 0
    · rw [if_pos low]
      exact iff_of_false nofun (by omega)
    · rw [if_neg low]
      constructor
      · rintro ⟨⟩
        exact ⟨rfl, by omega⟩
      · rintro ⟨rfl, _⟩
        rfl
  unfold validateSemaphoreLimit
  rw [Except.bind_ok_iff]
  constructor
  · rintro ⟨found, read, valid⟩
    obtain ⟨rfl, positive⟩ := (checked found).mp valid
    exact ⟨validateInt_iff.mp read, positive⟩
  · rintro ⟨rfl, positive⟩
    exact ⟨slots, rfl, (checked slots).mpr ⟨rfl, positive⟩⟩

theorem validatePrefix_iff {pre : Str} :
    validatePrefix pre = .ok () ↔ pre = [] ∨ pre = str "s" := by
  unfold validatePrefix
  by_cases known : (pre == [] || pre == str "s") = true
  · rw [if_pos known]
    simpa using known
  · rw [if_neg known]
    refine iff_of_false nofun ?_
    simpa using known

theorem cmdName_iff {pre op cmd : Str} : cmdName pre op = .ok cmd ↔
    (pre = [] ∨ pre = str "s") ∧ cmd = pre ++ op := by
  unfold cmdName
  rw [Except.bind_ok_iff, ← validatePrefix_iff]
  constructor
  · rintro ⟨_, valid, same⟩
    cases same
    exact ⟨valid, rfl⟩
  · rintro ⟨valid, rfl⟩
    exact ⟨(), valid, rfl⟩

theorem validatePrefixLimit_iff {pre : Str} {limit : Option Value} {slots : Option Int} :
    validatePrefixLimit pre limit = .ok slots ↔ limit = slots.map .int ∧
      ((pre = [] ∧ slots = none) ∨ (pre = str "s" ∧ ∃ count, 0 < count ∧ slots = some count)) := by
  unfold validatePrefixLimit
  rw [Except.bind_ok_iff]
  constructor
  · rintro ⟨_, valid, checked⟩
    rcases validatePrefix_iff.mp valid with rfl | rfl
    · rw [if_neg (by decide)] at checked
      cases limit with
      | none =>
          cases checked
          exact ⟨rfl, .inl ⟨rfl, rfl⟩⟩
      | some limit => cases checked
    · rw [if_pos (by decide)] at checked
      obtain ⟨count, required, same⟩ := Except.bind_eq_ok checked
      cases same
      cases limit with
      | none => cases required
      | some limit =>
          obtain ⟨rfl, positive⟩ := validateSemaphoreLimit_iff.mp required
          exact ⟨rfl, .inr ⟨rfl, count, positive, rfl⟩⟩
  · rintro ⟨rfl, ⟨rfl, rfl⟩ | ⟨rfl, count, positive, rfl⟩⟩
    · exact ⟨(), rfl, rfl⟩
    · refine ⟨(), validatePrefix_iff.mpr (.inr rfl), ?_⟩
      rw [if_pos (by decide)]
      exact Except.bind_ok_iff.mpr
        ⟨count, validateSemaphoreLimit_iff.mpr ⟨rfl, positive⟩, rfl⟩

theorem unit_bind_iff {β : Type} {check : Except PyError Unit} {rest : Unit → Except PyError β}
    {value : β} : (check >>= rest) = .ok value ↔ check = .ok () ∧ rest () = .ok value := by
  rw [Except.bind_ok_iff]
  constructor
  · rintro ⟨_, checked, done⟩
    exact ⟨checked, done⟩
  · rintro ⟨checked, done⟩
    exact ⟨(), checked, done⟩

theorem pure_iff {α : Type} {made value : α} :
    (pure made : Except PyError α) = .ok value ↔ value = made := by
  constructor
  · rintro ⟨⟩
    rfl
  · rintro rfl
    rfl

def Line (arg : Str) : Prop := hasNewline arg = false ∧ Fits maxLineBytes arg

theorem validateArgument_iff {name arg : Str} :
    validateProtocolLine name arg = .ok () ↔ Line arg := by
  rw [validateProtocolLine_iff]
  simp [Line]

theorem authenticateRequest_iff {authToken : Str} {request : Request} :
    authenticateRequest authToken = .ok request ↔
      (hasNewline authToken = false ∧ Fits maxAuthTokenBytes authToken) ∧
        request = ⟨str "auth", str "_", authToken, ioSlackS⟩ := by
  unfold authenticateRequest
  rw [unit_bind_iff, validateAuthToken_iff, pure_iff]

theorem acquireRequest_iff {key pre : Str} {timeoutS : Value} {leaseTtlS limit : Option Value}
    {request : Request} : acquireRequest key timeoutS leaseTtlS pre limit = .ok request ↔
      ∃ slots seconds lease arg, validatePrefixLimit pre limit = .ok slots ∧ Word key ∧
        validateTimeoutS (str "acquire_timeout_s") timeoutS = .ok seconds ∧
        validateLeaseTtlS leaseTtlS = .ok lease ∧ buildAcquireArg seconds slots lease = .ok arg ∧
        Line arg ∧ request = ⟨pre ++ str "l", key, arg, seconds + ioSlackS⟩ := by
  unfold acquireRequest makeAcquireArg
  constructor
  · intro built
    obtain ⟨slots, limited, built⟩ := Except.bind_eq_ok built
    obtain ⟨word, built⟩ := unit_bind_iff.mp built
    obtain ⟨⟨arg, seconds⟩, made, built⟩ := Except.bind_eq_ok built
    obtain ⟨seconds', timed, made⟩ := Except.bind_eq_ok made
    obtain ⟨lease, leased, made⟩ := Except.bind_eq_ok made
    obtain ⟨arg', argued, made⟩ := Except.bind_eq_ok made
    obtain ⟨line, same⟩ := unit_bind_iff.mp made
    cases same
    obtain ⟨cmd, named, same⟩ := Except.bind_eq_ok built
    obtain ⟨_, rfl⟩ := cmdName_iff.mp named
    exact ⟨slots, seconds, lease, arg, limited, validateKey_iff.mp word, timed, leased, argued,
      validateArgument_iff.mp line, pure_iff.mp same⟩
  · rintro ⟨slots, seconds, lease, arg, limited, word, timed, leased, argued, line, rfl⟩
    have valid : pre = [] ∨ pre = str "s" := by
      rcases (validatePrefixLimit_iff.mp limited).2 with ⟨lock, _⟩ | ⟨semaphore, _⟩
      · exact .inl lock
      · exact .inr semaphore
    refine Except.bind_ok_iff.mpr ⟨slots, limited, unit_bind_iff.mpr ⟨validateKey_iff.mpr word, ?_⟩⟩
    refine Except.bind_ok_iff.mpr ⟨(arg, seconds), ?_, ?_⟩
    · refine Except.bind_ok_iff.mpr ⟨seconds, timed, Except.bind_ok_iff.mpr ⟨lease, leased, ?_⟩⟩
      refine Except.bind_ok_iff.mpr ⟨arg, argued, unit_bind_iff.mpr ⟨?_, rfl⟩⟩
      exact validateArgument_iff.mpr line
    · exact Except.bind_ok_iff.mpr ⟨_, cmdName_iff.mpr ⟨valid, rfl⟩, rfl⟩

theorem enqueueRequest_iff {key pre : Str} {leaseTtlS limit : Option Value} {request : Request} :
    enqueueRequest key leaseTtlS pre limit = .ok request ↔
      ∃ slots lease arg, validatePrefixLimit pre limit = .ok slots ∧ Word key ∧
        validateLeaseTtlS leaseTtlS = .ok lease ∧ buildEnqueueArg slots lease = .ok arg ∧
        Line arg ∧ request = ⟨pre ++ str "e", key, arg, ioSlackS⟩ := by
  unfold enqueueRequest makeEnqueueArg
  constructor
  · intro built
    obtain ⟨slots, limited, built⟩ := Except.bind_eq_ok built
    obtain ⟨word, built⟩ := unit_bind_iff.mp built
    obtain ⟨arg, made, built⟩ := Except.bind_eq_ok built
    obtain ⟨lease, leased, made⟩ := Except.bind_eq_ok made
    obtain ⟨arg', argued, made⟩ := Except.bind_eq_ok made
    obtain ⟨line, same⟩ := unit_bind_iff.mp made
    cases same
    obtain ⟨cmd, named, same⟩ := Except.bind_eq_ok built
    obtain ⟨_, rfl⟩ := cmdName_iff.mp named
    exact ⟨slots, lease, arg, limited, validateKey_iff.mp word, leased, argued,
      validateArgument_iff.mp line, pure_iff.mp same⟩
  · rintro ⟨slots, lease, arg, limited, word, leased, argued, line, rfl⟩
    have valid : pre = [] ∨ pre = str "s" := by
      rcases (validatePrefixLimit_iff.mp limited).2 with ⟨lock, _⟩ | ⟨semaphore, _⟩
      · exact .inl lock
      · exact .inr semaphore
    refine Except.bind_ok_iff.mpr ⟨slots, limited, unit_bind_iff.mpr ⟨validateKey_iff.mpr word, ?_⟩⟩
    refine Except.bind_ok_iff.mpr ⟨arg, ?_, ?_⟩
    · refine Except.bind_ok_iff.mpr ⟨lease, leased, Except.bind_ok_iff.mpr ⟨arg, argued, ?_⟩⟩
      exact unit_bind_iff.mpr ⟨validateArgument_iff.mpr line, rfl⟩
    · exact Except.bind_ok_iff.mpr ⟨_, cmdName_iff.mpr ⟨valid, rfl⟩, rfl⟩

theorem waitRequest_iff {key pre : Str} {timeoutS : Value} {request : Request} :
    waitRequest key timeoutS pre = .ok request ↔
      ∃ seconds arg, (pre = [] ∨ pre = str "s") ∧ Word key ∧
        validateTimeoutS (str "wait_timeout_s") timeoutS = .ok seconds ∧
        strInt seconds = .ok arg ∧ Line arg ∧
        request = ⟨pre ++ str "w", key, arg, seconds + ioSlackS⟩ := by
  unfold waitRequest makeWaitArg
  rw [unit_bind_iff, unit_bind_iff, validatePrefix_iff, validateKey_iff]
  constructor
  · rintro ⟨valid, word, built⟩
    obtain ⟨⟨arg, seconds⟩, made, built⟩ := Except.bind_eq_ok built
    obtain ⟨seconds', timed, made⟩ := Except.bind_eq_ok made
    obtain ⟨arg', argued, made⟩ := Except.bind_eq_ok made
    obtain ⟨line, same⟩ := unit_bind_iff.mp made
    cases same
    obtain ⟨cmd, named, same⟩ := Except.bind_eq_ok built
    obtain ⟨_, rfl⟩ := cmdName_iff.mp named
    exact ⟨seconds, arg, valid, word, timed, argued, validateArgument_iff.mp line, pure_iff.mp same⟩
  · rintro ⟨seconds, arg, valid, word, timed, argued, line, rfl⟩
    refine ⟨valid, word, Except.bind_ok_iff.mpr ⟨(arg, seconds), ?_, ?_⟩⟩
    · refine Except.bind_ok_iff.mpr ⟨seconds, timed, Except.bind_ok_iff.mpr ⟨arg, argued, ?_⟩⟩
      exact unit_bind_iff.mpr ⟨validateArgument_iff.mpr line, rfl⟩
    · exact Except.bind_ok_iff.mpr ⟨_, cmdName_iff.mpr ⟨valid, rfl⟩, rfl⟩

theorem renewRequest_iff {key token pre : Str} {leaseTtlS : Option Value} {readTimeout : Rat}
    {request : Request} : renewRequest key token leaseTtlS pre readTimeout = .ok request ↔
      ∃ lease arg, (pre = [] ∨ pre = str "s") ∧ Word key ∧ Word token ∧
        validateLeaseTtlS leaseTtlS = .ok lease ∧ buildRenewArg token lease = .ok arg ∧ Line arg ∧
        request = ⟨pre ++ str "n", key, arg, readTimeout⟩ := by
  unfold renewRequest makeRenewArg
  rw [unit_bind_iff, unit_bind_iff, validatePrefix_iff, validateKey_iff]
  constructor
  · rintro ⟨valid, word, built⟩
    obtain ⟨arg, made, built⟩ := Except.bind_eq_ok built
    obtain ⟨named, made⟩ := unit_bind_iff.mp made
    obtain ⟨lease, leased, made⟩ := Except.bind_eq_ok made
    obtain ⟨arg', argued, made⟩ := Except.bind_eq_ok made
    obtain ⟨line, same⟩ := unit_bind_iff.mp made
    cases same
    obtain ⟨cmd, spelled, same⟩ := Except.bind_eq_ok built
    obtain ⟨_, rfl⟩ := cmdName_iff.mp spelled
    exact ⟨lease, arg, valid, word, validateToken_iff.mp named, leased, argued,
      validateArgument_iff.mp line, pure_iff.mp same⟩
  · rintro ⟨lease, arg, valid, word, named, leased, argued, line, rfl⟩
    refine ⟨valid, word, Except.bind_ok_iff.mpr ⟨arg, unit_bind_iff.mpr ⟨?_, ?_⟩, ?_⟩⟩
    · exact validateToken_iff.mpr named
    · refine Except.bind_ok_iff.mpr ⟨lease, leased, Except.bind_ok_iff.mpr ⟨arg, argued, ?_⟩⟩
      exact unit_bind_iff.mpr ⟨validateArgument_iff.mpr line, rfl⟩
    · exact Except.bind_ok_iff.mpr ⟨_, cmdName_iff.mpr ⟨valid, rfl⟩, rfl⟩

theorem releaseRequest_iff {key token pre : Str} {request : Request} :
    releaseRequest key token pre = .ok request ↔ (pre = [] ∨ pre = str "s") ∧ Word key ∧
      Word token ∧ request = ⟨pre ++ str "r", key, token, releaseReadTimeoutS⟩ := by
  unfold releaseRequest
  rw [unit_bind_iff, unit_bind_iff, unit_bind_iff, validatePrefix_iff, validateKey_iff,
    validateToken_iff]
  constructor
  · rintro ⟨valid, word, named, built⟩
    obtain ⟨cmd, spelled, same⟩ := Except.bind_eq_ok built
    obtain ⟨_, rfl⟩ := cmdName_iff.mp spelled
    exact ⟨valid, word, named, pure_iff.mp same⟩
  · rintro ⟨valid, word, named, rfl⟩
    exact ⟨valid, word, named, Except.bind_ok_iff.mpr ⟨_, cmdName_iff.mpr ⟨valid, rfl⟩, rfl⟩⟩

end DflockdClient
