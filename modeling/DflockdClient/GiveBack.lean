import DflockdClient.Answers
import DflockdClient.Calls
import DflockdClient.Readers

/-!
Giving a grant back: whether `release` and `renew` take the token that an answer
has granted.
-/

namespace DflockdClient

/-- The request passes its checks, its frame is written, and the token is its first field. -/
def Sends (token : Str) (built : Except PyError Request) : Prop :=
  ∃ request frame rest, built = .ok request ∧
    encodeLines [request.cmd, request.key, request.arg] = .ok frame ∧
    fieldsOf request.arg = token :: rest

structure GivesBack (key token pre : Str) (leaseTtlS : Option Value) (readTimeout : Rat) : Prop where
  release : Sends token (releaseRequest key token pre)
  renew : Sends token (renewRequest key token leaseTtlS pre readTimeout)

/-- A line that `acquire`, `wait` or `enqueue` reads as a grant. -/
def Grants (resp token : Str) (lease : Int) : Prop :=
  (∃ op, parseGrantResponse resp op = .ok (token, lease)) ∨
    ∃ op, parseEnqueueResponse resp op = .ok (.acquired token lease)

theorem Grants.field {resp token : Str} {lease : Int} (granted : Grants resp token lease) :
    token ∈ split resp := by
  rcases granted with ⟨op, parsed⟩ | ⟨op, parsed⟩
  · obtain ⟨_, raw, fields, _⟩ := parseGrantResponse_ok parsed
    simp [fields]
  · unfold parseEnqueueResponse at parsed
    split at parsed
    · cases parsed
    · split at parsed
      · obtain ⟨⟨token, lease⟩, decoded, same⟩ := Except.bind_eq_ok parsed
        cases same
        obtain ⟨raw, fields, _⟩ := decodeTokenLease_ok decoded
        simp [fields]
      · cases parsed

theorem trimResponseLine_scalars {raw : Bytes} {resp : Str}
    (trimmed : trimResponseLine raw = .ok resp) :
    ∀ c ∈ resp, ∃ encoded, encodeChar c = some encoded := by
  unfold trimResponseLine at trimmed
  split at trimmed
  · cases trimmed
  · split at trimmed
    · rename_i text decoded
      cases trimmed
      intro c member
      have inside : c ∈ text := (List.rdropWhile_prefix _ text).subset member
      exact decodeFrom_scalars decoded c inside
    · cases trimmed

theorem Grants.token {raw : Bytes} {resp token : Str} {lease : Int}
    (trimmed : trimResponseLine raw = .ok resp) (granted : Grants resp token lease) :
    token ≠ [] ∧ hasWhitespace token = false ∧ ∃ bytes, encode token = some bytes := by
  have field := granted.field
  obtain ⟨full, solid⟩ := split_field field
  refine ⟨full, ?_, ?_⟩
  · simp only [hasWhitespace, List.any_eq_false, Bool.or_eq_true, beq_iff_eq, not_or]
    intro c member
    have space := solid c member
    refine ⟨⟨⟨?_, ?_⟩, ?_⟩, ?_⟩ <;>
      · rintro rfl
        exact absurd space (by decide)
  · rw [encodable_iff]
    intro c member
    exact trimResponseLine_scalars trimmed c (split_mem field member)

theorem Sends.of {token : Str} {request : Request} {built : Except PyError Request} {rest : List Str}
    (made : built = .ok request) (lines : Line request.cmd ∧ Line request.key ∧ Line request.arg)
    (fields : fieldsOf request.arg = token :: rest) : Sends token built := by
  obtain ⟨⟨clean, first, firstEq, _⟩, ⟨clean', second, secondEq, _⟩, clean'', third, thirdEq, _⟩ :=
    lines
  exact ⟨request, _, rest, made,
    encodeLines_three (by simp [clean, clean', clean'']) firstEq secondEq thirdEq, fields⟩

theorem Fits.left {limit : Nat} {first second : Str} (fits : Fits limit (first ++ second)) :
    Fits limit first := by
  obtain ⟨bytes, encoded, short⟩ := fits
  rw [encode_append] at encoded
  simp only [Option.bind_eq_bind, Option.bind_eq_some_iff, Option.pure_def,
    Option.some.injEq] at encoded
  obtain ⟨left, leftEq, right, _, rfl⟩ := encoded
  rw [List.length_append] at short
  exact ⟨left, leftEq, by omega⟩

theorem buildRenewArg_append {token arg : Str} {lease : Option Int}
    (natural : ∀ ttl ∈ lease, 0 ≤ ttl) (built : buildRenewArg token lease = .ok arg) :
    ∃ suffix, arg = token ++ suffix ∧ hasNewline suffix = false := by
  cases lease with
  | none =>
      cases built
      exact ⟨[], (List.append_nil _).symm, rfl⟩
  | some ttl =>
      obtain ⟨digits, made, same⟩ := Except.bind_eq_ok built
      cases same
      obtain ⟨_, ascii, _⟩ := strInt_reads (natural ttl rfl) made
      refine ⟨str " " ++ digits, List.append_assoc _ _ _, ?_⟩
      simp only [hasNewline, List.any_eq_false, Bool.or_eq_true, beq_iff_eq, not_or]
      intro c member
      rcases List.mem_append.mp member with space | digit
      · have same : c = 0x20 := List.mem_singleton.mp space
        omega
      · have low := (ascii c digit).1
        omega

/-- A granted token can be renewed and released exactly when it fits into a line together with the
lease of its renewals. -/
theorem grant_gives_back {raw : Bytes} {resp key token pre : Str} {granted : Int}
    {leaseTtlS : Option Value} {lease : Option Int} (readTimeout : Rat)
    (trimmed : trimResponseLine raw = .ok resp) (grants : Grants resp token granted)
    (validKey : validateKey (str "key") key = .ok ()) (validPre : validatePrefix pre = .ok ())
    (validLease : validateLeaseTtlS leaseTtlS = .ok lease) :
    GivesBack key token pre leaseTtlS readTimeout ↔
      ∃ arg, buildRenewArg token lease = .ok arg ∧ Fits maxLineBytes arg := by
  have valid := validatePrefix_iff.mp validPre
  have word := validateKey_iff.mp validKey
  obtain ⟨full, solid, _⟩ := grants.token trimmed
  constructor
  · rintro ⟨_, request, frame, rest, built, _, _⟩
    obtain ⟨lease', arg, _, _, _, leased, argued, line, _⟩ := renewRequest_iff.mp built
    rw [validLease] at leased
    cases leased
    exact ⟨arg, argued, line.2⟩
  · rintro ⟨arg, argued, fits⟩
    have natural := lease_natural validLease
    obtain ⟨suffix, rfl, clean⟩ := buildRenewArg_append natural argued
    have named : Word token := ⟨full, solid, fits.left⟩
    obtain ⟨parts, fields, written⟩ :=
      buildRenewArg_fields named natural argued
    have line : Line (token ++ suffix) := by
      refine ⟨?_, fits⟩
      have front := hasNewline_of_whitespace solid
      simp only [hasNewline, List.any_append, Bool.or_eq_false_iff] at front clean ⊢
      exact ⟨front, clean⟩
    constructor
    · obtain ⟨nothing, alone, _⟩ := @buildRenewArg_fields token token none named (by simp) rfl
      exact Sends.of (releaseRequest_iff.mpr ⟨valid, word, named, rfl⟩)
        ⟨line_cmd valid (by simp), word.line, named.line⟩ alone
    · exact Sends.of (renewRequest_iff.mpr
        ⟨lease, _, valid, word, named, validLease, argued, line, rfl⟩)
        ⟨line_cmd valid (by simp), word.line, line⟩ fields

theorem grant_gives_back_demo : GivesBack (str "k") (str "abc") [] (some (.int 60)) ioSlackS := by
  have trimmed : trimResponseLine (bytesOf "ok abc 33\n") = .ok (str "ok abc 33") := by decide +kernel
  have grants : Grants (str "ok abc 33") (str "abc") 33 := .inl ⟨str "acquire", by decide +kernel⟩
  have lease : validateLeaseTtlS (some (.int 60)) = .ok (some 60) := by decide
  have fits : Fits maxLineBytes (str "abc 60") := ⟨bytesOf "abc 60", by decide +kernel, by decide⟩
  exact (grant_gives_back ioSlackS trimmed grants (by decide) (by decide) lease).mpr
    ⟨str "abc 60", by decide +kernel, fits⟩

def longToken : Str := List.replicate 257 0x61

/-- The answer is accepted, and its lock can be neither renewed nor released. -/
theorem long_token_stuck :
    trimResponseLine (bytesOf "ok " ++ longToken.map UInt8.ofNat ++ bytesOf " 33\n") =
        .ok (str "ok " ++ longToken ++ str " 33") ∧
      Grants (str "ok " ++ longToken ++ str " 33") longToken 33 ∧
      validateKey (str "key") (str "k") = .ok () ∧ validateLeaseTtlS none = .ok none ∧
      ¬GivesBack (str "k") longToken [] none ioSlackS := by
  refine ⟨by decide +kernel, .inl ⟨str "acquire", by decide +kernel⟩, by decide, by decide, ?_⟩
  rintro ⟨⟨request, frame, rest, built, _⟩, _⟩
  have refused : releaseRequest (str "k") longToken [] =
      .error (valueError [.text (str "token"), .text (str " too long (max 256 bytes)")]) := by
    decide +kernel
  rw [refused] at built
  cases built

end DflockdClient
