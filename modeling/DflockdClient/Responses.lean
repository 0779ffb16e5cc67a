import DflockdClient.GiveBack
import DflockdClient.ReaderRuns

/-!
Responses on the wire: what a server writes line by line is read back by both
connections, in whatever pieces it arrives, and decoded to what was meant by it.
-/

namespace DflockdClient.Responses

inductive Command
  | auth | grant | enqueue | renew | release
  deriving DecidableEq

inductive Result
  | done
  | granted (grant : Str × Int)
  | enqueued (status : EnqueueStatus)
  | remaining (seconds : Int)
  deriving DecidableEq

def Command.decode (command : Command) (op resp : Str) : Except PyError Result :=
  match command with
  | .auth => (fun _ => .done) <$> parseAuthResponse resp
  | .grant => .granted <$> parseGrantResponse resp op
  | .enqueue => .enqueued <$> parseEnqueueResponse resp op
  | .renew => .remaining <$> parseRenewResponse resp op
  | .release => (fun _ => .done) <$> parseReleaseResponse resp op

/-- What a server has to say. -/
inductive Response
  | done
  | granted (token : Str) (lease : Nat)
  | acquired (token : Str) (lease : Nat)
  | queued
  | remaining (seconds : Nat)
  | timeout
  | refused (code : Str)
  deriving DecidableEq

def Response.line (response : Response) : Str :=
  match response with
  | .done => str "ok"
  | .granted token lease => joinSpaces [str "ok", token, decimalNat lease]
  | .acquired token lease => joinSpaces [str "acquired", token, decimalNat lease]
  | .queued => str "queued"
  | .remaining seconds => joinSpaces [str "ok", decimalNat seconds]
  | .timeout => str "timeout"
  | .refused code => code

/-- The exception for a status code, `auth` apart. -/
def statusClass (code : Str) : ExcClass :=
  if code = str "error_auth" then .authError
  else if code = str "error_max_locks" then .maxLocksError
  else if code = str "error_max_waiters" then .maxWaitersError
  else if code = str "error_limit_mismatch" then .limitMismatchError
  else if code = str "error_not_enqueued" then .notQueuedError
  else if code = str "error_already_enqueued" then .alreadyQueuedError
  else if code = str "error_lease_expired" then .leaseExpiredError
  else if code = str "error_draining" then .drainingError
  else .dflockdError

def refusal (command : Command) (code : Str) : ExcClass :=
  if command ≠ .auth then statusClass code
  else if code = str "error_draining" then .drainingError
  else .permissionError

def Response.meaning (command : Command) (response : Response) : Except ExcClass Result :=
  match response with
  | .done => .ok .done
  | .granted token lease => .ok (.granted (token, lease))
  | .acquired token lease => .ok (.enqueued (.acquired token lease))
  | .queued => .ok (.enqueued .queued)
  | .remaining seconds => .ok (.remaining seconds)
  | .timeout => .error .dflockdTimeoutError
  | .refused code => .error (refusal command code)

def Field (field : Str) : Prop := field ≠ [] ∧ ∀ c ∈ field, isSpace c = false

/-- The responses to each command. -/
inductive Answers : Command → Response → Prop
  | authenticated : Answers .auth .done
  | granted {token} {lease : Nat} : Field token → 0 < lease → (lease : Int) ≤ maxProtocolSeconds →
      Answers .grant (.granted token lease)
  | timeout : Answers .grant .timeout
  | acquired {token} {lease : Nat} : Field token → 0 < lease → (lease : Int) ≤ maxProtocolSeconds →
      Answers .enqueue (.acquired token lease)
  | queued : Answers .enqueue .queued
  | renewed {seconds : Nat} : (seconds : Int) ≤ maxProtocolSeconds →
      Answers .renew (.remaining seconds)
  | released : Answers .release .done
  | refused {command code} : startswith code (str "error") = true → hasNewline code = false →
      Answers command (.refused code)

def ending (crlf : Bool) : Str := if crlf then [13, 10] else [10]

structure Sent where
  command : Command
  response : Response
  crlf : Bool
  raw : Bytes
  fitting : Answers command response
  encoded : encode (response.line ++ ending crlf) = some raw
  short : raw.length ≤ maxResponseLineBytes

/-- The lines that were read are decoded to what was sent. -/
def ReadAs (op : Str) (sent : List Sent) (lines : List Str) : Prop :=
  List.Forall₂ (fun sent line => (sent.command.decode op line).mapError PyError.cls =
    sent.response.meaning sent.command) sent lines

theorem joinSpaces_cons (field next : Str) (rest : List Str) :
    joinSpaces (field :: next :: rest) = field ++ 0x20 :: joinSpaces (next :: rest) := by
  simp [joinSpaces, List.intercalate, str]

theorem split_joinSpaces {fields : List Str} (known : ∀ field ∈ fields, Field field) :
    split (joinSpaces fields) = fields := by
  induction fields with
  | nil => exact split_nil
  | cons field rest ih =>
      obtain ⟨full, solid⟩ := known field List.mem_cons_self
      have later := ih fun field member => known field (List.mem_cons_of_mem _ member)
      cases rest with
      | nil =>
          have single : joinSpaces [field] = field := by simp [joinSpaces]
          rw [single, split_word full solid]
      | cons next rest =>
          rw [joinSpaces_cons, split_cut rfl, split_word full solid, later]
          rfl

theorem field_decimal (n : Nat) : Field (decimalNat n) := by
  refine ⟨decimalNat_ne_nil n, fun c member => ?_⟩
  obtain ⟨low, high⟩ := decimalNat_ascii n c member
  simp only [isSpace, Bool.or_eq_false_iff, Bool.and_eq_false_iff, decide_eq_false_iff_not,
    beq_eq_false_iff_ne]
  omega

theorem hasNewline_iff {text : Str} : hasNewline text = false ↔ ∀ c ∈ text, c ≠ 10 ∧ c ≠ 13 := by
  simp only [hasNewline, List.any_eq_false, Bool.or_eq_true, beq_iff_eq, not_or]

theorem joinSpaces_clean {fields : List Str} (known : ∀ field ∈ fields, Field field) :
    hasNewline (joinSpaces fields) = false := by
  have clean {field : Str} (solid : Field field) : hasNewline field = false := by
    rw [hasNewline_iff]
    intro c member
    have visible := solid.2 c member
    constructor
    · rintro rfl
      exact absurd visible (by decide)
    · rintro rfl
      exact absurd visible (by decide)
  induction fields with
  | nil => rfl
  | cons field rest ih =>
      have first := clean (known field List.mem_cons_self)
      have later := ih fun field member => known field (List.mem_cons_of_mem _ member)
      cases rest with
      | nil => simpa [joinSpaces] using first
      | cons next rest =>
          rw [joinSpaces_cons]
          simp only [hasNewline, List.any_append, List.any_cons, Bool.or_eq_false_iff]
          exact ⟨first, ⟨rfl, rfl⟩, later⟩

theorem field_ok : Field (str "ok") := ⟨by decide, by decide⟩

theorem field_acquired : Field (str "acquired") := ⟨by decide, by decide⟩

theorem Answers.clean {command : Command} {response : Response}
    (fitting : Answers command response) : hasNewline response.line = false := by
  cases fitting with
  | authenticated | timeout | queued | released => decide
  | granted named => exact joinSpaces_clean (by simp [field_ok, named, field_decimal])
  | acquired named => exact joinSpaces_clean (by simp [field_acquired, named, field_decimal])
  | renewed => exact joinSpaces_clean (by simp [field_ok, field_decimal])
  | refused _ clean => exact clean

theorem parseIntField_decimal {n : Nat} {op resp : Str} {minValue : Int} (least : minValue ≤ n)
    (most : (n : Int) ≤ maxProtocolSeconds) :
    parseIntField (decimalNat n) op resp minValue = .ok (n : Int) := by
  have natural : (0 : Int) ≤ n := by omega
  obtain ⟨digits, written, _⟩ := strInt_seconds natural most
  obtain ⟨rfl, _⟩ := strInt_natCast.mp written
  have read : parseInt (decimalNat n) = some (n : Int) := (strInt_reads natural written).2.2
  simp only [parseIntField, read]
  rw [if_neg]
  simp only [Bool.or_eq_true, decide_eq_true_eq, not_or]
  omega

theorem decodeTokenLease_line {status token op : Str} {lease : Nat} (first : Field status)
    (named : Field token) (positive : 0 < lease) (most : (lease : Int) ≤ maxProtocolSeconds) :
    decodeTokenLease (joinSpaces [status, token, decimalNat lease]) status op =
      .ok (token, (lease : Int)) := by
  have fields : split (joinSpaces [status, token, decimalNat lease]) =
      [status, token, decimalNat lease] :=
    split_joinSpaces (by simp [first, named, field_decimal])
  have least : (1 : Int) ≤ lease := by omega
  simp only [decodeTokenLease, fields, beq_self_eq_true, if_true, parseIntField_decimal least most]
  rfl

theorem startswith_ne {text start other : Str} (accepted : startswith text start = true)
    (differs : startswith other start = false) : text ≠ other := by
  rintro rfl
  rw [accepted] at differs
  cases differs

theorem decode_granted {token op : Str} {lease : Nat} (named : Field token) (positive : 0 < lease)
    (most : (lease : Int) ≤ maxProtocolSeconds) :
    parseGrantResponse (joinSpaces [str "ok", token, decimalNat lease]) op =
      .ok (token, (lease : Int)) := by
  have front : joinSpaces [str "ok", token, decimalNat lease] =
      str "ok " ++ (token ++ 0x20 :: decimalNat lease) := by
    simp [joinSpaces, List.intercalate, str]
  have accepted := startswith_iff.mpr ⟨_, front⟩
  have other :=
    startswith_ne accepted (show startswith (str "timeout") (str "ok ") = false from rfl)
  rw [parseGrantResponse, if_neg (by simpa using other), if_neg (by simp [accepted]),
    decodeTokenLease_line field_ok named positive most]

theorem decode_acquired {token op : Str} {lease : Nat} (named : Field token) (positive : 0 < lease)
    (most : (lease : Int) ≤ maxProtocolSeconds) :
    parseEnqueueResponse (joinSpaces [str "acquired", token, decimalNat lease]) op =
      .ok (.acquired token lease) := by
  have front : joinSpaces [str "acquired", token, decimalNat lease] =
      str "acquired " ++ (token ++ 0x20 :: decimalNat lease) := by
    simp [joinSpaces, List.intercalate, str]
  have accepted := startswith_iff.mpr ⟨_, front⟩
  have other :=
    startswith_ne accepted (show startswith (str "queued") (str "acquired ") = false from rfl)
  rw [parseEnqueueResponse, if_neg (by simpa using other), if_pos accepted,
    decodeTokenLease_line field_acquired named positive most]
  rfl

theorem decode_remaining {op : Str} {seconds : Nat} (most : (seconds : Int) ≤ maxProtocolSeconds) :
    parseRenewResponse (joinSpaces [str "ok", decimalNat seconds]) op = .ok (seconds : Int) := by
  have front : joinSpaces [str "ok", decimalNat seconds] =
      str "ok" ++ 0x20 :: decimalNat seconds := by
    simp [joinSpaces, List.intercalate, str]
  have accepted := startswith_iff.mpr ⟨_, front⟩
  have fields : split (joinSpaces [str "ok", decimalNat seconds]) =
      [str "ok", decimalNat seconds] :=
    split_joinSpaces (by simp [field_ok, field_decimal])
  have least : (0 : Int) ≤ seconds := by omega
  rw [parseRenewResponse, if_neg (by simp [accepted])]
  simp only [decodeRemaining, fields, beq_self_eq_true, if_true, parseIntField_decimal least most]

theorem lookup_getD (code key : Str) (cls otherwise : ExcClass) (rest : List (Str × ExcClass)) :
    (((key, cls) :: rest).lookup code).getD otherwise =
      if code = key then cls else (rest.lookup code).getD otherwise := by
  by_cases same : code = key
  · simp [same]
  · simp [List.lookup_cons, beq_eq_false_iff_ne.mpr same, same]

theorem statusErrors_class (code : Str) :
    (statusErrors.lookup code).getD .dflockdError = statusClass code := by
  simp only [statusErrors, lookup_getD, List.lookup_nil, Option.getD_none, statusClass]

theorem authError_class (code : Str) : (authError code).cls = refusal .auth code := by
  simp only [authError, refusal, beq_iff_eq, ne_eq, not_true_eq_false, if_false]
  split_ifs <;> rfl

theorem decode_refused {code : Str} (refused : startswith code (str "error") = true)
    (command : Command) (op : Str) :
    (command.decode op code).mapError PyError.cls = .error (refusal command code) := by
  have known := statusErrors_class code
  have denied := authError_class code
  obtain ⟨rest, rfl⟩ := startswith_iff.mp refused
  cases command with
  | auth => exact congrArg Except.error denied
  | grant | enqueue | renew | release => exact congrArg Except.error known

theorem Answers.decoded {command : Command} {response : Response}
    (fitting : Answers command response) (op : Str) :
    (command.decode op response.line).mapError PyError.cls = response.meaning command := by
  cases fitting with
  | authenticated | timeout | queued | released => rfl
  | granted named positive most =>
      simp only [Command.decode, Response.line, decode_granted named positive most]
      rfl
  | acquired named positive most =>
      simp only [Command.decode, Response.line, decode_acquired named positive most]
      rfl
  | renewed most =>
      simp only [Command.decode, Response.line, decode_remaining most]
      rfl
  | refused known _ => exact decode_refused known command op

/-! Reading -/

theorem rstripNewlines_ending {text : Str} (clean : hasNewline text = false) (crlf : Bool) :
    rstripNewlines (text ++ ending crlf) = text := by
  have bare : rstripNewlines text = text := by
    rw [rstripNewlines, List.rdropWhile_eq_self_iff]
    intro full
    obtain ⟨line, feed⟩ := hasNewline_iff.mp clean _ (List.getLast_mem full)
    simp [line, feed]
  cases crlf with
  | false =>
      rw [ending, if_neg (by simp), rstripNewlines, List.rdropWhile_concat_pos _ _ _ rfl]
      exact bare
  | true =>
      have pair : text ++ [13, 10] = text ++ [13] ++ [10] := by simp
      rw [ending, if_pos rfl, rstripNewlines, pair, List.rdropWhile_concat_pos _ _ _ rfl,
        List.rdropWhile_concat_pos _ _ _ rfl]
      exact bare

theorem Sent.framed (sent : Sent) : ∃ body, sent.raw = body ++ [newline] ∧ newline ∉ body := by
  have encoded := sent.encoded
  rw [encode_append] at encoded
  simp only [Option.bind_eq_bind, Option.bind_eq_some_iff, Option.pure_def,
    Option.some.injEq] at encoded
  obtain ⟨left, leftEq, right, rightEq, joined⟩ := encoded
  have unbroken := Wire.encode_unbroken sent.fitting.clean leftEq
  cases crlfEq : sent.crlf with
  | false =>
      have last : right = [newline] := by
        rw [crlfEq] at rightEq
        exact (Option.some.inj rightEq).symm
      exact ⟨left, by rw [← joined, last], unbroken⟩
  | true =>
      have last : right = [13, newline] := by
        rw [crlfEq] at rightEq
        exact (Option.some.inj rightEq).symm
      refine ⟨left ++ [13], by rw [← joined, last]; simp, ?_⟩
      simp only [List.mem_append, List.mem_singleton, not_or]
      exact ⟨unbroken, by decide⟩

theorem Sent.read (sent : Sent) (rest : Bytes) (eof : Bool) :
    nextLine ⟨sent.raw ++ rest, eof⟩ = some (.ok (sent.response.line, rest)) := by
  obtain ⟨body, rawEq, unbroken⟩ := sent.framed
  have stream : sent.raw ++ rest = body ++ newline :: rest := by simp [rawEq]
  have short := sent.short
  rw [rawEq, List.length_append, List.length_singleton] at short
  rw [stream, nextLine_line unbroken, if_pos (by omega), lineOf, ← rawEq,
    decode_encode sent.encoded]
  simp only [rstripNewlines_ending sent.fitting.clean]

theorem sent_reads (sent : List Sent) (eof : Bool) :
    Reads ⟨sent.flatMap Sent.raw, eof⟩ (sent.map fun sent => sent.response.line)
      (if eof then some .connectionError else none) := by
  induction sent with
  | nil =>
      cases eof with
      | false => exact .waits rfl
      | true => exact .fails rfl
  | cons first rest ih =>
      rw [List.flatMap_cons]
      exact .line (first.read _ _) ih

inductive Begins : Incoming → List Str → Prop
  | nil {incoming} : Begins incoming []
  | line {incoming text rest lines} : nextLine incoming = some (.ok (text, rest)) →
      Begins ⟨rest, incoming.eof⟩ lines → Begins incoming (text :: lines)

theorem Begins.prefix_reads {incoming : Incoming} {first lines : List Str}
    {failure : Option ExcClass} (begins : Begins incoming first)
    (reads : Reads incoming lines failure) : first <+: lines := by
  induction begins generalizing lines with
  | nil => exact List.nil_prefix
  | line read _ ih =>
      cases reads with
      | waits waiting =>
          rw [read] at waiting
          cases waiting
      | fails raised =>
          rw [read] at raised
          cases raised
      | line read' later =>
          rw [read] at read'
          cases read'
          exact (List.prefix_cons_inj _).mpr (ih later)

theorem run_begins {readLine : Incoming → Option (Except PyError Str × Bytes)}
    (meets : ∀ incoming, outcome (readLine incoming) = nextLine incoming) {reading : Reading}
    (steps : List ReadStep) :
    ∃ later, (reading.run readLine steps).lines = reading.lines ++ later ∧
      Begins (streamOf reading.incoming steps) later := by
  induction steps generalizing reading with
  | nil => exact ⟨[], (List.append_nil _).symm, .nil⟩
  | cons step steps ih =>
      cases step with
      | arrive chunk => exact @ih { reading with incoming := _ }
      | finish => exact @ih { reading with incoming := _ }
      | look =>
          cases failed : reading.failure with
          | some cls =>
              refine ⟨[], ?_, .nil⟩
              rw [(Reading.run_failed readLine failed _).1, List.append_nil]
          | none =>
              cases looked : readLine reading.incoming with
              | none =>
                  have same : reading.step readLine .look = reading := by
                    simp [Reading.step, failed, looked]
                  obtain ⟨later, lines, begins⟩ := @ih reading
                  exact ⟨later, by rw [Reading.run, List.foldl_cons, same]; exact lines, begins⟩
              | some found =>
                  obtain ⟨line, rest⟩ := found
                  cases line with
                  | error error =>
                      have same : reading.step readLine .look =
                          ⟨⟨rest, reading.incoming.eof⟩, reading.lines, some error.cls⟩ := by
                        simp [Reading.step, failed, looked]
                      refine ⟨[], ?_, .nil⟩
                      rw [Reading.run, List.foldl_cons, same]
                      exact ((Reading.run_failed readLine rfl _).1).trans (List.append_nil _).symm
                  | ok text =>
                      have same : reading.step readLine .look =
                          ⟨⟨rest, reading.incoming.eof⟩, reading.lines ++ [text], none⟩ := by
                        simp [Reading.step, failed, looked]
                      have read : nextLine reading.incoming = some (.ok (text, rest)) := by
                        rw [← meets, looked]
                        rfl
                      obtain ⟨behind, read', stream⟩ := nextLine_stream_ok read steps
                      obtain ⟨later, lines, begins⟩ :=
                        @ih ⟨⟨rest, reading.incoming.eof⟩, reading.lines ++ [text], none⟩
                      refine ⟨text :: later, ?_, .line read' ?_⟩
                      · rw [Reading.run, List.foldl_cons, same]
                        exact lines.trans (by simp)
                      · exact stream ▸ begins

theorem readAs_lines (op : Str) (sent : List Sent) :
    ReadAs op sent (sent.map fun sent => sent.response.line) := by
  induction sent with
  | nil => exact .nil
  | cons first rest ih => exact .cons (first.fitting.decoded op) ih

theorem begins_sent {sent : List Sent} {eof : Bool} {lines : List Str}
    (begins : Begins ⟨sent.flatMap Sent.raw, eof⟩ lines) :
    ∃ first later, sent = first ++ later ∧ lines = first.map fun sent => sent.response.line := by
  have prefixed := begins.prefix_reads (sent_reads sent eof)
  refine ⟨sent.take lines.length, sent.drop lines.length, (List.take_append_drop _ _).symm, ?_⟩
  rw [List.map_take]
  exact List.prefix_iff_eq_take.mp prefixed

/-- Whatever pieces the responses arrive in and whenever a reader looks at them: so far it has read
the first of them, in the end all of them, and then the end of the stream if there is one. -/
theorem responses_read_back {readLine : Incoming → Option (Except PyError Str × Bytes)}
    (reader : readLine = syncReadLine ∨ readLine = asyncReadLine) (op : Str) (sent : List Sent)
    (steps : List ReadStep) :
    (∀ arrived ahead eof, streamOf Reading.start.incoming steps = ⟨arrived, eof⟩ →
      arrived ++ ahead = sent.flatMap Sent.raw → (eof = true → ahead = []) →
      ∃ first later, sent = first ++ later ∧
        ReadAs op first (Reading.start.run readLine steps).lines) ∧
    (∀ eof, streamOf Reading.start.incoming steps = ⟨sent.flatMap Sent.raw, eof⟩ →
      (Reading.start.run readLine steps).Settled readLine →
      ReadAs op sent (Reading.start.run readLine steps).lines ∧
        (Reading.start.run readLine steps).failure =
          if eof then some .connectionError else none) := by
  have meets : ∀ incoming, outcome (readLine incoming) = nextLine incoming := by
    rcases reader with rfl | rfl
    · exact syncReadLine_next
    · exact asyncReadLine_next
  refine ⟨?_, ?_⟩
  · intro arrived ahead eof stream whole ended
    -- What is still to arrive changes nothing in what was read.
    obtain ⟨lines, delivered, begins⟩ := @run_begins readLine meets Reading.start
      (steps ++ [.arrive ahead])
    have all : streamOf Reading.start.incoming (steps ++ [.arrive ahead]) =
        ⟨sent.flatMap Sent.raw, eof⟩ := by
      rw [streamOf] at stream ⊢
      rw [List.foldl_append, stream, List.foldl_cons, List.foldl_nil, ← whole]
      cases eof with
      | false => rfl
      | true => simp [Incoming.feed, ended rfl]
    have same : (Reading.start.run readLine (steps ++ [.arrive ahead])).lines =
        (Reading.start.run readLine steps).lines := by
      rw [Reading.run, List.foldl_append]
      rfl
    rw [same] at delivered
    rw [all] at begins
    obtain ⟨first, later, parts, known⟩ := begins_sent begins
    refine ⟨first, later, parts, ?_⟩
    have read := readAs_lines op first
    rw [← known] at read
    exact delivered ▸ read
  · intro eof stream settled
    obtain ⟨lines, delivered, reads⟩ := Reading.run_reads meets rfl steps settled
    rw [stream] at reads
    obtain ⟨rfl, failure⟩ := reads.unique (sent_reads sent eof)
    exact ⟨delivered ▸ readAs_lines op sent, failure⟩

def demoSent : List Sent :=
  [⟨.auth, .done, false, bytesOf "ok\n", .authenticated, by decide, by decide⟩,
    ⟨.grant, .granted (str "abc") 33, true, bytesOf "ok abc 33\x0d\n",
      .granted ⟨by decide, by decide⟩ (by decide) (by decide), by decide +kernel, by decide⟩,
    ⟨.renew, .remaining 30, false, bytesOf "ok 30\n", .renewed (by decide), by decide +kernel,
      by decide⟩,
    ⟨.release, .refused (str "error_lease_expired"), false, bytesOf "error_lease_expired\n",
      .refused (by decide) (by decide), by decide +kernel, by decide⟩]

def demoSteps : List ReadStep :=
  [.look, .arrive (bytesOf "ok\nok a"), .look, .look, .arrive (bytesOf "bc 33\x0d"), .look,
    .arrive (bytesOf "\nok 30\nerror_lease"), .look, .look, .look,
    .arrive (bytesOf "_expired\n"), .look]

theorem responses_read_back_demo :
    ReadAs (str "acquire") demoSent (Reading.start.run syncReadLine demoSteps).lines ∧
      (Reading.start.run syncReadLine demoSteps).failure = none :=
  (responses_read_back (.inl rfl) (str "acquire") demoSent demoSteps).2 false (by decide)
    (.inr (by decide))

end DflockdClient.Responses
