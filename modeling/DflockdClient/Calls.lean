import DflockdClient.Checks
import DflockdClient.Stats
import DflockdClient.Wire

/-!
The low-level calls as frames, and a reader of the frames: every sequence of calls
can be told from its bytes.
-/

namespace DflockdClient

/-- A call of a low-level function, with its arguments. -/
inductive Call
  | authenticate (authToken : Str)
  | stats
  | acquire (key : Str) (acquireTimeoutS : Value) (leaseTtlS : Option Value) (pre : Str)
      (limit : Option Value)
  | enqueue (key : Str) (leaseTtlS : Option Value) (pre : Str) (limit : Option Value)
  | wait (key : Str) (waitTimeoutS : Value) (pre : Str)
  | renew (key token : Str) (leaseTtlS : Option Value) (pre : Str)
  | release (key token pre : Str)
  deriving DecidableEq

namespace Call

def request (call : Call) : Except PyError Request :=
  match call with
  | authenticate authToken => authenticateRequest authToken
  | stats => .ok statsRequest
  | acquire key acquireTimeoutS leaseTtlS pre limit =>
      acquireRequest key acquireTimeoutS leaseTtlS pre limit
  | enqueue key leaseTtlS pre limit => enqueueRequest key leaseTtlS pre limit
  | wait key waitTimeoutS pre => waitRequest key waitTimeoutS pre
  | renew key token leaseTtlS pre => renewRequest key token leaseTtlS pre ioSlackS
  | release key token pre => releaseRequest key token pre

/-- The bytes that `command` writes for the call. -/
def frame (call : Call) : Except PyError Bytes := do
  let request ← call.request
  encodeLines [request.cmd, request.key, request.arg]

def argumentBytes (call : Call) : Nat :=
  match call with
  | authenticate _ => maxAuthTokenBytes
  | _ => maxLineBytes

end Call

def fieldsOf (arg : Str) : List Str := if arg = [] then [] else arg.splitOn 0x20

def limitAndLease (pre : Str) (numbers : List Int) : Option (Option Value × Option Value) :=
  match pre, numbers with
  | [], [] => some (none, none)
  | [], [lease] => some (none, some (.int lease))
  | _ :: _, [limit] => some (some (.int limit), none)
  | _ :: _, [limit, lease] => some (some (.int limit), some (.int lease))
  | _, _ => none

def decodeLockCall (pre op key arg : Str) : Option Call :=
  if op = str "l" then
    match (fieldsOf arg).mapM parseInt with
    | some (seconds :: numbers) =>
        (limitAndLease pre numbers).map fun (limit, lease) =>
          .acquire key (.int seconds) lease pre limit
    | _ => none
  else if op = str "e" then
    match (fieldsOf arg).mapM parseInt with
    | some numbers =>
        (limitAndLease pre numbers).map fun (limit, lease) => .enqueue key lease pre limit
    | none => none
  else if op = str "w" then
    match (fieldsOf arg).mapM parseInt with
    | some [seconds] => some (.wait key (.int seconds) pre)
    | _ => none
  else if op = str "n" then
    match fieldsOf arg with
    | [token] => some (.renew key token none pre)
    | [token, lease] => (parseInt lease).map fun lease => .renew key token (some (.int lease)) pre
    | _ => none
  else if op = str "r" then some (.release key arg pre)
  else none

def decodeCall (cmd key arg : Str) : Option Call :=
  if cmd = str "auth" then some (.authenticate arg)
  else if cmd = str "stats" then some .stats
  else if cmd.head? = some 0x73 then decodeLockCall (str "s") cmd.tail key arg
  else decodeLockCall [] cmd key arg

/-- Lines in groups of three, after the last of which nothing is left. -/
def decodeLines (lines : List Bytes) : Option (List Call) :=
  match lines with
  | [rest] => if rest = [] then some [] else none
  | cmd :: key :: arg :: lines => do
      let call ← decodeCall (← decode cmd) (← decode key) (← decode arg)
      let later ← decodeLines lines
      pure (call :: later)
  | _ => none

def decodeCalls (sent : Bytes) : Option (List Call) := decodeLines (sent.splitOn newline)

example : (Call.enqueue (str "k") (some (.int 7)) [] none).frame = .ok (bytesOf "e\nk\n7\n") ∧
    (Call.enqueue (str "k") none (str "s") (some (.int 7))).frame = .ok (bytesOf "se\nk\n7\n") := by
  decide +kernel

theorem fieldsOf_joinSpaces {parts : List Str}
    (words : ∀ part ∈ parts, part ≠ [] ∧ (0x20 : Nat) ∉ part) : fieldsOf (joinSpaces parts) = parts := by
  cases parts with
  | nil => rfl
  | cons part parts =>
      have full : joinSpaces (part :: parts) ≠ [] := by
        have first := (words part List.mem_cons_self).1
        unfold joinSpaces
        cases parts <;> simp [first]
      rw [fieldsOf, if_neg full]
      exact List.splitOn_intercalate 0x20 (fun part' member => (words part' member).2) (by simp)

def Spells (part : Str) (value : Int) : Prop :=
  part ≠ [] ∧ (∀ c ∈ part, AsciiDigit c) ∧ parseInt part = some value

abbrev Written (parts : List Str) (values : List Int) : Prop := List.Forall₂ Spells parts values

theorem Spells.no_space {part : Str} {value : Int} (spells : Spells part value) :
    part ≠ [] ∧ (0x20 : Nat) ∉ part := by
  refine ⟨spells.1, fun space => ?_⟩
  have low := (spells.2.1 _ space).1
  omega

theorem optionalInt_written {value : Option Int} {first parts : List Str} {values : List Int}
    (natural : ∀ number ∈ value, 0 ≤ number) (written : optionalInt value = .ok first)
    (rest : Written parts values) : Written (first ++ parts) (value.toList ++ values) := by
  cases value with
  | none =>
      cases written
      exact rest
  | some number =>
      obtain ⟨part, made, same⟩ := Except.bind_eq_ok written
      cases same
      exact .cons (strInt_reads (natural number rfl) made) rest

theorem Written.fields {parts : List Str} {values : List Int} (written : Written parts values) :
    fieldsOf (joinSpaces parts) = parts := by
  apply fieldsOf_joinSpaces
  induction written with
  | nil => simp
  | cons spells _ ih =>
      simp only [List.mem_cons, forall_eq_or_imp]
      exact ⟨spells.no_space, ih⟩

theorem Written.reads {parts : List Str} {values : List Int} (written : Written parts values) :
    parts.mapM parseInt = some values := by
  induction written with
  | nil => rfl
  | cons spells _ ih => simp [List.mapM_cons, spells.2.2, ih]

theorem buildAcquireArg_written {seconds : Int} {slots lease : Option Int} {arg : Str}
    (naturals : 0 ≤ seconds ∧ (∀ count ∈ slots, 0 ≤ count) ∧ ∀ ttl ∈ lease, 0 ≤ ttl)
    (built : buildAcquireArg seconds slots lease = .ok arg) :
    ∃ parts, arg = joinSpaces parts ∧ Written parts (seconds :: (slots.toList ++ lease.toList)) := by
  obtain ⟨first, firstEq, built⟩ := Except.bind_eq_ok built
  obtain ⟨second, secondEq, built⟩ := Except.bind_eq_ok built
  obtain ⟨third, thirdEq, same⟩ := Except.bind_eq_ok built
  cases same
  refine ⟨_, rfl, .cons (strInt_reads naturals.1 firstEq) (optionalInt_written naturals.2.1 secondEq ?_)⟩
  simpa using optionalInt_written naturals.2.2 thirdEq .nil

theorem buildEnqueueArg_written {slots lease : Option Int} {arg : Str}
    (naturals : (∀ count ∈ slots, 0 ≤ count) ∧ ∀ ttl ∈ lease, 0 ≤ ttl)
    (built : buildEnqueueArg slots lease = .ok arg) :
    ∃ parts, arg = joinSpaces parts ∧ Written parts (slots.toList ++ lease.toList) := by
  obtain ⟨first, firstEq, built⟩ := Except.bind_eq_ok built
  obtain ⟨second, secondEq, same⟩ := Except.bind_eq_ok built
  cases same
  refine ⟨_, rfl, optionalInt_written naturals.1 firstEq ?_⟩
  simpa using optionalInt_written naturals.2 secondEq .nil

theorem Word.no_space {word : Str} (solid : Word word) : word ≠ [] ∧ (0x20 : Nat) ∉ word := by
  refine ⟨solid.full, fun space => ?_⟩
  have blank := solid.solid
  simp only [hasWhitespace, List.any_eq_false] at blank
  exact blank _ space rfl

theorem buildRenewArg_fields {token arg : Str} {lease : Option Int} (named : Word token)
    (natural : ∀ ttl ∈ lease, 0 ≤ ttl) (built : buildRenewArg token lease = .ok arg) :
    ∃ parts, fieldsOf arg = token :: parts ∧ Written parts lease.toList := by
  cases lease with
  | none =>
      cases built
      refine ⟨[], ?_, .nil⟩
      have single : joinSpaces [token] = token := by simp [joinSpaces]
      have fields := @fieldsOf_joinSpaces [token] (by simpa using named.no_space)
      rw [single] at fields
      exact fields
  | some ttl =>
      obtain ⟨digits, made, same⟩ := Except.bind_eq_ok built
      cases same
      have spells : Spells digits ttl := strInt_reads (natural ttl rfl) made
      refine ⟨[digits], ?_, .cons spells .nil⟩
      have joined : token ++ str " " ++ digits = joinSpaces [token, digits] := by
        simp [joinSpaces]
      rw [joined]
      apply fieldsOf_joinSpaces
      simp only [List.mem_cons, List.not_mem_nil, or_false, forall_eq_or_imp, forall_eq]
      exact ⟨named.no_space, spells.no_space⟩

theorem limitAndLease_of {pre : Str} {limit : Option Value} {slots lease : Option Int}
    (limited : validatePrefixLimit pre limit = .ok slots) :
    limitAndLease pre (slots.toList ++ lease.toList) = some (limit, lease.map .int) := by
  obtain ⟨rfl, ⟨rfl, rfl⟩ | ⟨rfl, count, _, rfl⟩⟩ := validatePrefixLimit_iff.mp limited
  · cases lease <;> rfl
  · cases lease <;> rfl

theorem slots_natural {pre : Str} {limit : Option Value} {slots : Option Int}
    (limited : validatePrefixLimit pre limit = .ok slots) : ∀ count ∈ slots, 0 ≤ count := by
  obtain ⟨_, ⟨_, rfl⟩ | ⟨_, count, positive, rfl⟩⟩ := validatePrefixLimit_iff.mp limited
  · simp
  · simp only [Option.mem_some_iff, forall_eq']
    omega

theorem lease_natural {value : Option Value} {lease : Option Int}
    (leased : validateLeaseTtlS value = .ok lease) : ∀ ttl ∈ lease, 0 ≤ ttl := by
  intro ttl member
  have range := (validateLeaseTtlS_iff.mp leased).2 ttl member
  omega

theorem prefix_of_limit {pre : Str} {limit : Option Value} {slots : Option Int}
    (limited : validatePrefixLimit pre limit = .ok slots) : pre = [] ∨ pre = str "s" := by
  rcases (validatePrefixLimit_iff.mp limited).2 with ⟨lock, _⟩ | ⟨semaphore, _⟩
  · exact .inl lock
  · exact .inr semaphore

theorem decodeCall_lock {pre op : Str} (valid : pre = [] ∨ pre = str "s")
    (letter : op ∈ [str "l", str "e", str "w", str "n", str "r"]) (key arg : Str) :
    decodeCall (pre ++ op) key arg = decodeLockCall pre op key arg := by
  simp only [List.mem_cons, List.not_mem_nil, or_false] at letter
  rcases valid with rfl | rfl <;> rcases letter with rfl | rfl | rfl | rfl | rfl <;> rfl

theorem decodeCall_request {call : Call} {request : Request} (built : call.request = .ok request) :
    decodeCall request.cmd request.key request.arg = some call := by
  cases call with
  | authenticate authToken =>
      obtain ⟨_, rfl⟩ := authenticateRequest_iff.mp built
      rfl
  | stats =>
      cases built
      rfl
  | acquire key acquireTimeoutS leaseTtlS pre limit =>
      obtain ⟨slots, seconds, lease, arg, limited, _, timed, leased, argued, _, rfl⟩ :=
        acquireRequest_iff.mp built
      obtain ⟨rfl, natural, _⟩ := validateTimeoutS_iff.mp timed
      obtain ⟨parts, rfl, written⟩ := buildAcquireArg_written
        ⟨natural, slots_natural limited, lease_natural leased⟩ argued
      rw [decodeCall_lock (prefix_of_limit limited) (by simp)]
      simp only [decodeLockCall, written.fields, written.reads, limitAndLease_of limited,
        (validateLeaseTtlS_iff.mp leased).1]
      rfl
  | enqueue key leaseTtlS pre limit =>
      obtain ⟨slots, lease, arg, limited, _, leased, argued, _, rfl⟩ :=
        enqueueRequest_iff.mp built
      obtain ⟨parts, rfl, written⟩ := buildEnqueueArg_written
        ⟨slots_natural limited, lease_natural leased⟩ argued
      rw [decodeCall_lock (prefix_of_limit limited) (by simp)]
      simp only [decodeLockCall, written.fields, written.reads, limitAndLease_of limited,
        (validateLeaseTtlS_iff.mp leased).1]
      rfl
  | wait key waitTimeoutS pre =>
      obtain ⟨seconds, arg, valid, _, timed, argued, _, rfl⟩ := waitRequest_iff.mp built
      obtain ⟨rfl, natural, _⟩ := validateTimeoutS_iff.mp timed
      have written : Written [arg] [seconds] := .cons (strInt_reads natural argued) .nil
      have fields := written.fields
      have single : joinSpaces [arg] = arg := by simp [joinSpaces]
      rw [single] at fields
      rw [decodeCall_lock valid (by simp)]
      simp only [decodeLockCall, fields, written.reads]
      rfl
  | renew key token leaseTtlS pre =>
      obtain ⟨lease, arg, valid, _, named, leased, argued, _, rfl⟩ := renewRequest_iff.mp built
      obtain ⟨parts, fields, written⟩ := buildRenewArg_fields named (lease_natural leased) argued
      obtain ⟨rfl, _⟩ := validateLeaseTtlS_iff.mp leased
      rw [decodeCall_lock valid (by simp)]
      cases lease with
      | none =>
          cases written
          simp only [decodeLockCall, fields]
          rfl
      | some ttl =>
          obtain ⟨digits, rfl, spells⟩ : ∃ digits, parts = [digits] ∧ Spells digits ttl := by
            cases written with
            | cons spells rest =>
                cases rest
                exact ⟨_, rfl, spells⟩
          simp only [decodeLockCall, fields, spells.2.2]
          rfl
  | release key token pre =>
      obtain ⟨valid, _, _, rfl⟩ := releaseRequest_iff.mp built
      rw [decodeCall_lock valid (by simp)]
      rfl

theorem Word.line {word : Str} (solid : Word word) : Line word :=
  ⟨hasNewline_of_whitespace solid.solid, solid.fits⟩

theorem line_plain {text : Str} (plain : ∀ c ∈ text, 0x20 ≤ c ∧ c < 0x80)
    (short : text.length ≤ maxLineBytes) : Line text := by
  refine ⟨?_, fits_ascii (fun c member => (plain c member).2) short⟩
  simp only [hasNewline, List.any_eq_false, Bool.or_eq_true, beq_iff_eq, not_or]
  intro c member
  have visible := (plain c member).1
  omega

theorem line_cmd {pre op : Str} (valid : pre = [] ∨ pre = str "s")
    (letter : op ∈ [str "l", str "e", str "w", str "n", str "r"]) : Line (pre ++ op) := by
  simp only [List.mem_cons, List.not_mem_nil, or_false] at letter
  apply line_plain
  · rcases valid with rfl | rfl <;> rcases letter with rfl | rfl | rfl | rfl | rfl <;> decide
  · rcases valid with rfl | rfl <;> rcases letter with rfl | rfl | rfl | rfl | rfl <;> decide

theorem request_lines {call : Call} {request : Request} (built : call.request = .ok request) :
    Line request.cmd ∧ Line request.key ∧
      hasNewline request.arg = false ∧ Fits call.argumentBytes request.arg := by
  cases call with
  | authenticate authToken =>
      obtain ⟨⟨clean, fits⟩, rfl⟩ := authenticateRequest_iff.mp built
      have auth : Line (str "auth") := line_plain (by decide) (by decide)
      have placeholder : Line (str "_") := line_plain (by decide) (by decide)
      exact ⟨auth, placeholder, clean, fits⟩
  | stats =>
      cases built
      exact ⟨line_plain (by decide) (by decide), line_plain (by decide) (by decide),
        line_plain (by decide) (by decide)⟩
  | acquire key acquireTimeoutS leaseTtlS pre limit =>
      obtain ⟨slots, seconds, lease, arg, limited, word, _, _, _, line, rfl⟩ :=
        acquireRequest_iff.mp built
      exact ⟨line_cmd (prefix_of_limit limited) (by simp), word.line, line⟩
  | enqueue key leaseTtlS pre limit =>
      obtain ⟨slots, lease, arg, limited, word, _, _, line, rfl⟩ := enqueueRequest_iff.mp built
      exact ⟨line_cmd (prefix_of_limit limited) (by simp), word.line, line⟩
  | wait key waitTimeoutS pre =>
      obtain ⟨seconds, arg, valid, word, _, _, line, rfl⟩ := waitRequest_iff.mp built
      exact ⟨line_cmd valid (by simp), word.line, line⟩
  | renew key token leaseTtlS pre =>
      obtain ⟨lease, arg, valid, word, _, _, _, line, rfl⟩ := renewRequest_iff.mp built
      exact ⟨line_cmd valid (by simp), word.line, line⟩
  | release key token pre =>
      obtain ⟨valid, word, named, rfl⟩ := releaseRequest_iff.mp built
      exact ⟨line_cmd valid (by simp), word.line, named.line⟩

theorem encodeLines_three {cmd key arg : Str} {first second third : Bytes}
    (clean : ∀ line ∈ [cmd, key, arg], hasNewline line = false) (firstEq : encode cmd = some first)
    (secondEq : encode key = some second) (thirdEq : encode arg = some third) :
    encodeLines [cmd, key, arg] =
      .ok (first ++ newline :: (second ++ newline :: (third ++ [newline]))) := by
  obtain ⟨bytes, made⟩ := @encodeLines_ok [cmd, key, arg] (by
    simp only [List.mem_cons, List.not_mem_nil, or_false, forall_eq_or_imp, forall_eq] at clean ⊢
    exact ⟨⟨clean.1, first, firstEq⟩, ⟨clean.2.1, second, secondEq⟩, clean.2.2, third, thirdEq⟩)
  have ends : encode [10] = some [newline] := by decide
  have joined : joinLines [cmd, key, arg] = cmd ++ ([10] ++ (key ++ ([10] ++ (arg ++ [10])))) := by
    simp [joinLines]
  have whole : encode (joinLines [cmd, key, arg]) =
      some (first ++ newline :: (second ++ newline :: (third ++ [newline]))) := by
    rw [joined, encode_append, encode_append, encode_append, encode_append, encode_append, ends,
      firstEq, secondEq, thirdEq]
    rfl
  rw [made]
  unfold encodeLines at made
  obtain ⟨_, made⟩ := unit_bind_iff.mp made
  simp only [whole] at made
  exact congrArg Except.ok (pure_iff.mp made)

def ThreeLines (limit : Nat) (frame : Bytes) : Prop :=
  ∃ first second third, frame = first ++ newline :: (second ++ newline :: (third ++ [newline])) ∧
    (newline ∉ first ∧ newline ∉ second ∧ newline ∉ third) ∧
    first.length ≤ maxLineBytes ∧ second.length ≤ maxLineBytes ∧ third.length ≤ limit

theorem frame_ok {call : Call} {request : Request} (built : call.request = .ok request) :
    ∃ frame, call.frame = .ok frame ∧ ThreeLines call.argumentBytes frame ∧
      ∀ more, decodeCalls (frame ++ more) = (decodeCalls more).map (call :: ·) := by
  obtain ⟨⟨clean, first, firstEq, short⟩, ⟨clean', second, secondEq, short'⟩, clean'', third,
    thirdEq, short''⟩ := request_lines built
  have unbroken := Wire.encode_unbroken clean firstEq
  have unbroken' := Wire.encode_unbroken clean' secondEq
  have unbroken'' := Wire.encode_unbroken clean'' thirdEq
  refine ⟨first ++ newline :: (second ++ newline :: (third ++ [newline])), ?_, ?_, ?_⟩
  · refine Except.bind_ok_iff.mpr ⟨request, built, ?_⟩
    exact encodeLines_three (by simp [clean, clean', clean'']) firstEq secondEq thirdEq
  · exact ⟨first, second, third, rfl, ⟨unbroken, unbroken', unbroken''⟩, short, short', short''⟩
  · intro more
    have cut : (first ++ newline :: (second ++ newline :: (third ++ [newline])) ++ more).splitOn
        newline = first :: second :: third :: more.splitOn newline := by
      simp only [List.append_assoc, List.cons_append, List.nil_append]
      rw [List.splitOn_append_cons_self_of_not_mem unbroken,
        List.splitOn_append_cons_self_of_not_mem unbroken',
        List.splitOn_append_cons_self_of_not_mem unbroken'']
    have read := decodeCall_request built
    simp only [decodeCalls, cut, decodeLines, decode_encode firstEq, decode_encode secondEq,
      decode_encode thirdEq, Option.bind_eq_bind, Option.bind_some, read]
    cases decodeLines (more.splitOn newline) <;> rfl

theorem frames_ok {calls : List Call}
    (valid : ∀ call ∈ calls, ∃ request, call.request = .ok request) :
    ∃ frames, calls.mapM Call.frame = .ok frames ∧
      List.Forall₂ (fun call frame => ThreeLines call.argumentBytes frame) calls frames ∧
      decodeCalls frames.flatten = some calls := by
  induction calls with
  | nil => exact ⟨[], rfl, .nil, by simp [decodeCalls, decodeLines]⟩
  | cons call calls ih =>
      simp only [List.mem_cons, forall_eq_or_imp] at valid
      obtain ⟨⟨request, built⟩, later⟩ := valid
      obtain ⟨frame, framed, lines, reads⟩ := frame_ok built
      obtain ⟨frames, framed', lines', reads'⟩ := ih later
      refine ⟨frame :: frames, ?_, .cons lines lines', ?_⟩
      · rw [List.mapM_cons, framed, framed']
        rfl
      · rw [List.flatten_cons, reads, reads']
        rfl

/-- The frames of any calls that pass the checks are written, are three short lines each, and can
be read back to the calls, so that no other calls have the same bytes. -/
theorem framing_unambiguous {calls : List Call}
    (valid : ∀ call ∈ calls, ∃ request, call.request = .ok request) :
    ∃ frames, calls.mapM Call.frame = .ok frames ∧
      List.Forall₂ (fun call frame => ThreeLines call.argumentBytes frame) calls frames ∧
      decodeCalls frames.flatten = some calls ∧
      ∀ others frames', (∀ call ∈ others, ∃ request, call.request = .ok request) →
        others.mapM Call.frame = .ok frames' → frames'.flatten = frames.flatten →
        others = calls := by
  obtain ⟨frames, framed, lines, reads⟩ := frames_ok valid
  refine ⟨frames, framed, lines, reads, ?_⟩
  intro others frames' valid' framed' same
  obtain ⟨_, framed'', _, reads'⟩ := frames_ok valid'
  rw [framed'] at framed''
  cases framed''
  rw [same, reads] at reads'
  exact (Option.some.inj reads').symm

theorem framing_unambiguous_demo : ∃ frames,
    [Call.enqueue (str "k") (some (.int 7)) [] none, .stats].mapM Call.frame = .ok frames ∧
      decodeCalls frames.flatten = some [.enqueue (str "k") (some (.int 7)) [] none, .stats] := by
  have valid : ∀ call ∈ [Call.enqueue (str "k") (some (.int 7)) [] none, .stats],
      ∃ request, call.request = .ok request := by
    simp only [List.mem_cons, List.not_mem_nil, or_false, forall_eq_or_imp, forall_eq]
    exact ⟨⟨⟨str "e", str "k", str "7", 30⟩, by decide +kernel⟩, statsRequest, rfl⟩
  obtain ⟨frames, framed, _, reads, _⟩ := framing_unambiguous valid
  exact ⟨frames, framed, reads⟩

end DflockdClient
