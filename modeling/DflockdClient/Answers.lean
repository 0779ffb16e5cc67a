import DflockdClient.Exchanges
import DflockdClient.Fields
import DflockdClient.Stats

/-!
The decoders over every string a server may send: what they accept, which
exceptions they raise, and that no two of them accept one string.
-/

namespace DflockdClient

def InFamily (cls : ExcClass) : Prop := cls.isSubclass .runtimeError = true

/-- Good values, allowed exceptions, and a sentinel exactly on its status code. -/
structure Conforms {α : Type} (good : α → Prop) (allowed : ExcClass → Prop) (resp : Str)
    (outcome : Except PyError α) : Prop where
  value : ∀ result, outcome = .ok result → good result
  error : ∀ raised, outcome = .error raised → allowed raised.cls
  sentinel : ∀ code cls, (code, cls) ∈ statusErrors →
    ((∃ raised, outcome = .error raised ∧ raised.cls = cls) ↔ resp = code)

def GoodGrant (grant : Str × Int) : Prop :=
  grant.1 ≠ [] ∧ (∀ c ∈ grant.1, isSpace c = false) ∧ 1 ≤ grant.2 ∧ grant.2 ≤ maxProtocolSeconds

def GoodStatus (status : EnqueueStatus) : Prop :=
  status = .queued ∨ ∃ token lease, status = .acquired token lease ∧ GoodGrant (token, lease)

def GoodRemaining (remaining : Int) : Prop := 0 ≤ remaining ∧ remaining ≤ maxProtocolSeconds

def GoodStats (entries : List (Str × Json)) : Prop :=
  (∃ connections, entries.lookup (str "connections") = some (.int connections) ∧ 0 ≤ connections) ∧
    ∀ field ∈ statsListFields, ∃ values, entries.lookup field = some (.list values) ∧
      ∀ value ∈ values, ∃ members, value = .dict members

/-- All five decoders on one line. -/
structure InContract (loads : Str → Except PyError Json) (resp op : Str) : Prop where
  grant : Conforms GoodGrant (fun cls => InFamily cls ∨ cls = .dflockdTimeoutError) resp
    (parseGrantResponse resp op)
  enqueue : Conforms GoodStatus InFamily resp (parseEnqueueResponse resp op)
  renew : Conforms GoodRemaining InFamily resp (parseRenewResponse resp op)
  release : Conforms (fun _ => True) InFamily resp (parseReleaseResponse resp op)
  stats : Conforms GoodStats InFamily resp (parseStatsResponse loads resp)

def isJsonSpace (c : Nat) : Bool := c == 0x20 || c == 9 || c == 10 || c == 13

def outsideStrings : Bool → Str → Bool
  | inside, [] => !inside
  | false, c :: rest => outsideStrings (c == 0x22) rest
  | true, 0x5c :: _ :: rest => outsideStrings true rest
  | true, c :: rest => outsideStrings (c != 0x22) rest

def valueMayFollow (before : Str) : Bool :=
  outsideStrings false before &&
    before.getLast?.all fun c => isJsonSpace c || c == 0x5b || c == 0x2c || c == 0x3a

def startsWithDigit (text : Str) : Bool := text.head?.any fun c => 0x30 ≤ c && c ≤ 0x39

def continuesNumber (after : Str) : Bool :=
  match after with
  | [] => false
  | c :: rest =>
      startsWithDigit after || (c == 0x2e && startsWithDigit rest) ||
        ((c == 0x65 || c == 0x45) &&
          (startsWithDigit rest ||
            (rest.head?.any fun sign => sign == 0x2b || sign == 0x2d) && startsWithDigit rest.tail))

/-- An integer literal of more digits than `int` reads. -/
def LongLiteral (text : Str) : Prop :=
  ∃ before sign digits after, text = before ++ sign ++ digits ++ after ∧
    valueMayFollow before = true ∧ (sign = [] ∨ sign = str "-") ∧
    (∀ c ∈ digits, AsciiDigit c) ∧ digits.head? ≠ some 0x30 ∧ maxIntDigits < digits.length ∧
    continuesNumber after = false

/-- The exceptions of `json.loads`: a plain `ValueError` only for an integer literal that is too
long. -/
def LoadsRaises (loads : Str → Except PyError Json) : Prop :=
  ∀ text raised, loads text = .error raised →
    raised.cls = .jsonDecodeError ∨ raised.cls = .recursionError ∨
      (raised.cls = .valueError ∧ LongLiteral text)

theorem statusErrors_foreign : ∀ entry ∈ statusErrors, entry.1 ≠ str "timeout" ∧
    startswith entry.1 (str "ok ") = false ∧ startswith entry.1 (str "ok") = false ∧
    entry.1 ≠ str "queued" ∧ startswith entry.1 (str "acquired ") = false ∧ entry.1 ≠ str "ok" := by
  decide

theorem statusErrors_family : ∀ entry ∈ statusErrors, InFamily entry.2 ∧
    entry.2 ≠ .dflockdError := by
  unfold InFamily
  decide

theorem statusErrors_codes : ∀ entry ∈ statusErrors, statusErrors.lookup entry.1 = some entry.2 := by
  decide

theorem statusErrors_classes : ∀ entry ∈ statusErrors, ∀ other ∈ statusErrors,
    entry.2 = other.2 → entry.1 = other.1 := by
  decide

theorem statusErrors_lookup {resp : Str} {cls : ExcClass}
    (found : statusErrors.lookup resp = some cls) : (resp, cls) ∈ statusErrors := by
  obtain ⟨before, after, same, _⟩ := List.lookup_eq_some_iff.mp found
  simp [same]

theorem statusError_family (op resp : Str) : InFamily (statusError op resp).cls := by
  simp only [statusError]
  cases found : statusErrors.lookup resp with
  | none => rfl
  | some cls => exact (statusErrors_family _ (statusErrors_lookup found)).1

theorem statusError_sentinel {op resp code : Str} {cls : ExcClass}
    (listed : (code, cls) ∈ statusErrors) : (statusError op resp).cls = cls ↔ resp = code := by
  simp only [statusError]
  constructor
  · intro same
    cases found : statusErrors.lookup resp with
    | none =>
        simp only [found, Option.getD_none] at same
        exact absurd same.symm (statusErrors_family _ listed).2
    | some raised =>
        simp only [found, Option.getD_some] at same
        subst same
        exact statusErrors_classes _ (statusErrors_lookup found) _ listed rfl
  · rintro rfl
    simp only [statusErrors_codes _ listed, Option.getD_some]

theorem statusErrors_others : ∀ entry ∈ statusErrors, .runtimeError ≠ entry.2 ∧
    .dflockdTimeoutError ≠ entry.2 ∧ .recursionError ≠ entry.2 ∧ .valueError ≠ entry.2 := by
  decide

theorem Conforms.of {α : Type} {good : α → Prop} {allowed : ExcClass → Prop} {op resp : Str}
    {outcome : Except PyError α} (value : ∀ result, outcome = .ok result → good result)
    (family : ∀ cls, InFamily cls → allowed cls)
    (codes : ∀ entry ∈ statusErrors, resp = entry.1 → outcome = .error (statusError op resp))
    (errors : ∀ raised, outcome = .error raised → raised = statusError op resp ∨
      (allowed raised.cls ∧ ∀ entry ∈ statusErrors, raised.cls ≠ entry.2)) :
    Conforms good allowed resp outcome := by
  refine ⟨value, ?_, ?_⟩
  · intro raised failed
    rcases errors raised failed with rfl | ⟨fits, _⟩
    · exact family _ (statusError_family op resp)
    · exact fits
  · intro code cls listed
    constructor
    · rintro ⟨raised, failed, same⟩
      rcases errors raised failed with rfl | ⟨_, foreign⟩
      · exact (statusError_sentinel listed).mp same
      · exact absurd same (foreign _ listed)
    · intro same
      exact ⟨_, codes _ listed same, (statusError_sentinel listed).mpr same⟩

theorem badResponse_other (op resp : Str) : InFamily (badResponse op resp).cls ∧
    ∀ entry ∈ statusErrors, (badResponse op resp).cls ≠ entry.2 :=
  ⟨rfl, fun entry listed => (statusErrors_others entry listed).1⟩

theorem parseIntField_error {raw op resp : Str} {minValue : Int} {raised : PyError}
    (failed : parseIntField raw op resp minValue = .error raised) :
    raised = badResponse op resp := by
  unfold parseIntField at failed
  split at failed
  · cases failed
    rfl
  · split at failed
    · cases failed
      rfl
    · cases failed

theorem decodeTokenLease_error {resp status op : Str} {raised : PyError}
    (failed : decodeTokenLease resp status op = .error raised) : raised = badResponse op resp := by
  unfold decodeTokenLease at failed
  split at failed
  · rename_i first token lease _
    split at failed
    · cases field : parseIntField lease op resp 1 with
      | error error =>
          simp only [field] at failed
          cases failed
          exact parseIntField_error field
      | ok value =>
          simp only [field] at failed
          cases failed
    · cases failed
      rfl
  · cases failed
    rfl

theorem decodeTokenLease_ok {resp status op token : Str} {lease : Int}
    (done : decodeTokenLease resp status op = .ok (token, lease)) :
    ∃ raw, split resp = [status, token, raw] ∧ parseIntField raw op resp 1 = .ok lease := by
  unfold decodeTokenLease at done
  split at done
  · rename_i first granted raw fields
    split at done
    · rename_i same
      obtain ⟨value, field, same'⟩ := Except.bind_eq_ok done
      cases same'
      simp only [beq_iff_eq] at same
      subst same
      exact ⟨raw, fields, field⟩
    · cases done
  · cases done

theorem decodeTokenLease_good {resp status op : Str} {grant : Str × Int}
    (done : decodeTokenLease resp status op = .ok grant) : GoodGrant grant := by
  obtain ⟨token, lease⟩ := grant
  obtain ⟨raw, fields, field⟩ := decodeTokenLease_ok done
  have member : token ∈ split resp := by simp [fields]
  obtain ⟨full, solid⟩ := split_field member
  exact ⟨full, solid, parseIntField_range field⟩

theorem decodeRemaining_error {resp op : Str} {raised : PyError}
    (failed : decodeRemaining resp op = .error raised) : raised = badResponse op resp := by
  unfold decodeRemaining at failed
  split at failed
  · split at failed
    · exact parseIntField_error failed
    · cases failed
      rfl
  · cases failed
    rfl

theorem grant_conforms (resp op : Str) :
    Conforms GoodGrant (fun cls => InFamily cls ∨ cls = .dflockdTimeoutError) resp
      (parseGrantResponse resp op) := by
  apply @Conforms.of _ _ _ op
  · intro grant done
    unfold parseGrantResponse at done
    split at done
    · cases done
    · split at done
      · cases done
      · exact decodeTokenLease_good done
  · exact fun _ => .inl
  · rintro entry listed rfl
    obtain ⟨timely, refused, _⟩ := statusErrors_foreign entry listed
    simp [parseGrantResponse, timely, refused]
  · intro raised failed
    unfold parseGrantResponse at failed
    split at failed
    · cases failed
      exact .inr ⟨.inr rfl, fun entry listed => (statusErrors_others entry listed).2.1⟩
    · split at failed
      · cases failed
        exact .inl rfl
      · rw [decodeTokenLease_error failed]
        exact .inr ⟨.inl rfl, (badResponse_other op resp).2⟩

theorem enqueue_conforms (resp op : Str) :
    Conforms GoodStatus InFamily resp (parseEnqueueResponse resp op) := by
  apply @Conforms.of _ _ _ op
  · intro status done
    unfold parseEnqueueResponse at done
    split at done
    · cases done
      exact .inl rfl
    · split at done
      · obtain ⟨⟨token, lease⟩, decoded, same⟩ := Except.bind_eq_ok done
        cases same
        exact .inr ⟨token, lease, rfl, decodeTokenLease_good decoded⟩
      · cases done
  · exact fun _ => id
  · rintro entry listed rfl
    obtain ⟨_, _, _, waiting, refused, _⟩ := statusErrors_foreign entry listed
    simp [parseEnqueueResponse, waiting, refused]
  · intro raised failed
    unfold parseEnqueueResponse at failed
    split at failed
    · cases failed
    · split at failed
      · cases decoded : decodeTokenLease resp (str "acquired") op with
        | ok grant =>
            simp only [decoded] at failed
            cases failed
        | error error =>
            simp only [decoded] at failed
            cases failed
            rw [decodeTokenLease_error decoded]
            exact .inr (badResponse_other op resp)
      · cases failed
        exact .inl rfl

theorem renew_conforms (resp op : Str) :
    Conforms GoodRemaining InFamily resp (parseRenewResponse resp op) := by
  apply @Conforms.of _ _ _ op
  · exact fun remaining => parseRenewResponse_range
  · exact fun _ => id
  · rintro entry listed rfl
    obtain ⟨_, _, refused, _⟩ := statusErrors_foreign entry listed
    simp [parseRenewResponse, refused]
  · intro raised failed
    unfold parseRenewResponse at failed
    split at failed
    · cases failed
      exact .inl rfl
    · rw [decodeRemaining_error failed]
      exact .inr (badResponse_other op resp)

theorem release_conforms (resp op : Str) :
    Conforms (fun _ => True) InFamily resp (parseReleaseResponse resp op) := by
  apply @Conforms.of _ _ _ op
  · exact fun _ _ => trivial
  · exact fun _ => id
  · rintro entry listed rfl
    obtain ⟨_, _, _, _, _, refused⟩ := statusErrors_foreign entry listed
    simp [parseReleaseResponse, refused]
  · intro raised failed
    unfold parseReleaseResponse at failed
    split at failed
    · cases failed
    · cases failed
      exact .inl rfl

theorem ok_payload (text : Str) : (str "ok " ++ text).drop 3 = text := rfl

theorem validateStatsResult_ok {decoded : Json} {payload : Str} {entries : List (Str × Json)}
    (done : validateStatsResult decoded payload = .ok entries) :
    decoded = .dict entries ∧ GoodStats entries := by
  unfold validateStatsResult at done
  split at done
  · split at done
    · rename_i connections found
      split at done
      · cases done
      · rename_i counted
        split at done
        · rename_i lists
          cases done
          refine ⟨rfl, ⟨connections, found, by omega⟩, ?_⟩
          intro field listed
          have dicts := List.all_eq_true.mp lists field listed
          unfold isDictList at dicts
          split at dicts
          · rename_i values held
            refine ⟨values, held, ?_⟩
            intro value member
            have dict := List.all_eq_true.mp dicts value member
            unfold Json.isDict at dict
            split at dict
            · exact ⟨_, rfl⟩
            · cases dict
          · cases dicts
        · cases done
    · cases done
  · cases done

theorem validateStatsResult_error {decoded : Json} {payload : Str} {raised : PyError}
    (failed : validateStatsResult decoded payload = .error raised) : raised = badStats payload := by
  unfold validateStatsResult at failed
  split at failed
  · split at failed
    · split at failed
      · cases failed
        rfl
      · split at failed
        · cases failed
        · cases failed
          rfl
    · cases failed
      rfl
  · cases failed
    rfl

section

variable {loads : Str → Except PyError Json} {resp : Str}

theorem parseStatsResponse_ok {entries : List (Str × Json)}
    (done : parseStatsResponse loads resp = .ok entries) :
    startswith resp (str "ok ") = true ∧ loads (resp.drop 3) = .ok (.dict entries) ∧
      GoodStats entries := by
  unfold parseStatsResponse at done
  split at done
  · cases done
  · rename_i accepted
    unfold decodeStatsJson at done
    split at done
    · rename_i decoded loaded
      obtain ⟨rfl, good⟩ := validateStatsResult_ok done
      exact ⟨by simpa using accepted, loaded, good⟩
    · split at done <;> cases done

theorem stats_conforms (raises : LoadsRaises loads)
    (fine : ¬(startswith resp (str "ok ") = true ∧ LongLiteral (resp.drop 3))) :
    Conforms GoodStats InFamily resp (parseStatsResponse loads resp) := by
  apply @Conforms.of _ _ _ (str "stats")
  · exact fun entries done => (parseStatsResponse_ok done).2.2
  · exact fun _ => id
  · rintro entry listed rfl
    obtain ⟨_, refused, _⟩ := statusErrors_foreign entry listed
    simp [parseStatsResponse, refused]
  · intro raised failed
    have bad : InFamily (badStats (resp.drop 3)).cls ∧
        ∀ entry ∈ statusErrors, (badStats (resp.drop 3)).cls ≠ entry.2 :=
      ⟨rfl, fun entry listed => (statusErrors_others entry listed).1⟩
    unfold parseStatsResponse at failed
    split at failed
    · cases failed
      exact .inl rfl
    · rename_i accepted
      unfold decodeStatsJson at failed
      split at failed
      · rw [validateStatsResult_error failed]
        exact .inr bad
      · rename_i error loaded
        split at failed
        · cases failed
          exact .inr bad
        · rename_i uncaught
          cases failed
          rcases raises _ _ loaded with malformed | deep | long
          · exact absurd (by simp [malformed, ExcClass.isSubclass]) uncaught
          · rw [deep]
            exact .inr ⟨rfl, fun entry listed => (statusErrors_others entry listed).2.2.1⟩
          · exact absurd ⟨by simpa using accepted, long.2⟩ fine

theorem stats_escapes {raised : PyError} (accepted : startswith resp (str "ok ") = true)
    (loaded : loads (resp.drop 3) = .error raised) (plain : raised.cls = .valueError) {op : Str} :
    ¬InContract loads resp op := by
  intro contract
  have uncaught : raised.cls.isSubclass .jsonDecodeError = false := by
    rw [plain]
    decide
  have failed : parseStatsResponse loads resp = .error raised := by
    simp [parseStatsResponse, accepted, decodeStatsJson, loaded, uncaught]
  have family := contract.stats.error raised failed
  rw [plain] at family
  exact absurd family (by unfold InFamily; decide)

end

def loadsRefusing (long text : Str) : Except PyError Json :=
  if text = long then
    .error (valueError [.text (str "Exceeds the limit (4300 digits) for integer string conversion")])
  else .error ⟨.jsonDecodeError, []⟩

theorem loadsRefusing_raises {long : Str} (literal : LongLiteral long) :
    LoadsRaises (loadsRefusing long) := by
  intro text raised failed
  unfold loadsRefusing at failed
  split at failed
  · rename_i same
    cases failed
    exact .inr (.inr ⟨rfl, same ▸ literal⟩)
  · cases failed
    exact .inl rfl

/-- Whatever `json.loads` does, the decoders keep to their exceptions, on every line but a stats
answer with an integer literal that is too long: nothing catches its `ValueError`. -/
theorem decoders_in_contract (resp op : Str) :
    (∀ loads, LoadsRaises loads → InContract loads resp op) ↔
      ¬(startswith resp (str "ok ") = true ∧ LongLiteral (resp.drop 3)) := by
  constructor
  · rintro contract ⟨accepted, literal⟩
    exact stats_escapes accepted (if_pos rfl) rfl
      (contract _ (loadsRefusing_raises literal))
  · intro fine loads raises
    exact ⟨grant_conforms resp op, enqueue_conforms resp op, renew_conforms resp op,
      release_conforms resp op, stats_conforms raises fine⟩

def loadsInteger (text : Str) : Except PyError Json :=
  if !text.all (fun c => 0x30 ≤ c && c ≤ 0x39) || text == [] ||
      (text.head? == some 0x30 && text.length != 1) then .error ⟨.jsonDecodeError, []⟩
  else match parseInt text with
    | some value => .ok (.int value)
    | none => .error (valueError [.text (str "Exceeds the limit (4300 digits) for integer string conversion")])

theorem longLiteral_alone {digits : Str} (ascii : ∀ c ∈ digits, AsciiDigit c)
    (first : digits.head? ≠ some 0x30) (long : maxIntDigits < digits.length) :
    LongLiteral digits :=
  ⟨[], [], digits, [], by simp, rfl, .inl rfl, ascii, first, long, rfl⟩

theorem loadsInteger_raises : LoadsRaises loadsInteger := by
  intro text raised failed
  unfold loadsInteger at failed
  split at failed
  · cases failed
    exact .inl rfl
  · rename_i literal
    simp only [Bool.not_eq_true, Bool.or_eq_false_iff, Bool.not_eq_false', beq_eq_false_iff_ne,
      Bool.and_eq_false_iff, bne_eq_false_iff_eq, List.all_eq_true, Bool.and_eq_true,
      decide_eq_true_eq] at literal
    obtain ⟨⟨ascii, full⟩, first⟩ := literal
    split at failed
    · cases failed
    · rename_i refused
      cases failed
      rw [parseInt_ascii full ascii] at refused
      have long : maxIntDigits < text.length := by
        by_contra short
        rw [if_pos (by omega)] at refused
        cases refused
      refine .inr (.inr ⟨rfl, longLiteral_alone ascii ?_ long⟩)
      rcases first with first | single
      · exact first
      · simp only [maxIntDigits] at long
        omega

theorem decoders_in_contract_demo : InContract loadsInteger (str "ok 12") (str "stats") :=
  (decoders_in_contract (str "ok 12") (str "stats")).mpr (by
    rintro ⟨_, before, sign, digits, after, same, _, _, _, _, long, _⟩
    have lengths := congrArg List.length same
    simp only [str, List.length_append, maxIntDigits] at lengths long
    simp at lengths
    omega) loadsInteger loadsInteger_raises

def ones (count : Nat) : Str := List.replicate count 0x31

theorem loadsInteger_long {count : Nat} (long : maxIntDigits < count) :
    ∃ raised, loadsInteger (ones count) = .error raised ∧ raised.cls = .valueError := by
  have length : (ones count).length = count := List.length_replicate
  have full : ones count ≠ [] := by
    intro empty
    rw [empty, List.length_nil] at length
    omega
  have ascii : ∀ c ∈ ones count, AsciiDigit c := by
    intro c member
    rw [List.eq_of_mem_replicate member]
    exact ⟨by omega, by omega⟩
  have refused : parseInt (ones count) = none := by
    rw [parseInt_ascii full ascii, if_neg (by omega)]
  have literal : ¬(!(ones count).all (fun c => 0x30 ≤ c && c ≤ 0x39) || ones count == [] ||
      ((ones count).head? == some 0x30 && (ones count).length != 1)) = true := by
    have positive : count ≠ 0 := by omega
    simp [ones, List.head?_replicate, positive]
  refine ⟨valueError [.text (str "Exceeds the limit (4300 digits) for integer string conversion")],
    ?_, rfl⟩
  rw [loadsInteger, if_neg literal]
  simp only [refused]

theorem long_integer_escapes : LoadsRaises loadsInteger ∧
    ¬InContract loadsInteger (str "ok " ++ ones 4301) (str "stats") := by
  obtain ⟨raised, loaded, plain⟩ := @loadsInteger_long 4301 (by decide)
  rw [← ok_payload (ones 4301)] at loaded
  exact ⟨loadsInteger_raises, stats_escapes (by decide) loaded plain⟩

/-! One decoder for each answer -/

inductive Decoder
  | grant | renew | enqueue | release | stats
  deriving DecidableEq

def Accepts (loads : Str → Except PyError Json) (decoder : Decoder) (resp : Str) : Prop :=
  match decoder with
  | .grant => ∃ op grant, parseGrantResponse resp op = .ok grant
  | .renew => ∃ op remaining, parseRenewResponse resp op = .ok remaining
  | .enqueue => ∃ op status, parseEnqueueResponse resp op = .ok status
  | .release => ∃ op, parseReleaseResponse resp op = .ok ()
  | .stats => ∃ entries, parseStatsResponse loads resp = .ok entries

/-- The text of a JSON object, inside space, tab, line feed and carriage return. -/
def ObjectTexts (loads : Str → Except PyError Json) : Prop :=
  ∀ text entries, loads text = .ok (.dict entries) → ∃ before body after,
    text = before ++ 0x7b :: body ++ 0x7d :: after ∧
      ∀ c ∈ before ++ after, c = 0x20 ∨ c = 9 ∨ c = 10 ∨ c = 13

def decoderFor (resp : Str) : Decoder :=
  if resp = str "ok" then .release
  else if !startswith resp (str "ok") then .enqueue
  else if (split resp).getLast?.any (·.contains 0x7d) then .stats
  else if (split resp).length = 2 then .renew
  else .grant

theorem startswith_iff {text start : Str} :
    startswith text start = true ↔ ∃ rest, text = start ++ rest := by
  rw [startswith, List.isPrefixOf_iff_prefix]
  constructor
  · rintro ⟨rest, rfl⟩
    exact ⟨rest, rfl⟩
  · rintro ⟨rest, rfl⟩
    exact ⟨rest, rfl⟩

theorem parseInt_brace {raw : Str} {value : Int} (read : parseInt raw = some value) :
    raw.contains 0x7d = false := by
  rw [← Bool.not_eq_true, List.contains_iff_mem]
  intro member
  rcases parseInt_characters read member with space | sign | sign | under | ⟨digit, found⟩
  · exact absurd space (by decide)
  · exact absurd sign (by decide)
  · exact absurd sign (by decide)
  · exact absurd under (by decide)
  · have none : digitValue 0x7d = none := by decide
    rw [none] at found
    cases found

theorem parseIntField_ok {raw op resp : Str} {minValue value : Int}
    (done : parseIntField raw op resp minValue = .ok value) : parseInt raw = some value := by
  unfold parseIntField at done
  split at done
  · cases done
  · rename_i read
    split at done
    · cases done
    · cases done
      exact read

theorem parseGrantResponse_ok {resp op token : Str} {lease : Int}
    (done : parseGrantResponse resp op = .ok (token, lease)) :
    startswith resp (str "ok ") = true ∧ ∃ raw, split resp = [str "ok", token, raw] ∧
      parseInt raw = some lease := by
  unfold parseGrantResponse at done
  split at done
  · cases done
  · split at done
    · cases done
    · rename_i accepted
      obtain ⟨raw, fields, field⟩ := decodeTokenLease_ok done
      exact ⟨by simpa using accepted, raw, fields, parseIntField_ok field⟩

theorem parseRenewResponse_ok {resp op : Str} {remaining : Int}
    (done : parseRenewResponse resp op = .ok remaining) :
    startswith resp (str "ok") = true ∧ ∃ raw, split resp = [str "ok", raw] ∧
      parseInt raw = some remaining := by
  unfold parseRenewResponse at done
  split at done
  · cases done
  · rename_i accepted
    refine ⟨by simpa using accepted, ?_⟩
    unfold decodeRemaining at done
    split at done
    · rename_i first raw fields
      split at done
      · rename_i same
        simp only [beq_iff_eq] at same
        subst same
        exact ⟨raw, fields, parseIntField_ok done⟩
      · cases done
    · cases done

theorem parseEnqueueResponse_ok {resp op : Str} {status : EnqueueStatus}
    (done : parseEnqueueResponse resp op = .ok status) :
    resp = str "queued" ∨ startswith resp (str "acquired ") = true := by
  unfold parseEnqueueResponse at done
  split at done
  · rename_i queued
    exact .inl (by simpa using queued)
  · split at done
    · rename_i acquired
      exact .inr acquired
    · cases done

section

variable {loads : Str → Except PyError Json} {resp : Str}

theorem decoderFor_numeric {field : Str} {fields : List Str} {value : Int}
    (accepted : startswith resp (str "ok") = true) (cut : split resp = str "ok" :: fields ++ [field])
    (read : parseInt field = some value) :
    decoderFor resp = if fields = [] then .renew else .grant := by
  have longer : resp ≠ str "ok" := by
    rintro rfl
    have single : split (str "ok") = [str "ok"] := by decide
    rw [single] at cut
    simp at cut
  unfold decoderFor
  rw [if_neg longer, if_neg (by simp [accepted]), if_neg (by
    rw [cut, List.getLast?_append]
    simpa using parseInt_brace read)]
  simp [cut]

theorem decoderFor_enqueue (other : startswith resp (str "ok") = false) :
    decoderFor resp = .enqueue := by
  have longer : resp ≠ str "ok" := by
    rintro rfl
    exact absurd other (by decide)
  rw [decoderFor, if_neg longer, if_pos (by simp [other])]

theorem startswith_ok (accepted : startswith resp (str "ok ") = true) :
    startswith resp (str "ok") = true := by
  obtain ⟨rest, rfl⟩ := startswith_iff.mp accepted
  exact startswith_iff.mpr ⟨0x20 :: rest, rfl⟩

theorem decoderFor_stats (texts : ObjectTexts loads) {entries : List (Str × Json)}
    (done : parseStatsResponse loads resp = .ok entries) : decoderFor resp = .stats := by
  obtain ⟨accepted, loaded, _⟩ := parseStatsResponse_ok done
  obtain ⟨before, body, after, same, blank⟩ := texts _ _ loaded
  obtain ⟨payload, rfl⟩ := startswith_iff.mp accepted
  rw [ok_payload] at same
  have spaces : ∀ c ∈ after, isSpace c = true := by
    intro c member
    rcases blank c (List.mem_append_right _ member) with rfl | rfl | rfl | rfl <;> rfl
  obtain ⟨fields, front, last⟩ := @split_last [0x7d] (by simp) (by decide)
    (str "ok " ++ before ++ 0x7b :: body)
  have regrouped : str "ok " ++ payload = str "ok " ++ before ++ 0x7b :: body ++ [0x7d] ++ after := by
    rw [same]
    simp
  have whole : split (str "ok " ++ payload) = fields ++ [front ++ [0x7d]] := by
    rw [regrouped, split_trailing spaces, last]
  have longer : str "ok " ++ payload ≠ str "ok" := by
    intro same
    have lengths := congrArg List.length same
    simp [str] at lengths
  rw [decoderFor, if_neg longer, if_neg (by simp [startswith_ok accepted]), if_pos (by simp [whole])]

theorem accepts_decoderFor (texts : ObjectTexts loads) {decoder : Decoder}
    (accepts : Accepts loads decoder resp) : decoder = decoderFor resp := by
  cases decoder with
  | grant =>
      obtain ⟨op, ⟨token, lease⟩, done⟩ := accepts
      obtain ⟨accepted, raw, fields, read⟩ := parseGrantResponse_ok done
      rw [@decoderFor_numeric resp raw [token] lease (startswith_ok accepted) fields read]
      rfl
  | renew =>
      obtain ⟨op, remaining, done⟩ := accepts
      obtain ⟨accepted, raw, fields, read⟩ := parseRenewResponse_ok done
      rw [@decoderFor_numeric resp raw [] remaining accepted fields read]
      rfl
  | enqueue =>
      obtain ⟨op, status, done⟩ := accepts
      rcases parseEnqueueResponse_ok done with rfl | acquired
      · rfl
      · obtain ⟨rest, rfl⟩ := startswith_iff.mp acquired
        exact (decoderFor_enqueue rfl).symm
  | release =>
      obtain ⟨op, done⟩ := accepts
      unfold parseReleaseResponse at done
      split at done
      · rename_i same
        simp only [beq_iff_eq] at same
        rw [decoderFor, if_pos same]
      · cases done
  | stats =>
      obtain ⟨entries, done⟩ := accepts
      exact (decoderFor_stats texts done).symm

theorem status_rejected (code : resp = str "timeout" ∨ resp ∈ statusErrors.map Prod.fst)
    (decoder : Decoder) : ¬Accepts loads decoder resp := by
  have foreign : resp ≠ str "ok" ∧ resp ≠ str "queued" ∧ startswith resp (str "acquired ") = false ∧
      startswith resp (str "ok") = false := by
    rcases code with rfl | listed
    · decide
    · obtain ⟨entry, member, rfl⟩ := List.mem_map.mp listed
      obtain ⟨_, _, refused, waiting, queued, released⟩ := statusErrors_foreign entry member
      exact ⟨released, waiting, queued, refused⟩
  obtain ⟨released, waiting, acquired, refused⟩ := foreign
  intro accepts
  cases decoder with
  | grant =>
      obtain ⟨op, ⟨token, lease⟩, done⟩ := accepts
      have accepted := startswith_ok (parseGrantResponse_ok done).1
      simp [refused] at accepted
  | renew =>
      obtain ⟨op, remaining, done⟩ := accepts
      have accepted := (parseRenewResponse_ok done).1
      simp [refused] at accepted
  | enqueue =>
      obtain ⟨op, status, done⟩ := accepts
      rcases parseEnqueueResponse_ok done with queued | accepted
      · exact waiting queued
      · simp [acquired] at accepted
  | release =>
      obtain ⟨op, done⟩ := accepts
      simp [parseReleaseResponse, released] at done
  | stats =>
      obtain ⟨entries, done⟩ := accepts
      have accepted := startswith_ok (parseStatsResponse_ok done).1
      simp [refused] at accepted

/-- No line is a success for two decoders; release and auth accept the same one; a timeout and the
status codes are a success for none. -/
theorem answers_disjoint (texts : ObjectTexts loads) (resp : Str) :
    (∀ first second, Accepts loads first resp → Accepts loads second resp → first = second) ∧
    (Accepts loads .release resp ↔ parseAuthResponse resp = .ok ()) ∧
    (resp = str "timeout" ∨ resp ∈ statusErrors.map Prod.fst →
      (∀ decoder, ¬Accepts loads decoder resp) ∧ parseAuthResponse resp ≠ .ok ()) := by
  have authenticated : Accepts loads .release resp ↔ parseAuthResponse resp = .ok () := by
    simp only [Accepts, parseReleaseResponse, parseAuthResponse]
    split <;> simp
  refine ⟨?_, authenticated, ?_⟩
  · intro first second accepts accepts'
    rw [accepts_decoderFor texts accepts, accepts_decoderFor texts accepts']
  · intro code
    exact ⟨status_rejected code, fun done => status_rejected code .release (authenticated.mpr done)⟩

end

def snapshotMembers : Str :=
  str "\"connections\":3,\"locks\":[],\"semaphores\":[],\"idle_locks\":[],\"idle_semaphores\":[]"

def snapshotText : Str := 0x7b :: snapshotMembers ++ [0x7d]

def snapshot : List (Str × Json) :=
  (str "connections", .int 3) :: statsListFields.map fun field => (field, .list [])

def loadsSnapshot (text : Str) : Except PyError Json :=
  if text = snapshotText then .ok (.dict snapshot) else .error ⟨.jsonDecodeError, []⟩

theorem loadsSnapshot_texts : ObjectTexts loadsSnapshot := by
  intro text entries loaded
  unfold loadsSnapshot at loaded
  split at loaded
  · rename_i same
    exact ⟨[], snapshotMembers, [], same, by simp⟩
  · cases loaded

theorem answers_disjoint_demo : Accepts loadsSnapshot .stats (str "ok " ++ snapshotText) ∧
    ¬Accepts loadsSnapshot .grant (str "ok " ++ snapshotText) := by
  have stats : Accepts loadsSnapshot .stats (str "ok " ++ snapshotText) := ⟨snapshot, rfl⟩
  refine ⟨stats, fun grant => ?_⟩
  have same := (answers_disjoint loadsSnapshot_texts (str "ok " ++ snapshotText)).1 _ _ stats grant
  cases same

end DflockdClient
