import DflockdClient.Commands

/-!
How `SyncConn` and `AsyncConn` read a response line: `readline` of a socket file
and of a `StreamReader`, the size and encoding checks, and what they make of a
stream that ends within a line.
-/

namespace DflockdClient

def newline : UInt8 := 10

def trimResponseLine (raw : Bytes) : Except PyError Str :=
  if raw.length > maxResponseLineBytes then
    .error (runtimeError [.text (str "server response too large ("), .text (decimalNat raw.length),
      .text (str " bytes)")])
  else match decode raw with
    | some text => .ok (rstripNewlines text)
    | none => .error (runtimeError [.text (str "server response not valid UTF-8: "), .reprBytes raw])

/-- What has arrived and was not read yet, and whether the end of the stream has. -/
structure Incoming where
  bytes : Bytes
  eof : Bool
  deriving DecidableEq

/-- `file.readline(limit)` and what it leaves; `none` while it has to wait. -/
def fileReadline (limit : Nat) (incoming : Incoming) : Option (Bytes × Bytes) :=
  match (incoming.bytes.take limit).findIdx? (· == newline) with
  | some index => some (incoming.bytes.take (index + 1), incoming.bytes.drop (index + 1))
  | none =>
      if limit ≤ incoming.bytes.length then
        some (incoming.bytes.take limit, incoming.bytes.drop limit)
      else if incoming.eof then some (incoming.bytes, [])
      else none

/-- `StreamReader.readline()` and what it leaves; `none` while it has to wait. -/
def streamReadline (limit : Nat) (incoming : Incoming) : Option (Except PyError Bytes × Bytes) :=
  match incoming.bytes.findIdx? (· == newline) with
  | some index =>
      if index > limit then
        some (.error (valueError [.text (str "Separator is found, but chunk is longer than limit")]),
          incoming.bytes.drop (index + 1))
      else some (.ok (incoming.bytes.take (index + 1)), incoming.bytes.drop (index + 1))
  | none =>
      if incoming.bytes.length > limit then
        some (.error (valueError
          [.text (str "Separator is not found, and chunk exceed the limit")]), [])
      else if incoming.eof then some (.ok incoming.bytes, [])
      else none

def serverClosed : PyError := ⟨.connectionError, [.text (str "server closed connection")]⟩

/-- The checks of `_read_line` once it has a line. -/
def acceptLine (raw : Bytes) : Except PyError Str :=
  if raw == [] then .error serverClosed else trimResponseLine raw

def syncReadLine (incoming : Incoming) : Option (Except PyError Str × Bytes) :=
  match fileReadline (maxResponseLineBytes + 1) incoming with
  | some (raw, rest) => some (acceptLine raw, rest)
  | none => none

def asyncReadLine (incoming : Incoming) : Option (Except PyError Str × Bytes) :=
  match streamReadline maxResponseLineBytes incoming with
  | some (.ok raw, rest) => some (acceptLine raw, rest)
  | some (.error _, rest) =>
      some (.error (runtimeError [.text (str "server response exceeded line length limit")]), rest)
  | none => none

def commandOver (readLine : Incoming → Option (Except PyError Str × Bytes)) (request : Request)
    (incoming : Incoming) : Option (Except PyError Str) :=
  match encodeLines [request.cmd, request.key, request.arg] with
  | .error error => some (.error error)
  | .ok _ => (readLine incoming).map Prod.fst

/-! The end of a stream within a line -/

def Refused (received : Bytes) : Prop :=
  received = [] ∨ maxResponseLineBytes < received.length ∨ decode received = none

theorem acceptLine_refused (raw : Bytes) :
    (∃ error, acceptLine raw = .error error) ↔ Refused raw := by
  unfold acceptLine trimResponseLine Refused
  by_cases empty : raw = []
  · simp [empty]
  · by_cases long : raw.length > maxResponseLineBytes
    · simp [empty, long]
    · cases decoded : decode raw <;> simp [empty, long]

theorem findIdx_unbroken {bytes : Bytes} (unbroken : newline ∉ bytes) :
    bytes.findIdx? (· == newline) = none := by
  rw [List.findIdx?_eq_none_iff]
  intro byte member
  simp only [beq_eq_false_iff_ne]
  rintro rfl
  exact unbroken member

theorem fileReadline_end {limit : Nat} {bytes : Bytes} (unbroken : newline ∉ bytes) :
    fileReadline limit ⟨bytes, true⟩ = some (bytes.take limit, bytes.drop limit) := by
  have whole : newline ∉ bytes.take limit := fun member => unbroken (List.mem_of_mem_take member)
  simp only [fileReadline, findIdx_unbroken whole]
  split
  · rfl
  · rename_i short
    have short : bytes.length ≤ limit := by
      have short : ¬limit ≤ bytes.length := short
      omega
    simp [List.take_of_length_le short, List.drop_of_length_le short]

theorem streamReadline_end {limit : Nat} {bytes : Bytes} (unbroken : newline ∉ bytes) :
    streamReadline limit ⟨bytes, true⟩ = some (if bytes.length > limit then
      .error (valueError [.text (str "Separator is not found, and chunk exceed the limit")])
      else .ok bytes, []) := by
  simp only [streamReadline, findIdx_unbroken unbroken]
  split <;> rfl

theorem syncReadLine_end {received : Bytes} (unbroken : newline ∉ received) :
    (∃ error, (syncReadLine ⟨received, true⟩).map Prod.fst = some (.error error)) ↔
      Refused received := by
  simp only [syncReadLine, fileReadline_end unbroken, Option.map_some, Option.some.injEq,
    acceptLine_refused]
  by_cases long : maxResponseLineBytes < received.length
  · have taken : maxResponseLineBytes < (received.take (maxResponseLineBytes + 1)).length := by
      rw [List.length_take]
      omega
    exact ⟨fun _ => .inr (.inl long), fun _ => .inr (.inl taken)⟩
  · rw [List.take_of_length_le (by omega)]

theorem asyncReadLine_end {received : Bytes} (unbroken : newline ∉ received) :
    (∃ error, (asyncReadLine ⟨received, true⟩).map Prod.fst = some (.error error)) ↔
      Refused received := by
  simp only [asyncReadLine, streamReadline_end unbroken]
  by_cases long : maxResponseLineBytes < received.length
  · simp [long, Refused]
  · simp only [long, if_false, Option.map_some, Option.some.injEq, acceptLine_refused]

/-- A command whose stream ends before the newline of its response raises, unless what has arrived
passes for a line of its own. -/
theorem cut_response_raises {line : Bytes} (unbroken : newline ∉ line) (request : Request)
    (cut : Nat) :
    ((∃ error, commandOver syncReadLine request ⟨line.take cut, true⟩ = some (.error error)) ∧
      ∃ error, commandOver asyncReadLine request ⟨line.take cut, true⟩ = some (.error error)) ↔
    (∀ frame, encodeLines [request.cmd, request.key, request.arg] ≠ .ok frame) ∨
      Refused (line.take cut) := by
  have whole : newline ∉ line.take cut := fun member => unbroken (List.mem_of_mem_take member)
  simp only [commandOver]
  cases encoded : encodeLines [request.cmd, request.key, request.arg] with
  | error error => simp
  | ok frame =>
      rw [syncReadLine_end whole, asyncReadLine_end whole]
      simp

def bytesOf (text : String) : Bytes := (str text).map UInt8.ofNat

/-- The token "ü" is two octets long. -/
theorem cut_response_raises_demo :
    ((∃ error, commandOver syncReadLine ⟨str "l", str "k", str "10", 40⟩
        ⟨(bytesOf "ok \u00c3\u00bc 33").take 4, true⟩ = some (.error error)) ∧
      ∃ error, commandOver asyncReadLine ⟨str "l", str "k", str "10", 40⟩
        ⟨(bytesOf "ok \u00c3\u00bc 33").take 4, true⟩ = some (.error error)) :=
  (cut_response_raises (by decide) ⟨str "l", str "k", str "10", 40⟩ 4).mpr
    (.inr (.inr (.inr (by decide))))

/-- An acquire answered "ok abc 33", cut before its last digit, is granted a lease of 3. -/
theorem cut_response_granted :
    commandOver syncReadLine ⟨str "l", str "k", str "10", 40⟩
        ⟨(bytesOf "ok abc 33").take 8, true⟩ = some (.ok (str "ok abc 3")) ∧
      commandOver asyncReadLine ⟨str "l", str "k", str "10", 40⟩
        ⟨(bytesOf "ok abc 33").take 8, true⟩ = some (.ok (str "ok abc 3")) ∧
      parseGrantResponse (str "ok abc 3") (str "acquire") = .ok (str "abc", 3) := by
  decide +kernel

end DflockdClient
