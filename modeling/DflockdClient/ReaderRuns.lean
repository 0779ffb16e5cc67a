import DflockdClient.Readers

/-!
Successive reads of one connection while its bytes arrive: `SyncConn` and
`AsyncConn` deliver the same lines, wait at the same places and fail alike.
-/

namespace DflockdClient

def lineOf (raw rest : Bytes) : Except ExcClass (Str × Bytes) :=
  match decode raw with
  | some text => .ok (rstripNewlines text, rest)
  | none => .error .runtimeError

/-- The next line of a connection, as both readers are to deliver it. -/
def nextLine (incoming : Incoming) : Option (Except ExcClass (Str × Bytes)) :=
  match incoming.bytes.findIdx? (· == newline) with
  | some index =>
      if index < maxResponseLineBytes then
        some (lineOf (incoming.bytes.take (index + 1)) (incoming.bytes.drop (index + 1)))
      else some (.error .runtimeError)
  | none =>
      if maxResponseLineBytes < incoming.bytes.length then some (.error .runtimeError)
      else if !incoming.eof then none
      else if incoming.bytes = [] then some (.error .connectionError)
      else some (lineOf incoming.bytes [])

def outcome (read : Option (Except PyError Str × Bytes)) : Option (Except ExcClass (Str × Bytes)) :=
  read.map fun (line, rest) =>
    match line with
    | .ok text => .ok (text, rest)
    | .error error => .error error.cls

theorem findIdx_line {body : Bytes} (unbroken : newline ∉ body) (rest : Bytes) :
    (body ++ newline :: rest).findIdx? (· == newline) = some body.length := by
  rw [List.findIdx?_append, findIdx_unbroken unbroken, List.findIdx?_cons]
  simp

theorem take_line (body rest : Bytes) :
    (body ++ newline :: rest).take (body.length + 1) = body ++ [newline] := by
  rw [List.take_append, List.take_of_length_le (by omega), Nat.add_sub_cancel_left]
  rfl

theorem drop_line (body rest : Bytes) :
    (body ++ newline :: rest).drop (body.length + 1) = rest := by
  simp [List.drop_append]

theorem nextLine_line {body : Bytes} (unbroken : newline ∉ body) (rest : Bytes) (eof : Bool) :
    nextLine ⟨body ++ newline :: rest, eof⟩ =
      some (if body.length < maxResponseLineBytes then lineOf (body ++ [newline]) rest
        else .error .runtimeError) := by
  simp only [nextLine, findIdx_line unbroken, take_line, drop_line]
  split <;> rfl

theorem nextLine_open {bytes : Bytes} (unbroken : newline ∉ bytes) (eof : Bool) :
    nextLine ⟨bytes, eof⟩ =
      if maxResponseLineBytes < bytes.length then some (.error .runtimeError)
      else if !eof then none
      else if bytes = [] then some (.error .connectionError)
      else some (lineOf bytes []) := by
  simp only [nextLine, findIdx_unbroken unbroken]

theorem cut_cases (bytes : Bytes) :
    newline ∉ bytes ∨ ∃ body rest, newline ∉ body ∧ bytes = body ++ newline :: rest := by
  by_cases broken : newline ∈ bytes
  · obtain ⟨body, rest, same, unbroken⟩ := List.eq_append_cons_of_mem broken
    exact .inr ⟨body, rest, unbroken, same⟩
  · exact .inl broken

theorem acceptLine_outcome {raw : Bytes} (full : raw ≠ []) (rest : Bytes) :
    outcome (some (acceptLine raw, rest)) =
      some (if raw.length ≤ maxResponseLineBytes then lineOf raw rest
        else .error .runtimeError) := by
  have filled : (raw == []) = false := by simpa using full
  unfold acceptLine trimResponseLine lineOf outcome
  simp only [filled, Bool.false_eq_true, if_false]
  by_cases long : raw.length > maxResponseLineBytes
  · rw [if_pos long, if_neg (by omega)]
    rfl
  · rw [if_neg long, if_pos (by omega)]
    cases decode raw <;> rfl

theorem syncReadLine_next (incoming : Incoming) :
    outcome (syncReadLine incoming) = nextLine incoming := by
  obtain ⟨bytes, eof⟩ := incoming
  rcases cut_cases bytes with unbroken | ⟨body, rest, unbroken, rfl⟩
  · have whole : newline ∉ bytes.take (maxResponseLineBytes + 1) :=
      fun member => unbroken (List.mem_of_mem_take member)
    rw [nextLine_open unbroken]
    simp only [syncReadLine, fileReadline, findIdx_unbroken whole]
    by_cases long : maxResponseLineBytes < bytes.length
    · have length : (bytes.take (maxResponseLineBytes + 1)).length = maxResponseLineBytes + 1 := by
        rw [List.length_take]
        omega
      have full : bytes.take (maxResponseLineBytes + 1) ≠ [] := by
        intro empty
        rw [empty] at length
        cases length
      rw [if_pos (by omega), if_pos long]
      simp only
      rw [acceptLine_outcome full, if_neg (by omega)]
    · rw [if_neg (by omega), if_neg long]
      cases eof with
      | false => rfl
      | true =>
          by_cases empty : bytes = []
          · subst empty
            rfl
          · simp only [if_true, Bool.not_true, Bool.false_eq_true, if_false, if_neg empty]
            rw [acceptLine_outcome empty, if_pos (by omega)]
  · rw [nextLine_line unbroken]
    by_cases inside : body.length ≤ maxResponseLineBytes
    · have found : ((body ++ newline :: rest).take (maxResponseLineBytes + 1)).findIdx?
          (· == newline) = some body.length := by
        have taken : (body ++ newline :: rest).take (maxResponseLineBytes + 1) =
            body ++ newline :: rest.take (maxResponseLineBytes - body.length) := by
          rw [List.take_append, List.take_of_length_le (by omega),
            show maxResponseLineBytes + 1 - body.length =
              (maxResponseLineBytes - body.length) + 1 by omega, List.take_succ_cons]
        rw [taken, findIdx_line unbroken]
      simp only [syncReadLine, fileReadline, found, take_line, drop_line]
      rw [acceptLine_outcome (by simp)]
      simp only [List.length_append, List.length_singleton, Nat.succ_le_iff]
    · have cut : (body ++ newline :: rest).take (maxResponseLineBytes + 1) =
          body.take (maxResponseLineBytes + 1) := List.take_append_of_le_length (by omega)
      have whole : newline ∉ body.take (maxResponseLineBytes + 1) :=
        fun member => unbroken (List.mem_of_mem_take member)
      have length : (body.take (maxResponseLineBytes + 1)).length = maxResponseLineBytes + 1 := by
        rw [List.length_take]
        omega
      have full : body.take (maxResponseLineBytes + 1) ≠ [] := by
        intro empty
        rw [empty] at length
        cases length
      have longer : maxResponseLineBytes + 1 ≤ (body ++ newline :: rest).length := by
        rw [List.length_append]
        omega
      simp only [syncReadLine, fileReadline, cut, findIdx_unbroken whole, if_pos longer]
      rw [acceptLine_outcome full, if_neg (by omega), if_neg (by omega)]

theorem asyncReadLine_next (incoming : Incoming) :
    outcome (asyncReadLine incoming) = nextLine incoming := by
  obtain ⟨bytes, eof⟩ := incoming
  rcases cut_cases bytes with unbroken | ⟨body, rest, unbroken, rfl⟩
  · rw [nextLine_open unbroken]
    simp only [asyncReadLine, streamReadline, findIdx_unbroken unbroken]
    by_cases long : maxResponseLineBytes < bytes.length
    · simp only [gt_iff_lt, if_pos long]
      rfl
    · simp only [gt_iff_lt, if_neg long]
      cases eof with
      | false => rfl
      | true =>
          by_cases empty : bytes = []
          · subst empty
            rfl
          · simp only [if_true, Bool.not_true, Bool.false_eq_true, if_false, if_neg empty]
            rw [acceptLine_outcome empty, if_pos (by omega)]
  · rw [nextLine_line unbroken]
    simp only [asyncReadLine, streamReadline, findIdx_line unbroken, take_line, drop_line]
    by_cases inside : body.length ≤ maxResponseLineBytes
    · simp only [gt_iff_lt, if_neg (Nat.not_lt.mpr inside)]
      rw [acceptLine_outcome (by simp)]
      simp only [List.length_append, List.length_singleton, Nat.succ_le_iff]
    · simp only [gt_iff_lt, if_pos (Nat.not_le.mp inside)]
      rw [if_neg (by omega)]
      rfl

theorem outcome_none {read : Option (Except PyError Str × Bytes)} (waiting : outcome read = none) :
    read = none := by
  cases read with
  | none => rfl
  | some _ => cases waiting

theorem outcome_ok {read : Option (Except PyError Str × Bytes)} {text : Str} {rest : Bytes}
    (delivered : outcome read = some (.ok (text, rest))) : read = some (.ok text, rest) := by
  rcases read with _ | ⟨error | line, later⟩
  · cases delivered
  · cases delivered
  · cases delivered
    rfl

theorem outcome_error {read : Option (Except PyError Str × Bytes)} {cls : ExcClass}
    (raised : outcome read = some (.error cls)) :
    ∃ error rest, read = some (.error error, rest) ∧ error.cls = cls := by
  rcases read with _ | ⟨error | line, later⟩
  · cases raised
  · cases raised
    exact ⟨error, later, rfl, rfl⟩
  · cases raised

/-- Bytes or the end of the stream arrive, or the reader looks at what has. -/
inductive ReadStep
  | arrive (chunk : Bytes)
  | finish
  | look

def Incoming.feed (incoming : Incoming) (step : ReadStep) : Incoming :=
  match step with
  | .arrive chunk => if incoming.eof then incoming else ⟨incoming.bytes ++ chunk, false⟩
  | .finish => ⟨incoming.bytes, true⟩
  | .look => incoming

structure Reading where
  incoming : Incoming
  lines : List Str
  failure : Option ExcClass

namespace Reading

def start : Reading := ⟨⟨[], false⟩, [], none⟩

def step (readLine : Incoming → Option (Except PyError Str × Bytes)) (reading : Reading)
    (step : ReadStep) : Reading :=
  match step with
  | .look =>
      match reading.failure, readLine reading.incoming with
      | none, some (.ok line, rest) =>
          ⟨⟨rest, reading.incoming.eof⟩, reading.lines ++ [line], none⟩
      | none, some (.error error, rest) =>
          ⟨⟨rest, reading.incoming.eof⟩, reading.lines, some error.cls⟩
      | _, _ => reading
  | arrival => { reading with incoming := reading.incoming.feed arrival }

def run (readLine : Incoming → Option (Except PyError Str × Bytes)) (reading : Reading)
    (steps : List ReadStep) : Reading :=
  steps.foldl (step readLine) reading

def Settled (readLine : Incoming → Option (Except PyError Str × Bytes)) (reading : Reading) : Prop :=
  reading.failure ≠ none ∨ readLine reading.incoming = none

end Reading

def streamOf (incoming : Incoming) (steps : List ReadStep) : Incoming :=
  steps.foldl Incoming.feed incoming

inductive Reads : Incoming → List Str → Option ExcClass → Prop
  | waits {incoming} : nextLine incoming = none → Reads incoming [] none
  | fails {incoming cls} : nextLine incoming = some (.error cls) → Reads incoming [] (some cls)
  | line {incoming text rest lines failure} : nextLine incoming = some (.ok (text, rest)) →
      Reads ⟨rest, incoming.eof⟩ lines failure → Reads incoming (text :: lines) failure

theorem Reads.unique {incoming : Incoming} {lines lines' : List Str}
    {failure failure' : Option ExcClass} (first : Reads incoming lines failure)
    (second : Reads incoming lines' failure') : lines = lines' ∧ failure = failure' := by
  induction first generalizing lines' with
  | waits waiting =>
      cases second with
      | waits _ => exact ⟨rfl, rfl⟩
      | fails raised =>
          rw [waiting] at raised
          cases raised
      | line read _ =>
          rw [waiting] at read
          cases read
  | fails raised =>
      cases second with
      | waits waiting =>
          rw [raised] at waiting
          cases waiting
      | fails raised' =>
          rw [raised] at raised'
          cases raised'
          exact ⟨rfl, rfl⟩
      | line read _ =>
          rw [raised] at read
          cases read
  | line read _ ih =>
      cases second with
      | waits waiting =>
          rw [read] at waiting
          cases waiting
      | fails raised =>
          rw [read] at raised
          cases raised
      | line read' later =>
          rw [read] at read'
          cases read'
          obtain ⟨rfl, rfl⟩ := ih later
          exact ⟨rfl, rfl⟩

/-! What arrives later changes no read -/

theorem nextLine_long {bytes : Bytes} (unbroken : newline ∉ bytes)
    (long : maxResponseLineBytes < bytes.length) (more : Bytes) (eof : Bool) :
    nextLine ⟨bytes ++ more, eof⟩ = some (.error .runtimeError) := by
  simp only [nextLine, List.findIdx?_append, findIdx_unbroken unbroken, Option.none_or]
  cases more.findIdx? (· == newline) with
  | none =>
      simp only [Option.map_none, List.length_append]
      rw [if_pos (by omega)]
  | some index =>
      simp only [Option.map_some]
      rw [if_neg (by omega)]

theorem feed_behind (body rest : Bytes) (eof : Bool) (step : ReadStep) :
    ∃ rest', Incoming.feed ⟨rest, eof⟩ step =
        ⟨rest', (Incoming.feed ⟨body ++ newline :: rest, eof⟩ step).eof⟩ ∧
      Incoming.feed ⟨body ++ newline :: rest, eof⟩ step =
        ⟨body ++ newline :: rest', (Incoming.feed ⟨body ++ newline :: rest, eof⟩ step).eof⟩ := by
  cases step with
  | look => exact ⟨rest, rfl, rfl⟩
  | finish => exact ⟨rest, rfl, rfl⟩
  | arrive chunk =>
      cases eof with
      | true => exact ⟨rest, rfl, rfl⟩
      | false => exact ⟨rest ++ chunk, rfl, by simp [Incoming.feed]⟩

theorem feed_ended (bytes : Bytes) (step : ReadStep) :
    Incoming.feed ⟨bytes, true⟩ step = ⟨bytes, true⟩ := by
  cases step <;> rfl

theorem feed_open (bytes : Bytes) (step : ReadStep) :
    ∃ more eof, Incoming.feed ⟨bytes, false⟩ step = ⟨bytes ++ more, eof⟩ := by
  cases step with
  | look => exact ⟨[], false, by simp [Incoming.feed]⟩
  | finish => exact ⟨[], true, by simp [Incoming.feed]⟩
  | arrive chunk => exact ⟨chunk, false, rfl⟩

theorem nextLine_feed_error {incoming : Incoming} {cls : ExcClass}
    (raised : nextLine incoming = some (.error cls)) (step : ReadStep) :
    nextLine (incoming.feed step) = some (.error cls) := by
  obtain ⟨bytes, eof⟩ := incoming
  rcases cut_cases bytes with unbroken | ⟨body, rest, unbroken, rfl⟩
  · cases eof with
    | true =>
        rw [feed_ended]
        exact raised
    | false =>
        obtain ⟨more, eof, grown⟩ := feed_open bytes step
        rw [nextLine_open unbroken] at raised
        split at raised
        · rename_i long
          rw [grown, nextLine_long unbroken long]
          exact raised
        · simp at raised
  · obtain ⟨rest', _, grown⟩ := feed_behind body rest eof step
    rw [nextLine_line unbroken] at raised
    rw [grown, nextLine_line unbroken]
    split at raised
    · rename_i inside
      rw [if_pos inside]
      unfold lineOf at raised ⊢
      split at raised
      · simp at raised
      · exact raised
    · rename_i outside
      rw [if_neg outside]
      exact raised

theorem nextLine_feed_ok {incoming : Incoming} {text : Str} {rest : Bytes}
    (read : nextLine incoming = some (.ok (text, rest))) (step : ReadStep) :
    ∃ rest', nextLine (incoming.feed step) = some (.ok (text, rest')) ∧
      Incoming.feed ⟨rest, incoming.eof⟩ step = ⟨rest', (incoming.feed step).eof⟩ := by
  obtain ⟨bytes, eof⟩ := incoming
  rcases cut_cases bytes with unbroken | ⟨body, later, unbroken, rfl⟩
  · rw [nextLine_open unbroken] at read
    cases eof with
    | false => split at read <;> simp at read
    | true =>
        have ended : rest = [] := by
          simp only [lineOf] at read
          split at read
          · simp at read
          · simp only [Bool.not_true, Bool.false_eq_true, if_false] at read
            split at read
            · simp at read
            · split at read
              · simp only [Option.some.injEq, Except.ok.injEq, Prod.mk.injEq] at read
                exact read.2.symm
              · simp at read
        subst ended
        rw [feed_ended, feed_ended, nextLine_open unbroken]
        exact ⟨[], read, rfl⟩
  · obtain ⟨rest', behind, grown⟩ := feed_behind body later eof step
    rw [nextLine_line unbroken] at read
    rw [grown, nextLine_line unbroken]
    split at read
    · rename_i inside
      rw [if_pos inside]
      unfold lineOf at read ⊢
      split at read
      · simp only [Option.some.injEq, Except.ok.injEq, Prod.mk.injEq] at read
        obtain ⟨rfl, rfl⟩ := read
        exact ⟨rest', rfl, behind⟩
      · simp at read
    · simp at read

theorem nextLine_stream_error {incoming : Incoming} {cls : ExcClass}
    (raised : nextLine incoming = some (.error cls)) (steps : List ReadStep) :
    nextLine (streamOf incoming steps) = some (.error cls) := by
  induction steps generalizing incoming with
  | nil => exact raised
  | cons step steps ih => exact ih (nextLine_feed_error raised step)

theorem nextLine_stream_ok {incoming : Incoming} {text : Str} {rest : Bytes}
    (read : nextLine incoming = some (.ok (text, rest))) (steps : List ReadStep) :
    ∃ rest', nextLine (streamOf incoming steps) = some (.ok (text, rest')) ∧
      streamOf ⟨rest, incoming.eof⟩ steps = ⟨rest', (streamOf incoming steps).eof⟩ := by
  induction steps generalizing incoming rest with
  | nil => exact ⟨rest, read, rfl⟩
  | cons step steps ih =>
      obtain ⟨rest', read', behind⟩ := nextLine_feed_ok read step
      obtain ⟨rest'', read'', behind'⟩ := ih read'
      refine ⟨rest'', read'', ?_⟩
      show streamOf (Incoming.feed ⟨rest, incoming.eof⟩ step) steps = _
      rw [behind]
      exact behind'

namespace Reading

theorem run_failed (readLine : Incoming → Option (Except PyError Str × Bytes)) {reading : Reading}
    {cls : ExcClass} (failed : reading.failure = some cls) (steps : List ReadStep) :
    (run readLine reading steps).lines = reading.lines ∧
      (run readLine reading steps).failure = some cls := by
  induction steps generalizing reading with
  | nil => exact ⟨rfl, failed⟩
  | cons step steps ih =>
      have kept : (reading.step readLine step).lines = reading.lines ∧
          (reading.step readLine step).failure = some cls := by
        cases step <;> simp [Reading.step, failed]
      obtain ⟨lines, failure⟩ := @ih (reading.step readLine step) kept.2
      exact ⟨lines.trans kept.1, failure⟩

/-- A reader that delivers `nextLine` reads its stream as if it had arrived at once. -/
theorem run_reads {readLine : Incoming → Option (Except PyError Str × Bytes)}
    (meets : ∀ incoming, outcome (readLine incoming) = nextLine incoming) {reading : Reading}
    (running : reading.failure = none) (steps : List ReadStep)
    (settled : Settled readLine (run readLine reading steps)) :
    ∃ later, (run readLine reading steps).lines = reading.lines ++ later ∧
      Reads (streamOf reading.incoming steps) later (run readLine reading steps).failure := by
  induction steps generalizing reading with
  | nil =>
      have waiting : nextLine reading.incoming = none := by
        rcases settled with failed | waiting
        · exact absurd running failed
        · have waiting : readLine reading.incoming = none := waiting
          rw [← meets, waiting]
          rfl
      refine ⟨[], (List.append_nil _).symm, ?_⟩
      show Reads reading.incoming [] reading.failure
      rw [running]
      exact .waits waiting
  | cons step steps ih =>
      cases step with
      | arrive chunk => exact @ih { reading with incoming := _ } running settled
      | finish => exact @ih { reading with incoming := _ } running settled
      | look =>
          obtain ⟨incoming, lines, failure⟩ := reading
          have running : failure = none := running
          subst running
          have next := meets incoming
          rcases looked : readLine incoming with _ | ⟨error | line, rest⟩
          all_goals rw [looked] at next
          · have same : step readLine ⟨incoming, lines, none⟩ .look = ⟨incoming, lines, none⟩ := by
              simp only [step, looked]
            simp only [run, List.foldl_cons, same] at settled ⊢
            exact @ih ⟨incoming, lines, none⟩ rfl settled
          · have failed : step readLine ⟨incoming, lines, none⟩ .look =
                ⟨⟨rest, incoming.eof⟩, lines, some error.cls⟩ := by
              simp only [step, looked]
            simp only [run, List.foldl_cons, failed]
            obtain ⟨kept, failure⟩ := @run_failed readLine
              ⟨⟨rest, incoming.eof⟩, lines, some error.cls⟩ error.cls rfl steps
            refine ⟨[], kept.trans (List.append_nil _).symm, ?_⟩
            rw [run] at failure
            rw [failure]
            exact .fails (nextLine_stream_error next.symm steps)
          · have read : step readLine ⟨incoming, lines, none⟩ .look =
                ⟨⟨rest, incoming.eof⟩, lines ++ [line], none⟩ := by
              simp only [step, looked]
            simp only [run, List.foldl_cons, read] at settled ⊢
            obtain ⟨later, delivered, reads⟩ := @ih ⟨⟨rest, incoming.eof⟩, lines ++ [line], none⟩
              rfl settled
            obtain ⟨rest', first, behind⟩ := nextLine_stream_ok next.symm steps
            refine ⟨line :: later, ?_, .line first ?_⟩
            · rw [run] at delivered
              rw [delivered, List.append_assoc, List.singleton_append]
            · simp only [behind] at reads
              exact reads

structure Agree (first second : Reading) : Prop where
  lines : first.lines = second.lines
  failure : first.failure = second.failure
  incoming : first.failure = none → first.incoming = second.incoming

theorem step_agree {readLine readLine' : Incoming → Option (Except PyError Str × Bytes)}
    (meets : ∀ incoming, outcome (readLine incoming) = nextLine incoming)
    (meets' : ∀ incoming, outcome (readLine' incoming) = nextLine incoming)
    {first second : Reading} (agree : Agree first second) (next : ReadStep) :
    Agree (first.step readLine next) (second.step readLine' next) := by
  obtain ⟨incoming, lines, failure⟩ := first
  obtain ⟨incoming', lines', failure'⟩ := second
  obtain ⟨sameLines, sameFailure, sameIncoming⟩ := agree
  simp only at sameLines sameFailure sameIncoming
  subst sameLines sameFailure
  cases failure with
  | some cls =>
      cases next <;> exact ⟨rfl, rfl, nofun⟩
  | none =>
      have same := sameIncoming rfl
      subst same
      cases next with
      | arrive chunk => exact ⟨rfl, rfl, fun _ => rfl⟩
      | finish => exact ⟨rfl, rfl, fun _ => rfl⟩
      | look =>
          have read := meets incoming
          have read' := meets' incoming
          rcases next : nextLine incoming with _ | ⟨cls | ⟨text, rest⟩⟩
          all_goals rw [next] at read read'
          · simp only [step, outcome_none read, outcome_none read']
            exact ⟨rfl, rfl, fun _ => rfl⟩
          · obtain ⟨error, rest, looked, rfl⟩ := outcome_error read
            obtain ⟨error', rest', looked', same⟩ := outcome_error read'
            simp only [step, looked, looked', same]
            exact ⟨rfl, rfl, nofun⟩
          · simp only [step, outcome_ok read, outcome_ok read']
            exact ⟨rfl, rfl, fun _ => rfl⟩

theorem run_agree {readLine readLine' : Incoming → Option (Except PyError Str × Bytes)}
    (meets : ∀ incoming, outcome (readLine incoming) = nextLine incoming)
    (meets' : ∀ incoming, outcome (readLine' incoming) = nextLine incoming)
    {first second : Reading} (agree : Agree first second) (steps : List ReadStep) :
    Agree (first.run readLine steps) (second.run readLine' steps) := by
  induction steps generalizing first second with
  | nil => exact agree
  | cons next steps ih => exact ih (step_agree meets meets' agree next)

end Reading

inductive RawLine : Incoming → Bytes → Prop
  | line {body rest eof} : newline ∉ body →
      RawLine ⟨body ++ newline :: rest, eof⟩ (body ++ [newline])
  | ending {bytes} : newline ∉ bytes → bytes ≠ [] → RawLine ⟨bytes, true⟩ bytes

theorem nextLine_raw {incoming : Incoming} {raw : Bytes} (line : RawLine incoming raw) :
    (∃ read, nextLine incoming = some (.ok read)) ↔
      raw.length ≤ maxResponseLineBytes ∧ ∃ text, decode raw = some text := by
  have decoded : ∀ raw rest, (∃ read, lineOf raw rest = .ok read) ↔ ∃ text, decode raw = some text := by
    intro raw rest
    unfold lineOf
    cases decode raw <;> simp
  cases line with
  | @line body rest eof unbroken =>
      rw [nextLine_line unbroken, List.length_append, List.length_singleton, Nat.succ_le_iff,
        ← decoded _ rest]
      by_cases inside : body.length < maxResponseLineBytes
      · simp [inside]
      · simp [inside]
  | ending unbroken full =>
      rw [nextLine_open unbroken, ← decoded _ []]
      by_cases long : maxResponseLineBytes < raw.length
      · simp [long]
      · simp [long, full]
        omega

theorem nextLine_class {incoming : Incoming} {cls : ExcClass}
    (raised : nextLine incoming = some (.error cls)) :
    cls = if incoming = ⟨[], true⟩ then .connectionError else .runtimeError := by
  obtain ⟨bytes, eof⟩ := incoming
  have malformed : ∀ raw rest, lineOf raw rest = .error cls → cls = .runtimeError := by
    intro raw rest failed
    unfold lineOf at failed
    split at failed
    · cases failed
    · cases failed
      rfl
  rcases cut_cases bytes with unbroken | ⟨body, rest, unbroken, rfl⟩
  · rw [nextLine_open unbroken] at raised
    by_cases empty : bytes = []
    · subst empty
      cases eof with
      | false => simp at raised
      | true => simpa using raised.symm
    · rw [if_neg (by simp [empty])]
      split at raised
      · simpa using raised.symm
      · split at raised
        · cases raised
        · simp only [Option.some.injEq] at raised
          exact malformed _ _ raised
  · rw [nextLine_line unbroken] at raised
    rw [if_neg (by simp)]
    split at raised
    · simp only [Option.some.injEq] at raised
      exact malformed _ _ raised
    · simp only [Option.some.injEq, Except.error.injEq] at raised
      exact raised.symm

theorem readLine_raw {readLine : Incoming → Option (Except PyError Str × Bytes)}
    (meets : ∀ incoming, outcome (readLine incoming) = nextLine incoming) {incoming : Incoming}
    {raw : Bytes} (line : RawLine incoming raw) :
    (∃ text rest, readLine incoming = some (.ok text, rest)) ↔
      raw.length ≤ maxResponseLineBytes ∧ ∃ text, decode raw = some text := by
  rw [← nextLine_raw line, ← meets]
  constructor
  · rintro ⟨text, rest, read⟩
    exact ⟨(text, rest), by rw [read]; rfl⟩
  · rintro ⟨⟨text, rest⟩, read⟩
    exact ⟨text, rest, outcome_ok read⟩

theorem readLine_class {readLine : Incoming → Option (Except PyError Str × Bytes)}
    (meets : ∀ incoming, outcome (readLine incoming) = nextLine incoming) {incoming : Incoming}
    {error : PyError} {rest : Bytes} (raised : readLine incoming = some (.error error, rest)) :
    error.cls = if incoming = ⟨[], true⟩ then .connectionError else .runtimeError := by
  apply nextLine_class
  rw [← meets, raised]
  rfl

/-- Both readers deliver the same lines and fail alike, step for step when they look at the same
times and in the end at any times; each delivers a line exactly when it is short enough and UTF-8. -/
theorem readers_agree :
    (∀ steps, (Reading.start.run syncReadLine steps).Agree (Reading.start.run asyncReadLine steps)) ∧
    (∀ incoming, syncReadLine incoming = none ↔ asyncReadLine incoming = none) ∧
    (∀ steps steps', streamOf Reading.start.incoming steps = streamOf Reading.start.incoming steps' →
      (Reading.start.run syncReadLine steps).Settled syncReadLine →
      (Reading.start.run asyncReadLine steps').Settled asyncReadLine →
      (Reading.start.run syncReadLine steps).lines = (Reading.start.run asyncReadLine steps').lines ∧
        (Reading.start.run syncReadLine steps).failure =
          (Reading.start.run asyncReadLine steps').failure) ∧
    ∀ readLine, readLine = syncReadLine ∨ readLine = asyncReadLine → ∀ incoming,
      (∀ raw, RawLine incoming raw → ((∃ text rest, readLine incoming = some (.ok text, rest)) ↔
        raw.length ≤ maxResponseLineBytes ∧ ∃ text, decode raw = some text)) ∧
      ∀ error rest, readLine incoming = some (.error error, rest) →
        error.cls = if incoming = ⟨[], true⟩ then .connectionError else .runtimeError := by
  refine ⟨?_, ?_, ?_, ?_⟩
  · exact Reading.run_agree syncReadLine_next asyncReadLine_next ⟨rfl, rfl, fun _ => rfl⟩
  · intro incoming
    constructor
    · intro waiting
      apply outcome_none
      rw [asyncReadLine_next, ← syncReadLine_next, waiting]
      rfl
    · intro waiting
      apply outcome_none
      rw [syncReadLine_next, ← asyncReadLine_next, waiting]
      rfl
  · intro steps steps' stream settled settled'
    obtain ⟨lines, delivered, reads⟩ := Reading.run_reads syncReadLine_next rfl steps settled
    obtain ⟨lines', delivered', reads'⟩ := Reading.run_reads asyncReadLine_next rfl steps' settled'
    rw [stream] at reads
    obtain ⟨rfl, failure⟩ := reads.unique reads'
    exact ⟨delivered.trans delivered'.symm, failure⟩
  · intro readLine reader incoming
    have meets : ∀ incoming, outcome (readLine incoming) = nextLine incoming := by
      rcases reader with rfl | rfl
      · exact syncReadLine_next
      · exact asyncReadLine_next
    exact ⟨fun _ => readLine_raw meets, fun _ _ => readLine_class meets⟩

end DflockdClient
