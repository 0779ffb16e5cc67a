import Mathlib.Tactic.Linarith
import DflockdClient.AsyncCore
import DflockdClient.Interleaving.Sequential
import DflockdClient.Scripts

/-!
The renewal loops of `_sync.py` and `_async.py` against a clock. Waiting takes the
time it is given and everything else takes none; each renew is written down with
the lease that the server had reported last.
-/

namespace DflockdClient

open Interleaving

/-- A renew that was sent, and the lease that had been reported by then. -/
structure Renew where
  reported : Int
  reportedAt : Rat
  sentAt : Rat

def Renew.expires (renew : Renew) : Rat := renew.reportedAt + renew.reported

structure Clock where
  now : Rat := 0
  reported : Int
  reportedAt : Rat := 0
  renews : List Renew := []

namespace Clock

def pass (interval : Rat) (clock : Clock) : Clock := { clock with now := clock.now + interval }

def send (clock : Clock) : Clock := { clock with
  renews := clock.renews ++ [⟨clock.reported, clock.reportedAt, clock.now⟩] }

def hear (params : Params) (line : Str) (clock : Clock) : Clock :=
  match parseRenewResponse line (opLabel params.pre (str "renew")) with
  | .ok remaining => { clock with reported := remaining, reportedAt := clock.now }
  | .error _ => clock

end Clock

abbrev Answers := Nat → Except Failure Str

def Answers.Reports (answers : Answers) (params : Params) (count : Nat) (remaining : Int) : Prop :=
  ∃ line, answers count = .ok line ∧
    parseRenewResponse line (opLabel params.pre (str "renew")) = .ok remaining

def Params.Renewable (params : Params) (token : Str) : Prop :=
  ∃ request frame, params.renewRequest token = .ok request ∧
    encodeLines [request.cmd, request.key, request.arg] = .ok frame

def Renew.Scheduled (ratio : Rat) (renew : Renew) : Prop :=
  0 < renew.reported ∧ renew.sentAt = renew.reportedAt + renewInterval renew.reported ratio

section

variable {lease : Int} {ratio : Rat}

theorem renewInterval_eq (positive : 0 < lease) : renewInterval lease ratio = max 1 (lease * ratio) := by
  simp [renewInterval, positive]

theorem renewInterval_le (below : ratio < 1) (positive : 0 < lease) :
    renewInterval lease ratio ≤ lease := by
  have one : (1 : Rat) ≤ lease := by exact_mod_cast positive
  rw [renewInterval_eq positive]
  refine max_le one ?_
  nlinarith

/-- With a second left the floor waits it out. -/
theorem renewInterval_lt_iff (below : ratio < 1) (positive : 0 < lease) :
    renewInterval lease ratio < lease ↔ 2 ≤ lease := by
  rw [renewInterval_eq positive, max_lt_iff]
  constructor
  · rintro ⟨one, -⟩
    have less : (1 : Int) < lease := by exact_mod_cast one
    omega
  · intro two
    have less : (2 : Rat) ≤ lease := by exact_mod_cast two
    constructor
    · linarith
    · nlinarith

theorem Renew.Scheduled.le {renew : Renew} (scheduled : renew.Scheduled ratio) (below : ratio < 1) :
    renew.sentAt ≤ renew.expires := by
  have bound := renewInterval_le below scheduled.1
  rw [Renew.expires, scheduled.2]
  linarith

theorem Renew.Scheduled.lt_iff {renew : Renew} (scheduled : renew.Scheduled ratio)
    (below : ratio < 1) : renew.sentAt < renew.expires ↔ 2 ≤ renew.reported := by
  rw [← renewInterval_lt_iff below scheduled.1, Renew.expires, scheduled.2]
  constructor <;> intro less <;> linarith

end

/-- Where a loop stands after some rounds: asleep until the next renew, with one sent in each
round, or done. -/
structure Asleep (ratio : Rat) (count : Nat) (interval : Rat) (clock : Clock) : Prop where
  positive : 0 < clock.reported
  now : clock.now = clock.reportedAt
  interval : interval = renewInterval clock.reported ratio
  sent : clock.renews.length = count
  scheduled : ∀ renew ∈ clock.renews, renew.Scheduled ratio

section

variable {params : Params} {answers : Answers} {count : Nat} {interval : Rat} {clock : Clock}

theorem Asleep.wakes (asleep : Asleep params.renewRatio count interval clock) :
    ((clock.pass interval).send.renews.length = count + 1) ∧
      ∀ renew ∈ (clock.pass interval).send.renews, renew.Scheduled params.renewRatio := by
  constructor
  · simp [Clock.send, Clock.pass, asleep.sent]
  · intro renew sent
    rcases List.mem_append.mp sent with before | now
    · exact asleep.scheduled renew before
    · obtain rfl := List.mem_singleton.mp now
      refine ⟨asleep.positive, ?_⟩
      simp only [Clock.pass, asleep.now, asleep.interval]

theorem Asleep.again {line : Str} {remaining : Int}
    (asleep : Asleep params.renewRatio count interval clock) (positive : 0 < remaining)
    (parsed : parseRenewResponse line (opLabel params.pre (str "renew")) = .ok remaining) :
    Asleep params.renewRatio (count + 1) (renewInterval remaining params.renewRatio)
      ((clock.pass interval).send.hear params line) := by
  have wakes := asleep.wakes
  have heard : (clock.pass interval).send.hear params line = { (clock.pass interval).send with
      reported := remaining, reportedAt := (clock.pass interval).send.now } := by
    simp [Clock.hear, parsed]
  rw [heard]
  exact ⟨positive, rfl, rfl, wakes.1, wakes.2⟩

end

structure Over (params : Params) (answers : Answers) (token : Str) (count : Nat) (clock : Clock) :
    Prop where
  scheduled : ∀ renew ∈ clock.renews, renew.Scheduled params.renewRatio
  failed : params.Renewable token → ∃ k, 1 ≤ k ∧ k ≤ count ∧
    ¬∃ remaining, answers.Reports params k remaining

structure Renewed (params : Params) (answers : Answers) (token : Str) (count : Nat)
    (clock : Clock) : Prop where
  scheduled : ∀ renew ∈ clock.renews, renew.Scheduled params.renewRatio
  sent : params.Renewable token → (∀ k, 1 ≤ k → k ≤ count → ∃ remaining,
    answers.Reports params k remaining) → clock.renews.length = count

theorem Asleep.renewed {params : Params} {answers : Answers} {token : Str} {count : Nat}
    {interval : Rat} {clock : Clock} (asleep : Asleep params.renewRatio count interval clock) :
    Renewed params answers token count clock :=
  ⟨asleep.scheduled, fun _ _ => asleep.sent⟩

theorem Over.renewed {params : Params} {answers : Answers} {token : Str} {count : Nat}
    {clock : Clock} (finished : Over params answers token count clock) :
    Renewed params answers token count clock := by
  refine ⟨finished.scheduled, ?_⟩
  intro renewable reports
  obtain ⟨k, first, last, unreported⟩ := finished.failed renewable
  exact absurd (reports k first last) unreported

theorem Over.later {params : Params} {answers : Answers} {token : Str} {count : Nat} {clock : Clock}
    (finished : Over params answers token count clock) :
    Over params answers token (count + 1) clock := by
  refine ⟨finished.scheduled, ?_⟩
  intro renewable
  obtain ⟨k, first, last, unreported⟩ := finished.failed renewable
  exact ⟨k, first, by omega, unreported⟩

theorem Asleep.over {params : Params} {answers : Answers} {token : Str} {count : Nat}
    {interval : Rat} {clock after : Clock} (asleep : Asleep params.renewRatio count interval clock)
    (kept : ∀ renew ∈ after.renews, renew ∈ (clock.pass interval).send.renews)
    (unreported : params.Renewable token →
      ¬∃ remaining, answers.Reports params (clock.renews.length + 1) remaining) :
    Over params answers token (count + 1) after := by
  refine ⟨fun renew sent => asleep.wakes.2 renew (kept renew sent), fun renewable => ?_⟩
  refine ⟨count + 1, by omega, by omega, ?_⟩
  rw [← asleep.sent]
  exact unreported renewable

section

variable {params : Params} {answers : Answers} {token line : Str} {request : Request}
  {error : PyError} {count : Nat}

theorem not_renewable_of_built (built : params.renewRequest token = .error error) :
    ¬params.Renewable token := by
  rintro ⟨request, _, renewable, _⟩
  rw [built] at renewable
  cases renewable

theorem not_renewable_of_encoded (built : params.renewRequest token = .ok request)
    (encoded : encodeLines [request.cmd, request.key, request.arg] = .error error) :
    ¬params.Renewable token := by
  rintro ⟨request', frame, renewable, frames⟩
  rw [built] at renewable
  cases renewable
  rw [encoded] at frames
  cases frames

theorem unreported_of_failed {failure : Failure} (decided : answers count = .error failure) :
    ¬∃ remaining, answers.Reports params count remaining := by
  rintro ⟨remaining, line, same, parsed⟩
  rw [decided] at same
  cases same

theorem unreported_of_malformed (decided : answers count = .ok line)
    (malformed : parseRenewResponse line (opLabel params.pre (str "renew")) = .error error) :
    ¬∃ remaining, answers.Reports params count remaining := by
  rintro ⟨remaining, answer, same, parsed⟩
  rw [decided] at same
  cases same
  rw [malformed] at parsed
  cases parsed

end

/-! The loop of `_sync.py` -/

namespace Sync

/-- An instance whose renewal thread runs by itself, and the clock. -/
structure Timed where
  world : World
  clock : Clock

namespace Timed

variable (params : Params) (answers : Answers)

def choose (op : Op) (timed : Timed) : Clock × Choice :=
  match op with
  | .waitEvent event interval =>
      if timed.world.eventSet event then (timed.clock, .go) else (timed.clock.pass interval, .expire)
  | .send _ _ => (timed.clock.send, .go)
  | .recv _ _ =>
      match answers timed.clock.renews.length with
      | .ok line => (timed.clock.hear params line, .reply line)
      | .error failure => (timed.clock, .fail failure.val)
  | _ => (timed.clock, .go)

def exec (thread : Thread) (op : Op) (timed : Timed) : Option (op.Res × Timed) :=
  let (clock, choice) := timed.choose params answers op
  (Sync.exec {} thread op choice timed.world).map fun (result, world) => (result, ⟨world, clock⟩)

def machine : Machine Op Op.Res PyError Thread Val Timed Unit where
  exec := fun thread op _ => exec params answers thread op
  yields := fun _ => false
  start := fun _ _ _ => none

def renewals (worker count : Nat) (timed : Timed) : Option (Except PyError WorkerState × Timed) :=
  (machine params answers).rounds (.worker worker)
    (fun position => start params (.worker worker) (.ok position) .go) (count + 1) .fresh timed

end Timed

structure Leased (link : Nat) (granted : Str) (event : Nat) (world : World) : Prop where
  conn : world.conn = some link
  token : world.token = some granted
  notClosed : world.closed = false
  opened : world.closedConn link = false
  unset : world.eventSet event = false
  free : world.ioLock = none

section

variable {params : Params} {answers : Answers} {timed : Timed} {worker event : Nat} {α : Type}

theorem against_logRenewFailure {raised : PyError → Timed → Prop} :
    against (Timed.machine params answers) (.worker worker) (fun _ => ()) (logRenewFailure event)
      (fun _ after => after.clock = timed.clock) raised timed := by
  simp only [logRenewFailure, against_bind]
  refine against_perform rfl ?_
  split
  · exact rfl
  · simp only [against_bind]
    cases set : timed.world.eventSet event with
    | true =>
        have isSet : (Timed.machine params answers).exec (.worker worker) (.isSet event) () timed =
            some (true, timed) := by
          simp [Timed.machine, Timed.exec, Timed.choose, exec, set]
        exact against_perform isSet rfl
    | false =>
        let armed : World := { timed.world with
          armed := if timed.world.ioLock = some (Thread.worker worker) then some (Thread.worker worker)
            else timed.world.armed }
        have unset : (Timed.machine params answers).exec (.worker worker) (.isSet event) () timed =
            some (false, ⟨armed, timed.clock⟩) := by
          simp [Timed.machine, Timed.exec, Timed.choose, exec, set, armed]
        refine against_perform unset ?_
        simp only [Bool.false_eq_true, if_false, against_discard]
        exact against_perform rfl rfl

theorem against_handleRenewFailure (conn : Nat) {raised : PyError → Timed → Prop} :
    against (Timed.machine params answers) (.worker worker) (fun _ => ())
      (handleRenewFailure conn event) (fun _ after => after.clock = timed.clock) raised timed := by
  simp only [handleRenewFailure, clearHeldState, against_bind]
  refine against_mono against_logRenewFailure ?_ fun _ _ impossible => impossible
  intro _ logged same
  refine against_perform rfl ?_
  split
  · simp only [against_bind]
    refine against_perform rfl ?_
    refine against_perform rfl ?_
    refine against_perform rfl ?_
    exact against_perform rfl same
  · exact same

theorem against_protoRenew {conn : Nat} {token : Str} {post : Int → Timed → Prop}
    {raised : PyError → Timed → Prop} (opened : timed.world.closedConn conn = false)
    (returned : ∀ line remaining trace,
      answers.Reports params (timed.clock.renews.length + 1) remaining →
      parseRenewResponse line (opLabel params.pre (str "renew")) = .ok remaining →
      post remaining ⟨{ timed.world with trace := trace }, timed.clock.send.hear params line⟩)
    (failed : ∀ error after, error.isException = true →
      (∀ renew ∈ after.clock.renews, renew ∈ timed.clock.send.renews) →
      (params.Renewable token → ¬∃ remaining,
        answers.Reports params (timed.clock.renews.length + 1) remaining) →
      raised error after) :
    against (Timed.machine params answers) (.worker worker) (fun _ => ())
      (protoRenew params (some conn) token) post raised timed := by
  have kept : ∀ renew ∈ timed.clock.renews, renew ∈ timed.clock.send.renews :=
    fun renew sent => List.mem_append_left _ sent
  simp only [protoRenew, exchange, command, raising, against_bind, against_orRaise]
  cases built : params.renewRequest token with
  | error error =>
      have ordinary := ordinary_renewRequest params.key token params.leaseTtlS params.pre
        renewReadTimeoutS error built
      exact failed error timed ordinary kept fun renewable =>
        absurd renewable (not_renewable_of_built built)
  | ok request =>
      simp only [against_discard, against_orRaise]
      cases encoded : encodeLines [request.cmd, request.key, request.arg] with
      | error error =>
          exact failed error timed (ordinary_encodeLines _ error encoded) kept fun renewable =>
            absurd renewable (not_renewable_of_encoded built encoded)
      | ok frame =>
          let sent : Timed := ⟨timed.world.log [.frame conn request], timed.clock.send⟩
          have count : sent.clock.renews.length = timed.clock.renews.length + 1 := by
            simp [sent, Clock.send]
          have sends : (Timed.machine params answers).exec (.worker worker) (.send conn request) ()
              timed = some (.ok (), sent) := by
            simp [Timed.machine, Timed.exec, Timed.choose, exec, opened, sent]
          simp only [against_handle, against_bind, against_orRaise]
          refine against_perform sends ?_
          cases decided : answers (timed.clock.renews.length + 1) with
          | error failure =>
              have recv : (Timed.machine params answers).exec (.worker worker)
                  (.recv conn request.cmd) () sent = some (.error failure.val,
                    ⟨sent.world.log [.noAnswer conn request.cmd], sent.clock⟩) := by
                simp [Timed.machine, Timed.exec, Timed.choose, exec, count, decided,
                  Faults.raises, failure.property]
              refine against_perform recv ?_
              refine against_perform rfl ?_
              exact failed failure.val _ failure.property (fun _ sent => sent) fun _ =>
                unreported_of_failed decided
          | ok line =>
              have recv : (Timed.machine params answers).exec (.worker worker)
                  (.recv conn request.cmd) () sent = some (.ok line,
                    ⟨sent.world.log [.answer conn request.cmd line], sent.clock.hear params line⟩) := by
                simp [Timed.machine, Timed.exec, Timed.choose, exec, count, decided]
              cases parsed : parseRenewResponse line (opLabel params.pre (str "renew")) with
              | ok remaining =>
                  refine against_perform recv ?_
                  simp only [parsed]
                  exact returned line remaining _ ⟨line, decided, parsed⟩ parsed
              | error error =>
                  have unheard : sent.clock.hear params line = timed.clock.send := by
                    simp [Clock.hear, parsed, sent]
                  rw [unheard] at recv
                  refine against_perform recv ?_
                  simp only [parsed]
                  exact failed error _ (ordinary_parseRenewResponse line _ error parsed)
                    (fun _ sent => sent) fun _ => unreported_of_malformed decided parsed

def Keeps (params : Params) (answers : Answers) (conn : Nat) (token : Str) (count : Nat)
    (position : WorkerState) (timed : Timed) : Prop :=
  match position with
  | .fresh => False
  | .sleeping event interval => Leased conn token event timed.world ∧
      Asleep params.renewRatio count interval timed.clock
  | .done => Over params answers token count timed.clock

theorem Keeps.renewed {conn count : Nat} {token : Str} {position : WorkerState}
    (keeps : Keeps params answers conn token count position timed) :
    Renewed params answers token count timed.clock := by
  cases position with
  | fresh => exact keeps.elim
  | sleeping event interval => exact keeps.2.renewed
  | done => exact Over.renewed keeps

theorem renewRound_keeps {conn count : Nat} {token : Str} {interval : Rat}
    (granted : Leased conn token event timed.world)
    (asleep : Asleep params.renewRatio count interval timed.clock)
    (positive : ∀ k remaining, answers.Reports params k remaining → 0 < remaining) :
    against (Timed.machine params answers) (.worker worker) (fun _ => ())
      (renewRound params event interval) (Keeps params answers conn token (count + 1))
      (fun _ _ => False) timed := by
  let woken : Timed := ⟨timed.world, timed.clock.pass interval⟩
  have waits : (Timed.machine params answers).exec (.worker worker) (.waitEvent event interval) ()
      timed = some (false, woken) := by
    simp [Timed.machine, Timed.exec, Timed.choose, exec, granted.unset, woken]
  let within : Timed := ⟨{ woken.world with ioLock := some (.worker worker) }, woken.clock⟩
  have locks : (Timed.machine params answers).exec (.worker worker) .lockIo () woken =
      some ((), within) := by
    simp [Timed.machine, Timed.exec, Timed.choose, exec, granted.free, within, woken]
  have notClosed : (Timed.machine params answers).exec (.worker worker) .getClosed () within =
      some (false, within) := by
    simp [Timed.machine, Timed.exec, Timed.choose, exec, granted.notClosed, within, woken]
  let armed : Timed := ⟨{ within.world with armed := some (.worker worker) }, within.clock⟩
  have unset : (Timed.machine params answers).exec (.worker worker) (.isSet event) () within =
      some (false, armed) := by
    simp [Timed.machine, Timed.exec, Timed.choose, exec, granted.unset, armed, within, woken]
  have gotConn : (Timed.machine params answers).exec (.worker worker) .getConn () armed =
      some (some conn, armed) := by
    simp [Timed.machine, Timed.exec, Timed.choose, exec, granted.conn, armed, within, woken]
  have gotToken : (Timed.machine params answers).exec (.worker worker) .getToken () armed =
      some (some token, armed) := by
    simp [Timed.machine, Timed.exec, Timed.choose, exec, granted.token, armed, within, woken]
  simp only [renewRound, renewTick, withIoLock, safeRenewOnce, against_bind]
  refine against_perform waits ?_
  simp only [Bool.false_eq_true, if_false, against_bind, against_ensure]
  refine against_perform locks ?_
  refine against_perform notClosed ?_
  simp only [Bool.false_eq_true, if_false, against_bind]
  refine against_perform unset ?_
  simp only [Bool.false_eq_true, if_false, against_bind]
  refine against_perform gotConn ?_
  refine against_perform gotToken ?_
  simp only [against_handle, against_bind]
  refine against_protoRenew granted.opened ?_ ?_
  · intro line remaining trace reports parsed
    have more := positive _ _ reports
    let answered : Timed :=
      ⟨{ timed.world with trace := trace, ioLock := none, armed := none },
        (timed.clock.pass interval).send.hear params line⟩
    have still : (Timed.machine params answers).exec (.worker worker) (.isSet event) () answered =
        some (false, answered) := by
      simp [Timed.machine, Timed.exec, Timed.choose, exec, granted.unset, answered]
    have token' : (Timed.machine params answers).exec (.worker worker) .getToken () answered =
        some (some token, answered) := by
      simp [Timed.machine, Timed.exec, Timed.choose, exec, granted.token, answered]
    have open' : (Timed.machine params answers).exec (.worker worker) .getClosed () answered =
        some (false, answered) := by
      simp [Timed.machine, Timed.exec, Timed.choose, exec, granted.notClosed, answered]
    simp only [Program.pure_eq, against_ret]
    refine against_perform rfl ?_
    simp only [against_bind]
    refine against_perform still ?_
    simp only [Bool.false_eq_true, if_false, updateLease, if_pos more, against_bind]
    refine against_perform token' ?_
    simp only [Option.isSome_some, if_true, against_bind]
    refine against_perform open' ?_
    refine against_perform rfl ?_
    exact ⟨⟨granted.conn, granted.token, granted.notClosed, granted.opened, granted.unset, rfl⟩,
      asleep.again more parsed⟩
  · intro error after ordinary kept unreported
    simp only [ordinary, if_true, against_bind]
    refine against_mono (against_handleRenewFailure conn) ?_ fun _ _ impossible => impossible
    intro _ failed same
    simp only [Program.pure_eq, against_ret]
    refine against_perform rfl ?_
    simp only [against_bind]
    refine against_perform rfl ?_
    have clock : failed.clock = after.clock := same
    rw [← clock] at kept
    exact asleep.over kept unreported

theorem keeps_round {conn : Nat} {token : Str}
    (positive : ∀ k remaining, answers.Reports params k remaining → 0 < remaining) (count : Nat)
    (position : WorkerState) (timed : Timed) (program : Py WorkerState)
    (keeps : Keeps params answers conn token count position timed)
    (next : start params (.worker worker) (.ok position) .go = some program) :
    against (Timed.machine params answers) (.worker worker) (fun _ => ()) program
      (Keeps params answers conn token (count + 1)) (fun _ _ => False) timed := by
  cases position with
  | fresh => exact keeps.elim
  | sleeping event interval =>
      cases next
      exact renewRound_keeps keeps.1 keeps.2 positive
  | done => cases next

theorem keeps_over {conn : Nat} {token : Str} (count : Nat) (position : WorkerState)
    (timed : Timed) (keeps : Keeps params answers conn token count position timed)
    (next : start params (.worker worker) (.ok position) .go = none) :
    Keeps params answers conn token (count + 1) position timed := by
  cases position with
  | fresh => exact keeps.elim
  | sleeping event interval => cases next
  | done => exact Over.later keeps

theorem renewals_keep {conn : Nat} {token : Str} {world : World}
    (granted : Leased conn token (world.workerEvent worker) world)
    (started : world.started worker = true) (valid : 0 < world.lease)
    (positive : ∀ k remaining, answers.Reports params k remaining → 0 < remaining) (count : Nat) :
    ∃ last final,
      Timed.renewals params answers worker count ⟨world, { reported := world.lease }⟩ =
        some (.ok last, final) ∧ Renewed params answers token count final.clock := by
  have first : Keeps params answers conn token 0
      (.sleeping (world.workerEvent worker) (renewInterval world.lease params.renewRatio))
      ⟨world, { reported := world.lease }⟩ :=
    ⟨granted, valid, rfl, rfl, rfl, nofun⟩
  obtain ⟨last, final, ran, keeps⟩ :=
    Machine.rounds_invariant (@keeps_round params answers worker conn token positive) keeps_over
      count 0 first
  refine ⟨last, final, ?_, ?_⟩
  · rw [← ran]
    simp [Timed.renewals, Machine.rounds, start, renewLoop, perform, Program.perform,
      Machine.runAlone, Timed.machine, Timed.exec, Timed.choose, exec, started]
  · rw [Nat.zero_add] at keeps
    exact keeps.renewed

end

end Sync

/-! The loop of `_async.py` -/

namespace Async

structure Timed where
  world : World
  clock : Clock

namespace Timed

variable (params : Params) (answers : Answers)

def choose (op : Op) (timed : Timed) : Clock × Choice :=
  match op with
  | .sleep interval => (timed.clock.pass interval, .expire)
  | .write _ _ => (timed.clock.send, .go)
  | .readLine _ _ =>
      match answers timed.clock.renews.length with
      | .ok line => (timed.clock.hear params line, .reply line)
      | .error failure => (timed.clock, .fail failure.val)
  | _ => (timed.clock, .go)

def exec (thread : Thread) (op : Op) (timed : Timed) : Option (op.Res × Timed) :=
  let (clock, choice) := timed.choose params answers op
  (Async.exec thread op choice timed.world).map fun (result, world) => (result, ⟨world, clock⟩)

def machine : Machine Op Op.Res PyError Thread Val Timed Unit where
  exec := fun thread op _ => exec params answers thread op
  yields := fun _ => false
  start := fun _ _ _ => none

def renewals (worker count : Nat) (timed : Timed) : Option (Except PyError WorkerState × Timed) :=
  (machine params answers).rounds (.worker worker)
    (fun position => start params (.worker worker) (.ok position) .go) (count + 1) .fresh timed

end Timed

structure Leased (link : Nat) (granted : Str) (worker : Nat) (world : World) : Prop where
  conn : world.conn = some link
  token : world.token = some granted
  notClosed : world.closed = false
  opened : world.closedConn link = false
  undisturbed : world.undelivered (.worker worker) = false
  free : world.ioLock = none

section

variable {params : Params} {answers : Answers} {timed : Timed} {worker : Nat}

theorem against_logRenewFailure {raised : PyError → Timed → Prop} :
    against (Timed.machine params answers) (.worker worker) (fun _ => ()) logRenewFailure
      (fun _ after => after.clock = timed.clock) raised timed := by
  simp only [logRenewFailure, against_bind]
  refine against_perform rfl ?_
  split
  · exact rfl
  · simp only [against_discard]
    exact against_perform rfl rfl

theorem against_handleRenewFailure (conn : Nat) {raised : PyError → Timed → Prop} :
    against (Timed.machine params answers) (.worker worker) (fun _ => ()) (handleRenewFailure conn)
      (fun _ after => after.clock = timed.clock) raised timed := by
  simp only [handleRenewFailure, clearHeldState, against_bind]
  refine against_perform rfl ?_
  split
  · exact rfl
  · simp only [against_bind]
    refine against_mono against_logRenewFailure ?_ fun _ _ impossible => impossible
    intro _ logged same
    refine against_perform rfl ?_
    split
    · simp only [against_bind]
      refine against_perform rfl ?_
      refine against_perform rfl ?_
      refine against_perform rfl ?_
      exact against_perform rfl same
    · exact same

theorem against_protoRenew {conn : Nat} {token : Str} {post : Int → Timed → Prop}
    {raised : PyError → Timed → Prop} (opened : timed.world.closedConn conn = false)
    (undisturbed : timed.world.undelivered (.worker worker) = false)
    (returned : ∀ line remaining trace,
      answers.Reports params (timed.clock.renews.length + 1) remaining →
      parseRenewResponse line (opLabel params.pre (str "renew")) = .ok remaining →
      post remaining ⟨{ timed.world with trace := trace }, timed.clock.send.hear params line⟩)
    (failed : ∀ error after, error.isException = true →
      (∀ renew ∈ after.clock.renews, renew ∈ timed.clock.send.renews) →
      (params.Renewable token → ¬∃ remaining,
        answers.Reports params (timed.clock.renews.length + 1) remaining) →
      raised error after) :
    against (Timed.machine params answers) (.worker worker) (fun _ => ())
      (protoRenew params conn token) post raised timed := by
  have kept : ∀ renew ∈ timed.clock.renews, renew ∈ timed.clock.send.renews :=
    fun renew sent => List.mem_append_left _ sent
  simp only [protoRenew, exchange, command, raising, against_bind, against_orRaise]
  cases built : params.renewRequest token with
  | error error =>
      have ordinary := ordinary_renewRequest params.key token params.leaseTtlS params.pre
        renewReadTimeoutS error built
      exact failed error timed ordinary kept fun renewable =>
        absurd renewable (not_renewable_of_built built)
  | ok request =>
      simp only [against_discard, against_orRaise]
      cases encoded : encodeLines [request.cmd, request.key, request.arg] with
      | error error =>
          exact failed error timed (ordinary_encodeLines _ error encoded) kept fun renewable =>
            absurd renewable (not_renewable_of_encoded built encoded)
      | ok frame =>
          let sent : Timed := ⟨timed.world.log [.frame conn request], timed.clock.send⟩
          have count : sent.clock.renews.length = timed.clock.renews.length + 1 := by
            simp [sent, Clock.send]
          have writes : (Timed.machine params answers).exec (.worker worker) (.write conn request) ()
              timed = some ((), sent) := by
            simp [Timed.machine, Timed.exec, Timed.choose, exec, opened, sent]
          have drains : (Timed.machine params answers).exec (.worker worker)
              (.drain conn request.cmd) () sent = some (.ok (), sent) := by
            simp [Timed.machine, Timed.exec, Timed.choose, exec, suspendExchange, World.log,
              undisturbed, sent]
          simp only [against_handle, against_bind, against_orRaise]
          refine against_perform writes ?_
          refine against_perform drains ?_
          cases decided : answers (timed.clock.renews.length + 1) with
          | error failure =>
              have reads : (Timed.machine params answers).exec (.worker worker)
                  (.readLine conn request.cmd) () sent = some (.error failure.val,
                    ⟨sent.world.log [.noAnswer conn request.cmd], sent.clock⟩) := by
                simp [Timed.machine, Timed.exec, Timed.choose, exec, suspendExchange, World.log,
                  undisturbed, count, decided, failure.property, sent]
              refine against_perform reads ?_
              refine against_perform rfl ?_
              exact failed failure.val _ failure.property (fun _ sent => sent) fun _ =>
                unreported_of_failed decided
          | ok line =>
              have reads : (Timed.machine params answers).exec (.worker worker)
                  (.readLine conn request.cmd) () sent = some (.ok line,
                    ⟨sent.world.log [.answer conn request.cmd line], sent.clock.hear params line⟩) := by
                simp [Timed.machine, Timed.exec, Timed.choose, exec, suspendExchange, World.log,
                  undisturbed, count, decided, sent]
              cases parsed : parseRenewResponse line (opLabel params.pre (str "renew")) with
              | ok remaining =>
                  refine against_perform reads ?_
                  simp only [parsed]
                  exact returned line remaining _ ⟨line, decided, parsed⟩ parsed
              | error error =>
                  have unheard : sent.clock.hear params line = timed.clock.send := by
                    simp [Clock.hear, parsed, sent]
                  rw [unheard] at reads
                  refine against_perform reads ?_
                  simp only [parsed]
                  exact failed error _ (ordinary_parseRenewResponse line _ error parsed)
                    (fun _ sent => sent) fun _ => unreported_of_malformed decided parsed

def Keeps (params : Params) (answers : Answers) (conn : Nat) (token : Str) (worker count : Nat)
    (position : WorkerState) (timed : Timed) : Prop :=
  match position with
  | .fresh => False
  | .sleeping interval => Leased conn token worker timed.world ∧
      Asleep params.renewRatio count interval timed.clock
  | .done => Over params answers token count timed.clock

theorem Keeps.renewed {conn count : Nat} {token : Str} {position : WorkerState}
    (keeps : Keeps params answers conn token worker count position timed) :
    Renewed params answers token count timed.clock := by
  cases position with
  | fresh => exact keeps.elim
  | sleeping interval => exact keeps.2.renewed
  | done => exact Over.renewed keeps

theorem renewRound_keeps {conn count : Nat} {token : Str} {interval : Rat}
    (granted : Leased conn token worker timed.world)
    (asleep : Asleep params.renewRatio count interval timed.clock)
    (positive : ∀ k remaining, answers.Reports params k remaining → 0 < remaining) :
    against (Timed.machine params answers) (.worker worker) (fun _ => ())
      (renewRound params interval) (Keeps params answers conn token worker (count + 1))
      (fun _ _ => False) timed := by
  let woken : Timed := ⟨timed.world, timed.clock.pass interval⟩
  have sleeps : (Timed.machine params answers).exec (.worker worker) (.sleep interval) () timed =
      some (.ok (), woken) := by
    simp [Timed.machine, Timed.exec, Timed.choose, exec, suspend, granted.undisturbed, woken]
  let within : Timed := ⟨{ woken.world with ioLock := some (.worker worker) }, woken.clock⟩
  have locks : (Timed.machine params answers).exec (.worker worker) .lockIo () woken =
      some (.ok (), within) := by
    simp [Timed.machine, Timed.exec, Timed.choose, exec, suspend, granted.free,
      granted.undisturbed, within, woken]
  have notClosed : (Timed.machine params answers).exec (.worker worker) .getClosed () within =
      some (false, within) := by
    simp [Timed.machine, Timed.exec, Timed.choose, exec, granted.notClosed, within, woken]
  have gotConn : (Timed.machine params answers).exec (.worker worker) .getConn () within =
      some (some conn, within) := by
    simp [Timed.machine, Timed.exec, Timed.choose, exec, granted.conn, within, woken]
  have gotToken : (Timed.machine params answers).exec (.worker worker) .getToken () within =
      some (some token, within) := by
    simp [Timed.machine, Timed.exec, Timed.choose, exec, granted.token, within, woken]
  simp only [renewRound, renewLoopBody, renewTick, withIoLock, raising, safeRenewOnce,
    against_bind, against_handle, against_orRaise]
  refine against_perform sleeps ?_
  simp only [against_ensure, against_bind]
  refine against_perform locks ?_
  refine against_perform notClosed ?_
  simp only [Bool.false_eq_true, if_false, against_bind]
  refine against_perform gotConn ?_
  refine against_perform gotToken ?_
  simp only [against_handle, against_bind]
  refine against_protoRenew granted.opened granted.undisturbed ?_ ?_
  · intro line remaining trace reports parsed
    have more := positive _ _ reports
    let answered : Timed := ⟨{ timed.world with trace := trace, ioLock := none },
      (timed.clock.pass interval).send.hear params line⟩
    have token' : (Timed.machine params answers).exec (.worker worker) .getToken () answered =
        some (some token, answered) := by
      simp [Timed.machine, Timed.exec, Timed.choose, exec, granted.token, answered]
    have open' : (Timed.machine params answers).exec (.worker worker) .getClosed () answered =
        some (false, answered) := by
      simp [Timed.machine, Timed.exec, Timed.choose, exec, granted.notClosed, answered]
    simp only [Program.pure_eq, against_ret]
    refine against_perform rfl ?_
    simp only [updateLease, if_pos more, against_bind]
    refine against_perform token' ?_
    simp only [Option.isSome_some, if_true, against_bind]
    refine against_perform open' ?_
    refine against_perform rfl ?_
    exact ⟨⟨granted.conn, granted.token, granted.notClosed, granted.opened, granted.undisturbed,
      rfl⟩, asleep.again more parsed⟩
  · intro error after ordinary kept unreported
    simp only [ordinary, if_true, against_bind]
    refine against_mono (against_handleRenewFailure conn) ?_ fun _ _ impossible => impossible
    intro _ failed same
    simp only [Program.pure_eq, against_ret]
    refine against_perform rfl ?_
    simp only [against_ret, if_true, against_bind]
    refine against_perform rfl ?_
    have clock : failed.clock = after.clock := same
    rw [← clock] at kept
    exact asleep.over kept unreported

theorem keeps_round {conn : Nat} {token : Str}
    (positive : ∀ k remaining, answers.Reports params k remaining → 0 < remaining) (count : Nat)
    (position : WorkerState) (timed : Timed) (program : Py WorkerState)
    (keeps : Keeps params answers conn token worker count position timed)
    (next : start params (.worker worker) (.ok position) .go = some program) :
    against (Timed.machine params answers) (.worker worker) (fun _ => ()) program
      (Keeps params answers conn token worker (count + 1)) (fun _ _ => False) timed := by
  cases position with
  | fresh => exact keeps.elim
  | sleeping interval =>
      cases next
      exact renewRound_keeps keeps.1 keeps.2 positive
  | done => cases next

theorem keeps_over {conn : Nat} {token : Str} (count : Nat) (position : WorkerState)
    (timed : Timed) (keeps : Keeps params answers conn token worker count position timed)
    (next : start params (.worker worker) (.ok position) .go = none) :
    Keeps params answers conn token worker (count + 1) position timed := by
  cases position with
  | fresh => exact keeps.elim
  | sleeping interval => cases next
  | done => exact Over.later keeps

theorem renewals_keep {conn : Nat} {token : Str} {world : World}
    (granted : Leased conn token worker world) (created : worker < world.workers)
    (valid : 0 < world.lease)
    (positive : ∀ k remaining, answers.Reports params k remaining → 0 < remaining) (count : Nat) :
    ∃ last final,
      Timed.renewals params answers worker count ⟨world, { reported := world.lease }⟩ =
        some (.ok last, final) ∧ Renewed params answers token count final.clock := by
  have kept : Function.update world.undelivered (.worker worker) false = world.undelivered := by
    rw [← granted.undisturbed, Function.update_eq_self]
  have first : Keeps params answers conn token worker 0
      (.sleeping (renewInterval world.lease params.renewRatio))
      ⟨world, { reported := world.lease }⟩ :=
    ⟨granted, valid, rfl, rfl, rfl, nofun⟩
  obtain ⟨last, final, ran, keeps⟩ :=
    Machine.rounds_invariant (@keeps_round params answers worker conn token positive) keeps_over
      count 0 first
  refine ⟨last, final, ?_, ?_⟩
  · rw [← ran]
    simp [Timed.renewals, Machine.rounds, start, renewLoop, perform, Program.perform,
      Machine.runAlone, Timed.machine, Timed.exec, Timed.choose, exec, created,
      granted.undisturbed, World.deliver, kept]
  · rw [Nat.zero_add] at keeps
    exact keeps.renewed

end

end Async

/-! Both loops -/

structure InTime (params : Params) (answers : Answers) (token : Str) (count : Nat) (clock : Clock) :
    Prop where
  notLate : ∀ renew ∈ clock.renews, renew.sentAt ≤ renew.expires
  early : ∀ renew ∈ clock.renews, (renew.sentAt < renew.expires ↔ 2 ≤ renew.reported)
  sent : params.Renewable token → (∀ k, 1 ≤ k → k ≤ count → ∃ remaining,
    answers.Reports params k remaining) → clock.renews.length = count

theorem Renewed.inTime {params : Params} {answers : Answers} {token : Str} {count : Nat}
    {clock : Clock} (renewed : Renewed params answers token count clock)
    (below : params.renewRatio < 1) : InTime params answers token count clock :=
  ⟨fun renew sent => (renewed.scheduled renew sent).le below,
    fun renew sent => (renewed.scheduled renew sent).lt_iff below, renewed.sent⟩

/-- As long as the server reports positive remainders, no renew of either loop is sent after the
lease of the last report has expired, and none at that moment unless the floor of one second is
all that was left. -/
theorem renewals_in_time (params : Params) (answers : Answers) (below : params.renewRatio < 1)
    (positive : ∀ k remaining, answers.Reports params k remaining → 0 < remaining)
    (conn : Nat) (token : Str) (worker count : Nat) :
    (∀ world, Sync.Leased conn token (world.workerEvent worker) world →
      world.started worker = true → 0 < world.lease →
      ∃ last final, Sync.Timed.renewals params answers worker count
          ⟨world, { reported := world.lease }⟩ = some (.ok last, final) ∧
        InTime params answers token count final.clock) ∧
    (∀ world, Async.Leased conn token worker world →
      worker < world.workers → 0 < world.lease →
      ∃ last final, Async.Timed.renewals params answers worker count
          ⟨world, { reported := world.lease }⟩ = some (.ok last, final) ∧
        InTime params answers token count final.clock) := by
  constructor
  · intro world granted started valid
    obtain ⟨last, final, ran, renewed⟩ := Sync.renewals_keep granted started valid positive count
    exact ⟨last, final, ran, renewed.inTime below⟩
  · intro world granted created valid
    obtain ⟨last, final, ran, renewed⟩ := Async.renewals_keep granted created valid positive count
    exact ⟨last, final, ran, renewed.inTime below⟩

def shortParams : Params where
  key := str "job"
  shardingStrategy := fun _ _ => .ok (.int 0)

def always (seconds : Str) : Answers := fun _ => .ok (str "ok " ++ seconds)

def Sync.shortWorld : Sync.World where
  conn := some 0
  token := some (str "t")
  lease := 1
  conns := 1
  workers := 1
  started := fun worker => worker = 0
  alive := fun worker => worker = 0

def Async.shortWorld : Async.World where
  conn := some 0
  token := some (str "t")
  lease := 1
  conns := 1
  workers := 1

theorem renewals_in_time_short :
    (∃ last final, Sync.Timed.renewals shortParams (always (str "3")) 0 2
        ⟨Sync.shortWorld, { reported := Sync.shortWorld.lease }⟩ = some (.ok last, final) ∧
      InTime shortParams (always (str "3")) (str "t") 2 final.clock) ∧
    (∃ last final, Async.Timed.renewals shortParams (always (str "3")) 0 2
        ⟨Async.shortWorld, { reported := Async.shortWorld.lease }⟩ = some (.ok last, final) ∧
      InTime shortParams (always (str "3")) (str "t") 2 final.clock) := by
  have positive : ∀ k remaining, (always (str "3")).Reports shortParams k remaining →
      0 < remaining := by
    rintro k remaining ⟨line, same, parsed⟩
    have three : parseRenewResponse (str "ok 3") (opLabel shortParams.pre (str "renew")) = .ok 3 := by
      decide +kernel
    cases same
    have equal := three.symm.trans parsed
    cases equal
    decide
  have times := renewals_in_time shortParams (always (str "3")) (by decide +kernel) positive 0
    (str "t") 0 2
  exact ⟨times.1 Sync.shortWorld ⟨rfl, rfl, rfl, rfl, rfl, rfl⟩ rfl (by decide),
    times.2 Async.shortWorld ⟨rfl, rfl, rfl, rfl, rfl, rfl⟩ (by decide) (by decide)⟩

/-- A lease of one second is not renewed before it expires. -/
theorem one_second_not_early :
    (¬∀ renew ∈ ((Sync.Timed.renewals shortParams (always (str "1")) 0 1
        ⟨Sync.shortWorld, { reported := Sync.shortWorld.lease }⟩).map
          fun result => result.2.clock.renews).getD [],
      renew.sentAt < renew.expires) ∧
    ¬∀ renew ∈ ((Async.Timed.renewals shortParams (always (str "1")) 0 1
        ⟨Async.shortWorld, { reported := Async.shortWorld.lease }⟩).map
          fun result => result.2.clock.renews).getD [],
      renew.sentAt < renew.expires := by
  decide +kernel

end DflockdClient
