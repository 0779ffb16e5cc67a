import DflockdClient.Exchanges
import DflockdClient.Interleaving.Monitor
import DflockdClient.SyncCore

/-!
What an instance may write on one connection: it authenticates if it has a token
to do so, asks for the lock by an acquire, or by an enqueue and a wait, renews
what it was granted and gives it back, and each frame waits for the answer to the
one before it.
-/

namespace DflockdClient.Session

open Interleaving
open Sync (Event)

/-- Where a connection stands. -/
inductive Stage
  | opened | authenticating | ready
  | asking (cmd : Str) | queued
  | granted (token : Str) | renewing (token : Str)
  | releasing | spent
  deriving DecidableEq

variable (params : Params)

def ask (request : Request) : Option Stage :=
  if params.acquireRequest = .ok request ∨ params.enqueueRequest = .ok request then
    some (.asking request.cmd)
  else none

def send (stage : Stage) (request : Request) : Option Stage :=
  match stage with
  | .opened =>
      match params.authToken with
      | none => ask params request
      | some authToken =>
          if authenticateRequest authToken = .ok request then some .authenticating else none
  | .ready => ask params request
  | .queued =>
      if commandKind request.cmd = some .wait ∧ request.key = params.key then
        some (.asking request.cmd)
      else none
  | .granted token =>
      if params.renewRequest token = .ok request then some (.renewing token)
      else if params.releaseRequest token = .ok request then some .releasing
      else none
  | _ => none

def receive (stage : Stage) (cmd line : Str) : Stage :=
  match stage with
  | .authenticating => if parseAuthResponse line = .ok () then .ready else .spent
  | .asking asked =>
      if cmd = asked then
        match grantedToken cmd line with
        | some token => .granted token
        | none =>
            if commandKind cmd = some .enqueue ∧ parseEnqueueResponse line [] = .ok .queued then
              .queued
            else .spent
      else .spent
  | .renewing token =>
      match parseRenewResponse line [] with
      | .ok _ => .granted token
      | .error _ => .spent
  | .releasing => .spent
  | stage => stage

def lose (stage : Stage) : Stage :=
  match stage with
  | .authenticating | .asking _ | .renewing _ | .releasing => .spent
  | stage => stage

def step (stage : Stage) (event : Event) : Option Stage :=
  match event with
  | .frame _ request => send params stage request
  | .answer _ cmd line => some (receive stage cmd line)
  | .noAnswer _ _ => some (lose stage)

def session : Monitor Stage Event where
  start := .opened
  step := step params

def connOf (event : Event) : Nat :=
  match event with
  | .frame conn _ | .answer conn _ _ | .noAnswer conn _ => conn

def eventsOn (trace : List Event) (conn : Nat) : List Event :=
  trace.filter fun event => connOf event == conn

/-- Where a connection stands, and `none` if a frame was out of order there. -/
def stageOn (trace : List Event) (conn : Nat) : Option Stage :=
  (session params).after (eventsOn trace conn)

variable {params} {trace : List Event} {event : Event} {conn : Nat} {stage : Stage}

@[simp] theorem stageOn_nil : stageOn params [] conn = some .opened := rfl

theorem stageOn_other (other : connOf event ≠ conn) :
    stageOn params (trace ++ [event]) conn = stageOn params trace conn := by
  simp [stageOn, eventsOn, other]

theorem stageOn_own (own : connOf event = conn) :
    stageOn params (trace ++ [event]) conn =
      (stageOn params trace conn).bind (step params · event) := by
  simp [stageOn, eventsOn, own, session]

section

variable {request : Request}

theorem ask_acquire (built : params.acquireRequest = .ok request) :
    ask params request = some (.asking request.cmd) := by
  simp [ask, built]

theorem ask_enqueue (built : params.enqueueRequest = .ok request) :
    ask params request = some (.asking request.cmd) := by
  simp [ask, built]

theorem send_wait {timeoutS : Value} (built : params.waitRequest timeoutS = .ok request) :
    send params .queued request = some (.asking request.cmd) := by
  have key : request.key = params.key := by
    obtain ⟨_, _, built⟩ := Except.bind_eq_ok built
    obtain ⟨_, _, built⟩ := Except.bind_eq_ok built
    obtain ⟨⟨arg, seconds⟩, _, built⟩ := Except.bind_eq_ok built
    obtain ⟨cmd, _, same⟩ := Except.bind_eq_ok built
    cases same
    rfl
  simp [send, waitRequest_kind built, key]

theorem send_renew {token : Str} (built : params.renewRequest token = .ok request) :
    send params (.granted token) request = some (.renewing token) := by
  simp [send, built]

theorem send_release {token : Str} (built : params.releaseRequest token = .ok request) :
    send params (.granted token) request = some .releasing := by
  have different : params.renewRequest token ≠ .ok request := by
    intro renewed
    have kind := (renewRequest_ok renewed).1
    rw [(releaseRequest_ok built).1] at kind
    cases kind
  simp [send, built, different]

end

/-! The words -/

def framesOf (trace : List Event) : List Request :=
  trace.filterMap fun event => match event with
    | .frame _ request => some request
    | _ => none

variable (params) in
def Login (frames : List Request) : Prop :=
  match params.authToken with
  | none => frames = []
  | some authToken => ∃ request, authenticateRequest authToken = .ok request ∧ frames = [request]

variable (params) in
inductive Asks : List Request → Prop
  | acquire {request} : params.acquireRequest = .ok request → Asks [request]
  | enqueue {request} : params.enqueueRequest = .ok request → Asks [request]
  | wait {request later} : params.enqueueRequest = .ok request →
      commandKind later.cmd = some .wait → later.key = params.key → Asks [request, later]

def Grants (trace : List Event) (token : Str) : Prop :=
  ∃ conn cmd line, Event.answer conn cmd line ∈ trace ∧ grantedToken cmd line = some token

variable (params) in
/-- The words that the frames of one connection form. -/
inductive Word (trace : List Event) : List Request → Prop
  | nothing : Word trace []
  | login {auth} : Login params auth → Word trace auth
  | asked {auth asked} : Login params auth → Asks params asked → Word trace (auth ++ asked)
  | granted {auth asked token renews released} : Login params auth → Asks params asked →
      Grants trace token →
      (∀ request ∈ renews, params.renewRequest token = .ok request) →
      (∀ request ∈ released, params.releaseRequest token = .ok request) → released.length ≤ 1 →
      Word trace (auth ++ asked ++ renews ++ released)

variable (params) in
def Written (trace : List Event) (stage : Stage) : Prop :=
  match stage with
  | .opened => framesOf trace = []
  | .authenticating | .ready => Login params (framesOf trace)
  | .asking cmd => ∃ auth asked last, Login params auth ∧ Asks params asked ∧
      asked.getLast? = some last ∧ last.cmd = cmd ∧ framesOf trace = auth ++ asked
  | .queued => ∃ auth request, Login params auth ∧ params.enqueueRequest = .ok request ∧
      framesOf trace = auth ++ [request]
  | .granted token | .renewing token => ∃ auth asked renews, Login params auth ∧
      Asks params asked ∧ Grants trace token ∧
      (∀ request ∈ renews, params.renewRequest token = .ok request) ∧
      framesOf trace = auth ++ asked ++ renews
  | .releasing | .spent => Word params trace (framesOf trace)

theorem Grants.snoc {token : Str} (known : Grants trace token) : Grants (trace ++ [event]) token := by
  obtain ⟨conn, cmd, line, member, granted⟩ := known
  exact ⟨conn, cmd, line, List.mem_append_left _ member, granted⟩

theorem Word.snoc {frames : List Request} (word : Word params trace frames) :
    Word params (trace ++ [event]) frames := by
  cases word with
  | nothing => exact .nothing
  | login auth => exact .login auth
  | asked auth asked => exact .asked auth asked
  | granted auth asked granted renews released once =>
      exact .granted auth asked granted.snoc renews released once

theorem Written.word (written : Written params trace stage) :
    Word params trace (framesOf trace) := by
  cases stage with
  | opened =>
      rw [show framesOf trace = [] from written]
      exact .nothing
  | authenticating | ready => exact .login written
  | asking cmd =>
      obtain ⟨auth, asked, _, login, asks, _, _, frames⟩ := written
      rw [frames]
      exact .asked login asks
  | queued =>
      obtain ⟨auth, request, login, built, frames⟩ := written
      rw [frames]
      exact .asked login (.enqueue built)
  | granted token | renewing token =>
      obtain ⟨auth, asked, renews, login, asks, granted, renewed, frames⟩ := written
      rw [frames, ← List.append_nil (auth ++ asked ++ renews)]
      exact .granted login asks granted renewed (by simp) (by simp)
  | releasing | spent => exact written

theorem framesOf_frame {request : Request} :
    framesOf (trace ++ [.frame conn request]) = framesOf trace ++ [request] := by
  simp [framesOf]

theorem Written.ask {auth : List Request} {request : Request} {next : Stage}
    (login : Login params auth) (frames : framesOf trace = auth)
    (moved : Session.ask params request = some next) :
    Written params (trace ++ [.frame conn request]) next := by
  simp only [Session.ask, Option.ite_none_right_eq_some, Option.some.injEq] at moved
  obtain ⟨built, rfl⟩ := moved
  have asks : Asks params [request] := by
    rcases built with built | built
    · exact .acquire built
    · exact .enqueue built
  exact ⟨auth, [request], request, login, asks, rfl, rfl, by rw [framesOf_frame, frames]⟩

theorem Written.frame {request : Request} {next : Stage} (written : Written params trace stage)
    (moved : send params stage request = some next) :
    Written params (trace ++ [.frame conn request]) next := by
  cases stage with
  | opened =>
      have nothing : framesOf trace = [] := written
      simp only [send] at moved
      split at moved
      · rename_i free
        refine Written.ask ?_ nothing moved
        simp only [Login, free]
      · rename_i authToken given
        simp only [Option.ite_none_right_eq_some, Option.some.injEq] at moved
        obtain ⟨built, rfl⟩ := moved
        simp only [Written, Login, given, framesOf_frame, nothing]
        exact ⟨request, built, rfl⟩
  | ready => exact Written.ask written rfl moved
  | queued =>
      obtain ⟨auth, first, login, built, frames⟩ := written
      simp only [send, Option.ite_none_right_eq_some, Option.some.injEq] at moved
      obtain ⟨⟨kind, key⟩, rfl⟩ := moved
      refine ⟨auth, [first, request], request, login, .wait built kind key, rfl, rfl, ?_⟩
      simp [framesOf_frame, frames]
  | granted token =>
      obtain ⟨auth, asked, renews, login, asks, granted, renewed, frames⟩ := written
      simp only [send] at moved
      split at moved
      · rename_i built
        cases moved
        refine ⟨auth, asked, renews ++ [request], login, asks, granted.snoc, ?_, ?_⟩
        · intro found member
          rcases List.mem_append.mp member with member | member
          · exact renewed found member
          · rw [List.mem_singleton.mp member]
            exact built
        · simp [framesOf_frame, frames]
      · simp only [Option.ite_none_right_eq_some, Option.some.injEq] at moved
        obtain ⟨built, rfl⟩ := moved
        simp only [Written, framesOf_frame, frames]
        exact .granted login asks granted.snoc renewed (by simpa using built) (by simp)
  | authenticating | asking | renewing | releasing | spent => cases moved

theorem framesOf_answer {cmd line : Str} :
    framesOf (trace ++ [.answer conn cmd line]) = framesOf trace := by
  simp [framesOf]

theorem framesOf_noAnswer {cmd : Str} :
    framesOf (trace ++ [.noAnswer conn cmd]) = framesOf trace := by
  simp [framesOf]

theorem Written.keep (written : Written params trace stage)
    (same : framesOf (trace ++ [event]) = framesOf trace) :
    Written params (trace ++ [event]) stage := by
  cases stage with
  | opened | authenticating | ready | asking | queued =>
      simpa only [Written, same] using written
  | granted token | renewing token =>
      obtain ⟨auth, asked, renews, login, asks, granted, renewed, frames⟩ := written
      exact ⟨auth, asked, renews, login, asks, granted.snoc, renewed, same.trans frames⟩
  | releasing | spent =>
      simp only [Written, same]
      exact Word.snoc written

theorem Written.spent (written : Written params trace stage)
    (same : framesOf (trace ++ [event]) = framesOf trace) :
    Written params (trace ++ [event]) .spent := by
  simp only [Written, same]
  exact written.word.snoc

theorem Asks.enqueued {asked : List Request} {last : Request} (asks : Asks params asked)
    (isLast : asked.getLast? = some last) (kind : commandKind last.cmd = some .enqueue) :
    ∃ request, params.enqueueRequest = .ok request ∧ asked = [request] := by
  cases asks with
  | acquire built =>
      simp only [List.getLast?_singleton, Option.some.injEq] at isLast
      rw [← isLast, acquireRequest_kind built] at kind
      cases kind
  | enqueue built => exact ⟨_, built, rfl⟩
  | wait built waits key =>
      simp only [List.getLast?_cons_cons, List.getLast?_singleton, Option.some.injEq] at isLast
      rw [← isLast, waits] at kind
      cases kind

theorem Written.answer {cmd line : Str} (written : Written params trace stage) :
    Written params (trace ++ [.answer conn cmd line]) (receive stage cmd line) := by
  cases stage with
  | authenticating =>
      simp only [receive]
      split
      · simpa only [Written, framesOf_answer] using written
      · exact written.spent framesOf_answer
  | asking asked =>
      obtain ⟨auth, found, last, login, asks, isLast, lastCmd, frames⟩ := id written
      simp only [receive]
      split
      · rename_i same
        subst same
        split
        · rename_i token granted
          refine ⟨auth, found, [], login, asks, ⟨conn, cmd, line, by simp, granted⟩, by simp, ?_⟩
          simp [framesOf_answer, frames]
        · split
          · rename_i enqueued
            obtain ⟨request, built, rfl⟩ := asks.enqueued isLast (lastCmd ▸ enqueued.1)
            exact ⟨auth, request, login, built, framesOf_answer.trans frames⟩
          · exact written.spent framesOf_answer
      · exact written.spent framesOf_answer
  | renewing token =>
      simp only [receive]
      split
      · exact written.keep framesOf_answer
      · exact written.spent framesOf_answer
  | releasing => exact written.spent framesOf_answer
  | opened | ready | queued | granted | spent => exact written.keep framesOf_answer

theorem Written.lost {cmd : Str} (written : Written params trace stage) :
    Written params (trace ++ [.noAnswer conn cmd]) (lose stage) := by
  cases stage with
  | authenticating | asking | renewing | releasing => exact written.spent framesOf_noAnswer
  | opened | ready | queued | granted | spent => exact written.keep framesOf_noAnswer

theorem written_of_accepted (accepted : (session params).after trace = some stage) :
    Written params trace stage := by
  have start : Written params [] (session params).start := rfl
  refine Monitor.after_induction (Written params) start ?_ accepted
  intro before stage event next written moved
  cases event with
  | frame conn request => exact written.frame moved
  | answer conn cmd line =>
      cases moved
      exact written.answer
  | noAnswer conn cmd =>
      cases moved
      exact written.lost

/-- The frames of a connection on which nothing is out of order form a word. -/
theorem word_of_accepted (accepted : stageOn params trace conn = some stage) :
    Word params (eventsOn trace conn) (framesOf (eventsOn trace conn)) :=
  (written_of_accepted accepted).word

theorem one_at_a_time (accepted : stageOn params trace conn = some stage)
    {before later : List Event} {first second : Request} {c d : Nat}
    (split : eventsOn trace conn = before ++ .frame c first :: .frame d second :: later) : False := by
  rw [stageOn, split, show before ++ .frame c first :: .frame d second :: later =
    (before ++ [.frame c first] ++ [.frame d second]) ++ later by simp] at accepted
  obtain ⟨final, reached⟩ := Monitor.after_append accepted
  obtain ⟨middle, reached, next⟩ := Monitor.after_snoc_some.mp reached
  obtain ⟨start, _, moved⟩ := Monitor.after_snoc_some.mp reached
  have moved : send params start first = some middle := moved
  have next : send params middle second = some final := next
  have waits : middle = .authenticating ∨ (∃ cmd, middle = .asking cmd) ∨
      (∃ token, middle = .renewing token) ∨ middle = .releasing := by
    cases start <;> simp only [send, ask] at moved <;> grind
  rcases waits with rfl | ⟨cmd, rfl⟩ | ⟨token, rfl⟩ | rfl <;> cases next

variable (params) in
/-- A frame that is written after these events: the exchange before it has ended, a wait follows the
answer 'queued', and a renew or a release carries the token of a grant. -/
structure InTurn (before : List Event) (request : Request) : Prop where
  ended : ∀ earlier other sent, before ≠ earlier ++ [.frame other sent]
  queued : commandKind request.cmd = some .wait → ∃ other cmd line,
    .answer other cmd line ∈ before ∧ commandKind cmd = some .enqueue ∧
      parseEnqueueResponse line [] = .ok .queued
  granted : commandKind request.cmd = some .renew ∨ commandKind request.cmd = some .release →
    ∃ token, Grants before token ∧
      (params.renewRequest token = .ok request ∨ params.releaseRequest token = .ok request)

variable {before after : List Event} {request : Request}

theorem accepted_split (accepted : stageOn params trace conn = some stage)
    (split : eventsOn trace conn = before ++ .frame conn request :: after) :
    ∃ earlier next, (session params).after before = some earlier ∧
      send params earlier request = some next := by
  rw [stageOn, split, show before ++ .frame conn request :: after =
    (before ++ [.frame conn request]) ++ after by simp] at accepted
  obtain ⟨next, reached⟩ := Monitor.after_append accepted
  obtain ⟨earlier, reached, moved⟩ := Monitor.after_snoc_some.mp reached
  exact ⟨earlier, next, reached, moved⟩

theorem queued_answer (reached : (session params).after before = some .queued) :
    ∃ other cmd line, Event.answer other cmd line ∈ before ∧
      commandKind cmd = some .enqueue ∧ parseEnqueueResponse line [] = .ok .queued := by
  have found : Stage.queued = .queued → ∃ other cmd line, Event.answer other cmd line ∈ before ∧
      commandKind cmd = some .enqueue ∧ parseEnqueueResponse line [] = .ok .queued := by
    refine Monitor.after_induction (fun before stage => stage = .queued → ∃ other cmd line,
      Event.answer other cmd line ∈ before ∧ commandKind cmd = some .enqueue ∧
        parseEnqueueResponse line [] = .ok .queued) (fun never => by cases never) ?_ reached
    intro before stage event next known moved queued
    subst queued
    have earlier (same : stage = .queued) : ∃ other cmd line,
        Event.answer other cmd line ∈ before ++ [event] ∧ commandKind cmd = some .enqueue ∧
          parseEnqueueResponse line [] = .ok .queued := by
      obtain ⟨other, cmd, line, member, answered⟩ := known same
      exact ⟨other, cmd, line, List.mem_append_left _ member, answered⟩
    cases event with
    | frame conn request =>
        have moved : send params stage request = some .queued := moved
        cases stage <;> simp only [send, ask] at moved <;> grind
    | noAnswer conn cmd =>
        have moved : lose stage = .queued := Option.some.inj moved
        cases stage <;> first | exact earlier rfl | cases moved
    | answer conn cmd line =>
        have moved : receive stage cmd line = .queued := Option.some.inj moved
        cases stage with
        | queued => exact earlier rfl
        | asking asked =>
            have queued : commandKind cmd = some .enqueue ∧
                parseEnqueueResponse line [] = .ok .queued := by
              simp only [receive] at moved
              grind
            exact ⟨conn, cmd, line, by simp, queued⟩
        | _ =>
            simp only [receive] at moved
            grind
  exact found rfl

theorem ask_kind {next : Stage} (asked : ask params request = some next) :
    commandKind request.cmd = some .acquire ∨ commandKind request.cmd = some .enqueue := by
  simp only [ask, Option.ite_none_right_eq_some] at asked
  rcases asked.1 with built | built
  · exact .inl (acquireRequest_kind built)
  · exact .inr (enqueueRequest_kind built)

theorem send_kind {earlier next : Stage} (moved : send params earlier request = some next) :
    (commandKind request.cmd = some .wait → earlier = .queued) ∧
    (commandKind request.cmd = some .renew ∨ commandKind request.cmd = some .release →
      ∃ token, earlier = .granted token ∧
        (params.renewRequest token = .ok request ∨ params.releaseRequest token = .ok request)) := by
  cases earlier with
  | queued =>
      refine ⟨fun _ => rfl, ?_⟩
      simp only [send, Option.ite_none_right_eq_some] at moved
      simp [moved.1.1]
  | granted token =>
      simp only [send] at moved
      split at moved
      · rename_i built
        refine ⟨?_, fun _ => ⟨token, rfl, .inl built⟩⟩
        simp [(renewRequest_ok built).1]
      · simp only [Option.ite_none_right_eq_some] at moved
        refine ⟨?_, fun _ => ⟨token, rfl, .inr moved.1⟩⟩
        simp [(releaseRequest_ok moved.1).1]
  | ready =>
      rcases ask_kind moved with kind | kind <;> simp [kind]
  | opened =>
      simp only [send] at moved
      split at moved
      · rcases ask_kind moved with kind | kind <;> simp [kind]
      · simp only [Option.ite_none_right_eq_some] at moved
        simp [authenticateRequest_kind moved.1]
  | authenticating | asking | renewing | releasing | spent => cases moved

theorem in_turn (accepted : stageOn params trace conn = some stage)
    (split : eventsOn trace conn = before ++ .frame conn request :: after) :
    InTurn params before request := by
  obtain ⟨earlier, next, reached, moved⟩ := accepted_split accepted split
  obtain ⟨waits, gives⟩ := send_kind moved
  refine ⟨?_, fun kind => ?_, fun kind => ?_⟩
  · rintro former other sent rfl
    exact one_at_a_time accepted (by simpa using split)
  · rw [waits kind] at reached
    exact queued_answer reached
  · obtain ⟨token, rfl, built⟩ := gives kind
    obtain ⟨_, _, _, _, _, grants, _⟩ := written_of_accepted reached
    exact ⟨token, grants, built⟩

end DflockdClient.Session
