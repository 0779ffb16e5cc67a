import DflockdClient.AsyncConn
import DflockdClient.Interleaving.RelyGuarantee

/-!
Requests and responses on an `AsyncConn` that tasks share: they are paired in every
run in which nobody reads a line from a connection that is being closed.
-/

namespace DflockdClient.AsyncConn

open Interleaving Wire

/-- The transport is being closed, and what it has received so far holds a line that a command
would return. -/
def Stale (world : World) : Prop :=
  world.closing = true ∧ ∃ value rest, asyncReadLine world.net.incoming = some (.ok value, rest)

structure Invariant (world : World) : Prop where
  framed : ∀ frame ∈ frames world.net.trace, Framed frame.2
  sent : world.net.sent = bytesOfFrames (frames world.net.trace)
  served : world.net.Served
  lawful : Lawful pairingRule world.net.trace
  failed : ∀ caller, .failed caller ∈ world.net.trace → world.closing = true
  free : world.mu = none → world.closing = true ∨
    world.net.Unread (frames world.net.trace).length

/-- While another caller has the mutex a caller does nothing; it adds events of its own. -/
structure CallerMove (me : Nat) (before after : World) : Prop where
  outside : ∀ other, before.mu = some other → other ≠ me → after = before
  trace : ∃ events, (∀ event ∈ events, event.caller? = some me) ∧
    after.net.trace = before.net.trace ++ events

structure NetworkMove (before after : World) : Prop where
  net : before.net.Move after.net
  lost : before.lost = true → after.lost = true
  rest : after = { before with net := after.net, lost := after.lost }

def contract : Contract Op Party World Choice where
  invariant := Invariant
  guarantee := fun party before after => match party with
    | .caller me => CallerMove me before after
    | .network => after = before ∨ NetworkMove before after
  permitted := fun party op choice world =>
    party ≠ .network → op = .readline → choice.error? = none → ¬Stale world

variable {me : Nat} {world : World}

theorem CallerMove.refl : CallerMove me world world :=
  ⟨fun _ _ _ => rfl, [], by simp, (List.append_nil _).symm⟩

theorem CallerMove.trans {before middle after : World} (first : CallerMove me before middle)
    (second : CallerMove me middle after) : CallerMove me before after := by
  obtain ⟨events, own, same⟩ := first.trace
  obtain ⟨events', own', same'⟩ := second.trace
  refine ⟨?_, events ++ events', ?_, ?_⟩
  · intro other held different
    have kept := first.outside other held different
    subst kept
    exact second.outside other held different
  · intro event member
    rcases List.mem_append.mp member with member | member
    · exact own event member
    · exact own' event member
  · rw [same', same, List.append_assoc]

theorem CallerMove.held {after : World} (held : world.mu = some me ∨ world.mu = none)
    {events : List Event} (own : ∀ event ∈ events, event.caller? = some me)
    (same : after.net.trace = world.net.trace ++ events) : CallerMove me world after := by
  refine ⟨?_, events, own, same⟩
  intro other taken different
  rcases held with held | free
  · rw [held] at taken
    cases taken
    exact absurd rfl different
  · rw [free] at taken
    cases taken

abbrev CallerTriple (me : Nat) {α : Type} (pre : World → Prop) (program : Py α)
    (post : α → World → Prop) (raised : PyError → World → Prop) : Prop :=
  Triple machine contract (.caller me) pre program post raised

def Held (me : Nat) (fact : World → Prop) (world : World) : Prop :=
  world.mu = some me ∧ fact world

def Offline (fact : World → Prop) : Prop :=
  ∀ before after, NetworkMove before after → fact before → fact after

theorem NetworkMove.mu {before after : World} (move : NetworkMove before after) :
    after.mu = before.mu := by rw [move.rest]

theorem NetworkMove.closing {before after : World} (move : NetworkMove before after) :
    after.closing = before.closing := by rw [move.rest]

theorem Held.stable {fact : World → Prop} (offline : Offline fact) :
    contract.Stable (.caller me) (Held me fact) := by
  intro other different before after _ _ within ⟨held, known⟩
  cases other with
  | caller id =>
      have elsewhere : me ≠ id := fun same => different (congrArg Party.caller same.symm)
      have move : CallerMove id before after := within
      rw [move.outside me held elsewhere]
      exact ⟨held, known⟩
  | network =>
      rcases within with rfl | move
      · exact ⟨held, known⟩
      · exact ⟨move.mu.trans held, offline before after move known⟩

theorem held_act {op : Op} {fact : World → Prop} {post : op.Res → World → Prop}
    {raised : PyError → World → Prop} (running : op.yields = false)
    (effect : ∀ choice world result after, Invariant world → world.mu = some me → fact world →
      exec (.caller me) op choice world = some (result, after) →
      Invariant after ∧ (∃ events, (∀ event ∈ events, event.caller? = some me) ∧
        after.net.trace = world.net.trace ++ events) ∧ post result after) :
    CallerTriple me (Held me fact) (perform op) post raised := by
  refine Triple.act running (fun _ _ _ => CallerMove.trans) ?_
  intro world choice result after inv ⟨held, known⟩ executed
  obtain ⟨inv', ⟨events, own, same⟩, ended⟩ := effect choice world result after inv held known executed
  exact ⟨.held (.inl held) own same, inv', ended⟩

theorem held_await {op : Op} {fact : World → Prop} {post : op.Res → World → Prop}
    {raised : PyError → World → Prop} (awaits : op.yields = true) (offline : Offline fact)
    (effect : ∀ choice world result after, Invariant world → world.mu = some me → fact world →
      contract.permitted (.caller me) op choice world →
      exec (.caller me) op choice world = some (result, after) →
      Invariant after ∧ after.net.trace = world.net.trace ∧ post result after) :
    CallerTriple me (Held me fact) (perform op) post raised := by
  refine Triple.perform awaits (Held.stable offline) ?_
  intro world choice result after inv ⟨held, known⟩ permitted executed
  obtain ⟨inv', same, ended⟩ := effect choice world result after inv held known permitted executed
  exact ⟨.held (.inl held) (by simp) (same.trans (List.append_nil _).symm), inv', ended⟩

/-! The phases of a command -/

/-- The caller's frame is the last one, and its answer the first that is unread. -/
structure Sent (me : Nat) (frame : Bytes) (world : World) : Prop where
  opened : world.closing = false
  last : Latest me frame world.net.trace
  unread : world.net.Unread ((frames world.net.trace).length - 1)

structure Answered (me : Nat) (value : Str) (world : World) : Prop where
  opened : world.closing = false
  unread : world.net.Unread (frames world.net.trace).length
  own : ∃ frame line, Latest me frame world.net.trace ∧
    (answers world.net.trace)[(frames world.net.trace).length - 1]? = some line ∧
    Received line value

def Anything (_ : World) : Prop := True

def Entered (world : World) : Prop :=
  world.closing = true ∨ world.net.Unread (frames world.net.trace).length

def Closing (world : World) : Prop := world.closing = true

def Written (me : Nat) (frame : Bytes) (world : World) : Prop :=
  world.closing = true ∨ world.lost = true ∨ Sent me frame world

def Drained (me : Nat) (frame : Bytes) (world : World) : Prop :=
  world.closing = true ∨ Sent me frame world

theorem Sent.offline {frame : Bytes} : Offline (Sent me frame) := by
  intro before after move known
  refine ⟨move.closing.trans known.opened, move.net.latest known.last, ?_⟩
  rw [move.net.frames]
  exact move.net.unread known.unread

theorem Written.offline {frame : Bytes} : Offline (Written me frame) := by
  rintro before after move (closing | lost | sent)
  · exact .inl (move.closing.trans closing)
  · exact .inr (.inl (move.lost lost))
  · exact .inr (.inr (Sent.offline before after move sent))

theorem Drained.offline {frame : Bytes} : Offline (Drained me frame) := by
  rintro before after move (closing | sent)
  · exact .inl (move.closing.trans closing)
  · exact .inr (Sent.offline before after move sent)

variable {raised : PyError → World → Prop}

theorem Held.taken {after : World} {fact : Prop} (held : after.mu = some me)
    (free : after.mu = none) : fact := by
  rw [held] at free
  cases free

theorem lockMu_triple :
    CallerTriple me (fun _ => True) (raising (perform .lockMu)) (fun _ => Held me Entered)
      (fun _ _ => True) := by
  apply Triple.raising
  refine Triple.perform rfl Contract.Stable.const ?_
  intro world choice result after inv _ _ executed
  have executed : exec (.caller me) .lockMu choice world = some (result, after) := executed
  cases erred : choice.error? with
  | some error =>
      rw [exec_lockMu_fail erred] at executed
      cases executed
      exact ⟨.refl, inv, trivial⟩
  | none =>
      rw [exec_lockMu erred, Option.ite_none_right_eq_some] at executed
      obtain ⟨free, same⟩ := executed
      cases same
      exact ⟨.held (.inr free) (by simp) (List.append_nil _).symm,
        { inv with free := fun free => by cases free }, rfl, inv.free free⟩

theorem Invariant.unlocked {ending : Ending} (inv : Invariant world)
    (silent : ∀ event, ending.event? me = some event → event.frame? = none ∧ event.line? = none)
    (lawful : ∀ event, ending.event? me = some event → pairingRule world.net.trace event)
    (failed : ending = .failed → world.closing = true)
    (entered : Entered world) : Invariant { world with
      mu := none
      net := { world.net with trace := world.net.trace ++ (ending.event? me).toList } } := by
  have sameFrames : frames (world.net.trace ++ (ending.event? me).toList) =
      frames world.net.trace := by
    cases known : ending.event? me with
    | none => simp
    | some event => simp [(silent event known).1]
  have sameAnswers : answers (world.net.trace ++ (ending.event? me).toList) =
      answers world.net.trace := by
    cases known : ending.event? me with
    | none => simp
    | some event => simp [(silent event known).2]
  refine ⟨?_, ?_, ?_, ?_, ?_, ?_⟩
  · simpa only [sameFrames] using inv.framed
  · simpa only [sameFrames] using inv.sent
  · exact ⟨by simpa only [sameAnswers] using inv.served.answered,
      by simpa only [sameAnswers] using inv.served.unbroken⟩
  · cases known : ending.event? me with
    | none => simpa [known] using inv.lawful
    | some event => exact inv.lawful.snoc (lawful event known)
  · intro other member
    rcases List.mem_append.mp member with member | member
    · exact inv.failed other member
    · cases ending with
      | failed => exact failed rfl
      | returned value => simp [Ending.event?] at member
      | rejected => simp [Ending.event?] at member
  · intro _
    rcases entered with closing | unread
    · exact .inl closing
    · refine .inr ?_
      simp only [sameFrames]
      exact unread.of_same rfl rfl sameAnswers

theorem own_event {ending : Ending} : ∀ event ∈ (ending.event? me).toList,
    event.caller? = some me := by
  intro event member
  cases ending <;> simp_all [Ending.event?, Event.caller?]

theorem unlockMu_triple {ending : Ending} {fact : World → Prop} {post : World → Prop}
    (unlocked : ∀ world, Invariant world → fact world →
      let after := { world with
        mu := none
        net := { world.net with trace := world.net.trace ++ (ending.event? me).toList } }
      Invariant after ∧ post after) :
    CallerTriple me (Held me fact) (perform (.unlockMu ending)) (fun _ => post) raised := by
  refine held_act rfl ?_
  intro choice world result after inv held known executed
  rw [exec_unlockMu] at executed
  cases executed
  obtain ⟨inv', ended⟩ := unlocked world inv known
  exact ⟨inv', ⟨_, own_event, rfl⟩, ended⟩

theorem rejected_triple : CallerTriple me (Held me Entered) (perform (.unlockMu .rejected))
    (fun _ _ => True) raised := by
  refine unlockMu_triple fun world inv entered => ⟨?_, trivial⟩
  exact inv.unlocked (by simp [Ending.event?]) (by simp [Ending.event?]) (by simp) entered

theorem failed_triple : CallerTriple me (Held me Closing) (perform (.unlockMu .failed))
    (fun _ _ => True) raised := by
  refine unlockMu_triple fun world inv closing => ⟨?_, trivial⟩
  refine inv.unlocked ?_ ?_ (fun _ => closing) (.inl closing)
  · rintro event same
    cases same
    exact ⟨rfl, rfl⟩
  · rintro event same
    cases same
    exact trivial

theorem returned_triple {value : Str} :
    CallerTriple me (Held me (Answered me value)) (perform (.unlockMu (.returned value)))
      (fun _ world => lastBy me world.net.trace = some (.returned me value)) raised := by
  refine unlockMu_triple fun world inv known => ⟨?_, lastBy_own rfl⟩
  refine inv.unlocked ?_ ?_ (by simp) (.inr known.unread)
  · rintro event same
    cases same
    exact ⟨rfl, rfl⟩
  · rintro event same
    cases same
    refine ⟨?_, known.own⟩
    intro other member
    have opened := known.opened
    rw [inv.failed other member] at opened
    cases opened

theorem write_triple {frame : Bytes} (framed : Framed frame) :
    CallerTriple me (Held me Entered) (perform (.write frame))
      (fun _ => Held me (Written me frame)) raised := by
  refine held_act rfl ?_
  intro choice world result after inv held entered executed
  rw [exec_write] at executed
  cases executed
  split
  · rename_i down
    rw [Bool.or_eq_true] at down
    refine ⟨inv, ⟨[], by simp, (List.append_nil _).symm⟩, held, ?_⟩
    rcases down with closing | lost
    · exact .inl closing
    · exact .inr (.inl lost)
  · rename_i up
    rw [Bool.or_eq_true, not_or, Bool.not_eq_true, Bool.not_eq_true] at up
    have unread : world.net.Unread (frames world.net.trace).length := by
      rcases entered with closing | unread
      · rw [up.1] at closing
        cases closing
      · exact unread
    have begun : frames (world.net.trace ++ [.sending me frame]) =
        frames world.net.trace ++ [(me, frame)] := by simp [Event.frame?]
    have silent : answers (world.net.trace ++ [.sending me frame]) = answers world.net.trace := by
      simp [Event.line?]
    have more : completeFrames world.net.sent ≤ completeFrames (world.net.sent ++ frame) := by
      simp only [completeFrames, List.count_append]
      omega
    refine ⟨⟨?_, ?_, ?_, inv.lawful.snoc trivial, ?_, Held.taken held⟩,
      ⟨[.sending me frame], by simp [Event.caller?], rfl⟩, held, .inr (.inr ⟨up.1, ?_, ?_⟩)⟩
    · intro sent member
      rw [begun, List.mem_append, List.mem_singleton] at member
      rcases member with member | rfl
      · exact inv.framed sent member
      · exact framed
    · simp [begun, inv.sent, bytesOfFrames]
    · constructor
      · simp only [silent]
        exact Nat.le_trans inv.served.answered more
      · simpa only [silent] using inv.served.unbroken
    · intro caller member
      have earlier : Event.failed caller ∈ world.net.trace := by simpa using member
      exact inv.failed caller earlier
    · exact latest_snoc _ _ _
    · rw [begun, List.length_append, List.length_singleton, Nat.add_sub_cancel]
      exact unread.of_same rfl rfl silent

theorem drain_triple {frame : Bytes} :
    CallerTriple me (Held me (Written me frame)) (raising (perform .drain))
      (fun _ => Held me (Drained me frame)) (fun _ => Held me Anything) := by
  apply Triple.raising
  refine held_await rfl Written.offline ?_
  intro choice world result after inv held written _ executed
  cases erred : choice.error? with
  | some error =>
      rw [exec_drain_fail erred] at executed
      cases executed
      exact ⟨inv, rfl, held, trivial⟩
  | none =>
      rw [exec_drain erred] at executed
      cases executed
      refine ⟨inv, rfl, ?_⟩
      split
      · rename_i failed
        split at failed
        · cases failed
        · rename_i up
          refine ⟨held, ?_⟩
          rcases written with closing | lost | sent
          · exact .inl closing
          · exact absurd lost up
          · exact .inr sent
      · exact ⟨held, trivial⟩

theorem Sent.read {frame raw rest : Bytes} (inv : Invariant world) (sent : Sent me frame world)
    (read : streamReadline maxResponseLineBytes world.net.incoming = some (.ok raw, rest))
    {value : Str} (accepted : acceptLine raw = .ok value) :
    Answered me value { world with
      net := { world.net with incoming := ⟨rest, world.net.incoming.eof⟩ } } := by
  have some : 0 < (frames world.net.trace).length := by
    obtain ⟨before, framesEq⟩ := List.getLast?_eq_some_iff.mp sent.last.1
    simp [framesEq]
  have bound : (answers world.net.trace).length ≤ (frames world.net.trace).length - 1 + 1 := by
    have answered := inv.served.answered
    rw [inv.sent, complete_frames inv.framed] at answered
    omega
  obtain ⟨unread, line, found, received⟩ := (streamReadline_cut read).own sent.unread inv.served
    bound accepted
  rw [Nat.sub_add_cancel some] at unread
  exact ⟨sent.opened, unread, frame, line, sent.last, found, received⟩

theorem readline_triple {frame : Bytes} :
    CallerTriple me (Held me (Drained me frame)) (raising (perform .readline))
      (fun raw => Held me fun world => ∀ value, acceptLine raw = .ok value →
        Answered me value world)
      (fun _ => Held me Anything) := by
  apply Triple.raising
  refine held_await rfl Drained.offline ?_
  intro choice world result after inv held drained permitted executed
  cases erred : choice.error? with
  | some error =>
      rw [exec_readline_fail erred] at executed
      cases executed
      exact ⟨inv, rfl, held, trivial⟩
  | none =>
      rw [exec_readline erred, Option.map_eq_some_iff] at executed
      obtain ⟨⟨outcome, rest⟩, read, same⟩ := executed
      cases same
      refine ⟨{ inv with
        free := Held.taken held
        served := ⟨inv.served.answered, inv.served.unbroken⟩ }, rfl, ?_⟩
      cases result with
      | error error => exact ⟨held, trivial⟩
      | ok raw =>
          refine ⟨held, ?_⟩
          intro value accepted
          rcases drained with closing | sent
          · refine absurd ⟨closing, value, rest, ?_⟩ (permitted (by simp) rfl erred)
            simp only [asyncReadLine, read, accepted]
          · exact sent.read inv read accepted

theorem readLine_triple {frame : Bytes} :
    CallerTriple me (Held me (Drained me frame)) readLine
      (fun value => Held me (Answered me value)) (fun _ => Held me Anything) := by
  refine Triple.bind (Triple.handle readline_triple fun error => ?_) fun raw => ?_
  · split
    · exact Triple.raise fun _ _ known => known
    · exact Triple.raise fun _ _ known => known
  · refine Triple.orRaise ?_ ?_
    · rintro value accepted world ⟨held, known⟩
      exact ⟨held, known value accepted⟩
    · rintro error _ world ⟨held, _⟩
      exact ⟨held, trivial⟩

theorem closeNowait_triple :
    CallerTriple me (Held me Anything) (perform .closeNowait) (fun _ => Held me Closing)
      raised := by
  refine held_act rfl ?_
  intro choice world result after inv held _ executed
  rw [exec_closeNowait] at executed
  cases executed
  exact ⟨{ inv with failed := fun _ _ => rfl, free := fun _ => .inl rfl },
    ⟨[], by simp, (List.append_nil _).symm⟩, held, rfl⟩

theorem exchange_triple {frame : Bytes} :
    CallerTriple me (Held me (Written me frame)) exchange
      (fun value => Held me (Answered me value)) (fun _ _ => True) := by
  refine Triple.handle (drain_triple.bind fun _ => readLine_triple) fun error => ?_
  refine closeNowait_triple.bind fun _ => failed_triple.bind fun _ => ?_
  exact Triple.raise fun _ _ _ => trivial

theorem encode_triple {request : Request} :
    CallerTriple me (Held me Entered)
      ((Program.orRaise (encodeLines [request.cmd, request.key, request.arg])).handle
        fun error => do
          perform (.unlockMu .rejected)
          throw error)
      (fun frame world => Framed frame ∧ Held me Entered world) (fun _ _ => True) := by
  refine Triple.handle (Triple.orRaise ?_ fun _ _ _ known => known) fun error => ?_
  · exact fun frame encoded world known => ⟨encodeLines_framed encoded, known⟩
  · exact rejected_triple.bind fun _ => Triple.raise fun _ _ _ => trivial

theorem command_triple {request : Request} :
    CallerTriple me (fun _ => True) (command request)
      (fun value world => lastBy me world.net.trace = some (.returned me value))
      (fun _ _ => True) := by
  refine lockMu_triple.bind fun _ => encode_triple.bind fun frame => ?_
  refine Triple.assuming fun framed => (write_triple framed).bind fun _ => ?_
  refine exchange_triple.bind fun value => returned_triple.bind fun _ => ?_
  exact Triple.ret fun _ _ known => known

theorem network_move {op : Op} {choice : Choice} {after : World} {result : op.Res}
    (executed : exec .network op choice world = some (result, after)) :
    NetworkMove world after := by
  cases op with
  | respond =>
      cases choice with
      | line text =>
          rw [exec_respond, Option.map_eq_some_iff] at executed
          obtain ⟨net, moved, same⟩ := executed
          cases same
          exact ⟨.respond moved, id, rfl⟩
      | _ => cases executed
  | deliver =>
      cases choice with
      | arrive count =>
          rw [exec_deliver, Option.map_eq_some_iff] at executed
          obtain ⟨net, moved, same⟩ := executed
          cases same
          exact ⟨.deliver moved, id, rfl⟩
      | _ => cases executed
  | hangUp =>
      rw [exec_hangUp] at executed
      cases executed
      exact ⟨.hangUp, id, rfl⟩
  | loseConnection =>
      rw [exec_loseConnection] at executed
      cases executed
      exact ⟨.hangUp, fun _ => rfl, rfl⟩
  | _ => cases executed

theorem Invariant.network {after : World} (inv : Invariant world)
    (move : NetworkMove world after) : Invariant after where
  framed := by
    rw [move.net.frames]
    exact inv.framed
  sent := by
    rw [move.net.frames, move.net.sent]
    exact inv.sent
  served := move.net.served inv.served
  lawful := by
    rcases move.net.trace with same | ⟨text, _, _, same⟩
    · rw [same]
      exact inv.lawful
    · rw [same]
      exact inv.lawful.snoc trivial
  failed := by
    intro caller member
    rw [move.closing]
    rcases move.net.trace with same | ⟨text, _, _, same⟩
    · exact inv.failed caller (same ▸ member)
    · rw [same] at member
      have earlier : Event.failed caller ∈ world.net.trace := by simpa using member
      exact inv.failed caller earlier
  free := by
    intro free
    rw [move.mu] at free
    rcases inv.free free with closing | unread
    · exact .inl (move.closing.trans closing)
    · rw [move.net.frames]
      exact .inr (move.net.unread unread)

theorem network_wp {op : Op} (inv : Invariant world) (running : op.yields = false) :
    wp machine contract .network (perform op)
      (fun _ origin state => contract.guarantee .network origin state ∧
        contract.invariant state ∧ True)
      (fun _ origin state => contract.guarantee .network origin state ∧
        contract.invariant state ∧ True) world world := by
  rw [perform, Program.perform, wp_act running]
  intro choice result after executed
  have move := network_move executed
  exact ⟨.inr move, inv.network move, trivial⟩

/-! All runs -/

def Rest (party : Party) (outcome : Except PyError (Val party)) (world : World) : Prop :=
  match party, outcome with
  | .caller me, .ok (some value) => lastBy me world.net.trace = some (.returned me value)
  | _, _ => True

theorem lastBy_stable {event : Event} :
    contract.Stable (.caller me) fun world => lastBy me world.net.trace = some event := by
  intro other different before after _ _ within known
  cases other with
  | caller id =>
      have elsewhere : (some id : Option Nat) ≠ some me := fun same =>
        different (congrArg Party.caller (Option.some.inj same))
      have move : CallerMove id before after := within
      obtain ⟨events, own, same⟩ := move.trace
      rw [same, lastBy_others fun event member => own event member ▸ elsewhere]
      exact known
  | network =>
      rcases within with rfl | move
      · exact known
      · rcases move.net.trace with same | ⟨text, _, _, same⟩
        · rw [same]
          exact known
        · rw [same, lastBy_others (by simp [Event.caller?])]
          exact known

theorem Rest.stable (party : Party) (outcome : Except PyError (Val party)) :
    contract.Stable party (Rest party outcome) := by
  have anything : contract.Stable party fun _ => True := Contract.Stable.const
  cases party with
  | network => exact anything
  | caller me =>
      cases outcome with
      | error error => exact anything
      | ok value =>
          cases value with
          | none => exact anything
          | some value => exact lastBy_stable

theorem verified : Verified machine contract Rest where
  stable := Rest.stable
  programs := by
    intro party outcome choice program world inv _ started
    cases party with
    | caller me =>
        cases choice with
        | call request =>
            cases started
            have commands : CallerTriple me (fun _ => True) (some <$> command request)
                (fun returned => Rest (.caller me) (.ok returned))
                (fun error => Rest (.caller me) (.error error)) := by
              rw [← bind_pure_comp]
              exact command_triple.bind fun value => Triple.ret fun _ _ known => known
            exact commands world world .refl inv trivial
        | _ => cases started
    | network =>
        cases choice with
        | line text =>
            cases started
            exact network_wp inv rfl
        | arrive count =>
            cases started
            exact network_wp inv rfl
        | hangUp =>
            cases started
            exact network_wp inv rfl
        | lose =>
            cases started
            exact network_wp inv rfl
        | _ => cases started

theorem initial_invariant : Invariant {} where
  framed := by simp [frames]
  sent := rfl
  served := ⟨Nat.zero_le _, by simp [answers]⟩
  lawful := lawful_nil
  failed := by simp
  free := fun _ => .inr (.inr ⟨Nat.le_refl _, rfl⟩)

theorem initial_sound : Sound machine contract Rest initial := by
  refine ⟨initial_invariant, ?_⟩
  intro party
  cases party with
  | caller me => exact trivial
  | network => exact trivial

variable {config next : Config Op Op.Res PyError Party Val World} {choice : Choice}

/-- Nobody reads a line that a command would return while the transport is being closed. -/
def Unstale (config : Config Op Op.Res PyError Party Val World) (party : Party)
    (choice : Choice) : Prop :=
  ∀ rest, party ≠ .network → config.program party = .act .readline rest →
    choice.error? = none → ¬Stale config.shared

theorem sound_of_reachable (reached : machine.Reachable Unstale initial config) :
    Sound machine contract Rest config := by
  refine verified.reachable ?_ initial_sound reached
  intro config party choice op next allowed programEq caller reads going
  subst reads
  exact allowed next caller programEq going

theorem rejected_step {request : Request} {error : PyError}
    (rejected : encodeLines [request.cmd, request.key, request.arg] = .error error)
    (waiting : config.program (.caller me) = some <$> command request)
    (step : machine.Step config (.caller me) choice next) :
    next.shared = config.shared ∧ (∃ error, next.program (.caller me) = .raise error) ∧
      ∀ other, other ≠ .caller me → next.program other = config.program other := by
  have raises : command request = raising (perform .lockMu) >>= fun _ =>
      perform (.unlockMu .rejected) >>= fun _ => .raise error := by
    simp only [command, rejected]
    rfl
  rw [raises] at waiting
  cases step with
  | start outcome =>
      rw [waiting] at outcome
      cases outcome
  | @act op rest result middle program final programEq executed segment =>
      rw [waiting] at programEq
      cases programEq
      have executed : exec (.caller me) .lockMu choice config.shared = some (result, middle) :=
        executed
      cases erred : choice.error? with
      | some failure =>
          rw [exec_lockMu_fail erred] at executed
          cases executed
          cases segment
          exact ⟨rfl, ⟨failure, by simp⟩, fun other different => Function.update_of_ne different _ _⟩
      | none =>
          rw [exec_lockMu erred, Option.ite_none_right_eq_some] at executed
          obtain ⟨free, same⟩ := executed
          cases same
          cases segment with
          | pause yielding => cases yielding
          | act _ executed segment =>
              cases executed
              cases segment
              refine ⟨?_, ⟨error, by simp⟩, fun other different =>
                Function.update_of_ne different _ _⟩
              simp [Ending.event?, ← free]

/-- The frames are on the wire in order and whole; a command that returns returns what the server
has answered to its own frame, and does so only while no command has failed on the connection; and
a rejected command changes nothing. -/
theorem own_answers (reached : machine.Reachable Unstale initial config) :
    config.shared.net.sent = bytesOfFrames (frames config.shared.net.trace) ∧
    Lawful pairingRule config.shared.net.trace ∧
    (∀ me, .failed me ∈ config.shared.net.trace → config.shared.closing = true) ∧
    (∀ me value, config.program (.caller me) = .ret (some value) →
      lastBy me config.shared.net.trace = some (.returned me value)) ∧
    ∀ me request error choice next,
      encodeLines [request.cmd, request.key, request.arg] = .error error →
      config.program (.caller me) = some <$> command request →
      machine.Step config (.caller me) choice next →
      next.shared = config.shared ∧ (∃ error, next.program (.caller me) = .raise error) ∧
        ∀ other, other ≠ .caller me → next.program other = config.program other := by
  obtain ⟨inv, promises⟩ := sound_of_reachable reached
  refine ⟨inv.sent, inv.lawful, inv.failed, ?_, ?_⟩
  · intro me value programEq
    have promise := promises (.caller me)
    rw [programEq] at promise
    exact promise
  · intro me request error choice next rejected waiting step
    exact rejected_step rejected waiting step

def sends (me : Nat) : List (Party × List Choice) :=
  [(.caller me, [.call ⟨str "l", str "k", str "10", 40⟩]), (.caller me, [.go]), (.caller me, [.go])]

def answered : List (Party × List Choice) :=
  [(.network, [.line (bytesOf "ok t 33"), .line (bytesOf "ok t 33")]),
    (.network, [.arrive 8, .arrive 8])]

theorem unstale_of_open {party : Party} (opened : (!config.shared.closing) = true) :
    Unstale config party choice := by
  intro rest _ _ _ stale
  rw [stale.1] at opened
  cases opened

theorem own_answers_demo :
    ∃ config : Config Op Op.Res PyError Party Val World,
      lastBy 1 config.shared.net.trace = some (.returned 1 (str "ok t 33")) ∧
      Lawful pairingRule config.shared.net.trace := by
  obtain ⟨config, reached, passed⟩ := machine.exists_checked_run initial
    ([(.caller 0, [.call ⟨str "l", str "a\nb", str "10", 40⟩]), (.caller 0, [.go])] ++
      sends 1 ++ answered ++ [(.caller 1, [.go])])
    (fun config _ _ => !config.shared.closing)
    (fun config => lastBy 1 config.shared.net.trace == some (.returned 1 (str "ok t 33")))
    (by decide +kernel) (by decide +kernel)
  exact ⟨config, by simpa using passed,
    (own_answers (reached.mono fun _ _ _ => unstale_of_open)).2.1⟩

end DflockdClient.AsyncConn
