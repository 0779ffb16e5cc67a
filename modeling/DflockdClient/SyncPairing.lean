import DflockdClient.Interleaving.RelyGuarantee
import DflockdClient.SyncConn

/-! Requests and responses on a `SyncConn` that threads share. -/

namespace DflockdClient.SyncConn

open Interleaving Wire

/-- The frames that were begun, in order and unbroken: all of them but the last one, and then as
much of that as was sent. -/
def InOrder (net : Net) : Prop :=
  net.sent <+: bytesOfFrames (frames net.trace) ∧
    bytesOfFrames (frames net.trace).dropLast <+: net.sent

def Shut (world : World) : Prop := world.fileClosed = true ∧ world.sockClosed = true

structure Ready (world : World) : Prop where
  file : world.fileClosed = false
  sock : world.sockClosed = false
  sent : world.net.sent = bytesOfFrames (frames world.net.trace)
  unread : world.net.Unread (frames world.net.trace).length

structure Invariant (world : World) : Prop where
  framed : ∀ frame ∈ frames world.net.trace, Framed frame.2
  inOrder : InOrder world.net
  served : world.net.Served
  lawful : Lawful pairingRule world.net.trace
  failed : ∀ caller, .failed caller ∈ world.net.trace → Shut world
  free : world.mu = none → Shut world ∨ Ready world

/-- Without the mutex a caller can only take it; with it, it adds events of its own. -/
structure CallerMove (me : Nat) (before after : World) : Prop where
  outside : before.mu ≠ some me → after = before ∨
    before.mu = none ∧ after = { before with mu := some me }
  trace : after.net.trace = before.net.trace ∨
    ∃ event, event.caller? = some me ∧ after.net.trace = before.net.trace ++ [event]

def NetworkMove (before after : World) : Prop :=
  after = before ∨ before.net.Move after.net ∧ after = { before with net := after.net }

def contract : Contract Op Party World Choice where
  invariant := Invariant
  guarantee := fun party => match party with
    | .caller me => CallerMove me
    | .network => NetworkMove
  permitted := fun _ _ _ _ => True

variable {me : Nat}

abbrev CallerTriple (me : Nat) {α : Type} (pre : World → Prop) (program : Py α)
    (post : α → World → Prop) (raised : PyError → World → Prop) : Prop :=
  Triple machine contract (.caller me) pre program post raised

def Held (me : Nat) (fact : World → Prop) (world : World) : Prop :=
  world.mu = some me ∧ fact world

def Offline (fact : World → Prop) : Prop :=
  ∀ world net, Invariant world → world.net.Move net → fact world → fact { world with net := net }

theorem Held.stable {fact : World → Prop} (offline : Offline fact) :
    contract.Stable (.caller me) (Held me fact) := by
  intro other different before after invBefore _ within ⟨held, known⟩
  cases other with
  | caller id =>
      have elsewhere : before.mu ≠ some id := by
        rw [held]
        exact fun same => different (congrArg Party.caller (Option.some.inj same).symm)
      have move : CallerMove id before after := within
      rcases move.outside elsewhere with rfl | ⟨free, _⟩
      · exact ⟨held, known⟩
      · rw [held] at free
        cases free
  | network =>
      rcases within with rfl | ⟨move, same⟩
      · exact ⟨held, known⟩
      · rw [same]
        exact ⟨held, offline before _ invBefore move known⟩

theorem held_op {op : Op} {fact : World → Prop} {post : op.Res → World → Prop}
    {raised : PyError → World → Prop} (offline : Offline fact)
    (effect : ∀ choice world result after, Invariant world → world.mu = some me → fact world →
      exec (.caller me) op choice world = some (result, after) →
      Invariant after ∧ (after.net.trace = world.net.trace ∨
        ∃ event, event.caller? = some me ∧ after.net.trace = world.net.trace ++ [event]) ∧
      post result after) :
    CallerTriple me (Held me fact) (perform op) post raised := by
  refine Triple.perform rfl (Held.stable offline) ?_
  intro world choice result after inv ⟨held, known⟩ _ executed
  obtain ⟨inv', trace, ended⟩ := effect choice world result after inv held known executed
  exact ⟨⟨fun elsewhere => absurd held elsewhere, trace⟩, inv', ended⟩

theorem raising_triple {α : Type} {pre : World → Prop} {program : Py (Except PyError α)}
    {post : α → World → Prop} {raised : PyError → World → Prop}
    (known : CallerTriple me pre program (fun result world => match result with
      | .ok value => post value world
      | .error error => raised error world) raised) :
    CallerTriple me pre (raising program) post raised := by
  refine known.bind fun result => ?_
  cases result with
  | ok value => exact Triple.orRaise (fun _ same _ known => by cases same; exact known) (by simp)
  | error error => exact Triple.orRaise (by simp) (fun _ same _ known => by cases same; exact known)

/-! The phases of a command -/

structure Sending (me : Nat) (frame rest : Bytes) (world : World) : Prop where
  file : world.fileClosed = false
  sock : world.sockClosed = false
  last : Latest me frame world.net.trace
  partly : world.net.sent ++ rest = bytesOfFrames (frames world.net.trace)
  begun : rest.length < frame.length
  unread : world.net.Unread ((frames world.net.trace).length - 1)

structure Answered (me : Nat) (value : Str) (world : World) : Prop extends Ready world where
  own : ∃ frame line, Latest me frame world.net.trace ∧
    (answers world.net.trace)[(frames world.net.trace).length - 1]? = some line ∧
    Received line value

def Failing (_ : World) : Prop := True

theorem Failing.offline : Offline Failing := fun _ _ _ _ _ => trivial

theorem Shut.offline : Offline Shut := fun _ _ _ _ known => known

theorem Ready.offline : Offline Ready := fun _ _ _ move known =>
  ⟨known.file, known.sock, by rw [move.sent, move.frames]; exact known.sent,
    by rw [move.frames]; exact move.unread known.unread⟩

theorem Sending.offline {frame rest : Bytes} : Offline (Sending me frame rest) :=
  fun _ _ _ move known => ⟨known.file, known.sock, move.latest known.last,
    by rw [move.sent, move.frames]; exact known.partly, known.begun,
    by rw [move.frames]; exact move.unread known.unread⟩

theorem Answered.offline {value : Str} : Offline (Answered me value) := by
  intro world net inv move known
  obtain ⟨frame, line, last, found, received⟩ := known.own
  refine ⟨Ready.offline world net inv move known.toReady, frame, line, move.latest last, ?_,
    received⟩
  rw [move.frames]
  exact move.answers found

variable {raised : PyError → World → Prop}

theorem lockMu_triple :
    CallerTriple me (fun _ => True) (perform .lockMu)
      (fun _ => Held me fun world => Shut world ∨ Ready world) raised := by
  refine Triple.perform rfl Contract.Stable.const ?_
  intro world choice result after inv _ _ executed
  simp only [machine, exec_lockMu, Option.ite_none_right_eq_some, Option.some.injEq, Prod.mk.injEq]
    at executed
  obtain ⟨free, -, rfl⟩ := executed
  refine ⟨⟨fun _ => .inr ⟨free, rfl⟩, .inl rfl⟩, { inv with free := nofun }, rfl, ?_⟩
  rcases inv.free free with shut | ready
  · exact .inl shut
  · exact .inr { ready with }

theorem settimeout_triple {readTimeout : Rat} :
    CallerTriple me (Held me fun world => Shut world ∨ Ready world)
      (raising (perform (.settimeout readTimeout))) (fun _ => Held me Ready)
      (fun _ => Held me Failing) := by
  apply raising_triple
  refine held_op ?_ ?_
  · rintro world net inv move (shut | ready)
    · exact .inl (Shut.offline world net inv move shut)
    · exact .inr (Ready.offline world net inv move ready)
  intro choice world result after inv held known executed
  simp only [exec_settimeout] at executed
  split at executed
  · cases executed
    exact ⟨inv, .inl rfl, held, trivial⟩
  · rename_i opened
    have ready : Ready world := by
      rcases known with shut | ready
      · exact absurd shut.2 opened
      · exact ready
    split at executed
    · cases executed
      exact ⟨inv, .inl rfl, held, trivial⟩
    · cases executed
      exact ⟨inv, .inl rfl, held, ready⟩

theorem count_snoc_mono {sent : Bytes} (byte : UInt8) :
    completeFrames sent ≤ completeFrames (sent ++ [byte]) := by
  simp only [completeFrames, List.count_append]
  exact Nat.div_le_div_right (Nat.le_add_right _ _)

theorem Served.send {net : Net} {event : Event} (served : net.Served) (byte : UInt8)
    (silent : event.line? = none) : Net.Served { net with
      sent := net.sent ++ [byte], trace := net.trace ++ [event] } := by
  constructor
  · simp only [answers_snoc, silent, Option.toList_none, List.append_nil]
    exact Nat.le_trans served.answered (count_snoc_mono byte)
  · simpa only [answers_snoc, silent, Option.toList_none, List.append_nil] using served.unbroken

theorem first_triple {byte : UInt8} {later : Bytes} (framed : Framed (byte :: later)) :
    CallerTriple me (Held me Ready) (raising (perform (.send (byte :: later) (byte :: later))))
      (fun _ => Held me (Sending me (byte :: later) later)) (fun _ => Held me Failing) := by
  apply raising_triple
  refine held_op Ready.offline ?_
  intro choice world result after inv held ready executed
  simp only [exec_send] at executed
  rw [if_neg (by simp [ready.sock])] at executed
  split at executed
  · cases executed
    exact ⟨inv, .inl rfl, held, trivial⟩
  · cases executed
  · rename_i same
    cases same
    simp only [if_true, Option.some.injEq, Prod.mk.injEq] at executed
    obtain ⟨rfl, rfl⟩ := executed
    have begun : frames (world.net.trace ++ [.sending me (byte :: later)]) =
        frames world.net.trace ++ [(me, byte :: later)] := by simp [Event.frame?]
    have bytes : bytesOfFrames (frames world.net.trace ++ [(me, byte :: later)]) =
        world.net.sent ++ byte :: later := by simp [ready.sent, bytesOfFrames]
    refine ⟨{ inv with
      framed := ?_
      inOrder := ?_
      served := Served.send inv.served byte rfl
      lawful := inv.lawful.snoc trivial
      failed := ?_
      free := ?_ }, .inr ⟨_, rfl, rfl⟩, held, ready.file, ready.sock, ?_, ?_, Nat.lt_succ_self _, ?_⟩
    · intro frame member
      rw [begun, List.mem_append, List.mem_singleton] at member
      rcases member with member | rfl
      · exact inv.framed frame member
      · exact framed
    · simp only [InOrder, begun, bytes, List.dropLast_concat, ← ready.sent]
      exact ⟨⟨later, by simp⟩, List.prefix_append _ _⟩
    · intro caller member
      have earlier : Event.failed caller ∈ world.net.trace := by simpa using member
      exact inv.failed caller earlier
    · intro free
      rw [show World.mu _ = some me from held] at free
      cases free
    · exact latest_snoc _ _ _
    · rw [begun, bytes]
      simp
    · rw [begun, List.length_append, List.length_singleton, Nat.add_sub_cancel]
      exact ready.unread.of_same rfl rfl (by simp [Event.line?])

theorem next_triple {frame : Bytes} {byte : UInt8} {later : Bytes} :
    CallerTriple me (Held me (Sending me frame (byte :: later)))
      (raising (perform (.send frame (byte :: later))))
      (fun _ => Held me (Sending me frame later)) (fun _ => Held me Failing) := by
  apply raising_triple
  refine held_op Sending.offline ?_
  intro choice world result after inv held known executed
  simp only [exec_send] at executed
  rw [if_neg (by simp [known.sock])] at executed
  split at executed
  · cases executed
    exact ⟨inv, .inl rfl, held, trivial⟩
  · cases executed
  · rename_i same
    cases same
    have inside : (byte :: later).length ≠ frame.length := Nat.ne_of_lt known.begun
    simp only [inside, if_false, List.append_nil, Option.some.injEq, Prod.mk.injEq] at executed
    obtain ⟨rfl, rfl⟩ := executed
    have partly : (world.net.sent ++ [byte]) ++ later = bytesOfFrames (frames world.net.trace) := by
      simpa using known.partly
    refine ⟨{ inv with
      inOrder := ⟨⟨later, partly⟩, inv.inOrder.2.trans (List.prefix_append _ _)⟩
      served := ⟨Nat.le_trans inv.served.answered (count_snoc_mono byte), inv.served.unbroken⟩
      failed := fun caller member => inv.failed caller member
      free := ?_ }, .inl rfl, held, { known with
        partly := partly, begun := Nat.lt_of_succ_lt known.begun }⟩
    intro free
    rw [show World.mu _ = some me from held] at free
    cases free

theorem sendFrom_triple {frame rest : Bytes} :
    CallerTriple me (Held me (Sending me frame rest)) (sendFrom frame rest)
      (fun _ => Held me (Sending me frame [])) (fun _ => Held me Failing) := by
  induction rest with
  | nil => exact Triple.ret fun _ _ known => known
  | cons byte later ih => exact next_triple.bind fun _ => ih

theorem sendall_triple {frame : Bytes} (framed : Framed frame) :
    CallerTriple me (Held me Ready) (sendall frame) (fun _ => Held me (Sending me frame []))
      (fun _ => Held me Failing) := by
  cases frame with
  | nil => exact absurd rfl framed.ne_nil
  | cons byte later => exact (first_triple framed).bind fun _ => sendFrom_triple

theorem readLine_triple {frame : Bytes} :
    CallerTriple me (Held me (Sending me frame [])) readLine
      (fun value => Held me (Answered me value)) (fun _ => Held me Failing) := by
  have reads : CallerTriple me (Held me (Sending me frame []))
      (raising (perform .readline))
      (fun raw => Held me fun world => ∀ value, acceptLine raw = .ok value →
        Answered me value world)
      (fun _ => Held me Failing) := by
    apply raising_triple
    refine held_op Sending.offline ?_
    intro choice world result after inv held known executed
    simp only [exec_readline] at executed
    rw [if_neg (by simp [known.file])] at executed
    split at executed
    · cases executed
      exact ⟨inv, .inl rfl, held, trivial⟩
    · split at executed
      · rename_i raw rest read
        simp only [Option.some.injEq, Prod.mk.injEq] at executed
        obtain ⟨rfl, rfl⟩ := executed
        refine ⟨{ inv with free := ?_, served := ⟨inv.served.answered, inv.served.unbroken⟩ },
          .inl rfl, held, ?_⟩
        · intro free
          rw [show World.mu _ = some me from held] at free
          cases free
        · intro value accepted
          have sent : world.net.sent = bytesOfFrames (frames world.net.trace) := by
            simpa using known.partly
          have some : 0 < (frames world.net.trace).length := by
            obtain ⟨before, framesEq⟩ := List.getLast?_eq_some_iff.mp known.last.1
            simp [framesEq]
          have bound : (answers world.net.trace).length ≤
              (frames world.net.trace).length - 1 + 1 := by
            have answered := inv.served.answered
            rw [sent, complete_frames inv.framed] at answered
            omega
          obtain ⟨unread, line, found, received⟩ := (fileReadline_cut read accepted).own
            known.unread inv.served bound accepted
          rw [Nat.sub_add_cancel some] at unread
          exact ⟨⟨known.file, known.sock, sent, unread⟩, frame, line, known.last, found, received⟩
      · cases executed
  refine reads.bind fun raw => ?_
  refine Triple.orRaise ?_ ?_
  · rintro value accepted world ⟨held, known⟩
    exact ⟨held, known value accepted⟩
  · rintro error _ world ⟨held, _⟩
    exact ⟨held, trivial⟩

theorem close_triple :
    CallerTriple me (Held me Failing) close (fun _ => Held me Shut) raised := by
  have closes (caller : Nat) (world : World) (after : World) (inv : Invariant world)
      (shut : Shut world → Shut after) (same : after.net = world.net)
      (held : after.mu = some caller) : Invariant after :=
    ⟨by rw [same]; exact inv.framed, by rw [same]; exact inv.inOrder,
      by rw [same]; exact inv.served, by rw [same]; exact inv.lawful,
      fun other member => shut (inv.failed other (same ▸ member)),
      fun free => by rw [held] at free; cases free⟩
  have file : CallerTriple me (Held me Failing) (perform .closeFile)
      (fun _ => Held me fun world => world.fileClosed = true) raised := by
    refine held_op Failing.offline ?_
    intro choice world result after inv held _ executed
    simp only [exec_closeFile, Option.some.injEq, Prod.mk.injEq] at executed
    obtain ⟨-, rfl⟩ := executed
    exact ⟨closes me _ _ inv (fun shut => ⟨rfl, shut.2⟩) rfl held, .inl rfl, held, rfl⟩
  refine file.bind fun _ => ?_
  refine held_op (fun _ _ _ _ known => known) ?_
  intro choice world result after inv held known executed
  simp only [exec_closeSock, Option.some.injEq, Prod.mk.injEq] at executed
  obtain ⟨-, rfl⟩ := executed
  exact ⟨closes me _ _ inv (fun _ => ⟨known, rfl⟩) rfl held, .inl rfl, held, known, rfl⟩

theorem exchange_triple {request : Request} {frame : Bytes} (framed : Framed frame) :
    CallerTriple me (Held me fun world => Shut world ∨ Ready world) (exchange request frame)
      (fun value => Held me (Answered me value)) (fun _ => Held me Shut) := by
  refine Triple.handle (settimeout_triple.bind fun _ => (sendall_triple framed).bind fun _ =>
    readLine_triple) fun error => ?_
  exact close_triple.bind fun _ => Triple.raise fun _ _ known => known

def Rest (party : Party) (outcome : Except PyError (Val party)) (world : World) : Prop :=
  match party, outcome with
  | .caller me, .ok (some value) => lastBy me world.net.trace = some (.returned me value)
  | .caller me, .error error =>
      (∃ request : Request, encodeLines [request.cmd, request.key, request.arg] = .error error) ∨
        lastBy me world.net.trace = some (.failed me)
  | _, _ => True

theorem lastBy_stable {event : Event} :
    contract.Stable (.caller me) fun world => lastBy me world.net.trace = some event := by
  intro other different before after _ _ within known
  cases other with
  | caller id =>
      have move : CallerMove id before after := within
      have elsewhere : (some id : Option Nat) ≠ some me := fun same =>
        different (congrArg Party.caller (Option.some.inj same))
      rcases move.trace with same | ⟨event, own, same⟩
      · rw [same]
        exact known
      · rw [same, lastBy_others (by simpa [own] using elsewhere)]
        exact known
  | network =>
      rcases within with rfl | ⟨move, _⟩
      · exact known
      · rcases move.trace with same | ⟨text, _, _, same⟩
        · rw [same]
          exact known
        · rw [same, lastBy_others (by simp [Event.caller?])]
          exact known

theorem Rest.stable (party : Party) (outcome : Except PyError (Val party)) :
    contract.Stable party (Rest party outcome) := by
  cases party with
  | network => exact fun _ _ _ _ _ _ _ _ => trivial
  | caller me =>
      cases outcome with
      | error error =>
          intro other different before after invBefore invAfter within known
          rcases known with rejected | failed
          · exact .inl rejected
          · exact .inr (lastBy_stable other different before after invBefore invAfter within failed)
      | ok value =>
          cases value with
          | none => exact fun _ _ _ _ _ _ _ _ => trivial
          | some value => exact lastBy_stable

theorem unlock_failed :
    CallerTriple me (Held me Shut) (perform (.unlockMu none))
      (fun _ world => lastBy me world.net.trace = some (.failed me)) raised := by
  refine held_op Shut.offline ?_
  intro choice world result after inv held shut executed
  simp only [exec_unlockMu, Option.some.injEq, Prod.mk.injEq] at executed
  obtain ⟨-, rfl⟩ := executed
  have sameFrames : frames (world.net.trace ++ [.failed me]) = frames world.net.trace := by
    simp [Event.frame?]
  have sameAnswers : answers (world.net.trace ++ [.failed me]) = answers world.net.trace := by
    simp [Event.line?]
  refine ⟨⟨?_, ?_, ?_, ?_, fun _ _ => shut, fun _ => .inl shut⟩, .inr ⟨_, rfl, rfl⟩,
    lastBy_own rfl⟩
  · simpa only [Net.log, sameFrames] using inv.framed
  · simpa only [InOrder, Net.log, sameFrames] using inv.inOrder
  · exact ⟨by simpa only [Net.log, sameAnswers] using inv.served.answered,
      by simpa only [Net.log, sameAnswers] using inv.served.unbroken⟩
  · exact inv.lawful.snoc trivial

theorem unlock_returned {value : Str} :
    CallerTriple me (Held me (Answered me value)) (perform (.unlockMu (some value)))
      (fun _ world => lastBy me world.net.trace = some (.returned me value)) raised := by
  refine held_op Answered.offline ?_
  intro choice world result after inv held known executed
  simp only [exec_unlockMu, Option.some.injEq, Prod.mk.injEq] at executed
  obtain ⟨-, rfl⟩ := executed
  have sameFrames : frames (world.net.trace ++ [.returned me value]) = frames world.net.trace := by
    simp [Event.frame?]
  have sameAnswers : answers (world.net.trace ++ [.returned me value]) =
      answers world.net.trace := by
    simp [Event.line?]
  have unfailed (other : Nat) : .failed other ∉ world.net.trace := by
    intro member
    have opened := known.file
    rw [(inv.failed other member).1] at opened
    cases opened
  refine ⟨⟨?_, ?_, ?_, ?_, ?_, fun _ => .inr ?_⟩, .inr ⟨_, rfl, rfl⟩, lastBy_own rfl⟩
  · simpa only [Net.log, sameFrames] using inv.framed
  · simpa only [InOrder, Net.log, sameFrames] using inv.inOrder
  · exact ⟨by simpa only [Net.log, sameAnswers] using inv.served.answered,
      by simpa only [Net.log, sameAnswers] using inv.served.unbroken⟩
  · exact inv.lawful.snoc ⟨unfailed, known.own⟩
  · intro other member
    simp only [Net.log, List.mem_append, List.mem_singleton, reduceCtorEq, or_false] at member
    exact absurd member (unfailed other)
  · have unread : (world.net.log (.returned me value)).Unread (frames world.net.trace).length :=
      known.unread.of_same rfl rfl sameAnswers
    exact ⟨known.file, known.sock, by simpa only [Net.log, sameFrames] using known.sent,
      by simpa only [Net.log, sameFrames] using unread⟩

theorem command_triple {request : Request} :
    CallerTriple me (fun _ => True) (command request)
      (fun value world => lastBy me world.net.trace = some (.returned me value))
      (fun error => Rest (.caller me) (.error error)) := by
  have encodes : CallerTriple me (fun _ => True)
      (Program.orRaise (encodeLines [request.cmd, request.key, request.arg]))
      (fun frame _ => Framed frame ∧ True) (fun error => Rest (.caller me) (.error error)) := by
    refine Triple.orRaise ?_ fun error rejected _ _ => .inl ⟨request, rejected⟩
    exact fun frame encoded _ _ => ⟨encodeLines_framed encoded, trivial⟩
  refine encodes.bind fun frame => Triple.assuming fun framed => ?_
  refine lockMu_triple.bind fun _ => ?_
  have failed (error : PyError) : CallerTriple me (Held me Shut)
      (do
        perform (.unlockMu none)
        throw error)
      (fun value => Held me (Answered me value))
      (fun error => Rest (.caller me) (.error error)) :=
    unlock_failed.bind fun _ => Triple.raise fun _ _ known => .inr known
  refine ((exchange_triple framed).handle failed).bind fun value => ?_
  exact unlock_returned.bind fun _ => Triple.ret fun _ _ known => known

theorem network_move {op : Op} {choice : Choice} {world after : World} {result : op.Res}
    (executed : exec .network op choice world = some (result, after)) :
    world.net.Move after.net ∧ after = { world with net := after.net } := by
  cases op with
  | respond =>
      cases choice with
      | line text =>
          simp only [exec_respond, Option.map_eq_some_iff, Prod.mk.injEq] at executed
          obtain ⟨net, moved, -, rfl⟩ := executed
          exact ⟨.respond moved, rfl⟩
      | _ => cases executed
  | deliver =>
      cases choice with
      | arrive count =>
          simp only [exec_deliver, Option.map_eq_some_iff, Prod.mk.injEq] at executed
          obtain ⟨net, moved, -, rfl⟩ := executed
          exact ⟨.deliver moved, rfl⟩
      | _ => cases executed
  | hangUp =>
      simp only [exec_hangUp, Option.some.injEq, Prod.mk.injEq] at executed
      obtain ⟨-, rfl⟩ := executed
      exact ⟨.hangUp, rfl⟩
  | _ => cases executed

theorem Invariant.network {world : World} {net : Net} (inv : Invariant world)
    (move : world.net.Move net) : Invariant { world with net := net } where
  framed := by
    rw [move.frames]
    exact inv.framed
  inOrder := by
    simp only [InOrder, move.frames, move.sent]
    exact inv.inOrder
  served := move.served inv.served
  lawful := by
    rcases move.trace with same | ⟨text, _, _, same⟩
    · rw [same]
      exact inv.lawful
    · rw [same]
      exact inv.lawful.snoc trivial
  failed := by
    intro caller member
    rcases move.trace with same | ⟨text, _, _, same⟩
    · exact inv.failed caller (same ▸ member)
    · rw [same] at member
      have earlier : Event.failed caller ∈ world.net.trace := by simpa using member
      exact inv.failed caller earlier
  free := by
    intro free
    rcases inv.free free with shut | ready
    · exact .inl shut
    · exact .inr (Ready.offline world net inv move ready)

theorem network_triple {op : Op} :
    Triple machine contract .network (fun _ => True) (perform op) (fun _ _ => True)
      (fun _ _ => True) := by
  refine Triple.perform rfl Contract.Stable.const ?_
  intro world choice result after inv _ _ executed
  obtain ⟨move, same⟩ := network_move executed
  refine ⟨.inr ⟨move, same⟩, ?_, trivial⟩
  rw [same]
  exact inv.network move

theorem verified : Verified machine contract Rest where
  stable := Rest.stable
  programs := by
    intro party outcome choice program world inv _ started
    cases party with
    | caller me =>
        cases choice with
        | call request =>
            cases started
            have commands : CallerTriple me (fun _ => True) (some <$> command request)
                (fun returned => Rest (.caller me) (.ok returned))
                (fun error => Rest (.caller me) (.error error)) := by
              rw [← bind_pure_comp]
              refine command_triple.bind fun value => Triple.ret fun _ _ known => known
            exact commands world world ⟨fun _ => .inl rfl, .inl rfl⟩ inv trivial
        | _ => cases started
    | network =>
        cases choice with
        | line text =>
            cases started
            exact @network_triple .respond world world (.inl rfl) inv trivial
        | arrive count =>
            cases started
            exact @network_triple .deliver world world (.inl rfl) inv trivial
        | hangUp =>
            cases started
            exact @network_triple .hangUp world world (.inl rfl) inv trivial
        | _ => cases started

theorem initial_invariant : Invariant {} where
  framed := by simp [frames]
  inOrder := ⟨List.nil_prefix, List.nil_prefix⟩
  served := ⟨Nat.zero_le _, by simp [answers]⟩
  lawful := lawful_nil
  failed := by simp
  free := fun _ => .inr ⟨rfl, rfl, rfl, .inr ⟨Nat.le_refl _, rfl⟩⟩

theorem initial_sound : Sound machine contract Rest initial := by
  refine ⟨initial_invariant, ?_⟩
  intro party
  cases party with
  | caller me => exact trivial
  | network => exact trivial

abbrev Reached (config : Config Op Op.Res PyError Party Val World) : Prop :=
  machine.Reachable (fun _ _ _ => True) initial config

variable {config next : Config Op Op.Res PyError Party Val World}

theorem Reached.sound (reached : Reached config) : Sound machine contract Rest config :=
  verified.reachable (fun _ _ _ _ _ _ _ => trivial) initial_sound reached

/-- A command that `encode_lines` rejects raises at once and does nothing. -/
theorem rejected_step {request : Request} {error : PyError}
    (rejected : encodeLines [request.cmd, request.key, request.arg] = .error error)
    (idle : (config.program (.caller me)).outcome ≠ none)
    (step : machine.Step config (.caller me) (.call request) next) :
    next.program (.caller me) = .raise error ∧ next.shared = config.shared ∧
      ∀ other, other ≠ .caller me → next.program other = config.program other := by
  cases step with
  | act programEq =>
      rw [programEq] at idle
      exact absurd rfl idle
  | start _ started segment =>
      have raises : command request = .raise error := by
        simp only [command, rejected]
        rfl
      cases started
      rw [raises] at segment
      cases segment
      exact ⟨by simp, rfl, fun other different => Function.update_of_ne different _ _⟩

/-- Frames never interleave; a command that returns returns what the server has answered to its
own frame, and does so only while no command has failed on the connection; and a rejected command
changes nothing. -/
theorem responses_paired (reached : Reached config) :
    InOrder config.shared.net ∧ Lawful pairingRule config.shared.net.trace ∧
    (∀ me value, config.program (.caller me) = .ret (some value) →
      lastBy me config.shared.net.trace = some (.returned me value)) ∧
    (∀ me error, config.program (.caller me) = .raise error →
      (∃ request : Request, encodeLines [request.cmd, request.key, request.arg] = .error error) ∨
        lastBy me config.shared.net.trace = some (.failed me)) ∧
    ∀ me request error next, encodeLines [request.cmd, request.key, request.arg] = .error error →
      (config.program (.caller me)).outcome ≠ none →
      machine.Step config (.caller me) (.call request) next →
      next.program (.caller me) = .raise error ∧ next.shared = config.shared ∧
        ∀ other, other ≠ .caller me → next.program other = config.program other := by
  obtain ⟨inv, promises⟩ := reached.sound
  refine ⟨inv.inOrder, inv.lawful, ?_, ?_, fun _ _ _ _ rejected idle step =>
    rejected_step rejected idle step⟩
  · intro me value programEq
    have promise := promises (.caller me)
    rw [programEq] at promise
    exact promise
  · intro me error programEq
    have promise := promises (.caller me)
    rw [programEq] at promise
    exact promise

def demoTurns : List (Machine.Turn Op Party Choice) :=
  [{ thread := .caller 0, choice := .call ⟨str "l", str "k", str "10", 40⟩ },
    { thread := .caller 1, choice := .call ⟨str "r", str "k", str "t", 30⟩ },
    { thread := .network, choice := .line (bytesOf "ok t 33") },
    { thread := .network, choice := .line (bytesOf "ok t 33") },
    { thread := .network, choice := .arrive 8 },
    { thread := .network, choice := .arrive 8 },
    { thread := .caller 0, choice := .go },
    { thread := .caller 1, choice := .go, upTo := fun op => match op with
      | .settimeout _ => true
      | _ => false },
    { thread := .caller 1, choice := .fail ⟨.overflowError, []⟩ }]

theorem responses_paired_demo :
    ∃ config, Reached config ∧
      lastBy 0 config.shared.net.trace = some (.returned 0 (str "ok t 33")) ∧
      lastBy 1 config.shared.net.trace = some (.failed 1) ∧
      Lawful pairingRule config.shared.net.trace := by
  obtain ⟨config, reached, passed⟩ := machine.exists_run (fun _ _ _ => True) initial
    (machine.schedule initial demoTurns) (fun _ _ _ => trivial)
    (fun config => lastBy 0 config.shared.net.trace == some (.returned 0 (str "ok t 33")) &&
      lastBy 1 config.shared.net.trace == some (.failed 1))
    (by decide +kernel)
  simp only [Bool.and_eq_true, beq_iff_eq] at passed
  exact ⟨config, reached, passed.1, passed.2, (responses_paired reached).2.1⟩

end DflockdClient.SyncConn
