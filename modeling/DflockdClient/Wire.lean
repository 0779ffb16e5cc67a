import DflockdClient.Exchanges
import DflockdClient.Readers
import DflockdClient.Interleaving.Trace

/-!
Frames and answers on one connection. The server takes a frame with its third
newline and answers each frame by one line, in order; its bytes arrive in pieces
of any size, at any time, and the stream may end anywhere.
-/

namespace DflockdClient.Wire

open Interleaving

/-- What happens on a connection. A command that fails while it uses the connection is `failed`. -/
inductive Event
  | sending (caller : Nat) (frame : Bytes)
  | line (text : Bytes)
  | returned (caller : Nat) (value : Str)
  | failed (caller : Nat)
  deriving DecidableEq

def Event.frame? (event : Event) : Option (Nat × Bytes) :=
  match event with
  | .sending caller frame => some (caller, frame)
  | _ => none

def Event.line? (event : Event) : Option Bytes :=
  match event with
  | .line text => some text
  | _ => none

def Event.caller? (event : Event) : Option Nat :=
  match event with
  | .sending caller _ | .returned caller _ | .failed caller => some caller
  | .line _ => none

def frames (trace : List Event) : List (Nat × Bytes) := trace.filterMap Event.frame?

def answers (trace : List Event) : List Bytes := trace.filterMap Event.line?

@[simp] theorem frames_snoc (trace : List Event) (event : Event) :
    frames (trace ++ [event]) = frames trace ++ event.frame?.toList := by
  cases event <;> simp [frames, Event.frame?]

@[simp] theorem answers_snoc (trace : List Event) (event : Event) :
    answers (trace ++ [event]) = answers trace ++ event.line?.toList := by
  cases event <;> simp [answers, Event.line?]

def lastBy (caller : Nat) (trace : List Event) : Option Event :=
  (trace.filter fun event => event.caller? = some caller).getLast?

theorem lastBy_own {caller : Nat} {event : Event} {trace : List Event}
    (own : event.caller? = some caller) : lastBy caller (trace ++ [event]) = some event := by
  simp [lastBy, List.filter_append, own]

theorem lastBy_others {caller : Nat} {events trace : List Event}
    (others : ∀ event ∈ events, event.caller? ≠ some caller) :
    lastBy caller (trace ++ events) = lastBy caller trace := by
  have nothing : events.filter (fun event => event.caller? = some caller) = [] := by
    simpa [List.filter_eq_nil_iff] using others
  simp [lastBy, List.filter_append, nothing]

def Latest (caller : Nat) (frame : Bytes) (trace : List Event) : Prop :=
  (frames trace).getLast? = some (caller, frame) ∧
    lastBy caller trace = some (.sending caller frame)

theorem latest_snoc (caller : Nat) (frame : Bytes) (trace : List Event) :
    Latest caller frame (trace ++ [.sending caller frame]) := by
  refine ⟨?_, lastBy_own rfl⟩
  rw [frames_snoc]
  exact List.getLast?_concat

def Received (line : Bytes) (value : Str) : Prop :=
  ∃ raw, raw <+: line ++ [newline] ∧ acceptLine raw = .ok value

/-- A command returns what the server has answered to the frame that it has sent itself, the latest
one, and only while no command has failed on the connection. -/
def pairingRule (before : List Event) (event : Event) : Prop :=
  match event with
  | .returned caller value =>
      (∀ other, .failed other ∉ before) ∧
        ∃ frame line, Latest caller frame before ∧
          (answers before)[(frames before).length - 1]? = some line ∧ Received line value
  | _ => True

structure Framed (frame : Bytes) : Prop where
  three : frame.count newline = 3
  last : frame.getLast? = some newline

def bytesOfFrames (frames : List (Nat × Bytes)) : Bytes := (frames.map Prod.snd).flatten

/-- How many whole frames the server finds in what it was sent. -/
def completeFrames (sent : Bytes) : Nat := sent.count newline / 3

def stream (lines : List Bytes) : Bytes := (lines.map (· ++ [newline])).flatten

/-! The network -/

structure Net where
  sent : Bytes := []
  transit : Bytes := []
  incoming : Incoming := ⟨[], false⟩
  trace : List Event := []

namespace Net

def respond (text : Bytes) (net : Net) : Option Net :=
  if newline ∉ text ∧ (answers net.trace).length < completeFrames net.sent then
    some { net with
      transit := net.transit ++ (text ++ [newline])
      trace := net.trace ++ [.line text] }
  else none

def deliver (count : Nat) (net : Net) : Option Net :=
  if net.incoming.eof then none
  else some { net with
    transit := net.transit.drop count
    incoming := ⟨net.incoming.bytes ++ net.transit.take count, false⟩ }

def hangUp (net : Net) : Net := { net with incoming := ⟨net.incoming.bytes, true⟩ }

def log (net : Net) (event : Event) : Net := { net with trace := net.trace ++ [event] }

/-- One move of the server and the network. -/
inductive Move (before : Net) : Net → Prop
  | respond {text after} : before.respond text = some after → Move before after
  | deliver {count after} : before.deliver count = some after → Move before after
  | hangUp : Move before before.hangUp

/-- The answers before the `n`-th have been read, and nothing else, unless the stream has ended
and is used up. -/
def Unread (n : Nat) (net : Net) : Prop :=
  (net.incoming.bytes = [] ∧ net.incoming.eof = true) ∨
    n ≤ (answers net.trace).length ∧
      net.incoming.bytes ++ net.transit = stream ((answers net.trace).drop n)

/-- The server answers no frame that it has not seen, and a line at a time. -/
structure Served (net : Net) : Prop where
  answered : (answers net.trace).length ≤ completeFrames net.sent
  unbroken : ∀ text ∈ answers net.trace, newline ∉ text

end Net

section Frames

theorem newline_ne_high {n : Nat} (high : 128 ≤ n % 256) : newline ≠ UInt8.ofNat n := by
  intro same
  have bytes := congrArg UInt8.toNat same
  simp only [newline, UInt8.toNat_ofNat'] at bytes
  have low : UInt8.toNat 10 = 10 := rfl
  omega

theorem encodeChar_unbroken {c : Nat} {bytes : Bytes} (different : c ≠ 10)
    (encoded : encodeChar c = some bytes) : newline ∉ bytes := by
  unfold encodeChar at encoded
  split at encoded
  · rename_i ascii
    cases encoded
    intro member
    have same := congrArg UInt8.toNat (List.mem_singleton.mp member)
    simp only [newline, UInt8.toNat_ofNat'] at same
    have low : UInt8.toNat 10 = 10 := rfl
    omega
  · split at encoded
    · cases encoded
      simp only [List.mem_cons, List.not_mem_nil, or_false, not_or]
      exact ⟨newline_ne_high (by omega), newline_ne_high (by omega)⟩
    · split at encoded
      · cases encoded
      · split at encoded
        · cases encoded
          simp only [List.mem_cons, List.not_mem_nil, or_false, not_or]
          exact ⟨newline_ne_high (by omega), newline_ne_high (by omega),
            newline_ne_high (by omega)⟩
        · split at encoded
          · cases encoded
            simp only [List.mem_cons, List.not_mem_nil, or_false, not_or]
            exact ⟨newline_ne_high (by omega), newline_ne_high (by omega),
              newline_ne_high (by omega), newline_ne_high (by omega)⟩
          · cases encoded

theorem encode_unbroken {text : Str} {bytes : Bytes} (clean : hasNewline text = false)
    (encoded : encode text = some bytes) : newline ∉ bytes := by
  induction text generalizing bytes with
  | nil =>
      cases encoded
      simp
  | cons c rest ih =>
      simp only [hasNewline, List.any_cons, Bool.or_eq_false_iff, beq_eq_false_iff_ne] at clean
      simp only [encode, Option.bind_eq_bind, Option.bind_eq_some_iff, Option.pure_def,
        Option.some.injEq] at encoded
      obtain ⟨first, firstEq, later, laterEq, rfl⟩ := encoded
      rw [List.mem_append, not_or]
      exact ⟨encodeChar_unbroken clean.1.1 firstEq, ih clean.2 laterEq⟩

theorem encode_joinLines {lines : List Str} {bytes : Bytes}
    (clean : ∀ line ∈ lines, hasNewline line = false)
    (encoded : encode (joinLines lines) = some bytes) :
    bytes.count newline = lines.length ∧ (lines ≠ [] → bytes.getLast? = some newline) := by
  induction lines generalizing bytes with
  | nil =>
      cases encoded
      simp
  | cons line rest ih =>
      simp only [List.mem_cons, forall_eq_or_imp] at clean
      have joined : joinLines (line :: rest) = line ++ [10] ++ joinLines rest := by
        simp [joinLines]
      have end' : encode [10] = some [newline] := by decide
      rw [joined, encode_append, encode_append, end'] at encoded
      simp only [Option.bind_eq_bind, Option.bind_eq_some_iff, Option.pure_def,
        Option.some.injEq] at encoded
      obtain ⟨_, ⟨first, firstEq, _, rfl, rfl⟩, later, laterEq, rfl⟩ := encoded
      have unbroken := encode_unbroken clean.1 firstEq
      obtain ⟨count, last⟩ := ih clean.2 laterEq
      constructor
      · simp [List.count_append, List.count_eq_zero_of_not_mem unbroken, count]
      · intro _
        by_cases nothing : rest = []
        · subst nothing
          cases laterEq
          simp
        · rw [List.getLast?_append, last nothing]
          rfl

theorem encodeLines_framed {cmd key arg : Str} {frame : Bytes}
    (encoded : encodeLines [cmd, key, arg] = .ok frame) : Framed frame := by
  obtain ⟨_, checked, encoded⟩ := Except.bind_eq_ok encoded
  split at encoded
  · rename_i bytes joined
    cases encoded
    have clean := fun line member => checkNoNewlines_ok.mp (forM_ok_iff.mp checked line member)
    obtain ⟨count, last⟩ := encode_joinLines clean joined
    exact ⟨count, last (by simp)⟩
  · cases encoded

theorem Framed.ne_nil {frame : Bytes} (framed : Framed frame) : frame ≠ [] := by
  rintro rfl
  cases framed.last

theorem count_frames {frames : List (Nat × Bytes)} (framed : ∀ frame ∈ frames, Framed frame.2) :
    (bytesOfFrames frames).count newline = 3 * frames.length := by
  induction frames with
  | nil => rfl
  | cons frame rest ih =>
      simp only [List.mem_cons, forall_eq_or_imp] at framed
      have others := ih framed.2
      simp only [bytesOfFrames, List.map_cons, List.flatten_cons, List.count_append,
        framed.1.three, List.length_cons] at others ⊢
      omega

theorem complete_frames {frames : List (Nat × Bytes)} (framed : ∀ frame ∈ frames, Framed frame.2) :
    completeFrames (bytesOfFrames frames) = frames.length := by
  rw [completeFrames, count_frames framed]
  omega

end Frames

namespace Net

variable {n limit : Nat} {before after net : Net}

theorem Move.sent (move : Move before after) : after.sent = before.sent := by
  cases move with
  | respond moved =>
      simp only [Net.respond, Option.ite_none_right_eq_some, Option.some.injEq] at moved
      rw [← moved.2]
  | deliver moved =>
      simp only [Net.deliver, Option.ite_none_left_eq_some, Option.some.injEq] at moved
      rw [← moved.2]
  | hangUp => rfl

theorem Move.trace (move : Move before after) : after.trace = before.trace ∨
    ∃ text, newline ∉ text ∧ (answers before.trace).length < completeFrames before.sent ∧
      after.trace = before.trace ++ [.line text] := by
  cases move with
  | respond moved =>
      simp only [Net.respond, Option.ite_none_right_eq_some, Option.some.injEq] at moved
      obtain ⟨⟨unbroken, asked⟩, rfl⟩ := moved
      exact .inr ⟨_, unbroken, asked, rfl⟩
  | deliver moved =>
      simp only [Net.deliver, Option.ite_none_left_eq_some, Option.some.injEq] at moved
      rw [← moved.2]
      exact .inl rfl
  | hangUp => exact .inl rfl

theorem Move.frames (move : Move before after) : frames after.trace = Wire.frames before.trace := by
  rcases move.trace with same | ⟨text, _, _, same⟩ <;> simp [same, Event.frame?]

theorem Move.latest (move : Move before after) {caller : Nat} {frame : Bytes}
    (latest : Latest caller frame before.trace) : Latest caller frame after.trace := by
  refine ⟨by rw [move.frames]; exact latest.1, ?_⟩
  rcases move.trace with same | ⟨text, _, _, same⟩
  · rw [same]
    exact latest.2
  · rw [same, lastBy_others (by simp [Event.caller?])]
    exact latest.2

theorem Move.answers (move : Move before after) {index : Nat} {text : Bytes}
    (known : (answers before.trace)[index]? = some text) :
    (Wire.answers after.trace)[index]? = some text := by
  rcases move.trace with same | ⟨line, _, _, same⟩
  · rwa [same]
  · simp only [same, answers_snoc]
    rw [List.getElem?_append_left (List.getElem?_eq_some_iff.mp known).1]
    exact known

theorem Move.served (move : Move before after) (served : Served before) : Served after := by
  rcases move.trace with same | ⟨text, unbroken, asked, same⟩
  · constructor
    · rw [same, move.sent]
      exact served.answered
    · rw [same]
      exact served.unbroken
  · constructor
    · rw [same, move.sent]
      simp only [answers_snoc, Event.line?, Option.toList_some, List.length_append,
        List.length_singleton]
      omega
    · intro found member
      simp only [same, answers_snoc, Event.line?, Option.toList_some, List.mem_append,
        List.mem_singleton] at member
      rcases member with member | rfl
      · exact served.unbroken found member
      · exact unbroken

theorem Move.unread (move : Move before after) (unread : Unread n before) : Unread n after := by
  cases move with
  | respond moved =>
      simp only [Net.respond, Option.ite_none_right_eq_some, Option.some.injEq] at moved
      obtain ⟨_, rfl⟩ := moved
      rcases unread with dead | ⟨read, pending⟩
      · exact .inl dead
      · refine .inr ⟨?_, ?_⟩
        · simp only [answers_snoc, List.length_append]
          omega
        · simp only [answers_snoc, Event.line?, Option.toList_some]
          rw [List.drop_append_of_le_length read, ← List.append_assoc, pending]
          simp [stream]
  | deliver moved =>
      simp only [Net.deliver, Option.ite_none_left_eq_some, Option.some.injEq] at moved
      obtain ⟨opened, rfl⟩ := moved
      rcases unread with ⟨_, ended⟩ | ⟨read, pending⟩
      · exact absurd ended opened
      · refine .inr ⟨read, ?_⟩
        rw [← pending, List.append_assoc, List.take_append_drop]
  | hangUp =>
      rcases unread with ⟨nothing, _⟩ | known
      · exact .inl ⟨nothing, rfl⟩
      · exact .inr known

theorem Unread.of_same (unread : Unread n before) (incoming : after.incoming = before.incoming)
    (transit : after.transit = before.transit)
    (same : Wire.answers after.trace = Wire.answers before.trace) : Unread n after := by
  simp only [Unread, incoming, transit, same]
  exact unread

theorem Unread.pending (unread : Unread n net) (last : (Wire.answers net.trace).length ≤ n + 1) :
    (net.incoming.bytes = [] ∧ net.incoming.eof = true) ∨
      net.incoming.bytes ++ net.transit = [] ∨
      ∃ line, (Wire.answers net.trace)[n]? = some line ∧
        (Wire.answers net.trace).length = n + 1 ∧
        net.incoming.bytes ++ net.transit = line ++ [newline] := by
  rcases unread with dead | ⟨read, pending⟩
  · exact .inl dead
  · cases rest : (Wire.answers net.trace).drop n with
    | nil =>
        rw [rest] at pending
        exact .inr (.inl pending)
    | cons line others =>
        have lengths := congrArg List.length rest
        simp only [List.length_drop, List.length_cons] at lengths
        have nothing : others = [] := List.eq_nil_of_length_eq_zero (by omega)
        subst nothing
        have found : (Wire.answers net.trace)[n]? = some line := by
          rw [← List.head?_drop, rest]
          rfl
        refine .inr (.inr ⟨line, found, by simp at lengths; omega, ?_⟩)
        rw [pending, rest]
        simp [stream]

end Net

theorem cut_at_newline {first second later : Bytes} (unbrokenFirst : newline ∉ first)
    (unbrokenSecond : newline ∉ second)
    (same : first ++ newline :: later = second ++ [newline]) : first = second ∧ later = [] := by
  induction first generalizing second with
  | nil =>
      cases second with
      | nil => simpa using same
      | cons byte rest =>
          simp only [List.nil_append, List.cons_append, List.cons.injEq] at same
          exact absurd (same.1 ▸ List.mem_cons_self) unbrokenSecond
  | cons byte rest ih =>
      cases second with
      | nil =>
          simp only [List.nil_append, List.cons_append, List.cons.injEq] at same
          exact absurd (same.1 ▸ List.mem_cons_self) unbrokenFirst
      | cons other others =>
          simp only [List.cons_append, List.cons.injEq] at same
          obtain ⟨rfl, same⟩ := same
          obtain ⟨rfl, rfl⟩ := ih (fun member => unbrokenFirst (List.mem_cons_of_mem _ member))
            (fun member => unbrokenSecond (List.mem_cons_of_mem _ member)) same
          exact ⟨rfl, rfl⟩

inductive Cut (incoming : Incoming) (raw rest : Bytes) : Prop
  | line {text} : raw = text ++ [newline] → newline ∉ text → incoming.bytes = raw ++ rest →
      Cut incoming raw rest
  | ending : raw = incoming.bytes → rest = [] → incoming.eof = true → Cut incoming raw rest

theorem cut_of_index {bytes : Bytes} {index : Nat}
    (found : bytes.findIdx? (· == newline) = some index) :
    bytes.take (index + 1) = bytes.take index ++ [newline] ∧ newline ∉ bytes.take index := by
  obtain ⟨inside, same, before⟩ := List.findIdx?_eq_some_iff_getElem.mp found
  have same : bytes[index] = newline := by simpa using same
  constructor
  · rw [List.take_add_one, List.getElem?_eq_getElem inside, same]
    rfl
  · intro member
    obtain ⟨earlier, within, atEarlier⟩ := List.getElem_of_mem member
    rw [List.length_take] at within
    rw [List.getElem_take] at atEarlier
    exact before earlier (by omega) (by simp [atEarlier])

theorem acceptLine_length {raw : Bytes} {value : Str} (accepted : acceptLine raw = .ok value) :
    raw ≠ [] ∧ raw.length ≤ maxResponseLineBytes := by
  have open' : ¬Refused raw := fun refused => by
    obtain ⟨error, failed⟩ := (acceptLine_refused raw).mpr refused
    rw [failed] at accepted
    cases accepted
  simp only [Refused, not_or, Nat.not_lt] at open'
  exact ⟨open'.1, open'.2.1⟩

theorem fileReadline_cut {incoming : Incoming} {raw rest : Bytes} {value : Str}
    (read : fileReadline (maxResponseLineBytes + 1) incoming = some (raw, rest))
    (accepted : acceptLine raw = .ok value) : Cut incoming raw rest := by
  have short := (acceptLine_length accepted).2
  unfold fileReadline at read
  split at read
  · rename_i index found
    simp only [Option.some.injEq, Prod.mk.injEq] at read
    obtain ⟨rfl, rfl⟩ := read
    obtain ⟨inside, _, _⟩ := List.findIdx?_eq_some_iff_getElem.mp found
    obtain ⟨line, unbroken⟩ := cut_of_index found
    rw [List.length_take] at inside
    rw [List.take_take, List.take_take, Nat.min_eq_left (by omega), Nat.min_eq_left (by omega)]
      at line
    rw [List.take_take, Nat.min_eq_left (by omega)] at unbroken
    exact .line line unbroken (List.take_append_drop _ _).symm
  · split at read
    · rename_i long
      simp only [Option.some.injEq, Prod.mk.injEq] at read
      obtain ⟨rfl, rfl⟩ := read
      rw [List.length_take] at short
      omega
    · split at read
      · rename_i ended
        simp only [Option.some.injEq, Prod.mk.injEq] at read
        obtain ⟨rfl, rfl⟩ := read
        exact .ending rfl rfl ended
      · cases read

theorem streamReadline_cut {limit : Nat} {incoming : Incoming} {raw rest : Bytes}
    (read : streamReadline limit incoming = some (.ok raw, rest)) : Cut incoming raw rest := by
  unfold streamReadline at read
  split at read
  · rename_i index found
    split at read
    · cases read
    · simp only [Option.some.injEq, Prod.mk.injEq, Except.ok.injEq] at read
      obtain ⟨rfl, rfl⟩ := read
      obtain ⟨line, unbroken⟩ := cut_of_index found
      exact .line line unbroken (List.take_append_drop _ _).symm
  · split at read
    · cases read
    · split at read
      · rename_i ended
        simp only [Option.some.injEq, Prod.mk.injEq, Except.ok.injEq] at read
        obtain ⟨rfl, rfl⟩ := read
        exact .ending rfl rfl ended
      · cases read

/-- With at most one answer unread, what a command accepts is that answer, and all of it is read. -/
theorem Cut.own {net : Net} {n : Nat} {raw rest : Bytes} {value : Str}
    (cut : Cut net.incoming raw rest) (unread : net.Unread n) (served : net.Served)
    (last : (answers net.trace).length ≤ n + 1) (accepted : acceptLine raw = .ok value) :
    Net.Unread (n + 1) { net with incoming := ⟨rest, net.incoming.eof⟩ } ∧
      ∃ line, (answers net.trace)[n]? = some line ∧ Received line value := by
  have some := (acceptLine_length accepted).1
  cases cut with
  | @line text rawEq unbroken split =>
      subst rawEq
      rcases unread.pending last with ⟨nothing, _⟩ | nothing | ⟨line, found, count, pending⟩
      · rw [nothing] at split
        simp at split
      · simp [split] at nothing
      · rw [split] at pending
        simp only [List.append_assoc, List.singleton_append] at pending
        obtain ⟨rfl, later⟩ := cut_at_newline unbroken
          (served.unbroken line (List.mem_of_getElem? found)) pending
        refine ⟨.inr ⟨by simp only []; omega, ?_⟩, text, found, _, List.prefix_rfl, accepted⟩
        rw [List.drop_of_length_le (by omega)]
        exact later
  | ending rawEq restEq ended =>
      subst rawEq restEq
      rcases unread.pending last with ⟨nothing, _⟩ | nothing | ⟨line, found, _, pending⟩
      · exact absurd nothing some
      · exact absurd (List.append_eq_nil_iff.mp nothing).1 some
      · exact ⟨.inl ⟨rfl, ended⟩, line, found, _, ⟨_, pending⟩, accepted⟩

end DflockdClient.Wire
