import Mathlib.Logic.Relation
import DflockdClient.Interleaving.Machine

/-!
Rely-guarantee proofs for machines. Each thread is proved on its own: what it
does between two pauses keeps the invariant and stays within its guarantee, and
what it knows at a pause survives the guarantees of the others.
-/

namespace Interleaving

variable {Op : Type} {Res : Op → Type} {Err : Type} {Tid : Type} {Val : Tid → Type}
  {State Choice : Type} {α β : Type}

/-- The invariant of the shared state at pauses, what each thread may do to it between two
pauses, and which choices the runs under consideration make at a pause. -/
structure Contract (Op : Type) (Tid State Choice : Type) where
  invariant : State → Prop
  guarantee : Tid → State → State → Prop
  permitted : Tid → Op → Choice → State → Prop

namespace Contract

variable (contract : Contract Op Tid State Choice)

def Other (thread : Tid) (before after : State) : Prop :=
  ∃ other, other ≠ thread ∧ contract.guarantee other before after ∧
    contract.invariant before ∧ contract.invariant after

def Environment (thread : Tid) : State → State → Prop :=
  Relation.ReflTransGen (contract.Other thread)

def Stable (thread : Tid) (fact : State → Prop) : Prop :=
  ∀ other, other ≠ thread → ∀ before after, contract.invariant before →
    contract.invariant after → contract.guarantee other before after → fact before → fact after

variable {contract}

theorem Stable.environment {thread : Tid} {fact : State → Prop} {before after : State}
    (stable : contract.Stable thread fact) (known : fact before)
    (moves : contract.Environment thread before after) : fact after := by
  induction moves with
  | refl => exact known
  | tail _ move ih =>
      obtain ⟨other, different, within, invBefore, invAfter⟩ := move
      exact stable other different _ _ invBefore invAfter within ih

theorem Environment.invariant {thread : Tid} {before after : State}
    (moves : contract.Environment thread before after) (known : contract.invariant before) :
    contract.invariant after := by
  induction moves with
  | refl => exact known
  | tail _ move _ =>
      obtain ⟨_, _, _, _, invAfter⟩ := move
      exact invAfter

theorem Stable.and {thread : Tid} {first second : State → Prop}
    (left : contract.Stable thread first) (right : contract.Stable thread second) :
    contract.Stable thread fun state => first state ∧ second state :=
  fun other different before after invBefore invAfter within known =>
    ⟨left other different before after invBefore invAfter within known.1,
      right other different before after invBefore invAfter within known.2⟩

theorem Stable.const {thread : Tid} {fact : Prop} : contract.Stable thread fun _ => fact :=
  fun _ _ _ _ _ _ _ known => known

end Contract

variable (machine : Machine Op Res Err Tid Val State Choice) (contract : Contract Op Tid State Choice)

/-- The weakest precondition of a program in an environment that keeps its guarantees. The two
states are the one at the last pause and the current one; between pauses only the current one
moves, and neither invariant nor guarantee is asked for. -/
def wp (thread : Tid) (program : Program Op Res Err α) (post : α → State → State → Prop)
    (raised : Err → State → State → Prop) (origin state : State) : Prop :=
  match program with
  | .ret value => post value origin state
  | .raise error => raised error origin state
  | .act op next =>
      if machine.yields op then
        contract.guarantee thread origin state ∧ contract.invariant state ∧
          ∀ moved, contract.Environment thread state moved → ∀ choice result after,
            contract.permitted thread op choice moved →
            machine.exec thread op choice moved = some (result, after) →
            wp thread (next result) post raised moved after
      else ∀ choice result after, machine.exec thread op choice state = some (result, after) →
        wp thread (next result) post raised origin after

variable {machine contract} {thread : Tid}

@[simp] theorem wp_ret {value : α} {post : α → State → State → Prop}
    {raised : Err → State → State → Prop} :
    wp machine contract thread (.ret value) post raised = post value := rfl

@[simp] theorem wp_raise {error : Err} {post : α → State → State → Prop}
    {raised : Err → State → State → Prop} :
    wp machine contract thread (.raise error) post raised = raised error := rfl

theorem wp_pause {op : Op} {next : Res op → Program Op Res Err α}
    {post : α → State → State → Prop} {raised : Err → State → State → Prop}
    {origin state : State} (yielding : machine.yields op = true) :
    wp machine contract thread (.act op next) post raised origin state ↔
      contract.guarantee thread origin state ∧ contract.invariant state ∧
        ∀ moved, contract.Environment thread state moved → ∀ choice result after,
          contract.permitted thread op choice moved →
          machine.exec thread op choice moved = some (result, after) →
          wp machine contract thread (next result) post raised moved after := by
  simp only [wp, yielding, if_true]

theorem wp_act {op : Op} {next : Res op → Program Op Res Err α}
    {post : α → State → State → Prop} {raised : Err → State → State → Prop}
    {origin state : State} (running : machine.yields op = false) :
    wp machine contract thread (.act op next) post raised origin state ↔
      ∀ choice result after, machine.exec thread op choice state = some (result, after) →
        wp machine contract thread (next result) post raised origin after := by
  simp only [wp, running, Bool.false_eq_true, if_false]

theorem wp_run {op : Op} {rest : Res op → Program Op Res Err α}
    {post : α → State → State → Prop} {raised : Err → State → State → Prop}
    {origin state after : State} {result : Res op} (running : machine.yields op = false)
    (executes : ∀ choice, machine.exec thread op choice state = some (result, after))
    (known : wp machine contract thread (rest result) post raised origin after) :
    wp machine contract thread (Program.perform op >>= rest) post raised origin state := by
  rw [Program.perform, Program.act_bind, wp_act running]
  intro choice found moved executed
  rw [executes] at executed
  cases executed
  exact known

theorem wp_perform {op : Op} {post : Res op → State → State → Prop}
    {raised : Err → State → State → Prop} {origin state after : State} {result : Res op}
    (running : machine.yields op = false)
    (executes : ∀ choice, machine.exec thread op choice state = some (result, after))
    (known : post result origin after) :
    wp machine contract thread (Program.perform op) post raised origin state := by
  rw [Program.perform, wp_act running]
  intro choice found moved executed
  rw [executes] at executed
  cases executed
  exact known

theorem wp_await {op : Op} {rest : Res op → Program Op Res Err α} {fact : State → Prop}
    {post : α → State → State → Prop} {raised : Err → State → State → Prop}
    {origin state : State} (yielding : machine.yields op = true)
    (stable : contract.Stable thread fact) (within : contract.guarantee thread origin state)
    (kept : contract.invariant state) (known : fact state)
    (continues : ∀ moved choice result after, contract.invariant moved → fact moved →
      contract.permitted thread op choice moved →
      machine.exec thread op choice moved = some (result, after) →
      wp machine contract thread (rest result) post raised moved after) :
    wp machine contract thread (Program.perform op >>= rest) post raised origin state := by
  rw [Program.perform, Program.act_bind, wp_pause yielding]
  refine ⟨within, kept, ?_⟩
  intro moved moves choice result after permitted executed
  exact continues moved choice result after (moves.invariant kept)
    (stable.environment known moves) permitted executed

theorem wp_mono {program : Program Op Res Err α} {post post' : α → State → State → Prop}
    {raised raised' : Err → State → State → Prop} {origin state : State}
    (known : wp machine contract thread program post raised origin state)
    (weaker : ∀ value origin state, post value origin state → post' value origin state)
    (weakerRaised : ∀ error origin state, raised error origin state →
      raised' error origin state) :
    wp machine contract thread program post' raised' origin state := by
  induction program generalizing origin state with
  | ret value => exact weaker value origin state known
  | raise error => exact weakerRaised error origin state known
  | act op next ih =>
      cases yielding : machine.yields op with
      | true =>
          rw [wp_pause yielding] at known ⊢
          refine ⟨known.1, known.2.1, ?_⟩
          intro moved moves choice result after permitted executed
          exact ih result (known.2.2 moved moves choice result after permitted executed)
      | false =>
          rw [wp_act yielding] at known ⊢
          intro choice result after executed
          exact ih result (known choice result after executed)

theorem wp_bind {program : Program Op Res Err α} {rest : α → Program Op Res Err β}
    {post : β → State → State → Prop} {raised : Err → State → State → Prop} :
    wp machine contract thread (program >>= rest) post raised =
      wp machine contract thread program
        (fun value => wp machine contract thread (rest value) post raised) raised := by
  induction program with
  | ret value => rfl
  | raise error => rfl
  | act op next ih =>
      funext origin state
      rw [Program.act_bind]
      simp only [wp, ih]

theorem wp_handle {program : Program Op Res Err α} {handler : Err → Program Op Res Err α}
    {post : α → State → State → Prop} {raised : Err → State → State → Prop} :
    wp machine contract thread (program.handle handler) post raised =
      wp machine contract thread program post
        (fun error => wp machine contract thread (handler error) post raised) := by
  induction program with
  | ret value => rfl
  | raise error => rfl
  | act op next ih =>
      funext origin state
      rw [Program.act_handle]
      simp only [wp, ih]

theorem wp_ensure {program : Program Op Res Err α} {cleanup : Program Op Res Err Unit}
    {post : α → State → State → Prop} {raised : Err → State → State → Prop} :
    wp machine contract thread (program.ensure cleanup) post raised =
      wp machine contract thread program
        (fun value => wp machine contract thread cleanup (fun _ => post value) raised)
        (fun error => wp machine contract thread cleanup (fun _ => raised error) raised) := by
  simp only [Program.ensure, Program.pure_eq, wp_bind, wp_handle, wp_ret, wp_raise]

/-! Preemptive threads pause before every operation, so facts about one state are enough. -/

/-- From any state with `pre`, the program keeps to the contract and ends with `post` or, by an
exception, with `raised`. -/
def Triple (machine : Machine Op Res Err Tid Val State Choice)
    (contract : Contract Op Tid State Choice) (thread : Tid) (pre : State → Prop)
    (program : Program Op Res Err α) (post : α → State → Prop)
    (raised : Err → State → Prop) : Prop :=
  ∀ origin state, contract.guarantee thread origin state → contract.invariant state →
    pre state → wp machine contract thread program
      (fun value origin state => contract.guarantee thread origin state ∧
        contract.invariant state ∧ post value state)
      (fun error origin state => contract.guarantee thread origin state ∧
        contract.invariant state ∧ raised error state) origin state

theorem Triple.ret {value : α} {pre : State → Prop} {post : α → State → Prop}
    {raised : Err → State → Prop}
    (ends : ∀ state, contract.invariant state → pre state → post value state) :
    Triple machine contract thread pre (.ret value) post raised :=
  fun _ state within kept known => ⟨within, kept, ends state kept known⟩

theorem Triple.raise {error : Err} {pre : State → Prop} {post : α → State → Prop}
    {raised : Err → State → Prop}
    (ends : ∀ state, contract.invariant state → pre state → raised error state) :
    Triple machine contract thread pre (.raise error) post raised :=
  fun _ state within kept known => ⟨within, kept, ends state kept known⟩

theorem Triple.weaken {pre pre' : State → Prop} {program : Program Op Res Err α}
    {post post' : α → State → Prop} {raised raised' : Err → State → Prop}
    (triple : Triple machine contract thread pre program post raised)
    (stronger : ∀ state, contract.invariant state → pre' state → pre state)
    (weaker : ∀ value state, contract.invariant state → post value state → post' value state)
    (weakerRaised : ∀ error state, contract.invariant state → raised error state →
      raised' error state) :
    Triple machine contract thread pre' program post' raised' := by
  intro origin state within kept known
  apply wp_mono (triple origin state within kept (stronger state kept known))
  · intro value origin state ended
    exact ⟨ended.1, ended.2.1, weaker value state ended.2.1 ended.2.2⟩
  · intro error origin state ended
    exact ⟨ended.1, ended.2.1, weakerRaised error state ended.2.1 ended.2.2⟩

theorem Triple.pre {pre pre' : State → Prop} {program : Program Op Res Err α}
    {post : α → State → Prop} {raised : Err → State → Prop}
    (triple : Triple machine contract thread pre program post raised)
    (stronger : ∀ state, contract.invariant state → pre' state → pre state) :
    Triple machine contract thread pre' program post raised :=
  triple.weaken stronger (fun _ _ _ known => known) (fun _ _ _ known => known)

theorem Triple.post {pre : State → Prop} {program : Program Op Res Err α}
    {post post' : α → State → Prop} {raised : Err → State → Prop}
    (triple : Triple machine contract thread pre program post raised)
    (weaker : ∀ value state, contract.invariant state → post value state → post' value state) :
    Triple machine contract thread pre program post' raised :=
  triple.weaken (fun _ _ known => known) weaker (fun _ _ _ known => known)

theorem Triple.exists {ι : Type} {pre : ι → State → Prop} {program : Program Op Res Err α}
    {post : α → State → Prop} {raised : Err → State → Prop}
    (each : ∀ witness, Triple machine contract thread (pre witness) program post raised) :
    Triple machine contract thread (fun state => ∃ witness, pre witness state) program post
      raised :=
  fun origin state within kept ⟨witness, known⟩ => each witness origin state within kept known

theorem Triple.assuming {fact : Prop} {pre : State → Prop} {program : Program Op Res Err α}
    {post : α → State → Prop} {raised : Err → State → Prop}
    (given : fact → Triple machine contract thread pre program post raised) :
    Triple machine contract thread (fun state => fact ∧ pre state) program post raised :=
  fun origin state within kept ⟨holds, known⟩ => given holds origin state within kept known

theorem Triple.vacuous {pre : State → Prop} {program : Program Op Res Err α}
    {post : α → State → Prop} {raised : Err → State → Prop} (never : ∀ state, ¬pre state) :
    Triple machine contract thread pre program post raised :=
  fun _ state _ _ known => absurd known (never state)

theorem Triple.orRaise {outcome : Except Err α} {pre : State → Prop} {post : α → State → Prop}
    {raised : Err → State → Prop} (ok : ∀ value, outcome = .ok value → ∀ state, pre state →
      post value state)
    (error : ∀ error, outcome = .error error → ∀ state, pre state → raised error state) :
    Triple machine contract thread pre (Program.orRaise outcome) post raised := by
  intro origin state within kept known
  cases outcome with
  | ok value => exact ⟨within, kept, ok value rfl state known⟩
  | error failure => exact ⟨within, kept, error failure rfl state known⟩

theorem Triple.bind {pre : State → Prop} {program : Program Op Res Err α}
    {rest : α → Program Op Res Err β} {middle : α → State → Prop} {post : β → State → Prop}
    {raised : Err → State → Prop}
    (first : Triple machine contract thread pre program middle raised)
    (second : ∀ value, Triple machine contract thread (middle value) (rest value) post raised) :
    Triple machine contract thread pre (program >>= rest) post raised := by
  intro origin state within kept known
  rw [wp_bind]
  apply wp_mono (first origin state within kept known)
  · intro value origin state ended
    exact second value origin state ended.1 ended.2.1 ended.2.2
  · exact fun _ _ _ ended => ended

theorem Triple.discard {pre post : State → Prop} {program : Program Op Res Err α}
    {raised : Err → State → Prop}
    (known : Triple machine contract thread pre program (fun _ => post) raised) :
    Triple machine contract thread pre (discard program) (fun _ => post) raised :=
  known.bind fun _ => Triple.ret fun _ _ ended => ended

theorem Triple.raising {pre : State → Prop} {program : Program Op Res Err (Except Err α)}
    {post : α → State → Prop} {raised : Err → State → Prop}
    (known : Triple machine contract thread pre program (fun result state => match result with
      | .ok value => post value state
      | .error error => raised error state) raised) :
    Triple machine contract thread pre (program >>= Program.orRaise) post raised := by
  refine known.bind fun result => ?_
  cases result with
  | ok value => exact Triple.orRaise (fun _ same _ known => by cases same; exact known) (by simp)
  | error error => exact Triple.orRaise (by simp) (fun _ same _ known => by cases same; exact known)

theorem Triple.handle {pre : State → Prop} {program : Program Op Res Err α}
    {handler : Err → Program Op Res Err α} {post : α → State → Prop}
    {middle raised : Err → State → Prop}
    (first : Triple machine contract thread pre program post middle)
    (second : ∀ error, Triple machine contract thread (middle error) (handler error) post raised) :
    Triple machine contract thread pre (program.handle handler) post raised := by
  intro origin state within kept known
  rw [wp_handle]
  apply wp_mono (first origin state within kept known)
  · exact fun _ _ _ ended => ended
  · intro error origin state ended
    exact second error origin state ended.1 ended.2.1 ended.2.2

theorem Triple.ensure {pre : State → Prop} {program : Program Op Res Err α}
    {cleanup : Program Op Res Err Unit} {middle post : α → State → Prop}
    {failed raised : Err → State → Prop}
    (body : Triple machine contract thread pre program middle failed)
    (normal : ∀ value, Triple machine contract thread (middle value) cleanup
      (fun _ => post value) raised)
    (abnormal : ∀ error, Triple machine contract thread (failed error) cleanup
      (fun _ => raised error) raised) :
    Triple machine contract thread pre (program.ensure cleanup) post raised := by
  intro origin state within kept known
  rw [wp_ensure]
  apply wp_mono (body origin state within kept known)
  · intro value origin state ended
    exact normal value origin state ended.1 ended.2.1 ended.2.2
  · intro error origin state ended
    exact abnormal error origin state ended.1 ended.2.1 ended.2.2

theorem wp_frame {program : Program Op Res Err α} {post : α → State → State → Prop}
    {raised : Err → State → State → Prop} {fact : State → Prop} {origin state : State}
    (yielding : ∀ op, machine.yields op = true) (stable : contract.Stable thread fact)
    (own : ∀ before after, contract.guarantee thread before after → fact before → fact after)
    (known : wp machine contract thread program post raised origin state)
    (start : contract.guarantee thread origin state → fact state) :
    wp machine contract thread program
      (fun value origin state => post value origin state ∧
        (contract.guarantee thread origin state → fact state))
      (fun error origin state => raised error origin state ∧
        (contract.guarantee thread origin state → fact state)) origin state := by
  induction program generalizing origin state with
  | ret value => exact ⟨known, start⟩
  | raise error => exact ⟨known, start⟩
  | act op next ih =>
      rw [wp_pause (yielding op)] at known ⊢
      obtain ⟨within, kept, continues⟩ := known
      refine ⟨within, kept, ?_⟩
      intro moved moves choice result after permitted executed
      apply ih result (continues moved moves choice result after permitted executed)
      intro within'
      exact own moved after within' (stable.environment (start within) moves)

theorem Triple.frame {pre fact : State → Prop} {program : Program Op Res Err α}
    {post : α → State → Prop} {raised : Err → State → Prop}
    (triple : Triple machine contract thread pre program post raised)
    (yielding : ∀ op, machine.yields op = true) (stable : contract.Stable thread fact)
    (own : ∀ before after, contract.guarantee thread before after → fact before → fact after) :
    Triple machine contract thread (fun state => pre state ∧ fact state) program
      (fun value state => post value state ∧ fact state)
      (fun error state => raised error state ∧ fact state) := by
  intro origin state within kept known
  refine wp_mono (wp_frame yielding stable own (triple origin state within kept known.1)
    fun _ => known.2) ?_ ?_
  · rintro value origin state ⟨⟨within, kept, ended⟩, framed⟩
    exact ⟨within, kept, ended, framed within⟩
  · rintro error origin state ⟨⟨within, kept, ended⟩, framed⟩
    exact ⟨within, kept, ended, framed within⟩

/-- The rule of an operation: what is known before it must be stable, and its effect must keep
the invariant and the guarantee. -/
theorem Triple.perform {op : Op} {pre : State → Prop} {post : Res op → State → Prop}
    {raised : Err → State → Prop} (yielding : machine.yields op = true)
    (stable : contract.Stable thread pre)
    (effect : ∀ state choice result after, contract.invariant state → pre state →
      contract.permitted thread op choice state →
      machine.exec thread op choice state = some (result, after) →
      contract.guarantee thread state after ∧ contract.invariant after ∧ post result after) :
    Triple machine contract thread pre (Program.perform op) post raised := by
  intro origin state within kept known
  rw [Program.perform, wp_pause yielding]
  refine ⟨within, kept, ?_⟩
  intro moved moves choice result after permitted executed
  have kept' := moves.invariant kept
  exact effect moved choice result after kept' (stable.environment known moves) permitted executed

theorem Triple.act {op : Op} {pre : State → Prop} {post : Res op → State → Prop}
    {raised : Err → State → Prop} (running : machine.yields op = false)
    (trans : ∀ before middle after, contract.guarantee thread before middle →
      contract.guarantee thread middle after → contract.guarantee thread before after)
    (effect : ∀ state choice result after, contract.invariant state → pre state →
      machine.exec thread op choice state = some (result, after) →
      contract.guarantee thread state after ∧ contract.invariant after ∧ post result after) :
    Triple machine contract thread pre (Program.perform op) post raised := by
  intro origin state within kept known
  rw [Program.perform, wp_act running]
  intro choice result after executed
  obtain ⟨moved, kept', ended⟩ := effect state choice result after kept known executed
  exact ⟨trans origin state after within moved, kept', ended⟩

/-! From the threads to the whole machine. -/

def Promise (machine : Machine Op Res Err Tid Val State Choice)
    (contract : Contract Op Tid State Choice)
    (rest : (thread : Tid) → Except Err (Val thread) → State → Prop) (thread : Tid)
    (program : Program Op Res Err (Val thread)) (state : State) : Prop :=
  match program with
  | .ret value => rest thread (.ok value) state
  | .raise error => rest thread (.error error) state
  | .act op next => machine.yields op = true ∧
      ∀ moved, contract.Environment thread state moved → ∀ choice result after,
        contract.permitted thread op choice moved →
        machine.exec thread op choice moved = some (result, after) →
        wp machine contract thread (next result)
          (fun value origin state => contract.guarantee thread origin state ∧
            contract.invariant state ∧ rest thread (.ok value) state)
          (fun error origin state => contract.guarantee thread origin state ∧
            contract.invariant state ∧ rest thread (.error error) state) moved after

/-- Every program a thread may take up keeps to the contract from what the thread knows between
two programs, and ends with that knowledge. -/
structure Verified (machine : Machine Op Res Err Tid Val State Choice)
    (contract : Contract Op Tid State Choice)
    (rest : (thread : Tid) → Except Err (Val thread) → State → Prop) : Prop where
  stable : ∀ thread outcome, contract.Stable thread (rest thread outcome)
  programs : ∀ thread outcome choice program state, contract.invariant state →
    rest thread outcome state → machine.start thread outcome choice = some program →
    wp machine contract thread program
      (fun value origin state => contract.guarantee thread origin state ∧
        contract.invariant state ∧ rest thread (.ok value) state)
      (fun error origin state => contract.guarantee thread origin state ∧
        contract.invariant state ∧ rest thread (.error error) state) state state

variable {rest : (thread : Tid) → Except Err (Val thread) → State → Prop}

theorem Promise.environment {program : Program Op Res Err (Val thread)} {before after : State}
    (stable : ∀ outcome, contract.Stable thread (rest thread outcome))
    (promise : Promise machine contract rest thread program before)
    (moves : contract.Environment thread before after) :
    Promise machine contract rest thread program after := by
  cases program with
  | ret value => exact (stable _).environment promise moves
  | raise error => exact (stable _).environment promise moves
  | act op next =>
      refine ⟨promise.1, ?_⟩
      intro moved later
      exact promise.2 moved (moves.trans later)

theorem wp_segment {program last : Program Op Res Err (Val thread)} {origin state final : State}
    (known : wp machine contract thread program
      (fun value origin state => contract.guarantee thread origin state ∧
        contract.invariant state ∧ rest thread (.ok value) state)
      (fun error origin state => contract.guarantee thread origin state ∧
        contract.invariant state ∧ rest thread (.error error) state) origin state)
    (segment : machine.Segment thread program state last final) :
    contract.guarantee thread origin final ∧ contract.invariant final ∧
      Promise machine contract rest thread last final := by
  induction segment with
  | ret => exact known
  | raise => exact known
  | pause yielding =>
      rw [wp_pause yielding] at known
      exact ⟨known.1, known.2.1, yielding, known.2.2⟩
  | act running executed _ ih =>
      rw [wp_act running] at known
      exact ih (known _ _ _ executed)

def Sound (machine : Machine Op Res Err Tid Val State Choice)
    (contract : Contract Op Tid State Choice)
    (rest : (thread : Tid) → Except Err (Val thread) → State → Prop)
    (config : Config Op Res Err Tid Val State) : Prop :=
  contract.invariant config.shared ∧
    ∀ thread, Promise machine contract rest thread (config.program thread) config.shared

variable [DecidableEq Tid]

theorem Sound.step {config next : Config Op Res Err Tid Val State} {choice : Choice}
    (verified : Verified machine contract rest) (sound : Sound machine contract rest config)
    (permitted : ∀ op rest, config.program thread = .act op rest →
      contract.permitted thread op choice config.shared)
    (step : machine.Step config thread choice next) :
    contract.guarantee thread config.shared next.shared ∧ Sound machine contract rest next := by
  have others {final : State} {program : Program Op Res Err (Val thread)}
      (kept : contract.guarantee thread config.shared final ∧ contract.invariant final ∧
        Promise machine contract rest thread program final) :
      contract.guarantee thread config.shared final ∧ Sound machine contract rest
        ⟨final, Function.update config.program thread program⟩ := by
    refine ⟨kept.1, kept.2.1, ?_⟩
    intro other
    by_cases same : other = thread
    · subst other
      simpa using kept.2.2
    · simp only [ne_eq, same, not_false_eq_true, Function.update_of_ne]
      refine (sound.2 other).environment (verified.stable other) ?_
      exact .single ⟨thread, Ne.symm same, kept.1, sound.1, kept.2.1⟩
  cases step with
  | act programEq executed segment =>
      have promise := sound.2 thread
      rw [programEq] at promise
      exact others (wp_segment
        (promise.2 _ .refl _ _ _ (permitted _ _ programEq) executed) segment)
  | @start outcome first program final outcomeEq started segment =>
      have promise := sound.2 thread
      have resting : rest thread outcome config.shared := by
        cases programEq : config.program thread with
        | ret value =>
            rw [programEq] at promise outcomeEq
            cases outcomeEq
            exact promise
        | raise error =>
            rw [programEq] at promise outcomeEq
            cases outcomeEq
            exact promise
        | act op next =>
            rw [programEq] at outcomeEq
            cases outcomeEq
      exact others (wp_segment
        (verified.programs thread _ _ _ _ sound.1 resting started) segment)

/-- The run rule: what holds of the initial configuration and is kept by every thread's programs
holds in every reachable configuration. -/
theorem Verified.reachable {allow : Config Op Res Err Tid Val State → Tid → Choice → Prop}
    {initial config : Config Op Res Err Tid Val State}
    (verified : Verified machine contract rest)
    (permitted : ∀ config thread choice op next, allow config thread choice →
      config.program thread = .act op next → contract.permitted thread op choice config.shared)
    (start : Sound machine contract rest initial)
    (reached : machine.Reachable allow initial config) :
    Sound machine contract rest config := by
  induction reached with
  | initial => exact start
  | step _ allowed step ih =>
      exact (Sound.step verified ih (fun op next => permitted _ _ _ op next allowed) step).2

variable {config₀ config next : Config Op Res Err Tid Val State} {choice : Choice}

omit [DecidableEq Tid] in
theorem Promise.moves {program : Program Op Res Err (Val thread)} {before after : State}
    (promise : Promise machine contract rest thread program before)
    (busy : program.outcome = none) (moves : contract.Environment thread before after) :
    Promise machine contract rest thread program after := by
  cases program with
  | ret value => cases busy
  | raise error => cases busy
  | act op next =>
      refine ⟨promise.1, ?_⟩
      intro moved later
      exact promise.2 moved (moves.trans later)

theorem Promise.step
    (promise : Promise machine contract rest thread (config.program thread) config.shared)
    (busy : (config.program thread).outcome = none)
    (permitted : ∀ op rest, config.program thread = .act op rest →
      contract.permitted thread op choice config.shared)
    (step : machine.Step config thread choice next) :
    Promise machine contract rest thread (next.program thread) next.shared := by
  cases step with
  | act programEq executed segment =>
      rw [programEq] at promise
      have continues := promise.2 _ .refl _ _ _ (permitted _ _ programEq) executed
      simpa using (wp_segment continues segment).2.2
  | start outcomeEq started segment =>
      rw [busy] at outcomeEq
      cases outcomeEq

def Working (allow : Config Op Res Err Tid Val State → Tid → Choice → Prop) (thread : Tid)
    (config : Config Op Res Err Tid Val State) (mover : Tid) (choice : Choice) : Prop :=
  allow config mover choice ∧ (mover = thread → (config.program thread).outcome = none)

theorem Verified.during {allow : Config Op Res Err Tid Val State → Tid → Choice → Prop}
    {final : (thread : Tid) → Except Err (Val thread) → State → Prop}
    (verified : Verified machine contract rest)
    (permitted : ∀ config thread choice op next, allow config thread choice →
      config.program thread = .act op next → contract.permitted thread op choice config.shared)
    (sound : Sound machine contract rest config₀)
    (begun : Promise machine contract final thread (config₀.program thread) config₀.shared)
    (reached : machine.Reachable (Working allow thread) config₀ config) :
    Sound machine contract rest config ∧ ((config.program thread).outcome = none →
      Promise machine contract final thread (config.program thread) config.shared) := by
  induction reached with
  | initial => exact ⟨sound, fun _ => begun⟩
  | @step config mover choice next _ allowed step ih =>
      obtain ⟨sound, promise⟩ := ih
      have within (op : Op) (rest : Res op → Program Op Res Err (Val mover)) :=
        permitted config mover choice op rest allowed.1
      obtain ⟨moved, sound'⟩ := Sound.step verified sound within step
      refine ⟨sound', fun busy => ?_⟩
      by_cases same : mover = thread
      · subst same
        have working := allowed.2 rfl
        exact (promise working).step working within step
      · have unmoved : next.program thread = config.program thread := by
          cases step with
          | act => exact Function.update_of_ne (Ne.symm same) _ _
          | start => exact Function.update_of_ne (Ne.symm same) _ _
        rw [unmoved] at busy ⊢
        exact (promise busy).moves busy (.single ⟨mover, same, moved, sound.1, sound'.1⟩)

omit [DecidableEq Tid] in
theorem Sound.resting {outcome : Except Err (Val thread)}
    (sound : Sound machine contract rest config)
    (idle : (config.program thread).outcome = some outcome) :
    rest thread outcome config.shared := by
  have promise := sound.2 thread
  cases programEq : config.program thread with
  | act op next =>
      rw [programEq] at idle
      cases idle
  | ret value =>
      rw [programEq] at promise idle
      cases idle
      exact promise
  | raise error =>
      rw [programEq] at promise idle
      cases idle
      exact promise

/-- The run rule for one program from its start to its end. -/
theorem Verified.concludes {allow : Config Op Res Err Tid Val State → Tid → Choice → Prop}
    {final : (thread : Tid) → Except Err (Val thread) → State → Prop}
    {config₁ : Config Op Res Err Tid Val State} {result : Except Err (Val thread)} {last : Choice}
    (verified : Verified machine contract rest)
    (permitted : ∀ config thread choice op next, allow config thread choice →
      config.program thread = .act op next → contract.permitted thread op choice config.shared)
    (sound : Sound machine contract rest config₀)
    (idle : (config₀.program thread).outcome ≠ none)
    (begins : machine.Step config₀ thread choice config₁)
    (starts : ∀ outcome program, rest thread outcome config₀.shared →
      machine.start thread outcome choice = some program →
      wp machine contract thread program
        (fun value origin state => contract.guarantee thread origin state ∧
          contract.invariant state ∧ final thread (.ok value) state)
        (fun error origin state => contract.guarantee thread origin state ∧
          contract.invariant state ∧ final thread (.error error) state)
        config₀.shared config₀.shared)
    (running : machine.Reachable (Working allow thread) config₁ config)
    (busy : (config.program thread).outcome = none) (allowed : allow config thread last)
    (ends : machine.Step config thread last next)
    (ended : (next.program thread).outcome = some result) : final thread result next.shared := by
  have started : Sound machine contract rest config₁ ∧
      Promise machine contract final thread (config₁.program thread) config₁.shared := by
    have within (op : Op) (following : Res op → Program Op Res Err (Val thread))
        (programEq : config₀.program thread = .act op following) :
        contract.permitted thread op choice config₀.shared :=
      absurd (by rw [programEq]; rfl) idle
    refine ⟨(Sound.step verified sound within begins).2, ?_⟩
    cases begins with
    | act programEq => exact absurd (by rw [programEq]; rfl) idle
    | start outcomeEq started segment =>
        simpa using (wp_segment (starts _ _ (sound.resting outcomeEq) started) segment).2.2
  have promise := (verified.during permitted started.1 started.2 running).2 busy
  have kept := promise.step busy (fun op following => permitted _ _ _ op following allowed) ends
  cases programEq : next.program thread with
  | act op following =>
      rw [programEq] at ended
      cases ended
  | ret value =>
      rw [programEq] at kept ended
      cases ended
      exact kept
  | raise error =>
      rw [programEq] at kept ended
      cases ended
      exact kept

omit [DecidableEq Tid] in
theorem wp_starts {start : (thread : Tid) → Except Err (Val thread) → Choice →
      Option (Program Op Res Err (Val thread))} {program : Program Op Res Err α}
    {post : α → State → State → Prop} {raised : Err → State → State → Prop} :
    wp { machine with start := start } contract thread program post raised =
      wp machine contract thread program post raised := by
  induction program with
  | ret value => rfl
  | raise error => rfl
  | act op next ih =>
      funext origin state
      simp only [wp, ih]

end Interleaving
