import DflockdClient.Interleaving.Machine

/-!
Disciplines and progress. What a thread holds decides which operations it may
perform next. A program that keeps to this can be read off operation by operation,
and driven to its end wherever the others can be made to let it pass.
-/

namespace Interleaving

variable {Op : Type} {Res : Op → Type} {Err : Type} {Tid : Type} {Val : Tid → Type}
  {State Choice : Type} {Held : Type} {α β : Type}

/-- Which operations are allowed, what they can return, and what is held after them. -/
structure Discipline (Op : Type) (Res : Op → Type) (Held : Type) where
  allowed : Held → Op → Prop
  returns : Held → (op : Op) → Res op → Prop
  after : Held → (op : Op) → Res op → Held

/-- The program performs what is allowed, and ends with the postcondition. -/
def Obeys (rules : Discipline Op Res Held) (program : Program Op Res Err α)
    (post : α → Held → Prop) (raised : Err → Held → Prop) (held : Held) : Prop :=
  match program with
  | .ret value => post value held
  | .raise error => raised error held
  | .act op next => rules.allowed held op ∧ ∀ result, rules.returns held op result →
      Obeys rules (next result) post raised (rules.after held op result)

section Rules

variable {rules : Discipline Op Res Held} {post post' : α → Held → Prop}
  {raised raised' : Err → Held → Prop} {held : Held}

@[simp] theorem obeys_ret {value : α} : Obeys rules (.ret value) post raised = post value := rfl

@[simp] theorem obeys_raise {error : Err} :
    Obeys rules (.raise error : Program Op Res Err α) post raised = raised error := rfl

@[simp] theorem obeys_bind {program : Program Op Res Err α} {rest : α → Program Op Res Err β}
    {post : β → Held → Prop} :
    Obeys rules (program >>= rest) post raised =
      Obeys rules program (fun value => Obeys rules (rest value) post raised) raised := by
  induction program with
  | ret value => rfl
  | raise error => rfl
  | act op next ih =>
      funext held
      simp only [Program.act_bind, Obeys, ih]

@[simp] theorem obeys_handle {program : Program Op Res Err α}
    {handler : Err → Program Op Res Err α} :
    Obeys rules (program.handle handler) post raised =
      Obeys rules program post (fun error => Obeys rules (handler error) post raised) := by
  induction program with
  | ret value => rfl
  | raise error => rfl
  | act op next ih =>
      funext held
      simp only [Program.act_handle, Obeys, ih]

@[simp] theorem obeys_ensure {program : Program Op Res Err α}
    {cleanup : Program Op Res Err Unit} :
    Obeys rules (program.ensure cleanup) post raised =
      Obeys rules program
        (fun value => Obeys rules cleanup (fun _ => post value) raised)
        (fun error => Obeys rules cleanup (fun _ => raised error) raised) := by
  simp only [Program.ensure, Program.pure_eq, obeys_bind, obeys_handle, obeys_ret, obeys_raise]

@[simp] theorem obeys_discard {program : Program Op Res Err α} {post : Unit → Held → Prop} :
    Obeys rules (discard program) post raised =
      Obeys rules program (fun _ => post ()) raised := obeys_bind

@[simp] theorem obeys_orRaise {outcome : Except Err α} :
    Obeys rules (Program.orRaise outcome) post raised =
      match outcome with
      | .ok value => post value
      | .error error => raised error := by
  cases outcome <;> rfl

theorem Obeys.mono {program : Program Op Res Err α} (known : Obeys rules program post raised held)
    (weaker : ∀ value held, post value held → post' value held)
    (weakerRaised : ∀ error held, raised error held → raised' error held) :
    Obeys rules program post' raised' held := by
  induction program generalizing held with
  | ret value => exact weaker value held known
  | raise error => exact weakerRaised error held known
  | act op next ih =>
      exact ⟨known.1, fun result returned => ih result (known.2 result returned)⟩

end Rules

def Program.Uses (kind : Op → Prop) (program : Program Op Res Err α) : Prop :=
  match program with
  | .ret _ | .raise _ => True
  | .act op next => kind op ∧ ∀ result, Uses kind (next result)

namespace Program.Uses

variable {kind : Op → Prop} {program : Program Op Res Err α}

@[simp] theorem ret {value : α} : Uses kind (.ret value : Program Op Res Err α) := trivial

@[simp] theorem raise {error : Err} : Uses kind (.raise error : Program Op Res Err α) := trivial

theorem mono {kind' : Op → Prop} (known : Uses kind program) (weaker : ∀ op, kind op → kind' op) :
    Uses kind' program := by
  induction program with
  | ret value => trivial
  | raise error => trivial
  | act op next ih => exact ⟨weaker op known.1, fun result => ih result (known.2 result)⟩

theorem perform {op : Op} (known : kind op) :
    Uses kind (Program.perform op : Program Op Res Err (Res op)) :=
  ⟨known, fun _ => trivial⟩

theorem bind {rest : α → Program Op Res Err β} (first : Uses kind program)
    (second : ∀ value, Uses kind (rest value)) : Uses kind (program >>= rest) := by
  induction program with
  | ret value => exact second value
  | raise error => trivial
  | act op next ih => exact ⟨first.1, fun result => ih result (first.2 result)⟩

theorem handle {handler : Err → Program Op Res Err α} (first : Uses kind program)
    (second : ∀ error, Uses kind (handler error)) : Uses kind (program.handle handler) := by
  induction program with
  | ret value => trivial
  | raise error => exact second error
  | act op next ih => exact ⟨first.1, fun result => ih result (first.2 result)⟩

theorem discard (known : Uses kind program) : Uses kind (discard program) :=
  known.bind fun _ => trivial

theorem orRaise {outcome : Except Err α} :
    Uses kind (Program.orRaise outcome : Program Op Res Err α) := by
  cases outcome <;> trivial

theorem obeys {rules : Discipline Op Res Held} {post : α → Held → Prop}
    {raised : Err → Held → Prop} {held : Held} (uses : Uses kind program)
    (free : ∀ op, kind op → rules.allowed held op ∧ ∀ result, rules.after held op result = held)
    (ends : ∀ value, post value held) (fails : ∀ error, raised error held) :
    Obeys rules program post raised held := by
  induction program with
  | ret value => exact ends value
  | raise error => exact fails error
  | act op next ih =>
      refine ⟨(free op uses.1).1, fun result _ => ?_⟩
      rw [(free op uses.1).2 result]
      exact ih result (uses.2 result)

end Program.Uses

inductive Program.Leads : Program Op Res Err α → Program Op Res Err α → Prop
  | refl (program) : Leads program program
  | act {op next result last} : Leads (next result) last → Leads (.act op next) last

namespace Machine

variable {machine : Machine Op Res Err Tid Val State Choice} [DecidableEq Tid]

theorem Reachable.trans {allow : Config Op Res Err Tid Val State → Tid → Choice → Prop}
    {first middle last : Config Op Res Err Tid Val State}
    (before : machine.Reachable allow first middle) (after : machine.Reachable allow middle last) :
    machine.Reachable allow first last := by
  induction after with
  | initial => exact before
  | step _ allowed step ih => exact .step ih allowed step

/-- A thread gets to its goal when it has got there at the end of its program, and when from each
of its operations either the goal or a later operation can be reached. -/
theorem drive {allow : Config Op Res Err Tid Val State → Tid → Choice → Prop} (thread : Tid)
    (good goal : Config Op Res Err Tid Val State → Prop)
    (ends : ∀ config, good config → (config.program thread).outcome ≠ none → goal config)
    (steps : ∀ config op next, good config → config.program thread = .act op next →
      ∃ final, machine.Reachable allow config final ∧
        (goal final ∨ good final ∧ ∃ result, (next result).Leads (final.program thread)))
    (config : Config Op Res Err Tid Val State) (known : good config) :
    ∃ final, machine.Reachable allow config final ∧ goal final := by
  have driven : ∀ (program last : Program Op Res Err (Val thread)) config, good config →
      program.Leads last → config.program thread = last →
      ∃ final, machine.Reachable allow config final ∧ goal final := by
    intro program
    induction program with
    | ret value =>
        intro last config known leads same
        cases leads
        exact ⟨config, .initial, ends config known (by simp [same])⟩
    | raise error =>
        intro last config known leads same
        cases leads
        exact ⟨config, .initial, ends config known (by simp [same])⟩
    | act op next ih =>
        intro last config known leads same
        cases leads with
        | act leads => exact ih _ last config known leads same
        | refl =>
            obtain ⟨after, reached, done | ⟨known, result, leads⟩⟩ :=
              steps config op next known same
            · exact ⟨after, reached, done⟩
            · obtain ⟨final, further, done⟩ := ih result _ after known leads rfl
              exact ⟨final, reached.trans further, done⟩
  exact driven _ _ config known (.refl _) rfl

end Machine

section Governed

variable (machine : Machine Op Res Err Tid Val State Choice) [DecidableEq Tid]
  (rules : Tid → Discipline Op Res Held)
  (promise : (thread : Tid) → Except Err (Val thread) → Held → Prop)
  (agrees : State → (Tid → Held) → Prop) (ready : Tid → State → Prop)

def KeepsTo (thread : Tid) (program : Program Op Res Err (Val thread)) (held : Held) : Prop :=
  Obeys (rules thread) program (fun value => promise thread (.ok value))
    (fun error => promise thread (.error error)) held

/-- What the threads hold is what the state says they hold, step by step; and between two pauses
no operation of a thread that is ready can get stuck. -/
structure Governed : Prop where
  executes : ∀ {state held thread op choice result after}, agrees state held →
    (rules thread).allowed (held thread) op →
    machine.exec thread op choice state = some (result, after) →
    (rules thread).returns (held thread) op result ∧
      agrees after (Function.update held thread ((rules thread).after (held thread) op result))
  starts : ∀ {thread outcome choice program held}, promise thread outcome held →
    machine.start thread outcome choice = some program → KeepsTo rules promise thread program held
  stays : ∀ {state thread op choice result after}, ready thread state →
    machine.exec thread op choice state = some (result, after) → ready thread after
  running : ∀ {state held thread op}, agrees state held → ready thread state →
    (rules thread).allowed (held thread) op → machine.yields op = false →
    ∃ choice result after, machine.exec thread op choice state = some (result, after)

structure Disciplined (config : Config Op Res Err Tid Val State) (held : Tid → Held) : Prop where
  agrees : agrees config.shared held
  keeps : ∀ thread, KeepsTo rules promise thread (config.program thread) (held thread)

variable {machine rules promise agrees ready} {config next : Config Op Res Err Tid Val State}
  {held : Tid → Held} {thread : Tid} {choice : Choice}

omit [DecidableEq Tid] in
theorem KeepsTo.promised {program : Program Op Res Err (Val thread)} {own : Held}
    {outcome : Except Err (Val thread)} (keeps : KeepsTo rules promise thread program own)
    (ended : program.outcome = some outcome) : promise thread outcome own := by
  cases program with
  | ret value =>
      cases ended
      exact keeps
  | raise error =>
      cases ended
      exact keeps
  | act op next => cases ended

omit [DecidableEq Tid] in
theorem keepsTo_next {own : Held} {op : Op} {rest : Res op → Program Op Res Err (Val thread)}
    (keeps : KeepsTo rules promise thread (.act op rest) own) {result : Res op}
    (returned : (rules thread).returns own op result) :
    KeepsTo rules promise thread (rest result) ((rules thread).after own op result) :=
  keeps.2 result returned

theorem Disciplined.moved {program : Program Op Res Err (Val thread)} {final : State} {own : Held}
    (kept : Disciplined rules promise agrees config held)
    (agreed : agrees final (Function.update held thread own))
    (keeps : KeepsTo rules promise thread program own) :
    Disciplined rules promise agrees ⟨final, Function.update config.program thread program⟩
      (Function.update held thread own) := by
  refine ⟨agreed, fun other => ?_⟩
  by_cases same : other = thread
  · subst same
    simpa using keeps
  · simpa [Function.update_of_ne same] using kept.keeps other

theorem Governed.segment (governed : Governed machine rules promise agrees ready)
    {program last : Program Op Res Err (Val thread)} {state final : State}
    (agreed : agrees state held) (keeps : KeepsTo rules promise thread program (held thread))
    (segment : machine.Segment thread program state last final) :
    ∃ own, agrees final (Function.update held thread own) ∧
      KeepsTo rules promise thread last own := by
  induction segment generalizing held with
  | ret | raise | pause => exact ⟨held thread, by simpa using agreed, keeps⟩
  | act _ executed _ ih =>
      obtain ⟨returned, moved⟩ := governed.executes agreed keeps.1 executed
      obtain ⟨own, ended⟩ := ih moved (by simpa using keepsTo_next keeps returned)
      exact ⟨own, by simpa using ended⟩

theorem Governed.step (governed : Governed machine rules promise agrees ready)
    (kept : Disciplined rules promise agrees config held)
    (step : machine.Step config thread choice next) :
    ∃ own, Disciplined rules promise agrees next (Function.update held thread own) := by
  have keeps := kept.keeps thread
  cases step with
  | act programEq executed segment =>
      rw [programEq] at keeps
      obtain ⟨returned, moved⟩ := governed.executes kept.agrees keeps.1 executed
      obtain ⟨own, agreed, ended⟩ :=
        governed.segment moved (by simpa using keepsTo_next keeps returned) segment
      exact ⟨own, kept.moved (by simpa using agreed) ended⟩
  | start found started segment =>
      obtain ⟨own, agreed, ended⟩ :=
        governed.segment kept.agrees (governed.starts (keeps.promised found) started) segment
      exact ⟨own, kept.moved agreed ended⟩

theorem Governed.reachable (governed : Governed machine rules promise agrees ready)
    {allow : Config Op Res Err Tid Val State → Tid → Choice → Prop}
    {initial : Config Op Res Err Tid Val State}
    (kept : Disciplined rules promise agrees initial held)
    (reached : machine.Reachable allow initial config) :
    ∃ held, Disciplined rules promise agrees config held := by
  induction reached with
  | initial => exact ⟨held, kept⟩
  | step _ _ step ih =>
      obtain ⟨held, kept⟩ := ih
      obtain ⟨own, kept⟩ := governed.step kept step
      exact ⟨_, kept⟩

theorem Governed.settles (governed : Governed machine rules promise agrees ready)
    {program : Program Op Res Err (Val thread)} {state : State} (agreed : agrees state held)
    (prepared : ready thread state) (keeps : KeepsTo rules promise thread program (held thread)) :
    ∃ last final own, machine.Segment thread program state last final ∧
      agrees final (Function.update held thread own) ∧ KeepsTo rules promise thread last own ∧
      program.Leads last := by
  induction program generalizing state held with
  | ret value => exact ⟨_, _, held thread, .ret, by simpa using agreed, keeps, .refl _⟩
  | raise error => exact ⟨_, _, held thread, .raise, by simpa using agreed, keeps, .refl _⟩
  | act op next ih =>
      cases yielding : machine.yields op with
      | true => exact ⟨_, _, held thread, .pause yielding, by simpa using agreed, keeps, .refl _⟩
      | false =>
          obtain ⟨choice, result, after, executed⟩ :=
            governed.running agreed prepared keeps.1 yielding
          obtain ⟨returned, moved⟩ := governed.executes agreed keeps.1 executed
          obtain ⟨last, final, own, segment, agreed, ended, leads⟩ :=
            ih result moved (governed.stays prepared executed)
              (by simpa using keepsTo_next keeps returned)
          exact ⟨last, final, own, .act yielding executed segment, by simpa using agreed, ended,
            .act leads⟩

theorem Governed.act (governed : Governed machine rules promise agrees ready)
    (kept : Disciplined rules promise agrees config held) (prepared : ready thread config.shared)
    {op : Op}
    {rest : Res op → Program Op Res Err (Val thread)}
    (programEq : config.program thread = .act op rest) {result : Res op} {after : State}
    (executed : machine.exec thread op choice config.shared = some (result, after)) :
    ∃ next own, machine.Step config thread choice next ∧
      Disciplined rules promise agrees next (Function.update held thread own) ∧
      (rest result).Leads (next.program thread) ∧
      ∀ other, other ≠ thread → next.program other = config.program other := by
  have keeps := kept.keeps thread
  rw [programEq] at keeps
  obtain ⟨returned, moved⟩ := governed.executes kept.agrees keeps.1 executed
  have ahead : KeepsTo rules promise thread (rest result)
      (Function.update held thread ((rules thread).after (held thread) op result) thread) := by
    simpa using keepsTo_next keeps returned
  obtain ⟨last, final, own, segment, agreed, ended, leads⟩ :=
    governed.settles moved (governed.stays prepared executed) ahead
  exact ⟨_, own, .act programEq executed segment, kept.moved (by simpa using agreed) ended,
    by simpa using leads, fun other different => Function.update_of_ne different _ _⟩

end Governed

end Interleaving
