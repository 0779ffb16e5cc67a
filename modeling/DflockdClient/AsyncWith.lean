import DflockdClient.AsyncRuns

/-!
`async with` on an asynchronous instance: `__aenter__`, a body that may do anything
with the instance, and `__aexit__`, among other tasks and renewal tasks.
-/

namespace DflockdClient.Async

open Interleaving
open Sync (Call CallValue)

variable (params : Params)

def aenter : Py Unit := do
  let acquired ← program params .acquire
  if acquired = .bool true then pure ()
  else throw ⟨.timeoutError, [.text (str "timeout acquiring "), .repr params.key]⟩

/-- `__aexit__`; what it logs is left out. -/
def aexit : Py Unit :=
  (discard (program params .release)).handle fun error =>
    if error.isException then pure () else throw error

def caught {α : Type} (program : Py α) : Py (Except PyError α) :=
  Program.handle (program >>= fun value => pure (.ok value)) fun error => pure (.error error)

/-- The body of an `async with`: it calls operations, waits, catches what they raise, or ends. -/
inductive Body
  | returns (value : CallValue)
  | fails (error : PyError)
  | calls (operation : Call) (next : Except PyError CallValue → Body)
  | pauses (interval : Rat) (next : Except PyError Unit → Body)

def Body.statements (body : Body) : Py CallValue :=
  match body with
  | .returns value => pure value
  | .fails error => throw error
  | .calls operation next => do
      let result ← caught (program params operation)
      (next result).statements
  | .pauses interval next => do
      let result ← perform (.sleep interval)
      (next result).statements

/-- `async with lock: body`. -/
def asyncWith (body : Body) : Py CallValue := do
  aenter params
  (body.statements params).ensure (aexit params)

def withStart (bodies : Nat → Body) (thread : Thread) (outcome : Except PyError (Val thread))
    (choice : Choice) : Option (Py (Val thread)) :=
  match thread with
  | .caller id =>
      if choice = .call .acquire then some (asyncWith params (bodies id))
      else start params (.caller id) outcome choice
  | .worker id => start params (.worker id) outcome choice
  | .other id => start params (.other id) outcome choice

def withMachine (bodies : Nat → Body) : Machine Op Op.Res PyError Thread Val World Choice :=
  { machine params with start := withStart params bodies }

namespace Shared

variable {params : Params} {gentle : Bool} {me : Nat}

theorem aenter_triple : CallerTriple params gentle me (Resting me) (aenter params)
    (fun _ => Resting me)
    (fun error world => Resting me world ∧ (error.cls = .cancelledError ∨ Nothing world)) := by
  refine program_triple.bind fun acquired => ?_
  split
  · exact Triple.ret fun _ _ known => known.1
  · rename_i refused
    refine Triple.raise fun world _ known => ⟨known.1, ?_⟩
    rcases known.2 with ⟨granted, _⟩ | ⟨_, nothing⟩
    · exact absurd granted refused
    · exact .inr nothing

theorem aexit_triple : CallerTriple params gentle me (Resting me) (aexit params)
    (fun _ world => Resting me world ∧ Nothing world)
    (fun error world => Resting me world ∧ (error.cls = .cancelledError ∨ Nothing world)) := by
  refine Triple.handle (Triple.discard program_triple) fun error => ?_
  split
  · rename_i ordinary
    refine Triple.ret fun world _ known => ⟨known.1, known.2.resolve_left ?_⟩
    intro stopped
    rw [PyError.isException, stopped] at ordinary
    cases ordinary
  · exact Triple.raise fun _ _ known => known

theorem pause_triple {interval : Rat} {raised : PyError → World → Prop} :
    CallerTriple params gentle me (Resting me) (perform (.sleep interval)) (fun _ => Resting me)
      raised := by
  refine Triple.perform rfl Resting.stable ?_
  intro world choice result after inv known _ executed
  rcases suspend_cases executed with ⟨_, rfl, rfl⟩ | ⟨_, resumed⟩
  · exact ⟨deliver_move, inv.untouched deliver_untouched, known⟩
  · split at resumed
    · cases resumed
      exact ⟨.refl, inv, known⟩
    · cases resumed

theorem statements_triple (body : Body) : CallerTriple params gentle me (Resting me)
    (body.statements params) (fun _ => Resting me) (fun _ => Resting me) := by
  induction body with
  | returns value => exact Triple.ret fun _ _ known => known
  | fails error => exact Triple.raise fun _ _ known => known
  | calls operation next ih =>
      have called : CallerTriple params gentle me (Resting me) (program params operation)
          (fun _ => Resting me) (fun _ => Resting me) :=
        program_triple.weaken (fun _ _ known => known) (fun _ _ _ known => known.1)
          (fun _ _ _ known => known.1)
      refine Triple.bind (Triple.handle (called.bind fun _ => ?_) fun _ => ?_) ih
      · exact Triple.ret fun _ _ known => known
      · exact Triple.ret fun _ _ known => known
  | pauses interval next ih => exact pause_triple.bind ih

theorem asyncWith_triple (body : Body) : CallerTriple params gentle me (Resting me)
    (asyncWith params body) (fun _ world => Resting me world ∧ Nothing world)
    (fun error world => Resting me world ∧ (error.cls = .cancelledError ∨ Nothing world)) := by
  refine aenter_triple.bind fun _ => ?_
  refine (statements_triple body).ensure (fun _ => aexit_triple) fun error => ?_
  exact aexit_triple.weaken (fun _ _ known => known) (fun _ _ _ known => ⟨known.1, .inr known.2⟩)
    (fun _ _ _ known => known)

theorem with_verified {bodies : Nat → Body} :
    Verified (withMachine params bodies) (contract params gentle) rest where
  stable := verified.stable
  programs := by
    intro thread outcome choice program world inv known started
    rw [withMachine, wp_starts]
    cases thread with
    | worker id => exact verified.programs (.worker id) outcome choice _ world inv known started
    | other id => exact verified.programs (.other id) outcome choice _ world inv known started
    | caller id =>
        have started : (if choice = .call .acquire then some (asyncWith params (bodies id))
          else start params (.caller id) outcome choice) = some program := started
        split at started
        · cases started
          have programs : CallerTriple params gentle id (Resting id) (asyncWith params (bodies id))
              (fun _ => Resting id) (fun _ => Resting id) :=
            (asyncWith_triple (bodies id)).weaken (fun _ _ known => known)
              (fun _ _ _ known => known.1) (fun _ _ _ known => known.1)
          exact programs world world .refl inv known
        · exact verified.programs (.caller id) outcome choice _ world inv known started

variable {bodies : Nat → Body}
  {config₀ config₁ config next : Config Op Op.Res PyError Thread Val World}

abbrev WithReached (params : Params) (bodies : Nat → Body)
    (config : Config Op Op.Res PyError Thread Val World) : Prop :=
  (withMachine params bodies).Reachable (fun _ _ _ => True) initial config

theorem WithReached.sound (reached : WithReached params bodies config) :
    Sound (withMachine params bodies) (contract params false) rest config := by
  refine with_verified.reachable (fun _ _ _ _ _ _ _ gently => by cases gently) ?_ reached
  have known : Sound (machine params) (contract params false) rest initial := initial_sound
  refine ⟨known.1, fun thread => ?_⟩
  cases thread with
  | caller me => exact known.2 (.caller me)
  | worker me => exact known.2 (.worker me)
  | other me => exact known.2 (.other me)

def Cleared (thread : Thread) (result : Except PyError (Val thread)) (world : World) : Prop :=
  (∃ error, result = .error error ∧ error.cls = .cancelledError) ∨ Nothing world

/-- Whatever its body and the other tasks do, and however it ends, an `async with` that no
cancellation ends leaves nothing behind. -/
theorem with_leaves_nothing {me : Nat} {choice : Choice} {result : Except PyError CallValue}
    (reached : WithReached params bodies config₀)
    (idle : (config₀.program (.caller me)).outcome ≠ none)
    (begins : (withMachine params bodies).Step config₀ (.caller me) (.call .acquire) config₁)
    (running : (withMachine params bodies).Reachable (Working (fun _ _ _ => True) (.caller me))
      config₁ config)
    (busy : (config.program (.caller me)).outcome = none)
    (ends : (withMachine params bodies).Step config (.caller me) choice next)
    (outcome : (next.program (.caller me)).outcome = some result) :
    (∃ error, result = .error error ∧ error.cls = .cancelledError) ∨ Nothing next.shared := by
  change Cleared (.caller me) result next.shared
  refine with_verified.concludes (fun _ _ _ _ _ _ _ gently => by cases gently) reached.sound idle
    begins ?_ running busy trivial ends outcome
  rintro outcome₀ first resting started
  have same : first = asyncWith params (bodies me) := (Option.some.inj started).symm
  have programs : CallerTriple params false me (Resting me) (asyncWith params (bodies me))
      (fun value => Cleared (.caller me) (.ok value))
      (fun error => Cleared (.caller me) (.error error)) :=
    (asyncWith_triple (bodies me)).weaken (fun _ _ known => known)
      (fun _ _ _ known => .inr known.2)
      (fun error _ _ known => known.2.imp (fun stopped => ⟨error, rfl, stopped⟩) id)
  rw [withMachine, wp_starts, same]
  exact programs config₀.shared config₀.shared .refl reached.sound.1 resting

def failing : Body := .pauses 1 fun _ => .fails (runtimeError [])

def failingRun (config : Config Op Op.Res PyError Thread Val World) : List (Thread × List Choice) :=
  (withMachine demoParams fun _ => failing).schedule config
    (turns (.caller 0) [.go, .reply (str "ok"), .reply (str "ok t 33"), .expire] ++
      turns (.worker 0) [.go] ++ turns (.caller 0) [.go] ++
      [turnTo (.caller 0) (.reply (str "ok")) closes])

theorem with_leaves_nothing_demo :
    ∃ config : Config Op Op.Res PyError Thread Val World, config.shared.conns = 1 ∧
      (config.program (.caller 0)).outcome = some (.error (runtimeError [])) ∧
      Nothing config.shared := by
  have ran : ((withMachine demoParams fun _ => failing).runStep initial (.caller 0)
      [.call .acquire]).bind (fun config₁ =>
        ((withMachine demoParams fun _ => failing).run config₁ (failingRun config₁)).bind fun config =>
          ((withMachine demoParams fun _ => failing).runStep config (.caller 0) [.go]).map
            fun next =>
              (withMachine demoParams fun _ => failing).checks (works 0) config₁
                  (failingRun config₁) &&
                (config.program (.caller 0)).outcome.isNone && next.shared.conns == 1 &&
                (next.program (.caller 0)).outcome == some (.error (runtimeError []))) =
        some true := by
    decide +kernel
  simp only [Option.bind_eq_some_iff, Option.map_eq_some_iff, Bool.and_eq_true, beq_iff_eq] at ran
  obtain ⟨config₁, begins, config, ran, next, ends, ⟨⟨checked, busy⟩, made⟩, raised⟩ := ran
  have running : (withMachine demoParams fun _ => failing).Reachable
      (Working (fun _ _ _ => True) (.caller 0)) config₁ config := by
    refine (Machine.checks_reachable _ checked .initial ran).mono ?_
    intro config mover choice works
    refine ⟨trivial, ?_⟩
    rintro rfl
    simpa [Shared.works] using works
  refine ⟨next, made, raised, ?_⟩
  rcases with_leaves_nothing .initial (by simp [initial, initialProgram])
    (Machine.runStep_step _ begins) running (by simpa using busy) (Machine.runStep_step _ ends)
    raised with ⟨error, same, stopped⟩ | nothing
  · cases same
    cases stopped
  · exact nothing

end Shared

end DflockdClient.Async
