import DflockdClient.SyncWorkers

/-! What holds in every run of callers and renewal workers. -/

namespace DflockdClient.Sync

open Interleaving

variable {params : Params}

def rest (thread : Thread) (outcome : Except PyError (Val thread)) (world : World) : Prop :=
  match thread, outcome with
  | .caller me, _ => Resting me world
  | .worker me, outcome => WorkerRest me outcome world

theorem verified : Verified (machine roughFaults params) (contract params) rest where
  stable := by
    intro thread outcome
    cases thread with
    | caller me => exact Resting.stable
    | worker me => exact WorkerRest.stable
  programs := by
    intro thread outcome choice program world inv known started
    cases thread with
    | caller me =>
        cases choice with
        | call call =>
            cases started
            exact program_triple call world world (.refl _) inv known
        | _ => cases started
    | worker me =>
        cases outcome with
        | error error => cases started
        | ok state =>
            cases state with
            | fresh =>
                cases started
                exact renewLoop_triple world world (.refl _) inv known
            | sleeping event interval =>
                cases started
                exact renewRound_triple world world (.refl _) inv known
            | done => cases started

theorem initial_invariant : Invariant params {} where
  pastSet := by simp
  workerPast := by simp
  startedMade := by simp
  armedLock := by simp
  tokenGrant := by simp
  releasedQuiet := by simp
  releasingLock := by simp [releasing]
  quietNone := fun _ => .inr (by simp)
  lawful := lawful_nil
  connMade := by simp
  unmade := by simp [granted, released]
  accounted := by simp
  tidy := fun _ => ⟨by simp, by simp, rfl, by simp⟩
  returned := by simp
  installedPast := Nat.le_refl _

theorem initial_sound : Sound (machine roughFaults params) (contract params) rest initial := by
  refine ⟨initial_invariant, ?_⟩
  intro thread
  cases thread with
  | caller me => exact ⟨by simp [initial], by simp [initial], by simp [initial]⟩
  | worker me => exact ⟨by simp [initial], by simp [initial]⟩

abbrev Reached (faults : Faults) (params : Params)
    (config : Config Op Op.Res PyError Thread Val World) : Prop :=
  (machine faults params).Reachable (fun _ _ _ => True) initial config

theorem Reached.sound {config : Config Op Op.Res PyError Thread Val World}
    (reached : Reached roughFaults params config) :
    Sound (machine roughFaults params) (contract params) rest config :=
  verified.reachable (fun _ _ _ _ _ _ _ => trivial) initial_sound reached

variable {config : Config Op Op.Res PyError Thread Val World}

theorem Reached.hand (reached : Reached roughFaults params config) {thread : Thread} {conn : Nat}
    (held : config.shared.inHand conn = some thread)
    (opened : config.shared.closedConn conn = false) : (config.program thread).outcome = none := by
  have promise := reached.sound.2 thread
  have closes (known : ∀ conn, config.shared.inHand conn = some thread →
      config.shared.closedConn conn = true) : False := by
    rw [known conn held] at opened
    cases opened
  cases programEq : config.program thread with
  | act op next => rfl
  | ret value =>
      rw [programEq] at promise
      cases thread with
      | caller me => exact (closes (show Resting me config.shared from promise).hand).elim
      | worker me =>
          cases value with
          | fresh => exact (closes (show Idle me config.shared from promise).hand).elim
          | sleeping event interval =>
              exact (closes (show Awake me event config.shared from promise).1.hand).elim
          | done => exact (closes (show Idle me config.shared from promise).hand).elim
  | raise error =>
      rw [programEq] at promise
      cases thread with
      | caller me => exact (closes (show Resting me config.shared from promise).hand).elim
      | worker me => exact (closes (show Idle me config.shared from promise).hand).elim

def OpenConn (world : World) (conn : Nat) : Prop :=
  conn < world.conns ∧ world.closedConn conn = false

theorem Reached.accounted (reached : Reached roughFaults params config) {conn : Nat}
    (opened : OpenConn config.shared conn) :
    config.shared.conn = some conn ∨ ∃ thread, config.shared.inHand conn = some thread ∧
      (config.program thread).outcome = none := by
  rcases reached.sound.1.accounted conn opened.1 opened.2 with installed | held
  · exact .inl installed
  · obtain ⟨thread, held⟩ := Option.ne_none_iff_exists'.mp held
    exact .inr ⟨thread, held, reached.hand held opened.2⟩

/-- No operation and no renewal step is in progress. -/
def Quiescent (config : Config Op Op.Res PyError Thread Val World) : Prop :=
  ∀ thread, (config.program thread).outcome ≠ none

theorem Reached.installed (reached : Reached roughFaults params config)
    (quiescent : Quiescent config) {conn : Nat} (opened : OpenConn config.shared conn) :
    config.shared.conn = some conn := by
  rcases reached.accounted opened with installed | ⟨thread, _, busy⟩
  · exact installed
  · exact absurd busy (quiescent thread)

theorem Reached.nothingOpen (reached : Reached roughFaults params config)
    (quiescent : Quiescent config) (returned : config.shared.lastReturn = some .release ∨
      config.shared.lastReturn = some .close) (conn : Nat) : ¬OpenConn config.shared conn := by
  intro opened
  have installed := reached.installed quiescent opened
  rw [(reached.sound.1.returned returned).2] at installed
  cases installed

/-- An open connection is installed or in the hands of a thread at work. At rest no more than one is
open, and none after a release or a close that returned. -/
theorem nothing_leaks (reached : Reached roughFaults params config) :
    (∀ conn, OpenConn config.shared conn → config.shared.conn = some conn ∨
      ∃ thread, config.shared.inHand conn = some thread ∧
        (config.program thread).outcome = none) ∧
    (Quiescent config → (∀ first second, OpenConn config.shared first →
        OpenConn config.shared second → first = second) ∧
      (config.shared.lastReturn = some .release ∨ config.shared.lastReturn = some .close →
        ∀ conn, ¬OpenConn config.shared conn)) := by
  refine ⟨fun conn => reached.accounted, fun quiescent => ⟨?_, reached.nothingOpen quiescent⟩⟩
  intro first second openedFirst openedSecond
  have same := (reached.installed quiescent openedFirst).symm.trans
    (reached.installed quiescent openedSecond)
  exact Option.some.inj same

/-- Renews and releases exclude each other: a renew is written with the token granted on its
connection, never during a release exchange and never after a release on its connection, and no
connection carries two releases. -/
theorem renew_release_exclusion (reached : Reached roughFaults params config) :
    Lawful (renewRule params) config.shared.trace :=
  reached.sound.1.lawful

def demoParams : Params where
  key := str "k"
  shardingStrategy := fun _ _ => .ok (.int 0)

def turns (thread : Thread) (choices : List Choice) : List (Machine.Turn Op Thread Choice) :=
  choices.map fun choice => { thread := thread, choice := choice }

def acquiring (line : Str) : List (Machine.Turn Op Thread Choice) :=
  turns (.caller 0) [.call .acquire, .reply line]

def sleeping : List (Machine.Turn Op Thread Choice) := turns (.worker 0) [.go, .go]

def frames (world : World) : List (Nat × Str × Str) :=
  world.trace.filterMap fun event => match event with
    | .frame conn request => some (conn, request.cmd, request.arg)
    | _ => none

theorem renew_release_exclusion_demo :
    ∃ config, Reached roughFaults demoParams config ∧
      frames config.shared = [(0, str "l", str "10"), (0, str "n", str "t"), (0, str "r", str "t")] ∧
      Lawful (renewRule demoParams) config.shared.trace := by
  obtain ⟨config, reached, passed⟩ := (machine roughFaults demoParams).exists_run
    (fun _ _ _ => True) initial
    ((machine roughFaults demoParams).schedule initial
      (acquiring (str "ok t 33") ++ sleeping ++ turns (.worker 0) [.expire, .reply (str "ok 30")] ++
        turns (.caller 0) [.call .release, .expire, .reply (str "ok")]))
    (fun _ _ _ => trivial)
    (fun config => frames config.shared ==
      [(0, str "l", str "10"), (0, str "n", str "t"), (0, str "r", str "t")])
    (by decide +kernel)
  exact ⟨config, reached, by simpa using passed, renew_release_exclusion reached⟩

def cycle : List (Machine.Turn Op Thread Choice) :=
  acquiring (str "ok t 33") ++ turns (.worker 0) [.go] ++
    turns (.caller 0) [.call .release, .expire, .reply (str "ok")]

theorem released_run : ∃ config, Reached roughFaults demoParams config ∧
    Quiescent config ∧ config.shared.conns = 1 ∧ config.shared.lastReturn = some .release := by
  have ran : ((machine roughFaults demoParams).run initial
      ((machine roughFaults demoParams).schedule initial cycle)).map (fun config =>
      (config.program (.caller 0)).outcome.isSome && (config.program (.worker 0)).outcome.isSome &&
        config.shared.conns == 1 && config.shared.lastReturn == some .release) = some true := by
    decide +kernel
  simp only [Option.map_eq_some_iff, Bool.and_eq_true, beq_iff_eq] at ran
  obtain ⟨config, ran, ⟨⟨caller, worker⟩, made⟩, returned⟩ := ran
  have named : ∀ turn ∈ cycle, turn.thread = .caller 0 ∨ turn.thread = .worker 0 := by decide
  have quiescent : Quiescent config := by
    intro thread
    by_cases isCaller : thread = .caller 0
    · subst isCaller
      exact Option.isSome_iff_ne_none.mp caller
    by_cases isWorker : thread = .worker 0
    · subst isWorker
      exact Option.isSome_iff_ne_none.mp worker
    rw [(machine roughFaults demoParams).schedule_other ?_ ran]
    · cases thread <;> simp [initial, initialProgram]
    · intro turn listed same
      rcases named turn listed with mine | mine
      · exact isCaller (same.symm.trans mine)
      · exact isWorker (same.symm.trans mine)
  have reached : Reached roughFaults demoParams config :=
    (machine roughFaults demoParams).run_reachable (fun _ _ _ => trivial) .initial ran
  exact ⟨config, reached, quiescent, made, returned⟩

theorem nothing_leaks_demo : ∃ config, Reached roughFaults demoParams config ∧
    Quiescent config ∧ config.shared.conns = 1 ∧ ∀ conn, ¬OpenConn config.shared conn := by
  obtain ⟨config, reached, quiescent, made, returned⟩ := released_run
  exact ⟨config, reached, quiescent, made, ((nothing_leaks reached).2 quiescent).2 (.inl returned)⟩

example : ((machine roughFaults demoParams).run initial
    ((machine roughFaults demoParams).schedule initial
      (acquiring (str "ok t 33")))).map (fun config => config.shared.token) =
      some (some (str "t")) := by
  decide +kernel

end DflockdClient.Sync
