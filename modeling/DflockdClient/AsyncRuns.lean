import DflockdClient.AsyncWorkers

/-!
What holds in every run of an asynchronous instance: any calls from any number of
tasks, renewal tasks at every await, failures of any exchange, and requests to cancel
any task at any time.
-/

namespace DflockdClient.Async.Shared

open Interleaving Session
open Sync (Call CallValue Event)

variable {params : Params} {gentle : Bool}

def rest (thread : Thread) (outcome : Except PyError (Val thread)) (world : World) : Prop :=
  match thread, outcome with
  | .caller me, _ => Resting me world
  | .worker me, outcome => WorkerRest me outcome world
  | .other _, _ => True

theorem cancel_wp {me id : Nat} {world : World} (inv : Invariant params gentle world) :
    wp (machine params) (contract params gentle) (.other me) (perform (.cancelCaller id))
      (fun _ origin state => OtherMove origin state ∧ Invariant params gentle state ∧ True)
      (fun _ origin state => OtherMove origin state ∧ Invariant params gentle state ∧ True)
      world world := by
  refine wp_perform rfl (fun _ => rfl) ?_
  have same : Untouched world (world.request (.caller id)) :=
    ⟨rfl, fun worker => by simp [World.request]⟩
  refine ⟨⟨same, fun other => ?_⟩, inv.untouched same, trivial⟩
  by_cases mine : other = id
  · constructor <;> simp [World.request, mine]
  · exact .of_same (by simp [World.request, mine])

theorem verified : Verified (machine params) (contract params gentle) rest where
  stable := by
    intro thread outcome
    cases thread with
    | caller me => exact Resting.stable
    | worker me => exact WorkerRest.stable
    | other me => exact .const
  programs := by
    intro thread outcome choice program world inv known started
    cases thread with
    | caller me =>
        cases choice with
        | call call =>
            cases started
            have programs : CallerTriple params gentle me (Resting me) (program params call)
                (fun _ => Resting me) (fun _ => Resting me) :=
              program_triple.weaken (fun _ _ known => known) (fun _ _ _ known => known.1)
                (fun _ _ _ known => known.1)
            exact programs world world .refl inv known
        | _ => cases started
    | worker me =>
        cases outcome with
        | error error => cases started
        | ok state =>
            cases state with
            | fresh =>
                cases started
                exact renewLoop_wp inv known
            | sleeping interval =>
                cases started
                exact renewRound_wp inv known
            | done => cases started
    | other me =>
        cases choice with
        | cancel id =>
            cases started
            exact cancel_wp inv
        | _ => cases started

theorem initial_invariant : Invariant params gentle {} where
  ordered := by simp
  unmade := by simp [Open]
  made := by simp
  accounted := by simp
  hand := by simp
  locker := by simp
  ioCaller := by simp
  tokenConn := fun _ => rfl
  tokenLease := fun _ => rfl
  shut := by simp
  renewing := by simp [Renewing]
  ended := by simp
  stale := by simp
  future := by simp [Live]
  settled := by simp [Settled]
  watched := by simp
  unwatched := by simp
  rested := fun _ => ⟨by simp [Queued], by simp [Watched]⟩

theorem initial_sound : Sound (machine params) (contract params gentle) rest initial := by
  refine ⟨initial_invariant, ?_⟩
  intro thread
  cases thread with
  | caller me => exact show (none : Option Thread) ≠ some (.caller me) by simp
  | worker me => exact ⟨rfl, show (none : Option Thread) ≠ some (.worker me) by simp⟩
  | other me => exact trivial

variable {config₀ config₁ config next : Config Op Op.Res PyError Thread Val World}

abbrev Reached (params : Params) (config : Config Op Op.Res PyError Thread Val World) : Prop :=
  (machine params).Reachable (fun _ _ _ => True) initial config

/-- No request to cancel a caller is there while it stops the renewal task of a held lock, unless it
is about to release the lock. -/
def Gentle (config : Config Op Op.Res PyError Thread Val World) (thread : Thread) : Prop :=
  ∀ task rest, config.program thread = .act (.awaitOuter task) rest →
    config.shared.undelivered thread = true →
    config.shared.token = none ∨ config.shared.ioLock = some thread

/-- The configurations of the runs in which no new attempt on a held lock is cancelled. -/
abbrev ReachedGently (params : Params) (config : Config Op Op.Res PyError Thread Val World) :
    Prop :=
  (machine params).Reachable (fun config thread _ => Gentle config thread) initial config

theorem Reached.sound (reached : Reached params config) :
    Sound (machine params) (contract params false) rest config :=
  verified.reachable (fun _ _ _ _ _ _ _ gently => by cases gently) initial_sound reached

theorem ReachedGently.sound (reached : ReachedGently params config) :
    Sound (machine params) (contract params true) rest config := by
  refine verified.reachable ?_ initial_sound reached
  rintro config thread choice op next allowed programEq - ⟨task, rfl⟩ pending
  exact allowed task next programEq pending

def demoParams : Params where
  key := str "k"
  authToken := some (str "secret")
  shardingStrategy := fun _ _ => .ok (.int 0)

def turns (thread : Thread) (choices : List Choice) : List (Machine.Turn Op Thread Choice) :=
  choices.map fun choice => { thread := thread, choice := choice }

def turnTo (thread : Thread) (choice : Choice) (upTo : Op → Bool) :
    Machine.Turn Op Thread Choice where
  thread := thread
  choice := choice
  upTo := upTo

def acquiring (me : Nat) (line : Str) : List (Machine.Turn Op Thread Choice) :=
  turns (.caller me) [.call .acquire, .reply (str "ok"), .reply line]

def frames (world : World) : List (Nat × Str) :=
  world.trace.filterMap fun event => match event with
    | .frame conn request => some (conn, request.cmd)
    | _ => none

theorem renewed_run : ∃ config, Reached demoParams config ∧ frames config.shared =
    [(0, str "auth"), (0, str "e"), (0, str "w"), (0, str "n"), (0, str "r")] := by
  obtain ⟨config, reached, passed⟩ := (machine demoParams).exists_run (fun _ _ _ => True) initial
    ((machine demoParams).schedule initial
      (turns (.caller 0) [.call .enqueue, .reply (str "ok"), .reply (str "queued"),
          .call (.wait none), .reply (str "ok t 33")] ++
        turns (.worker 0) [.go, .go, .expire, .reply (str "ok 30"), .go] ++
        turns (.caller 0) [.call .release] ++ turns (.worker 0) [.go] ++
        turns (.caller 0) [.go, .reply (str "ok")]))
    (fun _ _ _ => trivial)
    (fun config => frames config.shared ==
      [(0, str "auth"), (0, str "e"), (0, str "w"), (0, str "n"), (0, str "r")])
    (by decide +kernel)
  exact ⟨config, reached, by simpa using passed⟩

/-- The frames of every connection form a word of the protocol, and each is written in its turn. -/
theorem frames_in_turn (reached : Reached params config) (conn : Nat) :
    Word params (eventsOn config.shared.trace conn)
      (framesOf (eventsOn config.shared.trace conn)) ∧
    ∀ before request after,
      eventsOn config.shared.trace conn = before ++ .frame conn request :: after →
        InTurn params before request := by
  obtain ⟨stage, accepted⟩ := Option.ne_none_iff_exists'.mp (reached.sound.1.ordered conn)
  exact ⟨word_of_accepted accepted, fun _ _ _ => in_turn accepted⟩

theorem frames_in_turn_demo : ∃ config, Reached demoParams config ∧
    frames config.shared =
      [(0, str "auth"), (0, str "e"), (0, str "w"), (0, str "n"), (0, str "r")] ∧
    ∀ before request after,
      eventsOn config.shared.trace 0 = before ++ .frame 0 request :: after →
        InTurn demoParams before request := by
  obtain ⟨config, reached, written⟩ := renewed_run
  exact ⟨config, reached, written, (frames_in_turn reached 0).2⟩

def OpenConn (world : World) (conn : Nat) : Prop := conn < world.conns ∧ Open world conn

theorem Reached.working (reached : Reached params config) {me : Nat}
    (locked : config.shared.stateLock = some (.caller me)) :
    (config.program (.caller me)).outcome = none := by
  have promise := reached.sound.2 (.caller me)
  cases programEq : config.program (.caller me) with
  | act op next => rfl
  | ret value =>
      rw [programEq] at promise
      exact absurd locked (show Resting me config.shared from promise)
  | raise error =>
      rw [programEq] at promise
      exact absurd locked (show Resting me config.shared from promise)

theorem Reached.holder (reached : Reached params config) {conn : Nat} {thread : Thread}
    (opened : OpenConn config.shared conn) (held : config.shared.inHand conn = some thread) :
    ∃ me, thread = .caller me ∧ config.shared.stateLock = some (.caller me) ∧
      (config.program (.caller me)).outcome = none := by
  have inv := reached.sound.1
  have locked := inv.hand thread conn held opened.2
  obtain ⟨me, rfl⟩ := inv.locker thread locked
  exact ⟨me, rfl, locked, reached.working locked⟩

theorem Reached.accounted (reached : Reached params config) {conn : Nat}
    (opened : OpenConn config.shared conn) : config.shared.conn = some conn ∨
      ∃ me, config.shared.inHand conn = some (.caller me) ∧
        config.shared.stateLock = some (.caller me) ∧
        (config.program (.caller me)).outcome = none := by
  rcases reached.sound.1.accounted conn opened.1 opened.2 with installed | held
  · exact .inl installed
  · obtain ⟨thread, held⟩ := Option.ne_none_iff_exists'.mp held
    obtain ⟨me, rfl, locked, busy⟩ := reached.holder opened held
    exact .inr ⟨me, held, locked, busy⟩

def Finally (params : Params) (call : Call) (thread : Thread)
    (result : Except PyError (Val thread)) (world : World) : Prop :=
  match thread with
  | .caller _ => Outcome params call result world
  | _ => True

/-- In some run a call of a caller has come to this result: it was taken up, the other tasks have
moved in between, and its last step leaves this. -/
def CallEnds (params : Params) (me : Nat) (call : Call) (result : Except PyError CallValue)
    (world : World) : Prop :=
  ∃ (config₀ config₁ config next : Config Op Op.Res PyError Thread Val World) (choice : Choice),
    Reached params config₀ ∧ (config₀.program (.caller me)).outcome ≠ none ∧
    (machine params).Step config₀ (.caller me) (.call call) config₁ ∧
    (machine params).Reachable (Working (fun _ _ _ => True) (.caller me)) config₁ config ∧
    (config.program (.caller me)).outcome = none ∧
    (machine params).Step config (.caller me) choice next ∧
    (next.program (.caller me)).outcome = some result ∧ next.shared = world

theorem outcome_of_ends {me : Nat} {call : Call} {result : Except PyError CallValue} {world : World}
    (ended : CallEnds params me call result world) : Outcome params call result world := by
  obtain ⟨config₀, config₁, config, next, choice, reached, idle, begins, running, busy, ends,
    outcome, rfl⟩ := ended
  change Finally params call (.caller me) result next.shared
  refine verified.concludes (fun _ _ _ _ _ _ _ gently => by cases gently) reached.sound idle begins
    ?_ running busy trivial ends outcome
  rintro outcome₀ first resting started
  cases started
  have programs : CallerTriple params false me (Resting me) (program params call)
      (fun value => Outcome params call (.ok value))
      (fun error => Outcome params call (.error error)) :=
    program_triple.weaken (fun _ _ known => known) (fun _ _ _ known => known.2)
      (fun _ _ _ known => known.2)
  exact programs config₀.shared config₀.shared .refl reached.sound.1 resting

/-- Whatever the other tasks do between the start of an operation and its end: when it ends, the
instance is as its result says. An exception other than a cancellation leaves nothing behind. -/
theorem call_outcome {me : Nat} {call : Call} {choice : Choice}
    {result : Except PyError CallValue} (reached : Reached params config₀)
    (idle : (config₀.program (.caller me)).outcome ≠ none)
    (begins : (machine params).Step config₀ (.caller me) (.call call) config₁)
    (running : (machine params).Reachable (Working (fun _ _ _ => True) (.caller me)) config₁ config)
    (busy : (config.program (.caller me)).outcome = none)
    (ends : (machine params).Step config (.caller me) choice next)
    (outcome : (next.program (.caller me)).outcome = some result) :
    Outcome params call result next.shared :=
  outcome_of_ends ⟨config₀, config₁, config, next, choice, reached, idle, begins, running, busy, ends,
    outcome, rfl⟩

def works (me : Nat) (config : Config Op Op.Res PyError Thread Val World) (mover : Thread)
    (_ : Choice) : Bool :=
  mover != .caller me || (config.program (.caller me)).outcome.isNone

def locksIo (op : Op) : Bool := op matches .lockIo

def closes (op : Op) : Bool := op matches .waitClosed _

/-- A release that is told, where it waits for its renewal task, of a request made before. -/
def releasingAsked (config : Config Op Op.Res PyError Thread Val World) :
    List (Thread × List Choice) :=
  (machine demoParams).schedule config
    [turnTo (.caller 0) (.late .go) locksIo, turnTo (.caller 0) (.late .go) closes,
      turnTo (.caller 0) (.reply (str "ok")) closes]

theorem asked_release : ∃ world, CallEnds demoParams 0 .release (.ok (.bool true)) world ∧
    world.conns = 1 ∧ world.cancelling (.caller 0) = 1 := by
  have ran : ((machine demoParams).run initial ((machine demoParams).schedule initial
      (acquiring 0 (str "ok t 33") ++ turns (.other 0) [.cancel 0]))).bind (fun config₀ =>
      ((machine demoParams).runStep config₀ (.caller 0) [.call .release]).bind fun config₁ =>
        ((machine demoParams).run config₁ (releasingAsked config₁)).bind fun config =>
          ((machine demoParams).runStep config (.caller 0) [.go]).map fun next =>
            (config₀.program (.caller 0)).outcome.isSome &&
              (machine demoParams).checks (works 0) config₁ (releasingAsked config₁) &&
              (config.program (.caller 0)).outcome.isNone &&
              next.shared.conns == 1 && next.shared.cancelling (.caller 0) == 1 &&
              (next.program (.caller 0)).outcome == some (.ok (.bool true))) = some true := by
    decide +kernel
  simp only [Option.bind_eq_some_iff, Option.map_eq_some_iff, Bool.and_eq_true, beq_iff_eq] at ran
  obtain ⟨config₀, ran₀, config₁, begins, config, ran, next, ends,
    ⟨⟨⟨⟨idle, checked⟩, busy⟩, made⟩, asked⟩, returned⟩ := ran
  have reached : Reached demoParams config₀ :=
    (machine demoParams).run_reachable (fun _ _ _ => trivial) .initial ran₀
  have running : (machine demoParams).Reachable (Working (fun _ _ _ => True) (.caller 0)) config₁
      config := by
    refine ((machine demoParams).checks_reachable checked .initial ran).mono ?_
    intro config mover choice works
    refine ⟨trivial, ?_⟩
    rintro rfl
    simpa [Shared.works] using works
  exact ⟨next.shared, ⟨config₀, config₁, config, next, .go, reached,
    Option.isSome_iff_ne_none.mp idle, (machine demoParams).runStep_step begins, running,
    by simpa using busy, (machine demoParams).runStep_step ends, returned, rfl⟩, made, asked⟩

theorem call_outcome_demo :
    ∃ config : Config Op Op.Res PyError Thread Val World,
      config.shared.cancelling (.caller 0) = 1 ∧
      (config.program (.caller 0)).outcome = some (.ok (.bool true)) ∧ Nothing config.shared := by
  obtain ⟨_, ⟨config₀, config₁, config, next, choice, reached, idle, begins, running, busy, ends,
    outcome, rfl⟩, _, asked⟩ := asked_release
  exact ⟨next, asked, outcome, call_outcome reached idle begins running busy ends outcome⟩

def gently (config : Config Op Op.Res PyError Thread Val World) (thread : Thread)
    (_ : Choice) : Bool :=
  match config.program thread with
  | .act (.awaitOuter _) _ => !config.shared.undelivered thread || config.shared.token.isNone ||
      config.shared.ioLock == some thread
  | _ => true

theorem gentle_of_gently {thread : Thread} {choice : Choice}
    (known : gently config thread choice = true) : Gentle config thread := by
  intro task rest programEq pending
  simpa [gently, programEq, pending] using known

/-- No operation is in progress. -/
def Idle (config : Config Op Op.Res PyError Thread Val World) : Prop :=
  ∀ me, (config.program (.caller me)).outcome ≠ none

theorem Reached.unlocked (reached : Reached params config) (idle : Idle config) :
    config.shared.stateLock = none := by
  by_contra held
  obtain ⟨thread, locked⟩ := Option.ne_none_iff_exists'.mp held
  obtain ⟨me, rfl⟩ := reached.sound.1.locker thread locked
  exact idle me (reached.working locked)

theorem idle_of_run {moves : List (Machine.Turn Op Thread Choice)}
    (named : ∀ turn ∈ moves, turn.thread ∈ [.caller 0, .caller 1, .worker 0, .other 0])
    (ran : (machine params).run initial ((machine params).schedule initial moves) = some config)
    (first : (config.program (.caller 0)).outcome.isSome)
    (second : (config.program (.caller 1)).outcome.isSome) : Idle config := by
  intro me
  match me with
  | 0 => exact Option.isSome_iff_ne_none.mp first
  | 1 => exact Option.isSome_iff_ne_none.mp second
  | me + 2 =>
      rw [(machine params).schedule_other ?_ ran]
      · simp [initial, initialProgram]
      · intro turn listed same
        have known := named turn listed
        simp [same] at known

def reacquiring : List (Machine.Turn Op Thread Choice) :=
  acquiring 0 (str "ok t 33") ++ turns (.worker 0) [.go, .go, .expire] ++
    turns (.caller 1) [.call .acquire] ++ turns (.worker 0) [.go] ++
    turns (.caller 1) [.go, .reply (str "ok"), .reply (str "ok u 33")]

theorem reacquired_run : ∃ config, ReachedGently demoParams config ∧ Idle config ∧
    config.shared.token = some (str "u") := by
  have ran : ((machine demoParams).run initial
      ((machine demoParams).schedule initial reacquiring)).map (fun config =>
      (config.program (.caller 0)).outcome.isSome && (config.program (.caller 1)).outcome.isSome &&
        config.shared.token == some (str "u")) = some true := by
    decide +kernel
  simp only [Option.map_eq_some_iff, Bool.and_eq_true, beq_iff_eq] at ran
  obtain ⟨config, ran, ⟨first, second⟩, held⟩ := ran
  have checked : (machine demoParams).checks gently initial
      ((machine demoParams).schedule initial reacquiring) = true := by
    decide +kernel
  have reached := (machine demoParams).checks_reachable checked .initial ran
  exact ⟨config, reached.mono fun _ _ _ known => gentle_of_gently known,
    idle_of_run (by decide) ran first second, held⟩

def stranding : List (Machine.Turn Op Thread Choice) :=
  acquiring 0 (str "ok t 33") ++ turns (.worker 0) [.go, .go] ++
    turns (.caller 1) [.call .acquire] ++ turns (.other 0) [.cancel 1] ++
    turns (.caller 1) [.go] ++ turns (.worker 0) [.go]

theorem stranded_run : ∃ config, Reached demoParams config ∧ Idle config ∧
    config.shared.token = some (str "t") ∧
    ∀ worker, worker < config.shared.workers → ¬Live config.shared worker := by
  have ran : ((machine demoParams).run initial
      ((machine demoParams).schedule initial stranding)).map (fun config =>
      (config.program (.caller 0)).outcome.isSome && (config.program (.caller 1)).outcome.isSome &&
        config.shared.token == some (str "t") && config.shared.workers == 1 &&
        (config.shared.outcome 0).isSome) = some true := by
    decide +kernel
  simp only [Option.map_eq_some_iff, Bool.and_eq_true, beq_iff_eq] at ran
  obtain ⟨config, ran, ⟨⟨⟨first, second⟩, held⟩, made⟩, ended⟩ := ran
  refine ⟨config, (machine demoParams).run_reachable (fun _ _ _ => trivial) .initial ran,
    idle_of_run (by decide) ran first second, held, ?_⟩
  intro worker known living
  have first : worker = 0 := by omega
  subst first
  rw [living.1] at ended
  cases ended

/-- A token comes with an open connection and a renewal task that goes on, and without a token there
is neither a lease nor such a task. -/
structure Consistent (world : World) : Prop where
  free : world.token = none → world.lease = 0 ∧
    ∀ worker, worker < world.workers → ¬Live world worker
  held : world.token ≠ none → (∃ conn, world.conn = some conn ∧ OpenConn world conn) ∧
    ∃ worker, worker < world.workers ∧ Live world worker

/-- With no operation in progress the held state is consistent unless `_renew_task` has been
forgotten, and that happens only where a new attempt on a held lock is cancelled. -/
theorem consistent_unless_forgotten (reached : Reached params config) (idle : Idle config) :
    (Consistent config.shared ↔
      (config.shared.token ≠ none → config.shared.renewTask ≠ none)) ∧
    (ReachedGently params config → Consistent config.shared) := by
  have inv : Invariant params false config.shared := reached.sound.1
  have exact : Consistent config.shared ↔
      (config.shared.token ≠ none → config.shared.renewTask ≠ none) := by
    constructor
    · intro consistent held forgotten
      obtain ⟨_, worker, made, living⟩ := consistent.held held
      have known := inv.stale worker made living
      rw [forgotten] at known
      cases known
    · intro known
      refine ⟨fun free => ⟨inv.tokenLease free, fun worker made living => ?_⟩, fun held => ?_⟩
      · exact inv.unwatched free worker (inv.stale worker made living) living
      · obtain ⟨worker, taskEq⟩ := Option.ne_none_iff_exists'.mp (known held)
        obtain ⟨conn, connEq⟩ :=
          Option.ne_none_iff_exists'.mp (fun gone => held (inv.tokenConn gone))
        obtain ⟨living, opened⟩ := inv.watched held worker taskEq
        refine ⟨⟨conn, connEq, (inv.made conn connEq).1, opened conn connEq⟩, worker, ?_, living⟩
        by_contra beyond
        exact (inv.future worker (Nat.not_lt.mp beyond)).2 taskEq
  refine ⟨exact, fun gently => exact.mpr fun held => ?_⟩
  have inv : Invariant params true config.shared := gently.sound.1
  exact (inv.rested (reached.unlocked idle)).2 rfl held

theorem consistent_unless_forgotten_demo : ∃ config, ReachedGently demoParams config ∧
    Idle config ∧ config.shared.token = some (str "u") ∧ Consistent config.shared := by
  obtain ⟨config, gently, idle, held⟩ := reacquired_run
  have reached : Reached demoParams config := gently.mono fun _ _ _ _ => trivial
  exact ⟨config, gently, idle, held, (consistent_unless_forgotten reached idle).2 gently⟩

theorem cancelled_attempt_forgets : ∃ config, Reached demoParams config ∧ Idle config ∧
    ¬Consistent config.shared := by
  obtain ⟨config, reached, idle, held, ended⟩ := stranded_run
  refine ⟨config, reached, idle, fun consistent => ?_⟩
  obtain ⟨_, worker, made, living⟩ := consistent.held (by simp [held])
  exact ended worker made living

end DflockdClient.Async.Shared
