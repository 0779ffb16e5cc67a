import DflockdClient.Construction
import DflockdClient.SyncPatientRuns
import DflockdClient.SyncRuns

/-! What an operation that fails leaves behind. -/

namespace DflockdClient.Sync

open Interleaving

variable {params : Params} {world : World}

/-- What `acquire` needs of the attributes: the constructor accepts them, what it leaves unchecked
is within the limits, and the sharding strategy picks a server. -/
structure Acquirable (params : Params) : Prop where
  accepted : params.postInit = .ok ()
  checked : params.Checked .sync
  picks : ∃ index : Nat, params.shardingStrategy params.key params.servers.length =
    .ok (.int index) ∧ index < params.servers.length

section Acquirable

theorem Acquirable.endpoint (acquirable : Acquirable params) :
    ∃ server, params.endpoint = .ok server := by
  have accepted := acquirable.accepted
  unfold Params.postInit at accepted
  obtain ⟨_, accepted⟩ := unit_bind_iff.mp accepted
  obtain ⟨_, accepted⟩ := unit_bind_iff.mp accepted
  obtain ⟨_, accepted⟩ := unit_bind_iff.mp accepted
  obtain ⟨_, accepted⟩ := unit_bind_iff.mp accepted
  obtain ⟨connect, accepted⟩ := unit_bind_iff.mp accepted
  obtain ⟨servers, _⟩ := unit_bind_iff.mp accepted
  obtain ⟨index, chosen, within⟩ := acquirable.picks
  unfold validateServers at servers
  split at servers
  · cases servers
  · obtain ⟨server, valid⟩ := discard_ok (forM_ok_iff.mp servers _ (List.getElem_mem within))
    have inRange : validateShardIndex (.int index) params.servers.length = .ok index := by
      simp [validateShardIndex, within]
    refine ⟨server, Except.bind_ok_iff.mpr ⟨params.servers[index], ?_, ?_⟩⟩
    · refine Except.bind_ok_iff.mpr ⟨.int index, chosen, ?_⟩
      refine Except.bind_ok_iff.mpr ⟨index, inRange, ?_⟩
      simp only [List.getElem?_eq_getElem within]
      rfl
    · exact Except.bind_ok_iff.mpr ⟨(), connect, valid⟩

theorem Acquirable.auth (acquirable : Acquirable params) {authToken : Str}
    (given : params.authToken = some authToken) :
    ReachesWire .sync (authenticateRequest authToken) :=
  authenticate_reaches.mpr (acquirable.checked.authToken authToken given)

theorem Acquirable.request (acquirable : Acquirable params) :
    ReachesWire .sync params.acquireRequest := by
  obtain ⟨seconds, slots, lease, accepted⟩ := postInit_accepted acquirable.accepted
  exact accepted.acquire.mpr ⟨acquirable.checked.argument, fun sync =>
    acquirable.checked.timeout sync seconds accepted.timeout.1⟩

end Acquirable

/-- Every connection is made and every frame sent whose timeout the socket takes; the server accepts
the auth token and answers an acquire by the line. -/
def healthy (line : Str) (op : Op) : Choice :=
  match op with
  | .send _ request =>
      match settimeout request.readTimeout with
      | .ok _ => .go
      | .error error => .fail error
  | .recv _ cmd => .reply (if commandKind cmd = some .acquire then line else str "ok")
  | _ => .go

section Healthy

variable {thread : Thread} {line : Str}

abbrev Succeeds (params : Params) (thread : Thread) (line : Str) {α : Type} (program : Py α)
    (post : α → World → Prop) (world : World) : Prop :=
  against (machine Patient.contained params) thread (healthy line) program post
    (fun _ _ => False) world

structure Startable (world : World) : Prop where
  ended : Patient.NoneAlive world
  free : world.ioLock = none
  conn : world.conn = none
  joinable : ∀ worker, world.renewThread = some worker → world.started worker = true
  unmade : ∀ conn, world.conns ≤ conn → world.closedConn conn = false

theorem succeeds_join {worker : Nat} {post : Unit → World → Prop}
    (started : world.started worker = true) (ended : world.alive worker = false)
    (known : post () world) :
    Succeeds params thread line (raising (perform (.joinThread worker))) post world := by
  simp only [Succeeds, raising, against_bind]
  refine ⟨.ok (), world, ?_, known⟩
  simp [machine, exec, healthy, started, ended]

theorem Startable.stopRenew (known : Startable world) :
    Succeeds params thread line stopRenew (fun _ => Startable) world := by
  simp only [Succeeds, Sync.stopRenew, against_bind]
  refine against_perform rfl ?_
  cases renew : world.renewThread with
  | none => exact known
  | some worker =>
      simp only [against_bind]
      refine against_perform rfl ?_
      refine against_perform rfl ?_
      refine succeeds_join (known.joinable worker renew) (known.ended worker) ?_
      refine against_perform rfl ?_
      exact { known with joinable := fun _ watched => by cases watched }

theorem Startable.tearDown (known : Startable world) :
    Succeeds params thread line tearDownConnAndThread (fun _ => Startable) world := by
  have joined : Succeeds params thread line joinRenewThread (fun _ => Startable) world := by
    simp only [Succeeds, joinRenewThread, against_bind]
    refine against_perform rfl ?_
    cases renew : world.renewThread with
    | none =>
        refine against_perform rfl ?_
        exact { known with joinable := fun _ watched => by cases watched }
    | some worker =>
        simp only [against_bind]
        refine succeeds_join (known.joinable worker renew) (known.ended worker) ?_
        refine against_perform rfl ?_
        exact { known with joinable := fun _ watched => by cases watched }
  simp only [Succeeds, tearDownConnAndThread, shutdownAndCloseConn, against_bind]
  refine against_perform rfl ?_
  simp only [known.conn, Program.pure_eq, against_ret]
  refine against_mono joined ?_ fun _ _ impossible => impossible
  intro _ world known
  simp only [clearHeldState, against_bind]
  refine against_perform rfl ?_
  refine against_perform rfl ?_
  exact { known with }

theorem Startable.closeUnlocked (known : Startable world) :
    Succeeds params thread line closeUnlocked (fun _ => Startable) world := by
  simp only [Succeeds, Sync.closeUnlocked, against_bind]
  refine against_perform rfl ?_
  split
  · exact known
  · simp only [beginClose, against_bind]
    refine against_perform rfl ?_
    refine against_perform rfl ?_
    refine against_perform rfl ?_
    exact tearDown { known with }

theorem Startable.reset (known : Startable world) :
    Succeeds params thread line resetForNewAttempt (fun _ => Startable) world := by
  simp only [Succeeds, resetForNewAttempt, against_bind]
  refine against_mono known.stopRenew ?_ fun _ _ impossible => impossible
  intro _ world known
  refine against_mono known.closeUnlocked ?_ fun _ _ impossible => impossible
  intro _ world known
  refine against_perform rfl ?_
  refine against_perform rfl ?_
  exact { known with }

theorem succeeds_exchange {α : Type} {conn : Nat} {built : Except PyError Request}
    {parse : Str → Except PyError α} {reply : Str} {value : α} {post : α → World → Prop}
    {raised : PyError → World → Prop} (opened : world.closedConn conn = false)
    (reaches : ReachesWire .sync built)
    (replies : ∀ request, built = .ok request →
      healthy line (.recv conn request.cmd) = .reply reply)
    (accepted : parse reply = .ok value)
    (known : ∀ request,
      post value (world.log [.frame conn request, .answer conn request.cmd reply])) :
    against (machine Patient.contained params) thread (healthy line)
      (exchange (some conn) built parse) post raised world := by
  obtain ⟨request, frame, rfl, encoded, armed⟩ := reaches
  have sends : healthy line (.send conn request) = .go := by
    have armed : settimeout request.readTimeout = .ok () := armed
    simp only [healthy, armed]
  simp only [exchange, command, against_bind, raising, encoded, Program.orRaise,
    against_ret, against_handle, against_discard]
  refine ⟨.ok (), world.log [.frame conn request], by simp [machine, exec, sends, opened], ?_⟩
  refine ⟨.ok reply, world.log [.frame conn request, .answer conn request.cmd reply], ?_, ?_⟩
  · simp only [machine, exec, replies request rfl, log_log]
    rfl
  simp only [accepted, against_ret]
  exact known request

theorem authenticate_succeeds {conn : Nat} (acquirable : Acquirable params)
    (opened : world.closedConn conn = false) :
    Succeeds params thread line (maybeAuthenticate conn params.authToken)
      (fun found world => found = conn ∧ world.closedConn conn = false) world := by
  cases given : params.authToken with
  | none => exact ⟨rfl, opened⟩
  | some authToken =>
      simp only [Succeeds, maybeAuthenticate, authenticate, against_handle, against_bind]
      refine succeeds_exchange opened (acquirable.auth given) (fun request built => ?_)
        (show parseAuthResponse (str "ok") = .ok () by decide) fun _ => ⟨rfl, opened⟩
      simp [healthy, authenticateRequest_kind built]

theorem Startable.open (acquirable : Acquirable params) (known : Startable world) :
    Succeeds params thread line (openAndAuthenticate params)
      (fun _ world => ∃ conn, world.conn = some conn ∧ world.closedConn conn = false) world := by
  obtain ⟨⟨host, port⟩, endpoint⟩ := acquirable.endpoint
  simp only [Succeeds, openAndAuthenticate, against_bind, endpoint, Program.orRaise, against_ret,
    raising]
  refine against_perform rfl ?_
  simp only [against_ret]
  have opened : ({ world with
      conns := world.conns + 1
      inHand := Function.update world.inHand world.conns (some thread) }).closedConn
        world.conns = false :=
    known.unmade world.conns (Nat.le_refl _)
  refine against_mono (authenticate_succeeds acquirable opened) ?_ fun _ _ impossible => impossible
  rintro _ world ⟨rfl, opened⟩
  exact against_perform rfl ⟨_, rfl, opened⟩

theorem startRenew_succeeds {post : Unit → World → Prop} {token : Option Str}
    (tokenEq : world.token = token)
    (known : ∀ world, world.token = token → post () world) :
    Succeeds params thread line startRenew post world := by
  simp only [Succeeds, startRenew, against_bind, raising]
  refine against_perform rfl ?_
  refine against_perform rfl ?_
  refine against_perform rfl ?_
  refine against_perform rfl ?_
  exact known _ tokenEq

theorem invokeAcquire_succeeds {conn : Nat} {token : Str} {lease : Int}
    (acquirable : Acquirable params) (grants : parseGrantResponse line [] = .ok (token, lease))
    (installed : world.conn = some conn) (opened : world.closedConn conn = false) :
    Succeeds params thread line (invokeAcquire params)
      (fun value world => value = .bool true ∧ world.token = some token) world := by
  simp only [Succeeds, invokeAcquire, grantOrClose, requireConn, protoAcquire, against_bind,
    against_handle]
  refine against_perform rfl ?_
  simp only [installed, Option.isNone_some, Bool.false_eq_true, if_false]
  refine against_perform rfl ?_
  rw [installed]
  have accepted := parseGrantResponse_label (opLabel params.pre (str "acquire")) grants
  refine succeeds_exchange opened acquirable.request (fun request built => ?_) accepted fun _ => ?_
  · simp [healthy, acquireRequest_kind built]
  simp only [storeGrant, against_bind]
  refine against_perform rfl ?_
  refine against_perform rfl ?_
  simp only [Program.pure_eq, against_ret, Option.isNone_some, Bool.false_eq_true, if_false,
    against_bind]
  exact startRenew_succeeds rfl fun world tokenEq => ⟨trivial, tokenEq⟩

theorem acquire_succeeds {token : Str} {lease : Int} (acquirable : Acquirable params)
    (grants : parseGrantResponse line [] = .ok (token, lease)) (free : world.stateLock = none)
    (startable : Startable world) :
    Succeeds params thread line (Call.acquire.program params)
      (fun value world => value = .bool true ∧ world.token = some token) world := by
  simp only [Succeeds, Call.program, Call.body, acquireUnlocked, against_bind, against_handle]
  refine ⟨(), { world with stateLock := some thread, lastReturn := none }, ?_, ?_⟩
  · simp [machine, exec, free]
  simp only [against_ret]
  have locked : Startable { world with stateLock := some thread, lastReturn := none } :=
    { startable with }
  refine against_mono locked.reset ?_ fun _ _ impossible => False.elim impossible
  intro _ world fresh
  refine against_mono (fresh.open acquirable) ?_ fun _ _ impossible => False.elim impossible
  rintro _ world ⟨conn, installed, opened⟩
  refine against_mono (invokeAcquire_succeeds acquirable grants installed opened) ?_
    fun _ _ impossible => False.elim impossible
  rintro _ world ⟨rfl, tokenEq⟩
  exact against_perform rfl ⟨rfl, tokenEq⟩

end Healthy

def Call.Failed (call : Call) (result : Except PyError CallValue) : Prop :=
  match result with
  | .ok value => call.fails value = true
  | .error _ => True

instance {call : Call} {result : Except PyError CallValue} : Decidable (call.Failed result) := by
  unfold Call.Failed
  split <;> infer_instance

/-- In a run whose steps are allowed, a call of a caller has come to this result: it was taken up,
the other threads have moved in between, and its last step leaves this. -/
def CallEnds (faults : Faults) (params : Params)
    (allow : Config Op Op.Res PyError Thread Val World → Thread → Choice → Prop) (me : Nat)
    (call : Call) (result : Except PyError CallValue) (world : World) : Prop :=
  ∃ (config₀ config₁ config next : Config Op Op.Res PyError Thread Val World) (choice : Choice),
    (machine faults params).Reachable allow initial config₀ ∧
    (config₀.program (.caller me)).outcome ≠ none ∧
    (machine faults params).Step config₀ (.caller me) (.call call) config₁ ∧
    (machine faults params).Reachable (Working allow (.caller me)) config₁ config ∧
    (config.program (.caller me)).outcome = none ∧ allow config (.caller me) choice ∧
    (machine faults params).Step config (.caller me) choice next ∧
    (next.program (.caller me)).outcome = some result ∧ next.shared = world

namespace Patient

def Final (call : Call) (thread : Thread) (result : Except PyError (Val thread)) (world : World) :
    Prop :=
  match thread with
  | .caller me => Finally me call result world
  | .worker _ => True

theorem finally_of_ends {me : Nat} {call : Call} {result : Except PyError CallValue} {world : World}
    (ends : CallEnds contained params Timely me call result world) :
    Finally me call result world := by
  obtain ⟨config₀, config₁, config, next, choice, reached, idle, begins, running, busy, allowed,
    step, outcome, rfl⟩ := ends
  have sound : Sound (machine contained params) contract Rest config₀ := Reached.sound reached
  change Final call (.caller me) result next.shared
  refine verified.concludes timely_permitted sound idle begins ?_ running busy allowed step outcome
  rintro outcome₀ program rested started
  cases started
  have programs : CallerTriple params me (Outside me) (call.program params)
      (fun value => Finally me call (.ok value)) (fun error => Finally me call (.error error)) :=
    (program_triple call).weaken (fun _ _ known => known) (fun _ _ _ known => known.2)
      fun _ _ _ known => known.2
  exact programs config₀.shared config₀.shared (.refl _) sound.1 rested

theorem Abandoned.of_failed {me : Nat} {call : Call} {result : Except PyError CallValue}
    (known : Finally me call result world) (failed : call.Failed result) : Abandoned me world := by
  cases result with
  | ok value => exact known failed
  | error error => exact known

theorem Abandoned.startable {me : Nat} (known : Abandoned me world) : Startable world := by
  obtain ⟨_, ended, origin, emptied⟩ := known
  exact { emptied with ended := ended, conn := emptied.idle.1 }

end Patient

/-- While callers wait for the workers they stop, an operation that fails leaves the instance idle,
with every connection closed and every worker ended, and a healthy server can be asked again. -/
theorem failed_call_leaves_idle {me : Nat} {call : Call} {result : Except PyError CallValue}
    {world : World} (ends : CallEnds Patient.contained params Patient.Timely me call result world)
    (failed : call.Failed result) :
    Mode.idle.Holds world ∧ (∀ conn, ¬OpenConn world conn) ∧ Patient.NoneAlive world ∧
      ∀ thread line token lease, Acquirable params →
        parseGrantResponse line [] = .ok (token, lease) →
        Succeeds params thread line (Call.acquire.program params)
          (fun value world => value = .bool true ∧ world.token = some token) world := by
  have abandoned := Patient.Abandoned.of_failed (Patient.finally_of_ends ends) failed
  have startable := abandoned.startable
  obtain ⟨free, ended, origin, emptied⟩ := abandoned
  refine ⟨emptied.idle, ?_, ended, ?_⟩
  · rintro conn ⟨made, opened⟩
    rw [emptied.shut conn made] at opened
    cases opened
  · intro thread line token lease acquirable grants
    exact acquire_succeeds acquirable grants free startable

/-! Runs on fixed choices -/

section Runs

variable {faults : Faults}
  {allow : Config Op Op.Res PyError Thread Val World → Thread → Choice → Prop}
  {check : Config Op Op.Res PyError Thread Val World → Thread → Choice → Bool} {me : Nat}
  {call : Call} {before during : List (Machine.Turn Op Thread Choice)} {last : Choice}

def works (me : Nat) (config : Config Op Op.Res PyError Thread Val World) (mover : Thread) : Bool :=
  mover != .caller me || (config.program (.caller me)).outcome.isNone

def callRun (faults : Faults) (params : Params)
    (check : Config Op Op.Res PyError Thread Val World → Thread → Choice → Bool) (me : Nat)
    (call : Call) (before during : List (Machine.Turn Op Thread Choice)) (last : Choice) :
    Option (Except PyError CallValue × World) := do
  let before := (machine faults params).schedule initial before
  let config₀ ← (machine faults params).run initial before
  let config₁ ← (machine faults params).runStep config₀ (.caller me) [.call call]
  let during := (machine faults params).schedule config₁ during
  let config ← (machine faults params).run config₁ during
  let next ← (machine faults params).runStep config (.caller me) [last]
  let result ← (next.program (.caller me)).outcome
  if (machine faults params).checks check initial before &&
      (config₀.program (.caller me)).outcome.isSome &&
      (machine faults params).checks (fun config mover choice =>
        check config mover choice && works me config mover) config₁ during &&
      (config.program (.caller me)).outcome.isNone && check config (.caller me) last then
    pure (result, next.shared)
  else none

theorem CallEnds.of_run {result : Except PyError CallValue}
    (allowed : ∀ config mover choice, check config mover choice = true → allow config mover choice)
    (ran : callRun faults params check me call before during last = some (result, world)) :
    CallEnds faults params allow me call result world := by
  simp only [callRun, Option.bind_eq_bind, Option.bind_eq_some_iff] at ran
  obtain ⟨config₀, ran₀, config₁, begins, config, ran, next, ends, result, outcome, passed⟩ := ran
  split at passed
  · rename_i checked
    simp only [Bool.and_eq_true] at checked
    obtain ⟨⟨⟨⟨first, idle⟩, later⟩, busy⟩, final⟩ := checked
    cases passed
    have reached := ((machine faults params).checks_reachable first .initial ran₀).mono fun config
      mover choice => allowed config mover choice
    have running := ((machine faults params).checks_reachable later .initial ran).mono fun config
      mover choice (within : (check config mover choice && works me config mover) = true) =>
        show Working allow (.caller me) config mover choice by
          rw [Bool.and_eq_true] at within
          refine ⟨allowed config mover choice within.1, ?_⟩
          rintro rfl
          simpa [works] using within.2
    exact ⟨config₀, config₁, config, next, last, reached, Option.isSome_iff_ne_none.mp idle,
      (machine faults params).runStep_step begins, running, by simpa using busy,
      allowed config _ last final, (machine faults params).runStep_step ends, outcome, rfl⟩
  · cases passed

end Runs

def tokenKept (config : Config Op Op.Res PyError Thread Val World) (thread : Thread) (_ : Choice) :
    Bool :=
  match thread, config.program thread with
  | .caller _, .act .getToken _ => config.shared.token.isSome
  | _, _ => true

theorem timely_of_kept {config : Config Op Op.Res PyError Thread Val World} {thread : Thread}
    {choice : Choice} (kept : tokenKept config thread choice = true) :
    Patient.Timely config thread choice := by
  rintro me rest rfl programEq gone
  simp [tokenKept, programEq, gone] at kept

def turnTo (thread : Thread) (choice : Choice) (upTo : Op → Bool) :
    Machine.Turn Op Thread Choice where
  thread := thread
  choice := choice
  upTo := upTo

def unlocks (op : Op) : Bool := op matches .unlockState _

/-- A second caller waits for the worker of the first, asks for a slot and does not get it. -/
theorem failed_call_leaves_idle_demo :
    ∃ result world,
      CallEnds Patient.contained guardedSemaphore Patient.Timely 1 .acquire result world ∧
      Call.acquire.Failed result ∧ world.conns = 2 ∧ Mode.idle.Holds world ∧
      Succeeds guardedSemaphore (.caller 0) (str "ok t 33") (Call.acquire.program guardedSemaphore)
        (fun value world => value = .bool true ∧ world.token = some (str "t")) world := by
  have ran : (callRun Patient.contained guardedSemaphore tokenKept 1 .acquire
      (turns (.caller 0) [.call .acquire, .reply (str "ok"), .reply (str "ok t 33")] ++ sleeping)
      (turns (.caller 1) [.go] ++ turns (.worker 0) [.go] ++
        turns (.caller 1) [.go, .reply (str "ok")] ++
        [turnTo (.caller 1) (.reply (str "timeout")) unlocks]) .go).map (fun ended =>
      decide (Call.acquire.Failed ended.1 ∧ ended.2.conns = 2)) = some true := by
    decide +kernel
  simp only [Option.map_eq_some_iff, Prod.exists, decide_eq_true_eq] at ran
  obtain ⟨result, world, ran, failed, made⟩ := ran
  have ends := CallEnds.of_run (fun _ _ _ => timely_of_kept) ran
  obtain ⟨idle, _, _, again⟩ := failed_call_leaves_idle ends failed
  have acquirable : Acquirable guardedSemaphore :=
    ⟨by decide +kernel, guardedSemaphore_checked, 0, rfl, by decide⟩
  exact ⟨result, world, ends, failed, made, idle,
    again (.caller 0) (str "ok t 33") (str "t") 33 acquirable (by decide)⟩

def Strands (faults : Faults) (call : Call) : Prop :=
  ∃ result world, CallEnds faults demoParams (fun _ _ _ => True) 0 call result world ∧
    call.Failed result ∧ ¬Mode.idle.Holds world

theorem strands_of_run {faults : Faults} {call : Call}
    {before during : List (Machine.Turn Op Thread Choice)} {last : Choice}
    (ran : (callRun faults demoParams (fun _ _ _ => true) 0 call before during last).map
      (fun ended => decide (call.Failed ended.1 ∧
        (ended.2.token ≠ none ∨ ended.2.lease ≠ 0))) = some true) : Strands faults call := by
  simp only [Option.map_eq_some_iff, Prod.exists, decide_eq_true_eq] at ran
  obtain ⟨result, world, ran, failed, left⟩ := ran
  refine ⟨result, world, .of_run (fun _ _ _ _ => trivial) ran, failed, ?_⟩
  rintro ⟨_, token, lease, _⟩
  rcases left with held | leased
  · exact held token
  · exact leased lease

def starts (op : Op) : Bool := op matches .startThread _

def dials (op : Op) : Bool := op matches .dial _ _

def setsLease (op : Op) : Bool := op matches .setLease _

/-- What is left behind by an acquire whose worker does not start, a release that is interrupted,
an acquire that gives up on a worker before its lease is stored, and a wait that finds the token
gone before the worker has cleared the lease. -/
theorem failed_call_not_idle :
    Strands { startFails := true } .acquire ∧
    Strands { interrupts := fun kind => kind == some .release } .release ∧
    Strands { joinGivesUp := true } .acquire ∧ Strands {} (.wait none) := by
  refine ⟨?_, ?_, ?_, ?_⟩
  · exact @strands_of_run _ _ []
      [turnTo (.caller 0) .go unlocks, turnTo (.caller 0) (.reply (str "ok t 33")) starts,
        turnTo (.caller 0) (.fail (runtimeError [])) unlocks] .go (by decide +kernel)
  · exact @strands_of_run _ _ (acquiring (str "ok t 33") ++ turns (.worker 0) [.go])
      (turns (.caller 0) [.go] ++ turns (.worker 0) [.go] ++ turns (.caller 0) [.go] ++
        [turnTo (.caller 0) (.fail ⟨.keyboardInterrupt, []⟩) unlocks]) .go (by decide +kernel)
  · exact @strands_of_run _ _
      (acquiring (str "ok t 33") ++ sleeping ++ turns (.worker 0) [.expire] ++
        [turnTo (.worker 0) (.reply (str "ok 30")) setsLease])
      (turns (.caller 0) [.go] ++ [turnTo (.caller 0) .expire dials,
        turnTo (.worker 0) .go setsLease,
        turnTo (.caller 0) (.fail (runtimeError [])) unlocks]) .go (by decide +kernel)
  · exact @strands_of_run _ _
      (acquiring (str "ok t 33") ++ sleeping ++ turns (.worker 0) [.expire] ++
        [turnTo (.worker 0) (.reply (str "error")) setsLease])
      [turnTo (.caller 0) .go unlocks] .go (by decide +kernel)

example : (callRun Patient.contained demoParams tokenKept 0 .acquire []
    [turnTo (.caller 0) .go dials, turnTo (.caller 0) (.fail (runtimeError [])) unlocks] .go).map
      (fun ended => decide (Call.acquire.Failed ended.1 ∧ ended.2.conns = 0)) = some true := by
  decide +kernel

end DflockdClient.Sync
