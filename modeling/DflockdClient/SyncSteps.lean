import DflockdClient.SyncRenewals
import DflockdClient.SyncRuns

/-! Runs in which every operation and every renewal iteration is one step. -/

namespace DflockdClient.Sync

open Interleaving

variable {faults : Faults} {params : Params}

/-- What holds between two steps. -/
structure Between (world : World) : Prop where
  free : world.stateLock = none
  rested : Rested (.caller 0) world world

section Steps

variable {thread : Thread} {before after : World}

theorem Rested.rebase {other : Thread} (known : Rested thread before after) :
    Rested other after after :=
  { known with
    frame := fun worker => ⟨fun started => ⟨started, rfl, fun _ => rfl⟩,
      fun idle started => by
        rw [idle] at started
        cases started⟩
    stateLock := fun _ _ => rfl }

theorem Frame.promise {other : Thread} (frame : Frame thread before after)
    (different : other ≠ thread) {outcome : Except PyError (Val other)}
    (promise : Promise other outcome before) : Promise other outcome after := by
  cases other with
  | caller me => trivial
  | worker me =>
      obtain ⟨kept, new⟩ := frame me
      cases outcome with
      | error error => trivial
      | ok state =>
          cases state with
          | fresh =>
              intro started
              cases old : before.started me with
              | true => rw [(kept old).2.2 different.symm, promise old]
              | false => exact new old started
          | sleeping event interval =>
              have sleeping : Sleeping me event before := promise
              obtain ⟨started, sameEvent, sameAlive⟩ := kept sleeping.started
              exact ⟨started, sameEvent.trans sleeping.event,
                (sameAlive different.symm).trans sleeping.alive⟩
          | done => trivial

theorem Rested.leaves (known : Rested thread before after) (free : after.stateLock = none) :
    Leaves Between Promise thread before after :=
  ⟨⟨free, known.rebase⟩, fun _ different _ promise => known.frame.promise different promise⟩

theorem renewLoop_wlp {me : Nat} {raised : PyError → World → Prop}
    (known : Rested (.worker me) before before)
    (promise : before.started me = true → before.alive me = true) :
    wlp (sequential faults params) (.worker me) (renewLoop params)
      (fun state after => Rested (.worker me) before after ∧ Promise (.worker me) (.ok state) after)
      raised before := by
  simp only [renewLoop, wlp_bind]
  apply wlp_beginThread
  intro started
  simp only [wlp_getLease]
  exact ⟨known, started, rfl, promise started⟩

end Steps

theorem programs_wlp (benign : faults.Benign) (thread : Thread)
    (outcome : Except PyError (Val thread)) (choice : Choice) (program : Py (Val thread))
    (world : World) (started : (sequential faults params).start thread outcome choice = some program)
    (between : Between world) (promise : Promise thread outcome world) :
    wlp (sequential faults params) thread program
      (fun value after => Leaves Between Promise thread world after ∧
        Promise thread (.ok value) after)
      (fun error after => Leaves Between Promise thread world after ∧
        Promise thread (.error error) after) world := by
  cases thread with
  | caller me =>
      cases choice with
      | call call =>
          cases started
          refine wlp_mono (program_wlp call benign between.rested.rebase) ?_ ?_
          · rintro value after ⟨free, rested, -⟩
            exact ⟨rested.leaves free, trivial⟩
          · rintro error after ⟨free, emptied⟩
            exact ⟨emptied.toRested.leaves free, trivial⟩
      | _ => cases started
  | worker me =>
      have leaves {state : WorkerState} {after : World} (known : Rested (.worker me) world after ∧
          Promise (.worker me) (.ok state) after) :
          Leaves Between Promise (.worker me) world after ∧
            Promise (.worker me) (.ok state) after :=
        ⟨known.1.leaves ((known.1.stateLock me rfl).trans between.free), known.2⟩
      have never (_ : PyError) (after : World) (impossible : False) :
          Leaves Between Promise (.worker me) world after ∧ True := impossible.elim
      cases outcome with
      | error error => cases started
      | ok state =>
          cases state with
          | fresh =>
              cases started
              exact wlp_mono (renewLoop_wlp between.rested.rebase promise)
                (fun _ _ known => leaves known) never
          | sleeping event interval =>
              cases started
              exact wlp_mono (renewRound_wlp between.rested.rebase promise)
                (fun _ _ known => leaves known) never
          | done => cases started

variable {config : Config Op Op.Res PyError Thread Val World}

abbrev Stepped (faults : Faults) (params : Params)
    (config : Config Op Op.Res PyError Thread Val World) : Prop :=
  (sequential faults params).Reachable (fun _ _ _ => True) initial config

theorem initial_settled : AtRest Between Promise initial where
  inv := by
    refine ⟨rfl, ?_⟩
    exact {
      free := rfl
      pastSet := fun _ _ => by simp_all [initial]
      future := fun _ _ => rfl
      workerPast := fun _ _ => Nat.le_refl _
      startedMade := nofun
      aliveStarted := nofun
      unmade := fun _ _ => rfl
      frame := fun _ => ⟨nofun, nofun⟩
      stateLock := fun _ _ => rfl
      joinable := nofun
      watched := fun _ renews => by cases renews.1
      closed := nofun
      others := nofun
      connMade := nofun
      unset := fun _ => rfl
      mode := ⟨.idle, rfl, rfl, rfl, fun _ renews => by cases renews.1⟩ }
  promised := by
    intro thread
    cases thread with
    | caller me => exact ⟨_, rfl, trivial⟩
    | worker me => exact ⟨_, rfl, nofun⟩

theorem Stepped.settled (benign : faults.Benign) (reached : Stepped faults params config) :
    AtRest Between Promise config :=
  AtRest.reachable (fun _ => rfl) (programs_wlp benign) initial_settled reached

/-- Joins may give up; threads start, and the network raises ordinary exceptions only. -/
def plainFaults : Faults := { joinGivesUp := true }

theorem plainFaults_benign : plainFaults.Benign := ⟨rfl, rfl⟩

/-- Between steps an instance is idle, queued or held. -/
theorem one_mode (reached : Stepped plainFaults params config) :
    ∃! mode : Mode, mode.Holds config.shared := by
  obtain ⟨mode, holds⟩ := (reached.settled plainFaults_benign).inv.rested.mode
  exact ⟨mode, holds, fun other otherHolds => Mode.exclusive otherHolds holds⟩

/-- The choices of a whole program, where the environment goes by the operation. -/
def choicesOf {α : Type} (thread : Thread) (choose : Op → Choice) (fuel : Nat) (program : Py α)
    (world : World) : List Choice :=
  match fuel, program with
  | fuel + 1, .act op next =>
      match exec plainFaults thread op (choose op) world with
      | some (result, after) => choose op :: choicesOf thread choose fuel (next result) after
      | none => []
  | _, _ => []

/-- Whole steps: what a thread takes up, and what the server answers meanwhile. -/
def stepsOf (config : Config Op Op.Res PyError Thread Val World)
    (turns : List (Thread × Choice × Str)) : List (Thread × List Choice) :=
  match turns with
  | [] => []
  | (thread, first, line) :: rest =>
      let choose (op : Op) : Choice := match op with
        | .recv _ _ => .reply line
        | .waitEvent _ _ => .expire
        | _ => .go
      let choices := match config.program thread with
        | .ret value => ((start demoParams thread (.ok value) first).map fun program =>
            choicesOf thread choose 99 program config.shared).getD []
        | _ => []
      match (sequential plainFaults demoParams).runStep config thread (first :: choices) with
      | some next => (thread, first :: choices) :: stepsOf next rest
      | none => [(thread, first :: choices)]

theorem one_mode_demo :
    ∃ config, Stepped plainFaults demoParams config ∧ config.shared.lease = 30 ∧
      ∃! mode : Mode, mode.Holds config.shared := by
  obtain ⟨config, reached, passed⟩ := (sequential plainFaults demoParams).exists_run
    (fun _ _ _ => True) initial
    (stepsOf initial [(.caller 0, .call .acquire, str "ok t 33"), (.worker 0, .go, []),
      (.worker 0, .go, str "ok 30")])
    (fun _ _ _ => trivial) (fun config => config.shared.lease == 30) (by decide +kernel)
  exact ⟨config, reached, by simpa using passed, one_mode reached⟩

end DflockdClient.Sync
