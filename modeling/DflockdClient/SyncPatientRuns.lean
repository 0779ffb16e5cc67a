import DflockdClient.SyncPatientCalls

/-!
Closing beside a worker that is still alive, whole operations, and their runs.
-/

namespace DflockdClient.Sync.Patient

open Interleaving

variable {params : Params} {me : Nat} {before after world : World}

structure Closing (me : Nat) (io : Bool) (world : World) : Prop where
  lock : world.stateLock = some (.caller me)
  io : world.ioLock = some (.caller me) ↔ io = true
  steady : Steady world
  closed : world.closed = true

theorem Closing.worked {io : Bool} {worker : Nat} (works : Works worker before after)
    (known : Closing me io before) : Closing me io after := by
  have same := works.same
  simp only [Prod.mk.injEq] at same
  exact ⟨same.1.trans known.lock, (works.ioLock (.caller me) (by simp)).symm.trans known.io,
    works.steady, same.2.1.trans known.closed⟩

structure Shutting (me : Nat) (io : Bool) (world : World) : Prop extends Closing me io world where
  set : world.eventSet world.stopEvent = true

theorem Shutting.worked {io : Bool} {worker : Nat} (works : Works worker before after)
    (known : Shutting me io before) : Shutting me io after := by
  have same := works.same
  simp only [Prod.mk.injEq] at same
  refine ⟨known.toClosing.worked works, ?_⟩
  rw [same.2.2.1, same.2.2.2.2.1]
  exact known.set

structure Severing (me : Nat) (io : Bool) (conn : Nat) (cut : Bool) (world : World) : Prop extends
    Shutting me io world where
  made : conn < world.conns
  only : ∀ other, world.conn = some other → other = conn
  cut : cut = true → world.closedConn conn = true

theorem Severing.worked {io : Bool} {conn : Nat} {cut : Bool} {worker : Nat}
    (works : Works worker before after) (known : Severing me io conn cut before) :
    Severing me io conn cut after := by
  have same := works.same
  simp only [Prod.mk.injEq] at same
  refine ⟨known.toShutting.worked works, ?_, fun other installed => ?_, fun done => ?_⟩
  · rw [same.2.2.2.2.2.1]
    exact known.made
  · rcases works.conn with kept | gone
    · exact known.only other (kept.symm.trans installed)
    · rw [gone] at installed
      cases installed
  · exact works.closedConn conn (known.cut done)

structure Severed (me : Nat) (world : World) : Prop extends Shutting me false world where
  gone : world.conn = none

theorem Severed.worked {worker : Nat} (works : Works worker before after)
    (known : Severed me before) : Severed me after := by
  refine ⟨known.toShutting.worked works, ?_⟩
  rcases works.conn with kept | gone
  · rw [kept, known.gone]
  · exact gone

theorem Severed.torn (known : Severed me world) (ended : NoneAlive world) :
    Has me (fun origin world => Tearing (.caller me) origin world ∧ world.conn = none) world := by
  have io : world.ioLock ≠ some (.caller me) := fun mine => by simpa using known.io.mp mine
  exact ⟨⟨known.lock, ended⟩, world, { known.steady.base known.lock io ended with
    quiet := fun _ renews => absurd ended (not_noneAlive renews.1)
    joinable := known.steady.joinable
    closed := known.closed
    stopSet := known.set
    others := known.steady.shut ended
    connMade := known.steady.connMade }, known.gone⟩

theorem not_resting (lock : world.stateLock = some (.caller me)) {fact : Prop}
    (free : world.stateLock = none) : fact := by
  rw [lock] at free
  cases free

section Severing

variable {conn : Nat} {raised : PyError → World → Prop}

theorem takeIo_triple : CallerTriple params me (Severing me false conn false) (perform .lockIo)
    (fun _ => Severing me true conn false) raised := by
  refine caller_op (fun _ known => known.lock) (fun _ _ _ _ => Severing.worked) ?_
  intro world choice result after known _ executed
  simp only [exec, Option.ite_none_right_eq_some, Option.some.injEq, Prod.mk.injEq] at executed
  obtain ⟨free, _, rfl⟩ := executed
  have steady : Steady { world with ioLock := some (.caller me) } := { known.steady with
    lockers := by
      rintro _ ⟨⟩
      exact .inl known.lock
    resting := not_resting known.lock }
  refine ⟨.within known.lock rfl (fun worker => ?_) (.inl rfl) (fun _ => id)
    (fun _ _ held => ⟨held, id⟩), steady, { known with io := by simp, steady := steady }⟩
  simp [free]

theorem cut_triple : CallerTriple params me (Severing me true conn false)
    (perform (.closeConn conn)) (fun _ => Severing me true conn true) raised := by
  refine caller_op (fun _ known => known.lock) (fun _ _ _ _ => Severing.worked) ?_
  intro world choice result after known _ executed
  cases executed
  have steady : Steady { world with
      closedConn := Function.update world.closedConn conn true } := { known.steady with
    unmade := unmade_update known.steady.unmade known.made
    others := fun other made elsewhere =>
      (known.steady.others other made elsewhere).imp closed_update id
    resting := not_resting known.lock }
  exact ⟨.within known.lock rfl (fun _ => Iff.rfl) (.inl rfl) (fun _ => closed_update)
    (fun _ _ held => ⟨held, id⟩), steady, { known with
      steady := steady
      cut := fun _ => by simp }⟩

theorem giveIo_triple : CallerTriple params me (Severing me true conn true) (perform .unlockIo)
    (fun _ => Severing me false conn true) raised := by
  refine caller_op (fun _ known => known.lock) (fun _ _ _ _ => Severing.worked) ?_
  intro world choice result after known _ executed
  cases executed
  have steady : Steady { world with ioLock := none, armed := none } := { known.steady with
    lockers := nofun
    resting := not_resting known.lock }
  refine ⟨.within known.lock rfl (fun worker => ?_) (.inl rfl) (fun _ => id)
    (fun _ _ held => ⟨held, id⟩), steady, { known with io := by simp, steady := steady }⟩
  simp [known.io.mpr rfl]

theorem forget_triple : CallerTriple params me (Severing me false conn true)
    (perform (.setConn none)) (fun _ => Severed me) raised := by
  refine caller_op (fun _ known => known.lock) (fun _ _ _ _ => Severing.worked) ?_
  intro world choice result after known _ executed
  cases executed
  have steady : Steady (world.setConn (.caller me) none) := { known.steady with
    connMade := nofun
    others := fun other made _ => by
      by_cases installed : world.conn = some other
      · exact .inl (known.only other installed ▸ known.cut rfl)
      · refine (known.steady.others other made installed).imp id fun ⟨worker, alive, held⟩ => ?_
        exact ⟨worker, alive, by simp [World.setConn, installed, held]⟩
    resting := not_resting known.lock }
  refine ⟨.within known.lock rfl (fun _ => Iff.rfl) (.inr rfl) (fun _ => id)
    (fun worker other held => ?_), steady, { known with steady := steady, gone := rfl }⟩
  simp only [World.setConn, reduceCtorEq, if_false] at held
  split at held
  · cases held
  · rename_i elsewhere
    exact ⟨held, fun installed => absurd installed elsewhere⟩

end Severing

theorem shutdownAndCloseConn_triple {raised : PyError → World → Prop} :
    CallerTriple params me (Shutting me false) shutdownAndCloseConn (fun _ => Severed me)
      raised := by
  have finds : CallerTriple params me (Shutting me false) (perform .getConn)
      (fun found world => Shutting me false world ∧ (found = none → world.conn = none) ∧
        ∀ conn, found = some conn → Severing me false conn false world) raised := by
    refine caller_op (fun _ known => known.lock) (fun _ _ _ _ => Shutting.worked) ?_
    intro world choice result after known _ executed
    cases executed
    refine ⟨.of_same known.lock rfl rfl, known.steady, known, id, fun conn installed => ?_⟩
    exact ⟨known, known.steady.connMade conn installed, fun other same =>
      Option.some.inj (same.symm.trans installed), nofun⟩
  refine finds.bind fun found => ?_
  cases found with
  | none => exact .ret fun _ _ known => ⟨known.1, known.2.1 rfl⟩
  | some conn =>
      have wakes : CallerTriple params me (Severing me false conn false)
          (perform (.shutdownRead conn)) (fun _ => Severing me false conn false) raised := by
        refine caller_op (fun _ known => known.lock) (fun _ _ _ _ => Severing.worked) ?_
        intro world choice result after known _ executed
        cases executed
        exact ⟨.of_same known.lock rfl rfl, known.steady, known⟩
      have severs : CallerTriple params me (Severing me false conn false)
          (withIoLock (perform (.closeConn conn))) (fun _ => Severing me false conn true) raised :=
        takeIo_triple.bind fun _ => Triple.ensure cut_triple (fun _ => giveIo_triple)
          fun _ => Triple.vacuous fun _ impossible => False.elim impossible
      exact Triple.pre (wakes.bind fun _ => severs.bind fun _ => forget_triple)
        fun _ _ known => known.2.2 conn rfl

theorem joinRenewThread_triple {raised : PyError → World → Prop} :
    CallerTriple params me (Severed me)
      (do
        joinRenewThread
        clearHeldState)
      (fun _ => Has me (Emptied (.caller me))) raised := by
  have empties : CallerTriple params me
      (Has me fun origin world => Tearing (.caller me) origin world ∧ world.conn = none)
      (do
        perform (.setRenewThread none)
        clearHeldState)
      (fun _ => Has me (Emptied (.caller me))) raised := by
    refine alone_calmly
      (.bind (.perform rfl) fun _ => .bind (.perform rfl) fun _ => .perform rfl) ?_
    rintro origin world mine ⟨tearing, gone⟩
    simp only [clearHeldState, wlp_bind, wlp_setRenewThread, wlp_setToken, wlp_setLease]
    have torn : Torn (.caller me) origin { world with
        renewThread := none, token := none, lease := 0 } :=
      { tearing with
        joinable := fun _ found => by cases found
        conn := gone
        token := rfl
        lease := rfl }
    exact torn.emptied
  have finds : CallerTriple params me (Severed me) (perform .getRenewThread)
      (fun found world => Severed me world ∧ world.renewThread = found) raised := by
    refine caller_op (fun _ known => known.lock) (fun _ _ _ _ => Severed.worked) ?_
    intro world choice result after known _ executed
    cases executed
    exact ⟨.of_same known.lock rfl rfl, known.steady, known, rfl⟩
  rw [joinRenewThread, Program.bind_bind]
  refine finds.bind fun found => ?_
  cases found with
  | none =>
      refine Triple.pre empties fun world _ known => known.1.torn ?_
      exact noneAlive_of known.1.steady known.2 fun _ found => by cases found
  | some worker =>
      rw [Program.bind_bind]
      refine Triple.bind ?_ fun _ => empties
      refine (join_triple (fun _ known => known.1.lock) ?_ (fun _ known => known.1.steady)
        fun _ known => known.2).post fun _ _ _ known => known.1.1.torn known.2
      rintro other before after alive works ⟨known, found⟩
      have same := works.same
      simp only [Prod.mk.injEq] at same
      exact ⟨known.worked works, same.2.2.2.1.trans found⟩

theorem beginClose_triple {raised : PyError → World → Prop} :
    CallerTriple params me (Ready me) beginClose (fun _ => Shutting me false) raised := by
  have closes : CallerTriple params me (Ready me) (perform (.setClosed true))
      (fun _ => Closing me false) raised := by
    refine caller_op (fun _ known => known.lock) (fun _ _ _ => Ready.worked) ?_
    intro world choice result after known _ executed
    cases executed
    have steady : Steady { world with closed := true } := { known.steady with
      resting := not_resting known.lock }
    exact ⟨.of_same known.lock rfl rfl, steady, known.lock, by simp [known.io], steady, rfl⟩
  have reads : CallerTriple params me (Closing me false) (perform .getStopEvent)
      (fun event world => Closing me false world ∧ event = world.stopEvent) raised := by
    refine caller_op (fun _ known => known.lock) (fun _ _ _ _ => Closing.worked) ?_
    intro world choice result after known _ executed
    cases executed
    exact ⟨.of_same known.lock rfl rfl, known.steady, known, rfl⟩
  refine closes.bind fun _ => reads.bind fun event => caller_op (fun _ known => known.1.lock) ?_ ?_
  · rintro worker before after alive works ⟨known, current⟩
    have same := works.same
    simp only [Prod.mk.injEq] at same
    exact ⟨known.worked works, current.trans same.2.2.1.symm⟩
  · rintro world choice result after ⟨known, rfl⟩ _ executed
    cases executed
    have steady := known.steady.stopped known.lock
    exact ⟨.of_same known.lock rfl rfl, steady, { known with steady := steady, set := by simp }⟩

theorem close_triple : BodyTriple params me .close (Ready me) closeCall := by
  have finds : CallerTriple params me (Ready me) (perform .getClosed) (fun _ => Ready me)
      (fun _ => Has me (Emptied (.caller me))) := by
    refine caller_op (fun _ known => known.lock) (fun _ _ _ => Ready.worked) ?_
    intro world choice result after known _ executed
    cases executed
    exact ⟨.of_same known.lock rfl rfl, known.steady, known⟩
  have closes : CallerTriple params me (Ready me) closeUnlocked (fun _ => Ready me)
      (fun _ => Has me (Emptied (.caller me))) := by
    refine finds.bind fun closed => ?_
    split
    · exact .ret fun _ _ known => known
    · refine beginClose_triple.bind fun _ => shutdownAndCloseConn_triple.bind fun _ => ?_
      exact Triple.post joinRenewThread_triple fun _ _ _ known =>
        .of ⟨known.1, known.2.imp fun _ emptied => emptied.toRested⟩
  exact closes.bind fun _ => .ret fun _ _ known => ⟨known, nofun⟩

theorem body_triple (call : Call) : BodyTriple params me call (Ready me) (call.body params) := by
  have locked (world : World) (known : Ready me world) : Locked me world := known.toLocked
  cases call with
  | acquire => exact acquire_triple.pre fun world _ => locked world
  | enqueue => exact enqueue_triple.pre fun world _ => locked world
  | wait timeoutS => exact wait_triple
  | release => exact release_triple.pre fun world _ => locked world
  | close => exact close_triple

def Outside (me : Nat) (world : World) : Prop := world.stateLock ≠ some (.caller me)

theorem outside_stable : contract.Stable (.caller me) (Outside me) := by
  intro other different before after _ _ within known locked
  cases other with
  | caller id =>
      have move : CallerMove id before after := within
      rcases move.locks _ locked with earlier | same
      · exact known earlier
      · exact different same.symm
  | worker worker =>
      have move : WorkerMove worker before after := within
      rcases move with rfl | ⟨_, works⟩
      · exact known locked
      · have same := works.same
        simp only [Prod.mk.injEq] at same
        exact known (same.1.symm.trans locked)

theorem lockState_triple {raised : PyError → World → Prop} :
    CallerTriple params me (Outside me) (perform .lockState) (fun _ => Ready me) raised := by
  refine Triple.perform rfl outside_stable ?_
  intro world choice result after inv _ _ executed
  have executed : (if world.stateLock = none then
      some ((), { world with stateLock := some (.caller me), lastReturn := none }) else none) =
        some (result, after) := executed
  split at executed
  · rename_i free
    cases executed
    have steady : Steady world := by
      rcases inv with ⟨id, locked, _⟩ | steady
      · rw [free] at locked
        cases locked
      · exact steady
    have rested := steady.resting free
    have workers (thread : Thread) (locked : world.ioLock = some thread) :
        ∃ worker, thread = .worker worker ∧ world.alive worker = true := by
      refine (steady.lockers thread locked).resolve_left fun held => ?_
      rw [free] at held
      cases held
    have entered : Steady { world with stateLock := some (.caller me), lastReturn := none } :=
      { steady with
        lockers := fun thread locked => .inr (workers thread locked)
        resting := nofun }
    refine ⟨⟨fun _ => .inr ⟨free, rfl⟩, ?_, ?_, fun _ => .inl⟩, .inr entered,
      ⟨rfl, ?_, entered, ?_⟩, rested.unset, rested.bare⟩
    · rintro _ ⟨⟩
      exact .inr rfl
    · exact fun worker alive =>
        ⟨alive, Iff.rfl, ⟨rfl, rfl⟩, .inl rfl, rfl, fun _ => id, fun _ held => ⟨held, id⟩⟩
    · intro mine
      obtain ⟨worker, same, _⟩ := workers _ mine
      cases same
    · exact rested.shut
  · cases executed

theorem unlockState_triple {returned : Option Call} {raised : PyError → World → Prop}
    {fact kept : World → Prop}
    (leaves : ∀ world, Ready me world → fact world →
      kept { world with stateLock := none, lastReturn := returned })
    (stable : ∀ worker before after, before.alive worker = true → Works worker before after →
      fact before → fact after) :
    CallerTriple params me (fun world => Ready me world ∧ fact world)
      (perform (.unlockState returned)) (fun _ world => Outside me world ∧ kept world) raised := by
  refine caller_op (fun _ known => known.1.lock) ?_ ?_
  · exact fun worker before after alive works known =>
      ⟨known.1.worked alive works, stable worker before after alive works known.2⟩
  · rintro world choice result after ⟨ready, known⟩ _ executed
    cases executed
    have steady : Steady { world with stateLock := none, lastReturn := returned } :=
      { ready.steady with
        lockers := fun thread locked => .inr <| by
          refine (ready.steady.lockers thread locked).resolve_left fun held => ?_
          cases held.symm.trans ready.lock
          exact ready.io locked
        resting := fun _ => ⟨ready.shut, ready.unset, ready.bare⟩ }
    refine ⟨⟨fun elsewhere => absurd ready.lock elsewhere, nofun, ?_, fun _ => .inl⟩, steady, nofun,
      leaves world ready known⟩
    exact fun worker alive =>
      ⟨alive, Iff.rfl, ⟨rfl, rfl⟩, .inl rfl, rfl, fun _ => id, fun _ held => ⟨held, id⟩⟩

def Abandoned (me : Nat) (world : World) : Prop :=
  world.stateLock = none ∧ NoneAlive world ∧ ∃ origin, Emptied (.caller me) origin world

def Finally (me : Nat) (call : Call) (outcome : Except PyError CallValue) (world : World) : Prop :=
  match outcome with
  | .ok value => call.fails value = true → Abandoned me world
  | .error _ => Abandoned me world

/-- What an operation of a caller comes to, whatever the other threads do. -/
theorem program_triple (call : Call) :
    CallerTriple params me (Outside me) (call.program params)
      (fun value world => Outside me world ∧ Finally me call (.ok value) world)
      (fun error world => Outside me world ∧ Finally me call (.error error) world) := by
  have emptied (returned : Option Call) (world : World)
      (known : Has me (Emptied (.caller me)) world) :
      Abandoned me { world with stateLock := none, lastReturn := returned } :=
    ⟨rfl, known.1.2, known.2.imp fun _ emptied => { emptied with stateLock := nofun }⟩
  have alone {worker : Nat} {world : World} {fact : Prop} (alive : world.alive worker = true)
      (known : Has me (Emptied (.caller me)) world) : fact :=
    absurd known.1.2 (not_noneAlive alive)
  refine lockState_triple.bind fun _ =>
    Triple.bind (Triple.handle (body_triple call) fun error => ?_) fun value => ?_
  · have fails : CallerTriple params me (Has me (Emptied (.caller me)))
        (perform (.unlockState none))
        (fun _ world => Outside me world ∧ Abandoned me world)
        (fun error world => Outside me world ∧ Finally me call (.error error) world) :=
      (unlockState_triple (fun world _ => emptied none world) fun _ _ _ alive _ => alone alive).pre
        fun world _ known => ⟨.of ⟨known.1, known.2.imp fun _ emptied => emptied.toRested⟩, known⟩
    exact fails.bind fun _ => .raise fun _ _ known => known
  · have returns : CallerTriple params me (Returned me call value)
        (perform (.unlockState (some call)))
        (fun _ world => Outside me world ∧ (call.fails value = true → Abandoned me world))
        (fun error world => Outside me world ∧ Finally me call (.error error) world) :=
      unlockState_triple (fun world _ known failed => emptied (some call) world (known failed))
        fun _ _ _ alive _ known failed => alone alive (known failed)
    exact returns.bind fun _ => .ret fun _ _ known => known

theorem CallerMove.refl (world : World) : CallerMove me world world where
  outside := fun _ => .inl rfl
  locks := fun _ => .inl
  spares := fun _ alive =>
    ⟨alive, Iff.rfl, ⟨rfl, rfl⟩, .inl rfl, rfl, fun _ => id, fun _ held => ⟨held, id⟩⟩
  begins := fun _ => .inl

def Rest (thread : Thread) (outcome : Except PyError (Val thread)) (world : World) : Prop :=
  match thread with
  | .caller me => Outside me world
  | .worker me => WorkerRest me outcome world

theorem verified : Verified (machine contained params) contract Rest where
  stable := by
    intro thread outcome
    cases thread with
    | caller me => exact outside_stable
    | worker me => exact WorkerRest.stable
  programs := by
    intro thread outcome choice program world inv rest started
    cases thread with
    | caller me =>
        cases choice with
        | call call =>
            cases started
            have programs : CallerTriple params me (Outside me) (call.program params)
                (fun _ => Outside me) (fun _ => Outside me) :=
              (program_triple call).weaken (fun _ _ known => known)
                (fun _ _ _ known => known.1) (fun _ _ _ known => known.1)
            exact programs world world (.refl world) inv rest
        | _ => cases started
    | worker me =>
        cases outcome with
        | error error => cases started
        | ok state =>
            cases state with
            | fresh =>
                cases started
                exact renewLoop_triple world world (.inl rfl) inv rest
            | sleeping event interval =>
                cases started
                exact renewRound_triple world world (.inl rfl) inv rest
            | done => cases started

variable {config config₀ config₁ next : Config Op Op.Res PyError Thread Val World}

/-- A `wait` that finds no token finds no worker that has still to clear up. -/
def Timely (config : Config Op Op.Res PyError Thread Val World) (thread : Thread) (_ : Choice) :
    Prop :=
  ∀ me rest, thread = .caller me → config.program thread = .act .getToken rest →
    config.shared.token = none → NoneAlive config.shared

abbrev Reached (params : Params) (config : Config Op Op.Res PyError Thread Val World) : Prop :=
  (machine contained params).Reachable Timely initial config

theorem timely_permitted (config : Config Op Op.Res PyError Thread Val World) (thread : Thread)
    (choice : Choice) (op : Op) (rest : op.Res → Py (Val thread))
    (timely : Timely config thread choice) (programEq : config.program thread = .act op rest) :
    contract.permitted thread op choice config.shared := by
  rintro ⟨me, same⟩ rfl
  exact timely me rest same programEq

theorem initial_sound : Sound (machine contained params) contract Rest initial := by
  refine ⟨.inr ?_, fun thread => ?_⟩
  · exact {
      lockers := nofun
      pastSet := fun _ _ => by simp_all [initial]
      future := fun _ _ => rfl
      workerPast := fun _ _ => Nat.le_refl _
      startedMade := nofun
      aliveStarted := nofun
      unmade := fun _ _ => rfl
      connMade := nofun
      joinable := nofun
      current := nofun
      others := nofun
      resting := fun _ => ⟨nofun, fun _ => rfl, fun _ _ => rfl⟩ }
  · cases thread with
    | caller me => exact fun locked => by cases locked
    | worker me => exact fun started => by cases started

theorem Reached.sound (reached : Reached params config) :
    Sound (machine contained params) contract Rest config :=
  verified.reachable timely_permitted initial_sound reached

end DflockdClient.Sync.Patient
