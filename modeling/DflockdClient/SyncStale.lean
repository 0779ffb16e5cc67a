import DflockdClient.SyncLocks
import DflockdClient.SyncRuns

/-! When workers of earlier attempts leave a reused instance alone. -/

namespace DflockdClient.Sync

open Interleaving

variable {params : Params}

def Op.writesState (op : Op) : Bool :=
  match op with
  | .setConn _ | .setToken _ | .setLease _ => true
  | _ => false

/-- A worker stands between a stop check that it has passed and what it does upon it: it is to read
`_conn`, to write an attribute, or in `_update_lease` ahead of that, the only place where it reads
the token or `_closed` outside the I/O lock. -/
def InWindow (world : World) (worker : Nat) (program : Py WorkerState) : Prop :=
  match program with
  | .act op _ => op = .getConn ∨ op.writesState = true ∨
      (world.ioLock ≠ some (.worker worker) ∧ (op = .getToken ∨ op = .getClosed))
  | _ => False

/-- A caller installs its connection only while no worker of an earlier attempt stands there. -/
def InstallsAlone (config : Config Op Op.Res PyError Thread Val World) (thread : Thread)
    (_ : Choice) : Prop :=
  ∀ conn next, config.program thread = .act (.setConn (some conn)) next →
    ∀ worker, config.shared.workerEvent worker < config.shared.stopEvent →
      ¬InWindow config.shared worker (config.program (.worker worker))

/-- Outside the I/O lock; in it, before the stop check of the tick or when nothing is left to do
there; past that check; with a connection that it has read; with that connection taken out of the
instance; past the last check of the loop. -/
inductive Phase
  | free | inside | checked | armed | dropping | updating

def phases (event : Nat) : Discipline Op Op.Res Phase where
  allowed phase op := match phase, op with
    | .free, .isSet checked | .inside, .isSet checked => checked = event
    | .free, .beginThread | .free, .getLease | .free, .waitEvent _ _ | .free, .endThread
    | .free, .lockIo | .inside, .getClosed | .inside, .getToken | .inside, .closeConn _
    | .inside, .unlockIo | .checked, .getConn | .armed, .getConn | .armed, .getToken
    | .armed, .getClosed | .armed, .isSet _ | .armed, .send _ _ | .armed, .recv _ _
    | .armed, .closeConn _ | .armed, .setConn none | .armed, .unlockIo | .dropping, .setToken none
    | .dropping, .setLease _ | .updating, .getToken | .updating, .getClosed
    | .updating, .setLease _ => True
    | _, _ => False
  returns _ _ _ := True
  after phase op := match phase, op with
    | .free, .isSet _ => fun set => if set then .free else .updating
    | .free, .lockIo => fun _ => .inside
    | .inside, .isSet _ => fun set => if set then .inside else .checked
    | .checked, .getConn => fun conn => if conn.isSome then .armed else .inside
    | .armed, .setConn _ => fun _ => .dropping
    | .dropping, .setLease _ => fun _ => .inside
    | .updating, .setLease _ => fun _ => .free
    | _, .unlockIo => fun _ => .free
    | phase, _ => fun _ => phase

def Phase.Out (phase : Phase) : Prop := phase = .free ∨ phase = .updating

def Phase.Still (phase : Phase) : Prop := phase = .free ∨ phase = .inside

def Phased (event : Nat) (program : Py WorkerState) (phase : Phase) : Prop :=
  Obeys (phases event) program (fun _ => Phase.Out) (fun _ => Phase.Out) phase

theorem renewLoop_phases (event : Nat) : Phased event (renewLoop params) .free :=
  ⟨trivial, fun _ _ => ⟨trivial, fun _ _ => .inl rfl⟩⟩

theorem logRenewFailure_phases {event : Nat} :
    Obeys (phases event) (logRenewFailure event) (fun _ phase => phase = .armed)
      (fun _ _ => False) .armed := by
  refine ⟨trivial, fun closed _ => ?_⟩
  cases closed with
  | true => rfl
  | false =>
      refine ⟨trivial, fun set _ => ?_⟩
      cases set with
      | true => rfl
      | false => exact ⟨trivial, fun _ _ => rfl⟩

theorem handleRenewFailure_phases {event conn : Nat} :
    Obeys (phases event) (handleRenewFailure conn event)
      (fun _ phase => phase = .inside ∨ phase = .armed) (fun _ _ => False) .armed := by
  rw [handleRenewFailure, obeys_bind]
  refine logRenewFailure_phases.mono ?_ fun _ _ => id
  rintro _ phase rfl
  refine ⟨trivial, fun found _ => ?_⟩
  change Obeys (phases event) (if found = some conn then _ else _) _ _ .armed
  split
  · -- The connection is dropped, the held state cleared, the connection closed.
    exact ⟨trivial, fun _ _ => ⟨trivial, fun _ _ => ⟨trivial, fun _ _ =>
      ⟨trivial, fun _ _ => .inl rfl⟩⟩⟩⟩
  · exact .inr rfl

theorem protoRenew_phases {event : Nat} {conn : Option Nat} {token : Str}
    {post : Int → Phase → Prop} {raised : PyError → Phase → Prop}
    (ends : ∀ remaining, post remaining .armed) (fails : ∀ error, raised error .armed) :
    Obeys (phases event) (protoRenew params conn token) post raised .armed := by
  have wire : (protoRenew params conn token).Uses fun op =>
      (phases event).allowed .armed op ∧ ∀ result, (phases event).after .armed op result = .armed :=
    Locks.exchange_uses (fun _ _ => ⟨trivial, fun _ => rfl⟩) (fun _ _ => ⟨trivial, fun _ => rfl⟩)
      fun _ _ => ⟨trivial, fun _ => rfl⟩
  exact wire.obeys (fun _ => id) ends fails

theorem safeRenewOnce_phases {event : Nat} :
    Obeys (phases event) (safeRenewOnce params event)
      (fun _ phase => phase = .inside ∨ phase = .armed)
      (fun _ phase => phase = .inside ∨ phase = .armed) .checked := by
  refine ⟨trivial, fun conn _ => ?_⟩
  cases conn with
  | none => exact ⟨trivial, fun _ _ => .inl rfl⟩
  | some conn =>
      refine ⟨trivial, fun token _ => ?_⟩
      cases token with
      | none => exact .inr rfl
      | some token =>
          change Obeys (phases event) (Program.handle _ _) _ _ .armed
          rw [obeys_handle, obeys_bind]
          refine protoRenew_phases (fun _ => .inr rfl) fun error => ?_
          split
          · rw [obeys_bind]
            exact handleRenewFailure_phases.mono (fun _ _ known => known) fun _ _ => False.elim
          · exact .inr rfl

theorem renewTick_phases {event : Nat} :
    Obeys (phases event) (renewTick params event) (fun _ phase => phase = .free)
      (fun _ phase => phase = .free) .free := by
  refine ⟨trivial, fun _ _ => ?_⟩
  change Obeys (phases event) (Program.ensure _ (perform .unlockIo)) _ _ .inside
  rw [obeys_ensure]
  have leaves {phase : Phase} (inside : phase = .inside ∨ phase = .armed) :
      Obeys (phases event) (perform .unlockIo) (fun _ phase => phase = .free)
        (fun _ phase => phase = .free) phase := by
    rcases inside with rfl | rfl <;> exact ⟨trivial, fun _ _ => rfl⟩
  refine ⟨trivial, fun closed _ => ?_⟩
  cases closed with
  | true => exact leaves (.inl rfl)
  | false =>
      refine ⟨rfl, fun set _ => ?_⟩
      cases set with
      | true => exact leaves (.inl rfl)
      | false => exact safeRenewOnce_phases.mono (fun _ _ => leaves) fun _ _ => leaves

theorem updateLease_phases {event : Nat} {remaining : Int} :
    Obeys (phases event) (updateLease remaining) (fun _ => Phase.Out) (fun _ => Phase.Out)
      .updating := by
  rw [updateLease]
  split
  · refine ⟨trivial, fun token _ => ?_⟩
    cases token with
    | none => exact .inr rfl
    | some token =>
        refine ⟨trivial, fun closed _ => ?_⟩
        cases closed with
        | true => exact .inr rfl
        | false => exact ⟨trivial, fun _ _ => .inl rfl⟩
  · exact .inr rfl

theorem renewRound_phases (event : Nat) (interval : Rat) :
    Phased event (renewRound params event interval) .free := by
  have finishes : Phased event (do
      perform .endThread
      pure WorkerState.done) .free := ⟨trivial, fun _ _ => .inl rfl⟩
  refine ⟨trivial, fun stopped _ => ?_⟩
  cases stopped with
  | true => exact finishes
  | false =>
      change Obeys (phases event) (renewTick params event >>= _) _ _ .free
      rw [obeys_bind]
      refine renewTick_phases.mono ?_ fun _ _ => .inl
      rintro remaining _ rfl
      cases remaining with
      | none => exact finishes
      | some remaining =>
          refine ⟨rfl, fun set _ => ?_⟩
          cases set with
          | true => exact finishes
          | false =>
              change Obeys (phases event) (updateLease remaining >>= _) _ _ .updating
              rw [obeys_bind]
              exact updateLease_phases.mono (fun _ _ out => out) fun _ _ => id

theorem installed_cases {faults : Faults} {thread : Thread} {op : Op} {choice : Choice}
    {world after : World} {result : op.Res}
    (executed : exec faults thread op choice world = some (result, after)) :
    after.installed = world.installed ∨
      ∃ conn, op = .setConn (some conn) ∧ after.installed = world.stopEvent := by
  cases op with
  | setConn conn =>
      cases executed
      cases conn with
      | none => exact .inl rfl
      | some conn => exact .inr ⟨conn, rfl, rfl⟩
  | waitEvent | startThread | joinThread | dial | send | recv =>
      left
      cases choice <;> grind [exec, World.log]
  | beginThread | endThread =>
      left
      cases thread <;> grind [exec]
  | _ =>
      left
      grind [exec]

theorem state_kept {faults : Faults} {thread : Thread} {op : Op} {choice : Choice}
    {world after : World} {result : op.Res}
    (executed : exec faults thread op choice world = some (result, after))
    (writes : op.writesState = false) :
    after.conn = world.conn ∧ after.token = world.token ∧ after.lease = world.lease := by
  cases op with
  | setConn | setToken | setLease => cases writes
  | waitEvent | startThread | joinThread | dial | send | recv =>
      cases choice <;> grind [exec, World.log]
  | beginThread | endThread => cases thread <;> grind [exec]
  | _ => grind [exec]

theorem started_after {thread : Thread} {before after : World}
    (move : (contract params).guarantee thread before after) {worker : Nat}
    (started : before.started worker = true) :
    after.started worker = true ∧ after.workerEvent worker = before.workerEvent worker := by
  cases thread with
  | caller me => exact CallerMove.started move worker started
  | worker me =>
      have same := WorkerMove.started move
      have sameEvent := WorkerMove.workerEvent move
      exact ⟨by rw [same]; exact started, by rw [sameEvent]⟩

theorem unstarted_before {thread : Thread} {before after : World}
    (move : (contract params).guarantee thread before after) {worker : Nat}
    (unstarted : after.started worker = false) : before.started worker = false := by
  by_contra started
  have still := (started_after move (by simpa using started)).1
  rw [unstarted] at still
  cases still

/-! What a worker has in its phase -/

def Phase.fits (phase : Phase) (worker : Nat) (world : World) : Prop :=
  match phase with
  | .free | .updating => world.ioLock ≠ some (.worker worker)
  | .inside | .dropping => world.ioLock = some (.worker worker)
  | .checked => world.ioLock = some (.worker worker) ∧ world.armed = some (.worker worker)
  | .armed => world.ioLock = some (.worker worker) ∧ world.armed = some (.worker worker) ∧
      world.conn ≠ none

theorem Phase.fits.free {phase : Phase} {worker : Nat} {world : World}
    (fits : phase.fits worker world) (out : phase.Out) : Phase.free.fits worker world := by
  rcases out with rfl | rfl
  · exact fits
  · exact fits

theorem armed_stable {worker : Nat} {other : Thread} {before after : World}
    (different : other ≠ .worker worker) (move : (contract params).guarantee other before after)
    (locked : before.ioLock = some (.worker worker)) (armed : before.armed = some (.worker worker)) :
    after.armed = some (.worker worker) := by
  cases other with
  | caller id => exact (CallerMove.armed move worker armed).trans armed
  | worker other =>
      exact (WorkerMove.outside move (elsewhere different locked)).2.2.trans armed

theorem conn_stable {worker : Nat} {other : Thread} {before after : World}
    (different : other ≠ .worker worker) (move : (contract params).guarantee other before after)
    (locked : before.ioLock = some (.worker worker)) (armed : before.armed = some (.worker worker))
    (some : before.conn ≠ none) : after.conn = before.conn := by
  cases other with
  | caller id => exact CallerMove.conn move (by simp [armed]) some
  | worker other => exact (WorkerMove.outside move (elsewhere different locked)).1

theorem unlocked_stable {worker : Nat} {other : Thread} {before after : World}
    (different : other ≠ .worker worker) (move : (contract params).guarantee other before after)
    (free : before.ioLock ≠ some (.worker worker)) : after.ioLock ≠ some (.worker worker) := by
  intro taken
  cases other with
  | caller id => exact free (CallerMove.lockTaken move _ (by simp) taken)
  | worker other => exact free ((WorkerMove.locked move _ different.symm).mpr taken)

theorem Phase.fits.stable {phase : Phase} {worker : Nat} {other : Thread} {before after : World}
    (different : other ≠ .worker worker) (move : (contract params).guarantee other before after)
    (fits : phase.fits worker before) : phase.fits worker after := by
  cases phase with
  | free | updating => exact unlocked_stable different move fits
  | inside | dropping => exact locked_stable different move fits
  | checked =>
      exact ⟨locked_stable different move fits.1, armed_stable different move fits.1 fits.2⟩
  | armed =>
      obtain ⟨locked, armed, some⟩ := fits
      refine ⟨locked_stable different move locked, armed_stable different move locked armed, ?_⟩
      rw [conn_stable different move locked armed some]
      exact some

def Op.marks (op : Op) : Bool :=
  match op with
  | .lockIo | .unlockIo | .isSet _ | .setConn _ => true
  | _ => false

theorem marks_kept {faults : Faults} {thread : Thread} {op : Op} {choice : Choice}
    {world after : World} {result : op.Res}
    (executed : exec faults thread op choice world = some (result, after))
    (plain : op.marks = false) :
    after.ioLock = world.ioLock ∧ after.armed = world.armed ∧ after.conn = world.conn := by
  cases op with
  | lockIo | unlockIo | isSet | setConn => cases plain
  | waitEvent | startThread | joinThread | dial | send | recv =>
      cases choice <;> grind [exec, World.log]
  | beginThread | endThread => cases thread <;> grind [exec]
  | _ => grind [exec]

theorem Phase.fits.own {phase : Phase} {worker event : Nat} {op : Op} {choice : Choice}
    {world after : World} {result : op.Res} (allowed : (phases event).allowed phase op)
    (fits : phase.fits worker world)
    (executed : exec roughFaults (.worker worker) op choice world = some (result, after)) :
    ((phases event).after phase op result).fits worker after := by
  have same := marks_kept executed
  cases op with
  | lockIo =>
      cases phase with
      | free =>
          simp only [exec, Option.ite_none_right_eq_some, Option.some.injEq, Prod.mk.injEq]
            at executed
          obtain ⟨_, _, rfl⟩ := executed
          rfl
      | _ => exact absurd allowed id
  | unlockIo =>
      cases executed
      cases phase with
      | inside | armed => exact Option.some_ne_none _ |>.symm
      | _ => exact absurd allowed id
  | isSet checked =>
      simp only [exec] at executed
      split at executed
      · cases executed
        cases phase with
        | free | inside | armed => exact fits
        | _ => exact absurd allowed id
      · cases executed
        cases phase with
        | free => exact fits
        | inside => exact ⟨fits, if_pos fits⟩
        | armed => exact ⟨fits.1, if_pos fits.1, fits.2.2⟩
        | _ => exact absurd allowed id
  | setConn conn =>
      cases executed
      cases phase with
      | armed => exact fits.1
      | _ => exact absurd allowed id
  | getConn =>
      cases executed
      cases phase with
      | checked =>
          cases found : world.conn with
          | none => exact fits.1
          | some conn => exact ⟨fits.1, fits.2, by simp [found]⟩
      | armed => exact fits
      | _ => exact absurd allowed id
  | _ =>
      obtain ⟨ioLock, armed, conn⟩ := same rfl
      cases phase <;> first
        | exact absurd allowed id
        | simpa only [Phase.fits, phases, ioLock, armed, conn] using fits

theorem Phase.Still.own {phase : Phase} {worker event : Nat} {op : Op} {choice : Choice}
    {world after : World} {result : op.Res} (allowed : (phases event).allowed phase op)
    (still : phase.Still) (set : world.eventSet event = true)
    (executed : exec roughFaults (.worker worker) op choice world = some (result, after)) :
    ((phases event).after phase op result).Still := by
  rcases still with rfl | rfl
  · cases op with
    | isSet checked =>
        cases show checked = event from allowed
        simp only [exec, set, if_true] at executed
        cases executed
        exact .inl rfl
    | lockIo => exact .inr rfl
    | getLease | waitEvent | beginThread | endThread => exact .inl rfl
    | _ => exact absurd allowed id
  · cases op with
    | isSet checked =>
        cases show checked = event from allowed
        simp only [exec, set, if_true] at executed
        cases executed
        exact .inr rfl
    | unlockIo => exact .inl rfl
    | getToken | getClosed | closeConn => exact .inr rfl
    | _ => exact absurd allowed id

/-- While no connection is installed, a worker outside the windows is about to write nothing. -/
theorem Phased.still {worker event : Nat} {program : Py WorkerState} {phase : Phase}
    {world : World} (phased : Phased event program phase) (fits : phase.fits worker world)
    (gone : world.conn = none) (outside : ¬InWindow world worker program) :
    ∃ phase : Phase, Phased event program phase ∧ phase.fits worker world ∧ phase.Still := by
  cases program with
  | ret value => exact ⟨.free, .inl rfl, fits.free phased, .inl rfl⟩
  | raise error => exact ⟨.free, .inl rfl, fits.free phased, .inl rfl⟩
  | act op next =>
      cases phase with
      | free => exact ⟨.free, phased, fits, .inl rfl⟩
      | inside => exact ⟨.inside, phased, fits, .inr rfl⟩
      | armed => exact absurd gone fits.2.2
      | checked =>
          cases op with
          | getConn => exact absurd (.inl rfl) outside
          | _ => exact absurd phased.1 id
      | dropping =>
          cases op with
          | setToken | setLease => exact absurd (.inr (.inl rfl)) outside
          | _ => exact absurd phased.1 id
      | updating =>
          cases op with
          | getToken => exact absurd (.inr (.inr ⟨fits, .inl rfl⟩)) outside
          | getClosed => exact absurd (.inr (.inr ⟨fits, .inr rfl⟩)) outside
          | setLease => exact absurd (.inr (.inl rfl)) outside
          | _ => exact absurd phased.1 id

theorem Phase.Still.writes_nothing {phase : Phase} {event : Nat} {op : Op} (still : phase.Still)
    (allowed : (phases event).allowed phase op) : op.writesState = false := by
  rcases still with rfl | rfl <;> cases op <;> first
    | rfl
    | exact absurd allowed id

theorem installs_nothing {phase : Phase} {event conn : Nat} :
    ¬(phases event).allowed phase (.setConn (some conn)) := by
  cases phase <;> exact id

/-- Where the worker stands, and that it writes nothing once its attempt is past. -/
def Placed (params : Params) (world : World) (worker : Nat) (program : Py WorkerState) : Prop :=
  (world.started worker = false → program = .ret .fresh ∨ program = renewLoop params) ∧
    ∃ phase : Phase, Phased (world.workerEvent worker) program phase ∧ phase.fits worker world ∧
      (world.workerEvent worker < world.installed → phase.Still)

variable {config next : Config Op Op.Res PyError Thread Val World} {thread : Thread}
  {choice : Choice}

theorem Placed.other {worker : Nat} {program : Py WorkerState} {before after : World}
    (placed : Placed params before worker program) (different : thread ≠ .worker worker)
    (move : (contract params).guarantee thread before after)
    (installs : after.installed = before.installed ∨
      (after.installed = before.stopEvent ∧ before.conn = none ∧
        (before.workerEvent worker < before.stopEvent → ¬InWindow before worker program))) :
    Placed params after worker program := by
  obtain ⟨begins, phase, phased, fits, still⟩ := placed
  refine ⟨fun unstarted => begins (unstarted_before move unstarted), ?_⟩
  cases started : before.started worker with
  | false =>
      have free : Phase.free.fits worker after := by
        rcases begins started with rfl | rfl
        · exact (fits.free phased).stable different move
        · cases phase with
          | free => exact fits.stable different move
          | _ => exact absurd phased.1 id
      refine ⟨.free, ?_, free, fun _ => .inl rfl⟩
      rcases begins started with rfl | rfl
      · exact .inl rfl
      · exact renewLoop_phases _
  | true =>
      rw [(started_after move started).2]
      rcases installs with same | ⟨same, gone, outside⟩
      · rw [same]
        exact ⟨phase, phased, fits.stable different move, still⟩
      · rw [same]
        by_cases past : before.workerEvent worker < before.stopEvent
        · obtain ⟨phase, phased, fits, still⟩ := phased.still fits gone (outside past)
          exact ⟨phase, phased, fits.stable different move, fun _ => still⟩
        · exact ⟨phase, phased, fits.stable different move, fun stale => absurd stale past⟩

theorem Placed.own {worker : Nat} {op : Op} {rest : op.Res → Py WorkerState} {result : op.Res}
    {before after : World} (placed : Placed params before worker (.act op rest))
    (inv : Invariant params before) (move : (contract params).guarantee (.worker worker) before after)
    (executed : exec roughFaults (.worker worker) op choice before = some (result, after)) :
    Placed params after worker (rest result) := by
  obtain ⟨begins, phase, phased, fits, still⟩ := placed
  have sameEvent : after.workerEvent = before.workerEvent := WorkerMove.workerEvent move
  refine ⟨fun unstarted => ?_, _, sameEvent ▸ phased.2 result trivial,
    fits.own phased.1 executed, fun stale => ?_⟩
  · have before := unstarted_before move unstarted
    rcases begins before with fresh | begun
    · cases fresh
    · cases begun
      simp [exec, before] at executed
  · rcases installed_cases executed with same | ⟨conn, rfl, _⟩
    · rw [same, sameEvent] at stale
      have bound := inv.installedPast
      exact (still stale).own phased.1 (inv.pastSet _ (by omega)) executed
    · exact absurd phased.1 installs_nothing

theorem placed_step {worker : Nat}
    (sound : Sound (machine roughFaults params) (contract params) rest config)
    (placed : ∀ worker, Placed params config.shared worker (config.program (.worker worker)))
    (allowed : InstallsAlone config thread choice)
    (step : (machine roughFaults params).Step config thread choice next) :
    Placed params next.shared worker (next.program (.worker worker)) := by
  obtain ⟨move, _⟩ := sound.step verified (fun _ _ _ => trivial) step
  cases step with
  | @act op after result middle program final programEq executed segment =>
      obtain ⟨rfl, rfl⟩ := segment.preemptive fun _ => rfl
      by_cases same : thread = .worker worker
      · subst same
        have known := placed worker
        rw [programEq] at known
        simp only [Function.update_self]
        exact known.own sound.1 move executed
      · have different : Thread.worker worker ≠ thread := fun back => same back.symm
        simp only [Function.update_of_ne different]
        refine (placed worker).other same move ?_
        rcases installed_cases executed with kept | ⟨conn, rfl, installs⟩
        · exact .inl kept
        · cases thread with
          | worker other =>
              obtain ⟨_, _, phased, _⟩ := placed other
              rw [programEq] at phased
              exact absurd phased.1 installs_nothing
          | caller id =>
              by_cases gone : config.shared.conn = none
              · exact .inr ⟨installs, gone, allowed conn after programEq worker⟩
              · exact .inl (CallerMove.installed move gone)
  | @start outcome first program final outcomeEq started segment =>
      obtain ⟨rfl, rfl⟩ := segment.preemptive fun _ => rfl
      by_cases same : thread = .worker worker
      · subst same
        have known := placed worker
        have resting := sound.resting outcomeEq
        simp only [Function.update_self]
        cases programEq : config.program (.worker worker) with
        | act op rest =>
            rw [programEq] at outcomeEq
            cases outcomeEq
        | raise error =>
            rw [programEq] at outcomeEq
            cases outcomeEq
            cases started
        | ret state =>
            rw [programEq] at outcomeEq known
            cases outcomeEq
            obtain ⟨begins, phase, phased, fits, still⟩ := known
            have free := fits.free phased
            cases state with
            | done => cases started
            | fresh =>
                cases started
                exact ⟨fun _ => .inr rfl, .free, renewLoop_phases _, free, fun _ => .inl rfl⟩
            | sleeping event interval =>
                cases started
                have awake : Awake worker event config.shared := resting
                refine ⟨fun unstarted => ?_, .free, ?_, free, fun _ => .inl rfl⟩
                · rw [awake.2.started] at unstarted
                  cases unstarted
                · rw [awake.2.event]
                  exact renewRound_phases _ _
      · have different : Thread.worker worker ≠ thread := fun back => same back.symm
        simp only [Function.update_of_ne different]
        exact placed worker

theorem placed_reachable
    (reached : (machine roughFaults params).Reachable InstallsAlone initial config) (worker : Nat) :
    Placed params config.shared worker (config.program (.worker worker)) := by
  induction reached generalizing worker with
  | initial =>
      exact ⟨fun _ => .inl rfl, .free, .inl rfl, Option.some_ne_none _ |>.symm, fun _ => .inl rfl⟩
  | step before allowed step ih =>
      exact placed_step (Reached.sound (before.mono fun _ _ _ _ => trivial)) ih allowed step

/-- While connections are installed only as `InstallsAlone` says, a worker of an attempt before
the installed one changes neither the connection nor the token nor the lease. -/
theorem stale_worker_changes_nothing {worker : Nat}
    (reached : (machine roughFaults params).Reachable InstallsAlone initial config)
    (stale : config.shared.workerEvent worker < config.shared.installed)
    (step : (machine roughFaults params).Step config (.worker worker) choice next) :
    next.shared.conn = config.shared.conn ∧ next.shared.token = config.shared.token ∧
      next.shared.lease = config.shared.lease := by
  obtain ⟨_, phase, phased, _, still⟩ := placed_reachable reached worker
  cases step with
  | @act op after result middle program final programEq executed segment =>
      obtain ⟨rfl, rfl⟩ := segment.preemptive fun _ => rfl
      rw [programEq] at phased
      exact state_kept executed ((still stale).writes_nothing phased.1)
  | start _ _ segment =>
      obtain ⟨rfl, rfl⟩ := segment.preemptive fun _ => rfl
      exact ⟨rfl, rfl, rfl⟩

theorem callers_install_alone
    (reached : (machine roughFaults params).Reachable
      (fun _ thread _ => ∃ id, thread = .caller id) initial config) :
    (machine roughFaults params).Reachable InstallsAlone initial config ∧
      ∀ worker, config.program (.worker worker) = .ret .fresh := by
  induction reached with
  | initial => exact ⟨.initial, fun _ => rfl⟩
  | step _ caller step ih =>
      obtain ⟨id, rfl⟩ := caller
      refine ⟨.step ih.1 ?_ step, fun worker => ?_⟩
      · intro conn next _ worker _
        rw [ih.2 worker]
        exact fun inside => inside
      · cases step <;> exact ih.2 worker

def reacquiring : List (Machine.Turn Op Thread Choice) :=
  turns (.caller 0) [.call .acquire, .expire, .reply (str "ok u 33")]

theorem stale_worker_changes_nothing_demo :
    ∃ config next, (machine roughFaults demoParams).Reachable InstallsAlone initial config ∧
      (machine roughFaults demoParams).Step config (.worker 0) .go next ∧
      config.shared.workerEvent 0 < config.shared.installed ∧
      next.shared.conn = config.shared.conn ∧ next.shared.token = config.shared.token ∧
      next.shared.lease = config.shared.lease := by
  obtain ⟨config, next, reached, step, passed⟩ := (machine roughFaults demoParams).exists_run_step
    (fun _ thread _ => ∃ id, thread = .caller id) initial
    ((machine roughFaults demoParams).schedule initial (acquiring (str "ok t 33") ++ reacquiring))
    (by
      intro move member _
      obtain ⟨turn, listed, same⟩ := (machine roughFaults demoParams).schedule_thread move member
      refine ⟨0, same.symm.trans ?_⟩
      simp only [acquiring, reacquiring, turns, List.mem_append, List.mem_map] at listed
      rcases listed with ⟨_, _, rfl⟩ | ⟨_, _, rfl⟩ <;> rfl)
    (.worker 0) [.go]
    (fun config _ => config.shared.workerEvent 0 < config.shared.installed)
    (by decide +kernel)
  have alone := (callers_install_alone reached).1
  have stale := of_decide_eq_true passed
  exact ⟨config, next, alone, step, stale, stale_worker_changes_nothing alone stale step⟩

/-- A renewal failure interrupted between `self._conn = None` and `self.token = None` clears the
token of the next attempt. -/
theorem stale_worker_clears_token :
    ∃ config next, Reached roughFaults demoParams config ∧
      (machine roughFaults demoParams).Step config (.worker 0) .go next ∧
      config.shared.workerEvent 0 < config.shared.installed ∧
      config.shared.token = some (str "u") ∧ next.shared.token = none := by
  obtain ⟨config, next, reached, step, passed⟩ := (machine roughFaults demoParams).exists_run_step
    (fun _ _ _ => True) initial
    ((machine roughFaults demoParams).schedule initial
      (acquiring (str "ok t 33") ++ sleeping ++ turns (.worker 0) [.expire] ++
        [{ thread := .worker 0, choice := .fail ⟨.timeoutError, []⟩, upTo := Op.writesState },
          { thread := .worker 0, choice := .go, upTo := Op.writesState }] ++ reacquiring))
    (fun _ _ _ => trivial) (.worker 0) [.go]
    (fun config next => config.shared.workerEvent 0 < config.shared.installed &&
      config.shared.token == some (str "u") && next.shared.token == none)
    (by decide +kernel)
  simp only [Bool.and_eq_true, decide_eq_true_eq, beq_iff_eq] at passed
  exact ⟨config, next, reached, step, passed.1.1, passed.1.2, passed.2⟩

end DflockdClient.Sync
