import DflockdClient.Exchanges
import DflockdClient.SyncContract

/-! What a caller knows at each point of an operation, and that workers cannot falsify it. -/

namespace DflockdClient.Sync

open Interleaving

variable {params : Params} {faults : Faults} {me : Nat}

def Kept (params : Params) (me : Nat) (fact : World → Prop) : Prop :=
  ∀ worker before after, WorkerMove worker before after → Invariant params before →
    before.stateLock = some (.caller me) → fact before → fact after

theorem Kept.and {first second : World → Prop} (left : Kept params me first)
    (right : Kept params me second) :
    Kept params me fun world => first world ∧ second world :=
  fun worker before after move kept holds known =>
    ⟨left worker before after move kept holds known.1,
      right worker before after move kept holds known.2⟩

theorem Kept.stable {fact : World → Prop} (kept : Kept params me fact)
    (holds : ∀ world, fact world → world.stateLock = some (.caller me)) :
    (contract params).Stable (.caller me) fact := by
  intro other different before after invBefore _ move known
  have held := holds before known
  cases other with
  | caller other =>
      have outside : before.stateLock ≠ some (.caller other) := by
        rw [held]
        intro same
        simp only [Option.some.injEq, Thread.caller.injEq] at same
        exact different (by rw [same])
      rcases move.outside outside with same | free
      · exact same ▸ known
      · rw [held] at free
        cases free
  | worker worker => exact kept worker before after move invBefore held known

structure Busy (me : Nat) (world : World) : Prop where
  holds : world.stateLock = some (.caller me)
  free : world.ioLock ≠ some (.caller me)
  hand : ∀ conn, world.inHand conn = some (.caller me) → world.closedConn conn = true

def Settled (world : World) : Prop := releasing world.trace = false

def StopSet (world : World) : Prop := world.eventSet world.stopEvent = true

def ConnIn (conn : Nat) (world : World) : Prop := world.conn = some conn ∨ world.conn = none

def Unreleased (conn : Nat) (world : World) : Prop := released world.trace conn = false

def Unread (world : World) : Prop := Quiet world ∧ (world.armed = none ∨ world.conn = none)

theorem Busy.kept : Kept params me (Busy me) := by
  intro worker before after move _ _ known
  refine ⟨move.stateLock ▸ known.holds, ?_, ?_⟩
  · intro taken
    exact known.free ((move.locked _ (by simp)).mpr taken)
  · intro conn held
    exact move.closedConn conn (known.hand conn (move.inHand _ conn (by simp) held))

theorem Settled.kept : Kept params me Settled :=
  fun _ _ _ move _ _ known => move.releasing.trans known

theorem StopSet.kept : Kept params me StopSet := by
  intro worker before after move _ _ known
  simpa only [StopSet, move.eventSet, move.stopEvent] using known

theorem stopEvent_kept {event : Nat} : Kept params me fun world => world.stopEvent = event :=
  fun _ _ _ move _ _ known => move.stopEvent.trans known

theorem renewThread_kept {worker : Option Nat} :
    Kept params me fun world => world.renewThread = worker :=
  fun _ _ _ move _ _ known => move.renewThread.trans known

theorem Quiet.kept : Kept params me Quiet := by
  intro worker before after move _ _ known
  simpa only [Quiet, move.eventSet, move.started, move.workerEvent, move.stopEvent] using known

theorem ConnIn.kept {conn : Nat} : Kept params me (ConnIn conn) := by
  intro worker before after move _ _ known
  rcases move.conn with same | gone
  · simpa only [ConnIn, same] using known
  · exact .inr gone

theorem connNone_kept : Kept params me fun world => world.conn = none := by
  intro worker before after move _ _ known
  rcases move.conn with same | gone
  · exact same.trans known
  · exact gone

theorem tokenNone_kept : Kept params me fun world => world.token = none := by
  intro worker before after move _ _ known
  rcases move.token with same | gone
  · exact same.trans known
  · exact gone

theorem closed_kept {closed : Bool} : Kept params me fun world => world.closed = closed :=
  fun _ _ _ move _ _ known => move.closed.trans known

theorem Usable.kept {conn : Nat} : Kept params me (Usable conn) := by
  intro worker before after move _ _ known sent
  rw [move.released] at sent
  exact move.closedConn conn (known sent)

theorem Unreleased.kept {conn : Nat} : Kept params me (Unreleased conn) :=
  fun _ _ _ move _ _ known => (move.released conn).trans known

theorem granted_kept {conn : Nat} {token : Option Str} :
    Kept params me fun world => granted world.trace conn = token :=
  fun _ _ _ move _ _ known => (move.granted conn).trans known

theorem closedConn_kept {conn : Nat} :
    Kept params me fun world => world.closedConn conn = true :=
  fun _ _ _ move _ _ known => move.closedConn conn known

theorem Unread.kept : Kept params me Unread := by
  intro worker before after move invBefore holds known
  refine ⟨Quiet.kept worker before after move invBefore holds known.1, ?_⟩
  rcases known.2 with unarmed | gone
  · rcases move.armed with same | gone | busy
    · exact .inl (same.trans unarmed)
    · exact .inl gone
    · exact absurd known.1 busy
  · exact .inr (connNone_kept worker before after move invBefore holds gone)

theorem Tidy.kept : Kept params me Tidy := by
  intro worker before after move invBefore holds known
  refine ⟨?_, ?_, Settled.kept worker before after move invBefore holds known.settled, ?_⟩
  · intro closed
    obtain ⟨conn, token, stopSet⟩ := known.closed (move.closed ▸ closed)
    exact ⟨connNone_kept worker before after move invBefore holds conn,
      tokenNone_kept worker before after move invBefore holds token,
      StopSet.kept worker before after move invBefore holds stopSet⟩
  · intro conn connEq
    rcases move.conn with same | gone
    · exact Usable.kept worker before after move invBefore holds
        (known.usable conn (same ▸ connEq))
    · rw [gone] at connEq
      cases connEq
  · intro worker thread
    rw [move.started]
    exact known.joinable worker (move.renewThread ▸ thread)

/-- Everything may fail but the start of a thread. -/
def roughFaults : Faults := { joinGivesUp := true, interrupts := fun _ => true }

abbrev CallerTriple (params : Params) (me : Nat) {α : Type} (pre : World → Prop) (program : Py α)
    (post : α → World → Prop) (raised : PyError → World → Prop) : Prop :=
  Triple (machine roughFaults params) (contract params) (.caller me) pre program post raised

theorem CallerMove.refl (world : World) : CallerMove me world world where
  outside := fun _ => .inl rfl
  lockKept := fun _ _ => rfl
  lockTaken := fun _ _ taken => taken
  stateTaken := fun _ _ taken => taken
  armed := fun _ _ => rfl
  conn := fun _ _ => rfl
  installed := fun _ => rfl
  token := fun _ _ _ => rfl
  inHand := fun _ _ _ same => same
  closedConn := fun _ same => same
  started := fun _ same => ⟨same, rfl⟩

theorem caller_op {op : Op} {pre : World → Prop} {post : op.Res → World → Prop}
    {raised : PyError → World → Prop} (kept : Kept params me pre)
    (holds : ∀ world, pre world → world.stateLock = some (.caller me))
    (effect : ∀ world choice result after, Invariant params world → pre world →
      exec roughFaults (.caller me) op choice world = some (result, after) →
      CallerMove me world after ∧ Invariant params after ∧ post result after) :
    CallerTriple params me pre (perform op) post raised :=
  Triple.perform rfl (kept.stable holds) fun world choice result after inv known _ executed =>
    effect world choice result after inv known executed

theorem CallerMove.of_same {before after : World} (held : before.stateLock = some (.caller me))
    (stateLock : after.stateLock = before.stateLock) (ioLock : after.ioLock = before.ioLock)
    (armed : after.armed = before.armed)
    (conn : after.conn = before.conn) (installed : after.installed = before.installed)
    (token : after.token = before.token) (inHand : after.inHand = before.inHand)
    (closedConn : ∀ conn, before.closedConn conn = true → after.closedConn conn = true)
    (started : ∀ worker, before.started worker = true →
      after.started worker = true ∧ after.workerEvent worker = before.workerEvent worker) :
    CallerMove me before after where
  outside := fun free => absurd held free
  lockKept := fun _ _ => ioLock
  lockTaken := fun _ _ taken => ioLock ▸ taken
  stateTaken := fun _ _ taken => stateLock ▸ taken
  armed := fun _ _ => armed
  conn := fun _ _ => conn
  installed := fun _ => installed
  token := fun _ _ _ => token
  inHand := fun _ _ _ held => inHand ▸ held
  closedConn := closedConn
  started := started

theorem Invariant.heldTidy {before after : World} (held : before.stateLock = some (.caller me))
    (same : after.stateLock = before.stateLock) : after.stateLock = none → Tidy after := by
  intro free
  rw [same, held] at free
  cases free

theorem Invariant.heldReturned {before after : World} (inv : Invariant params before)
    (held : before.stateLock = some (.caller me))
    (same : after.lastReturn = before.lastReturn) :
    after.lastReturn = some .release ∨ after.lastReturn = some .close →
      after.stateLock = none ∧ after.conn = none := by
  intro returned
  have free := (inv.returned (same ▸ returned)).1
  rw [held] at free
  cases free

section Operations

variable {pre : World → Prop} {raised : PyError → World → Prop}

theorem caller_read (op : Op) (value : World → op.Res)
    (reads : ∀ choice world, exec roughFaults (.caller me) op choice world =
      some (value world, world))
    (kept : Kept params me pre)
    (holds : ∀ world, pre world → world.stateLock = some (.caller me)) :
    CallerTriple params me pre (perform op)
      (fun result world => pre world ∧ value world = result) raised := by
  apply caller_op kept holds
  intro world choice result after inv known executed
  rw [reads] at executed
  cases executed
  exact ⟨.refl _, inv, known, rfl⟩

theorem caller_getConn (kept : Kept params me pre)
    (holds : ∀ world, pre world → world.stateLock = some (.caller me)) :
    CallerTriple params me pre (perform .getConn)
      (fun conn world => pre world ∧ world.conn = conn) raised :=
  caller_read .getConn World.conn (fun _ _ => rfl) kept holds

theorem caller_getToken (kept : Kept params me pre)
    (holds : ∀ world, pre world → world.stateLock = some (.caller me)) :
    CallerTriple params me pre (perform .getToken)
      (fun token world => pre world ∧ world.token = token) raised :=
  caller_read .getToken World.token (fun _ _ => rfl) kept holds

theorem caller_getRenewThread (kept : Kept params me pre)
    (holds : ∀ world, pre world → world.stateLock = some (.caller me)) :
    CallerTriple params me pre (perform .getRenewThread)
      (fun worker world => pre world ∧ world.renewThread = worker) raised :=
  caller_read .getRenewThread World.renewThread (fun _ _ => rfl) kept holds

theorem caller_getStopEvent (kept : Kept params me pre)
    (holds : ∀ world, pre world → world.stateLock = some (.caller me)) :
    CallerTriple params me pre (perform .getStopEvent)
      (fun event world => pre world ∧ world.stopEvent = event) raised :=
  caller_read .getStopEvent World.stopEvent (fun _ _ => rfl) kept holds

theorem caller_getClosed (kept : Kept params me pre)
    (holds : ∀ world, pre world → world.stateLock = some (.caller me)) :
    CallerTriple params me pre (perform .getClosed)
      (fun closed world => pre world ∧ world.closed = closed) raised :=
  caller_read .getClosed World.closed (fun _ _ => rfl) kept holds

theorem caller_setLease {lease : Int} (kept : Kept params me pre)
    (holds : ∀ world, pre world → world.stateLock = some (.caller me))
    (frame : ∀ world, pre world → pre { world with lease := lease }) :
    CallerTriple params me pre (perform (.setLease lease)) (fun _ => pre) raised := by
  apply caller_op kept holds
  intro world choice result after inv known executed
  cases executed
  have held := holds world known
  refine ⟨.of_same held rfl rfl rfl rfl rfl rfl rfl (fun _ same => same) (fun _ same => ⟨same, rfl⟩), ?_,
    frame world known⟩
  exact { inv with
    tidy := Invariant.heldTidy held rfl
    returned := inv.heldReturned held rfl }

theorem Quiet.setEvent {world : World} {event : Nat} (quiet : Quiet world) :
    Quiet { world with eventSet := Function.update world.eventSet event true } := by
  rcases quiet with set | none
  · left
    by_cases same : world.stopEvent = event
    · simp [same]
    · simpa [Function.update_of_ne same] using set
  · exact .inr none

theorem caller_setEvent {event : Nat} (kept : Kept params me pre)
    (holds : ∀ world, pre world → world.stateLock = some (.caller me))
    (frame : ∀ world, pre world →
      pre { world with eventSet := Function.update world.eventSet event true }) :
    CallerTriple params me pre (perform (.setEvent event))
      (fun _ world => pre world ∧ world.eventSet event = true) raised := by
  apply caller_op kept holds
  intro world choice result after inv known executed
  cases executed
  have held := holds world known
  refine ⟨.of_same held rfl rfl rfl rfl rfl rfl rfl (fun _ same => same) (fun _ same => ⟨same, rfl⟩), ?_,
    frame world known, by simp⟩
  exact { inv with
    pastSet := by
      intro past earlier
      by_cases same : past = event
      · simp [same]
      · simpa [Function.update_of_ne same] using inv.pastSet past earlier
    releasedQuiet := fun conn connEq sent =>
      ⟨(inv.releasedQuiet conn connEq sent).1.setEvent, (inv.releasedQuiet conn connEq sent).2⟩
    quietNone := fun none => (inv.quietNone none).setEvent
    tidy := Invariant.heldTidy held rfl
    returned := inv.heldReturned held rfl }

theorem caller_joinThread {worker : Nat} (kept : Kept params me pre)
    (holds : ∀ world, pre world → world.stateLock = some (.caller me))
    (joinable : ∀ world, pre world → world.started worker = true) :
    CallerTriple params me pre (raising (perform (.joinThread worker))) (fun _ => pre) raised := by
  apply raising_triple
  apply caller_op kept holds
  intro world choice result after inv known executed
  have same : after = world ∧ result = .ok () := by
    simp only [exec, joinable world known] at executed
    cases choice <;> simp_all [roughFaults]
  obtain ⟨rfl, rfl⟩ := same
  exact ⟨.refl _, inv, known⟩

theorem caller_setRenewThread {worker : Option Nat} {post : World → Prop}
    (kept : Kept params me pre)
    (holds : ∀ world, pre world → world.stateLock = some (.caller me))
    (quiet : worker = none → ∀ world, pre world → Quiet world)
    (frame : ∀ world, pre world → post { world with renewThread := worker }) :
    CallerTriple params me pre (perform (.setRenewThread worker)) (fun _ => post) raised := by
  apply caller_op kept holds
  intro world choice result after inv known executed
  cases executed
  have held := holds world known
  refine ⟨.of_same held rfl rfl rfl rfl rfl rfl rfl (fun _ same => same) (fun _ same => ⟨same, rfl⟩), ?_,
    frame world known⟩
  exact { inv with
    quietNone := fun none => quiet none world known
    tidy := Invariant.heldTidy held rfl
    returned := inv.heldReturned held rfl }

theorem caller_setClosed {closed : Bool} {post : World → Prop} (kept : Kept params me pre)
    (holds : ∀ world, pre world → world.stateLock = some (.caller me))
    (frame : ∀ world, pre world → post { world with closed := closed }) :
    CallerTriple params me pre (perform (.setClosed closed)) (fun _ => post) raised := by
  apply caller_op kept holds
  intro world choice result after inv known executed
  cases executed
  have held := holds world known
  refine ⟨.of_same held rfl rfl rfl rfl rfl rfl rfl (fun _ same => same) (fun _ same => ⟨same, rfl⟩), ?_,
    frame world known⟩
  exact { inv with
    tidy := Invariant.heldTidy held rfl
    returned := inv.heldReturned held rfl }

theorem caller_newStopEvent {post : World → Prop} (kept : Kept params me pre)
    (holds : ∀ world, pre world → world.stateLock = some (.caller me))
    (stopped : ∀ world, pre world → StopSet world ∧ world.conn = none)
    (frame : ∀ world, pre world → Invariant params world →
      post { world with stopEvent := world.stopEvent + 1 }) :
    CallerTriple params me pre (perform .newStopEvent) (fun _ => post) raised := by
  apply caller_op kept holds
  intro world choice result after inv known executed
  cases executed
  have held := holds world known
  obtain ⟨stopSet, connNone⟩ := stopped world known
  refine ⟨.of_same held rfl rfl rfl rfl rfl rfl rfl (fun _ same => same) (fun _ same => ⟨same, rfl⟩), ?_,
    frame world known inv⟩
  exact { inv with
    pastSet := by
      intro event earlier
      rcases Nat.lt_succ_iff_lt_or_eq.mp earlier with past | rfl
      · exact inv.pastSet event past
      · exact stopSet
    workerPast := fun worker made => Nat.le_succ_of_le (inv.workerPast worker made)
    releasedQuiet := fun conn connEq => absurd connEq (by simp [connNone])
    quietNone := fun _ => .inr fun worker started => by
      have past := inv.workerPast worker (inv.startedMade worker started)
      simp only
      omega
    tidy := Invariant.heldTidy held rfl
    returned := inv.heldReturned held rfl
    installedPast := Nat.le_succ_of_le inv.installedPast }

theorem caller_lockIo {post : World → Prop} (kept : Kept params me pre)
    (holds : ∀ world, pre world → world.stateLock = some (.caller me))
    (frame : ∀ world, pre world → world.armed = none →
      post { world with ioLock := some (.caller me) }) :
    CallerTriple params me pre (perform .lockIo) (fun _ => post) raised := by
  apply caller_op kept holds
  intro world choice result after inv known executed
  simp only [exec, Option.ite_none_right_eq_some, Option.some.injEq, Prod.mk.injEq] at executed
  obtain ⟨free, -, rfl⟩ := executed
  have held := holds world known
  have unarmed : world.armed = none := by
    cases armed : world.armed with
    | none => rfl
    | some thread => simp [inv.armedLock thread armed] at free
  refine ⟨?_, ?_, frame world known unarmed⟩
  · exact { @CallerMove.refl me world with
      outside := fun free => absurd held free
      lockKept := by simp [free]
      lockTaken := by
        intro thread different taken
        simp only [Option.some.injEq] at taken
        exact absurd taken.symm different }
  · exact { inv with
      armedLock := by simp [unarmed]
      releasingLock := fun _ => ⟨me, rfl⟩
      tidy := Invariant.heldTidy held rfl
      returned := inv.heldReturned held rfl }

theorem caller_unlockIo {post : World → Prop} (kept : Kept params me pre)
    (holds : ∀ world, pre world → world.stateLock = some (.caller me))
    (locked : ∀ world, pre world → world.ioLock = some (.caller me) ∧ world.armed = none ∧
      Settled world)
    (frame : ∀ world, pre world → post { world with ioLock := none, armed := none }) :
    CallerTriple params me pre (perform .unlockIo) (fun _ => post) raised := by
  apply caller_op kept holds
  intro world choice result after inv known executed
  cases executed
  have held := holds world known
  obtain ⟨mine, unarmed, settled⟩ := locked world known
  refine ⟨?_, ?_, frame world known⟩
  · exact { @CallerMove.refl me world with
      outside := fun free => absurd held free
      lockKept := by simp [mine]
      lockTaken := by simp
      armed := by simp [unarmed] }
  · exact { inv with
      armedLock := by simp
      releasedQuiet := fun conn connEq sent => ⟨(inv.releasedQuiet conn connEq sent).1, rfl⟩
      releasingLock := fun sending => absurd sending (by simp [Settled] at settled; simp [settled])
      tidy := Invariant.heldTidy held rfl
      returned := inv.heldReturned held rfl }

theorem caller_dropConn {post : World → Prop} (kept : Kept params me pre)
    (holds : ∀ world, pre world → world.stateLock = some (.caller me))
    (unread : ∀ world, pre world → Unread world)
    (frame : ∀ world, pre world → post (world.setConn (.caller me) none)) :
    CallerTriple params me pre (perform (.setConn none)) (fun _ => post) raised := by
  apply caller_op kept holds
  intro world choice result after inv known executed
  cases executed
  have held := holds world known
  refine ⟨?_, ?_, frame world known⟩
  · exact { @CallerMove.refl me world with
      outside := fun free => absurd held free
      conn := by
        intro armed some
        rcases (unread world known).2 with unarmed | gone
        · exact absurd unarmed armed
        · exact absurd gone some
      inHand := by
        intro thread conn different held
        simp only [World.setConn, reduceCtorEq, if_false] at held
        split at held
        · simp only [Option.some.injEq] at held
          exact absurd held.symm different
        · exact held }
  · exact { inv with
      tokenGrant := by simp [World.setConn]
      releasedQuiet := by simp [World.setConn]
      connMade := by simp [World.setConn]
      accounted := by
        intro conn made opened
        right
        simp only [World.setConn]
        by_cases same : world.conn = some conn
        · simp [same]
        · have kept := (inv.accounted conn made opened).resolve_left same
          simpa [same] using kept
      tidy := Invariant.heldTidy held rfl
      returned := inv.heldReturned held rfl
      installedPast := by simpa [World.setConn] using inv.installedPast }

theorem caller_installConn {conn : Nat} {post : World → Prop} (kept : Kept params me pre)
    (holds : ∀ world, pre world → world.stateLock = some (.caller me))
    (ready : ∀ world, pre world → world.conn = none ∧ world.token = none ∧ conn < world.conns ∧
      Unreleased conn world)
    (frame : ∀ world, pre world → post (world.setConn (.caller me) (some conn))) :
    CallerTriple params me pre (perform (.setConn (some conn))) (fun _ => post) raised := by
  apply caller_op kept holds
  intro world choice result after inv known executed
  cases executed
  have held := holds world known
  obtain ⟨connNone, tokenNone, made, unreleased⟩ := ready world known
  refine ⟨?_, ?_, frame world known⟩
  · exact { @CallerMove.refl me world with
      outside := fun free => absurd held free
      conn := fun _ some => absurd connNone some
      installed := fun some => absurd connNone some
      inHand := by
        intro thread other _ held
        simp only [World.setConn, connNone, reduceCtorEq, if_false] at held
        split at held
        · cases held
        · exact held }
  · exact { inv with
      tokenGrant := by simp [World.setConn, tokenNone]
      releasedQuiet := by
        intro other otherEq sent
        simp only [World.setConn, Option.some.injEq] at otherEq sent
        subst otherEq
        rw [Unreleased] at unreleased
        simp [unreleased] at sent
      connMade := by
        intro other otherEq
        simp only [World.setConn, Option.some.injEq] at otherEq ⊢
        subst otherEq
        exact ⟨made, by simp⟩
      accounted := by
        intro other otherMade opened
        simp only [World.setConn, connNone, Option.some.injEq]
        by_cases same : conn = other
        · exact .inl same
        · have kept := (inv.accounted other otherMade opened).resolve_left (by simp [connNone])
          exact .inr (by simpa [same] using kept)
      tidy := Invariant.heldTidy held rfl
      returned := inv.heldReturned held rfl
      installedPast := by simp [World.setConn] }

theorem caller_clearToken {post : World → Prop} (kept : Kept params me pre)
    (holds : ∀ world, pre world → world.stateLock = some (.caller me))
    (unread : ∀ world, pre world → Unread world)
    (frame : ∀ world, pre world → post { world with token := none }) :
    CallerTriple params me pre (perform (.setToken none)) (fun _ => post) raised := by
  apply caller_op kept holds
  intro world choice result after inv known executed
  cases executed
  have held := holds world known
  refine ⟨?_, ?_, frame world known⟩
  · exact { @CallerMove.refl me world with
      outside := fun free => absurd held free
      token := by
        intro armed some _
        rcases (unread world known).2 with unarmed | gone
        · exact absurd unarmed armed
        · exact absurd gone some }
  · exact { inv with
      tokenGrant := by simp
      tidy := Invariant.heldTidy held rfl
      returned := inv.heldReturned held rfl }

theorem caller_storeToken {token : Str} {post : World → Prop} (kept : Kept params me pre)
    (holds : ∀ world, pre world → world.stateLock = some (.caller me))
    (ready : ∀ world, pre world → world.token = none ∧
      ∀ conn, world.conn = some conn → granted world.trace conn = some token)
    (frame : ∀ world, pre world → post { world with token := some token }) :
    CallerTriple params me pre (perform (.setToken (some token))) (fun _ => post) raised := by
  apply caller_op kept holds
  intro world choice result after inv known executed
  cases executed
  have held := holds world known
  obtain ⟨tokenNone, grant⟩ := ready world known
  refine ⟨?_, ?_, frame world known⟩
  · exact { @CallerMove.refl me world with
      outside := fun free => absurd held free
      token := fun _ _ some => absurd tokenNone some }
  · exact { inv with
      tokenGrant := by
        intro conn other connEq otherEq
        rw [← otherEq]
        exact grant conn connEq
      tidy := Invariant.heldTidy held rfl
      returned := inv.heldReturned held rfl }

theorem caller_newThread {event : Nat} {post : Nat → World → Prop} (kept : Kept params me pre)
    (holds : ∀ world, pre world → world.stateLock = some (.caller me))
    (current : ∀ world, pre world → world.stopEvent = event)
    (frame : ∀ world, pre world → post world.workers { world with
      workers := world.workers + 1
      workerEvent := Function.update world.workerEvent world.workers event }) :
    CallerTriple params me pre (perform (.newThread event)) post raised := by
  apply caller_op kept holds
  intro world choice result after inv known executed
  cases executed
  have held := holds world known
  have older (worker : Nat) (started : world.started worker = true) : worker ≠ world.workers := by
    have made := inv.startedMade worker started
    omega
  have quiet : Quiet world → Quiet { world with
      workers := world.workers + 1
      workerEvent := Function.update world.workerEvent world.workers event } := by
    rintro (set | none)
    · exact .inl set
    · right
      intro worker started
      simpa only [Function.update_of_ne (older worker started)] using none worker started
  refine ⟨.of_same held rfl rfl rfl rfl rfl rfl rfl (fun _ same => same) ?_, ?_, frame world known⟩
  · intro worker started
    exact ⟨started, by simp only [Function.update_of_ne (older worker started)]⟩
  · exact { inv with
      workerPast := by
        intro worker made
        by_cases same : worker = world.workers
        · simp [same, current world known]
        · have earlier := inv.workerPast worker (by
            have within : worker < world.workers + 1 := made
            omega)
          simpa only [Function.update_of_ne same] using earlier
      startedMade := fun worker started => Nat.lt_succ_of_lt (inv.startedMade worker started)
      releasedQuiet := fun conn connEq sent =>
        ⟨quiet (inv.releasedQuiet conn connEq sent).1, (inv.releasedQuiet conn connEq sent).2⟩
      quietNone := fun none => quiet (inv.quietNone none)
      tidy := Invariant.heldTidy held rfl
      returned := inv.heldReturned held rfl }

theorem caller_startThread {worker : Nat} {post : World → Prop} (kept : Kept params me pre)
    (holds : ∀ world, pre world → world.stateLock = some (.caller me))
    (ready : ∀ world, pre world → worker < world.workers ∧ world.renewThread = some worker ∧
      ∀ conn, world.conn = some conn → Unreleased conn world)
    (frame : ∀ world, pre world → post { world with
      started := Function.update world.started worker true
      alive := Function.update world.alive worker true }) :
    CallerTriple params me pre (raising (perform (.startThread worker))) (fun _ => post) raised := by
  apply raising_triple
  apply caller_op kept holds
  intro world choice result after inv known executed
  have started : result = .ok () ∧ after = { world with
      started := Function.update world.started worker true
      alive := Function.update world.alive worker true } := by
    cases choice <;> simp_all [exec, roughFaults]
  obtain ⟨rfl, rfl⟩ := started
  have held := holds world known
  obtain ⟨made, thread, unreleased⟩ := ready world known
  have still (other : Nat) (started : world.started other = true) :
      Function.update world.started worker true other = true := by
    by_cases same : other = worker
    · simp [same]
    · simpa only [Function.update_of_ne same] using started
  refine ⟨.of_same held rfl rfl rfl rfl rfl rfl rfl (fun _ same => same)
    (fun other started => ⟨still other started, rfl⟩), ?_, frame world known⟩
  exact { inv with
    startedMade := by
      intro other started
      by_cases same : other = worker
      · exact same ▸ made
      · simp only [Function.update_of_ne same] at started
        exact inv.startedMade other started
    releasedQuiet := by
      intro conn connEq sent
      have unsent := unreleased conn connEq
      simp only [Unreleased] at unsent
      simp [unsent] at sent
    quietNone := by simp [thread]
    tidy := Invariant.heldTidy held rfl
    returned := inv.heldReturned held rfl }

theorem caller_dial {host : Str} {port : Int} {post : Nat → World → Prop}
    (kept : Kept params me pre)
    (holds : ∀ world, pre world → world.stateLock = some (.caller me))
    (failed : ∀ world error, pre world → raised error world)
    (frame : ∀ world, pre world → Unreleased world.conns world →
      post world.conns { world with
        conns := world.conns + 1
        inHand := Function.update world.inHand world.conns (some (.caller me)) }) :
    CallerTriple params me pre (raising (perform (.dial host port))) post raised := by
  apply raising_triple
  apply caller_op kept holds
  intro world choice result after inv known executed
  have held := holds world known
  have dialled : (∃ error, result = .error error ∧ after = world) ∨
      (result = .ok world.conns ∧ after = { world with
        conns := world.conns + 1
        inHand := Function.update world.inHand world.conns (some (.caller me)) }) := by
    cases choice <;> (simp_all [exec]; try grind)
  rcases dialled with ⟨error, rfl, rfl⟩ | ⟨rfl, rfl⟩
  · exact ⟨.refl _, inv, failed _ error known⟩
  · refine ⟨?_, ?_, frame world known (inv.unmade _ (Nat.le_refl _)).2⟩
    · exact { @CallerMove.refl me world with
        outside := fun free => absurd held free
        inHand := by
          intro thread conn different held
          by_cases same : conn = world.conns
          · simp only [same, Function.update_self, Option.some.injEq] at held
            exact absurd held.symm different
          · simpa only [Function.update_of_ne same] using held }
    · exact { inv with
        connMade := by
          intro conn connEq
          obtain ⟨made, loose⟩ := inv.connMade conn connEq
          refine ⟨Nat.lt_succ_of_lt made, ?_⟩
          simpa only [Function.update_of_ne (Nat.ne_of_lt made)] using loose
        unmade := fun conn beyond => inv.unmade conn (Nat.le_of_succ_le beyond)
        accounted := by
          intro conn made opened
          by_cases same : conn = world.conns
          · exact .inr (by simp [same])
          · simp only [Function.update_of_ne same]
            exact inv.accounted conn (by simp only at made; omega) opened
        tidy := Invariant.heldTidy held rfl
        returned := inv.heldReturned held rfl }

theorem caller_closeConn {conn : Nat} {post : World → Prop} (kept : Kept params me pre)
    (holds : ∀ world, pre world → world.stateLock = some (.caller me))
    (frame : ∀ world, pre world → post { world with
      closedConn := Function.update world.closedConn conn true }) :
    CallerTriple params me pre (perform (.closeConn conn)) (fun _ => post) raised := by
  apply caller_op kept holds
  intro world choice result after inv known executed
  cases executed
  have held := holds world known
  refine ⟨.of_same held rfl rfl rfl rfl rfl rfl rfl ?_ (fun _ same => ⟨same, rfl⟩), ?_, frame world known⟩
  · intro other closed
    by_cases same : other = conn
    · simp [same]
    · simpa only [Function.update_of_ne same] using closed
  · exact { inv with
      accounted := by
        intro other made opened
        by_cases same : other = conn
        · simp [same] at opened
        · simp only [Function.update_of_ne same] at opened
          exact inv.accounted other made opened
      tidy := Invariant.heldTidy held rfl
      returned := inv.heldReturned held rfl }

theorem caller_shutdownRead {conn : Nat} (kept : Kept params me pre)
    (holds : ∀ world, pre world → world.stateLock = some (.caller me)) :
    CallerTriple params me pre (perform (.shutdownRead conn)) (fun _ => pre) raised := by
  apply caller_op kept holds
  intro world choice result after inv known executed
  cases executed
  exact ⟨.refl _, inv, known⟩

/-! What is written and read on a connection -/

structure Plain (cmd : Str) : Prop where
  renew : commandKind cmd ≠ some .renew
  release : commandKind cmd ≠ some .release

theorem CallerMove.log {world : World} {events : List Event}
    (held : world.stateLock = some (.caller me)) : CallerMove me world (world.log events) :=
  .of_same held rfl rfl rfl rfl rfl rfl rfl (fun _ same => same) (fun _ same => ⟨same, rfl⟩)

theorem Lawful.frame {trace : List Event} {conn : Nat} {request : Request}
    (lawful : Lawful (renewRule params) trace) (plain : Plain request.cmd) :
    Lawful (renewRule params) (trace ++ [.frame conn request]) :=
  lawful.snoc ⟨fun same => absurd same plain.renew, fun same => absurd same plain.release⟩

theorem Invariant.answer {world : World} {conn : Nat} {cmd line : Str}
    (inv : Invariant params world) (held : world.stateLock = some (.caller me))
    (made : conn < world.conns) (tokenNone : world.token = none) :
    Invariant params (world.log [.answer conn cmd line]) :=
  { inv with
    tokenGrant := by
      intro other token _ tokenEq
      rw [show world.token = some token from tokenEq] at tokenNone
      cases tokenNone
    releasedQuiet := by
      intro other otherEq sent
      exact inv.releasedQuiet other otherEq (by simpa [World.log, Event.isFrameOf] using sent)
    releasingLock := by
      intro sending
      apply inv.releasingLock
      simp only [World.log, releasing_snoc, releasingStep, Bool.and_eq_true] at sending
      exact sending.1
    lawful := inv.lawful.snoc trivial
    unmade := by
      intro other beyond
      have different : conn ≠ other := by
        have outside : world.conns ≤ other := beyond
        omega
      simpa [World.log, grantStep, different, Event.isFrameOf] using inv.unmade other beyond
    tidy := Invariant.heldTidy held rfl
    returned := inv.heldReturned held rfl }

/-- What a caller knows during an exchange that neither renews nor releases, and that stays true
whatever is written and read, also when the connection is closed. -/
structure Exchanging (params : Params) (me conn : Nat) (fact : World → Prop) : Prop where
  kept : Kept params me fact
  holds : ∀ world, fact world → world.stateLock = some (.caller me)
  ready : ∀ world, fact world → conn < world.conns ∧ world.token = none
  usable : ∀ world, fact world → Usable conn world
  log : ∀ world events, fact world →
    (∀ conn, released (world.trace ++ events) conn = released world.trace conn) →
    releasing (world.trace ++ events) = releasing world.trace → fact (world.log events)
  close : ∀ world, fact world →
    fact { world with closedConn := Function.update world.closedConn conn true }

theorem Exchanging.neutral {conn : Nat} {fact : World → Prop} {world : World}
    {events : List Event} (exchanging : Exchanging params me conn fact) (known : fact world)
    (neutral : Neutral world.trace events) : fact (world.log events) :=
  exchanging.log world events known neutral.released neutral.releasing

theorem caller_send {conn : Nat} {request : Request} (plain : Plain request.cmd)
    (exchanging : Exchanging params me conn pre) :
    CallerTriple params me pre (raising (perform (.send conn request)))
      (fun _ world => pre world ∧ Unreleased conn world) fun _ => pre := by
  apply raising_triple
  apply caller_op exchanging.kept exchanging.holds
  intro world choice result after inv known executed
  have held := exchanging.holds world known
  have sent := neutral_frame world.trace conn plain.release
  rcases send_cases executed with ⟨error, rfl, rfl, -⟩ | ⟨error, rfl, -, -, rfl⟩ |
    ⟨rfl, opened, rfl⟩
  · exact ⟨.refl _, inv, known⟩
  · have ended := sent.snoc fun before => neutral_noAnswer before conn plain.release
    have lawful : Lawful (renewRule params)
        (world.trace ++ [.frame conn request] ++ [.noAnswer conn request.cmd]) :=
      (Lawful.frame inv.lawful plain).snoc trivial
    rw [List.append_assoc] at lawful
    exact ⟨.log held, inv.log lawful ended, exchanging.neutral known ended⟩
  · refine ⟨.log held, inv.log (Lawful.frame inv.lawful plain) sent,
      exchanging.neutral known sent, (sent.released conn).trans ?_⟩
    by_contra released
    have gone := exchanging.usable world known (by simpa using released)
    rw [opened] at gone
    cases gone

theorem caller_recv {conn : Nat} {cmd : Str} (plain : Plain cmd)
    (exchanging : Exchanging params me conn pre) :
    CallerTriple params me (fun world => pre world ∧ Unreleased conn world)
      (raising (perform (.recv conn cmd)))
      (fun line world => pre world ∧ Unreleased conn world ∧
        ∀ token, grantedToken cmd line = some token → granted world.trace conn = some token)
      fun _ => pre := by
  apply raising_triple
  apply caller_op (exchanging.kept.and Unreleased.kept)
    fun world known => exchanging.holds world known.1
  rintro world choice result after inv ⟨known, unreleased⟩ executed
  have held := exchanging.holds world known
  obtain ⟨made, tokenNone⟩ := exchanging.ready world known
  rcases recv_cases executed with ⟨error, rfl, -, rfl⟩ | ⟨line, rfl, rfl⟩
  · have ended := neutral_noAnswer world.trace conn plain.release
    exact ⟨.log held, inv.log (inv.lawful.snoc trivial) ended, exchanging.neutral known ended⟩
  · refine ⟨.log held, inv.answer held made tokenNone, ?_, ?_, ?_⟩
    · apply exchanging.log world _ known
      · simp [Event.isFrameOf]
      · simp [releasingStep, plain.release]
    · simpa [Unreleased, World.log, Event.isFrameOf] using unreleased
    · intro token grants
      simp [World.log, grantStep, grants]

end Operations

structure Resting (me : Nat) (world : World) : Prop where
  outside : world.stateLock ≠ some (.caller me)
  free : world.ioLock ≠ some (.caller me)
  hand : ∀ conn, world.inHand conn = some (.caller me) → world.closedConn conn = true

def Ready (me : Nat) (world : World) : Prop := Busy me world ∧ Tidy world

theorem Ready.kept : Kept params me (Ready me) := Busy.kept.and Tidy.kept

theorem Ready.holds (world : World) (known : Ready me world) :
    world.stateLock = some (.caller me) := known.1.holds

theorem Resting.stable : (contract params).Stable (.caller me) (Resting me) := by
  intro other different before after invBefore _ move known
  cases other with
  | caller other =>
      have elsewhere : Thread.caller me ≠ .caller other := fun same => different same.symm
      refine ⟨?_, ?_, ?_⟩
      · intro taken
        exact known.outside (move.stateTaken _ elsewhere taken)
      · intro taken
        exact known.free (move.lockTaken _ elsewhere taken)
      · intro conn held
        exact move.closedConn conn (known.hand conn (move.inHand _ conn elsewhere held))
  | worker worker =>
      refine ⟨?_, ?_, ?_⟩
      · rw [move.stateLock]
        exact known.outside
      · intro taken
        exact known.free ((move.locked _ (by simp)).mpr taken)
      · intro conn held
        exact move.closedConn conn (known.hand conn (move.inHand _ conn (by simp) held))

theorem caller_lockState {raised : PyError → World → Prop} :
    CallerTriple params me (Resting me) (perform .lockState) (fun _ => Ready me) raised := by
  apply Triple.perform rfl Resting.stable
  intro world choice result after inv known _ executed
  simp only [machine, exec, Option.ite_none_right_eq_some, Option.some.injEq, Prod.mk.injEq]
    at executed
  obtain ⟨free, -, rfl⟩ := executed
  refine ⟨?_, ?_, ⟨rfl, known.free, known.hand⟩, ?_⟩
  · exact { @CallerMove.refl me world with
      outside := fun _ => .inr free
      stateTaken := by
        intro thread different taken
        simp only [Option.some.injEq] at taken
        exact absurd taken.symm different }
  · exact { inv with
      tidy := by simp
      returned := by simp }
  · have tidy := inv.tidy free
    exact ⟨tidy.closed, tidy.usable, tidy.settled, tidy.joinable⟩

/-- An operation that returns normally from `release` or `close` leaves no connection. -/
def Returning (returned : Option Call) (world : World) : Prop :=
  returned = some .release ∨ returned = some .close → world.conn = none

theorem caller_unlockState {returned : Option Call} {raised : PyError → World → Prop} :
    CallerTriple params me (fun world => Ready me world ∧ Returning returned world)
      (perform (.unlockState returned)) (fun _ => Resting me) raised := by
  have kept : Kept params me fun world => Ready me world ∧ Returning returned world := by
    apply Ready.kept.and
    intro worker before after move inv holds known ended
    exact connNone_kept worker before after move inv holds (known ended)
  apply caller_op kept fun world known => known.1.holds
  rintro world choice result after inv ⟨⟨busy, tidy⟩, ended⟩ executed
  cases executed
  refine ⟨?_, ?_, by simp, busy.free, busy.hand⟩
  · exact { @CallerMove.refl me world with
      outside := fun free => absurd busy.holds free
      stateTaken := by simp }
  · exact { inv with
      tidy := fun _ => ⟨tidy.closed, tidy.usable, tidy.settled, tidy.joinable⟩
      returned := fun which => ⟨rfl, ended which⟩ }

end DflockdClient.Sync
