import DflockdClient.AsyncRuns
import DflockdClient.SyncRuns

/-! Where the connections of an instance are, on both sides. -/

namespace DflockdClient

open Interleaving

variable {Tid : Type} {conns : Nat} {closed : Nat → Bool} {installed : Option Nat}
  {inHand : Nat → Option Tid} {busy : Tid → Prop}

/-- Every connection that was dialled is closed, installed, or in the hands of a program in
progress. -/
def Owned (conns : Nat) (closed : Nat → Bool) (installed : Option Nat) (inHand : Nat → Option Tid)
    (busy : Tid → Prop) : Prop :=
  ∀ conn, conn < conns → closed conn = true ∨ installed = some conn ∨
    ∃ thread, inHand conn = some thread ∧ busy thread

/-- No more than one connection is open. -/
def AtMostOne (conns : Nat) (closed : Nat → Bool) : Prop :=
  ∀ first second, first < conns → second < conns → closed first = false → closed second = false →
    first = second

theorem Owned.atMostOne (owned : Owned conns closed installed inHand busy)
    (quiescent : ∀ thread, ¬busy thread) : AtMostOne conns closed := by
  have found (conn : Nat) (made : conn < conns) (opened : closed conn = false) :
      installed = some conn := by
    rcases owned conn made with shut | here | ⟨thread, _, works⟩
    · rw [shut] at opened
      cases opened
    · exact here
    · exact absurd works (quiescent thread)
  intro first second madeFirst madeSecond openedFirst openedSecond
  exact Option.some.inj ((found first madeFirst openedFirst).symm.trans
    (found second madeSecond openedSecond))

variable {params : Params}

theorem sync_owned
    {config : Config Sync.Op Sync.Op.Res PyError Sync.Thread Sync.Val Sync.World}
    (reached : Sync.Reached Sync.roughFaults params config) :
    Owned config.shared.conns config.shared.closedConn config.shared.conn config.shared.inHand
      fun thread => (config.program thread).outcome = none := by
  intro conn made
  cases opened : config.shared.closedConn conn with
  | true => exact .inl rfl
  | false => exact .inr (Sync.Reached.accounted reached ⟨made, opened⟩)

theorem async_owned
    {config : Config Async.Op Async.Op.Res PyError Async.Thread Async.Val Async.World}
    (reached : Async.Shared.Reached params config) :
    Owned config.shared.conns config.shared.closedConn config.shared.conn config.shared.inHand
      fun thread => (config.program thread).outcome = none := by
  intro conn made
  cases opened : config.shared.closedConn conn with
  | true => exact .inl rfl
  | false =>
      rcases Async.Shared.Reached.accounted reached ⟨made, opened⟩ with here | ⟨me, held, _, busy⟩
      · exact .inr (.inl here)
      · exact .inr (.inr ⟨.caller me, held, busy⟩)

/-- No connection leaks. On both sides every connection is owned in every reachable state, and at
rest no more than one is open; none is after a release or a close that has returned. -/
theorem connections_owned (params : Params) :
    (∀ config, Sync.Reached Sync.roughFaults params config →
      (Owned config.shared.conns config.shared.closedConn config.shared.conn config.shared.inHand
        fun thread => (config.program thread).outcome = none) ∧
      (Sync.Quiescent config → AtMostOne config.shared.conns config.shared.closedConn ∧
        (config.shared.lastReturn = some .release ∨ config.shared.lastReturn = some .close →
          ∀ conn, conn < config.shared.conns → config.shared.closedConn conn = true))) ∧
    (∀ config, Async.Shared.Reached params config →
      (Owned config.shared.conns config.shared.closedConn config.shared.conn config.shared.inHand
        fun thread => (config.program thread).outcome = none) ∧
      ((∀ thread, (config.program thread).outcome ≠ none) →
        AtMostOne config.shared.conns config.shared.closedConn)) ∧
    ∀ me call value world, Async.Shared.CallEnds params me call (.ok value) world →
      call = .release ∨ call = .close →
        ∀ conn, conn < world.conns → world.closedConn conn = true := by
  refine ⟨fun config reached => ⟨sync_owned reached, fun quiescent => ⟨?_, ?_⟩⟩,
    fun config reached => ⟨async_owned reached, (async_owned reached).atMostOne⟩, ?_⟩
  · exact (sync_owned reached).atMostOne quiescent
  · intro returned conn made
    by_contra opened
    exact Sync.Reached.nothingOpen reached quiescent returned conn ⟨made, by simpa using opened⟩
  · intro me call value world ended giving conn made
    have outcome := Async.Shared.outcome_of_ends ended
    have nothing : Async.Shared.Nothing world := by
      rcases giving with rfl | rfl
      · exact outcome
      · exact outcome
    by_contra opened
    have opened : world.closedConn conn = false := by simpa using opened
    exact nothing.shelved conn made opened

theorem connections_owned_demo :
    (∃ config, Sync.Reached Sync.roughFaults Sync.demoParams config ∧ Sync.Quiescent config ∧
      config.shared.conns = 1 ∧ config.shared.closedConn 0 = true) ∧
    ∃ world, Async.Shared.CallEnds Async.Shared.demoParams 0 .release (.ok (.bool true)) world ∧
      world.conns = 1 ∧ world.closedConn 0 = true := by
  constructor
  · obtain ⟨config, reached, quiescent, made, returned⟩ := Sync.released_run
    refine ⟨config, reached, quiescent, made, ?_⟩
    exact (((connections_owned Sync.demoParams).1 config reached).2 quiescent).2 (.inl returned) 0
      (by omega)
  · obtain ⟨world, ended, made, _⟩ := Async.Shared.asked_release
    refine ⟨world, ended, made, ?_⟩
    exact (connections_owned Async.Shared.demoParams).2.2 0 .release _ world ended (.inl rfl) 0
      (by omega)

end DflockdClient
