import DflockdClient.AsyncScripts
import DflockdClient.SyncScripts

/-!
The sync and the async classes side by side, over one oracle for their commands. How
a command arms its timeout (`settimeout`, `asyncio.timeout`) is the oracle's affair.
-/

namespace DflockdClient

/-- A script is seen to do the same on `_SyncBase` and on `_AsyncBase`: every step returns or
raises the same, and leaves the same commands asked, the same renewal intervals, the same
connections closed, and the same token, lease and connection. -/
theorem sync_async_agree (oracle : Oracle) (params : Params) (script : List Action) :
    ∃ seen,
      runScript (Sync.Alone.act oracle params) Sync.Alone.seen script {} = some seen ∧
      runScript (Async.Alone.act oracle params) Async.Alone.seen script {} = some seen :=
  ⟨({} : Client).script oracle params script, Sync.script_refines oracle params script,
    Async.script_refines oracle params script⟩

end DflockdClient
