import DflockdClient.Interleaving.RelyGuarantee
import DflockdClient.Interleaving.Trace
import DflockdClient.SyncContract
import DflockdClient.Commands
import DflockdClient.SyncCallers
import DflockdClient.SyncOperations
import DflockdClient.SyncWorkers
import DflockdClient.SyncRuns
import DflockdClient.SyncStale
import DflockdClient.Interleaving.Sequential
import DflockdClient.SyncModes
import DflockdClient.SyncSequence
import DflockdClient.SyncAttempts
import DflockdClient.SyncSteps
import DflockdClient.SyncFailures
import DflockdClient.Agreement
import DflockdClient.Answers
import DflockdClient.Calls
import DflockdClient.Construction
import DflockdClient.GiveBack
import DflockdClient.ReaderRuns
import DflockdClient.RenewalTimes
import DflockdClient.SyncConn
import DflockdClient.SyncPairing
import DflockdClient.AsyncPairing
import DflockdClient.AsyncRuns
import DflockdClient.SyncProgress
import DflockdClient.AsyncProgress
import DflockdClient.Responses
import DflockdClient.AsyncWith
import DflockdClient.Ownership
