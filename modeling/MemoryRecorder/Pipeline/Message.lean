import MemoryRecorder.Process.Watcher
import MemoryRecorder.System.MemInfo
/-!
# Messages of the recording pipeline

Three kinds of threads cooperate in a recording. The scheduler sends `Command`s to the workers;
each worker owns the watchers of its processes, sends what it samples to the feeder and reports
gone processes back to the scheduler; the feeder is the single writer of the store. The threads
share no watcher state: everything passes through these messages and a few counters.
-/

namespace MemoryRecorder
namespace Pipeline

/-- A request from the scheduler to one worker. -/
inductive Command where
  | watch (pid : Int32)
  /-- Sample every watcher, stamping the snapshots with the tick time. -/
  | sample (time : Millis)
  | dispose
  | stop
  deriving DecidableEq, Repr

def Command.isSample : Command → Bool
  | .sample _ => true
  | _ => false

structure ExitReport where
  pid : Int32
  process : ProcessId
  deriving DecidableEq, Repr

inductive FeederMessage where
  /-- A watcher was set up, with the name its process goes by; sent before any snapshot of it. -/
  | announced (process : ProcessId) (name : String)
  | snapshot (s : Snapshot)
  | system (s : SystemSnapshot)
  /-- Stop after everything received before. -/
  | shutdown
  deriving Repr

def FeederMessage.isSnapshot : FeederMessage → Bool
  | .snapshot _ => true
  | _ => false

end Pipeline
end MemoryRecorder
