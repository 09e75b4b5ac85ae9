import MemoryRecorder.Pipeline.Message
import MemoryRecorder.Store.Write
import MemoryRecorder.Health
/-!
# The feeder

The feeder is the single writer of the store. It persists the messages of its channel in the
order it receives them and stops at the shutdown message. A write that fails is skipped; the
health statistics count committed and failed snapshots and committed system samples. A snapshot
whose totals overflow stops the feeder, and its transaction leaves nothing behind. The model has
no clock, so a commit takes no time.
-/

namespace MemoryRecorder
namespace Pipeline

/-- The feeder thread: the store it owns, on an engine `σ`, whether its loop still runs, and the
overflow that stopped it, if one did. -/
structure Feeder (σ : Type) where
  store : Store.Handle σ
  running : Bool := true
  stoppedAt : Option OverflowSite := none

namespace Feeder

variable {σ : Type} [Store.Engine σ]

def handle (f : Feeder σ) : FeederMessage → Feeder σ × Option HealthEvent
  | .announced p name =>
      let (st, _) := f.store.exec (Store.upsertProcess p name)
      ({ f with store := st }, none)
  | .snapshot s =>
      match f.store.exec (Store.insertSnapshot s) with
      | (st, .ok _) => ({ f with store := st }, some (.snapshotCommitted 0))
      | (st, .error (.overflow site)) =>
          ({ f with store := st, running := false, stoppedAt := some site }, none)
      | (st, .error _) => ({ f with store := st }, some .snapshotFailed)
  | .system s =>
      match f.store.exec (Store.insertSystemSnapshot s) with
      | (st, .ok _) => ({ f with store := st }, some .systemSnapshotCommitted)
      | (st, .error _) => ({ f with store := st }, none)
  | .shutdown => ({ f with running := false }, none)

end Feeder

end Pipeline
end MemoryRecorder
