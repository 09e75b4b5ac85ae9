import MemoryRecorder.Text.Decimal
import MemoryRecorder.Text.Layout
/-!
# Health statistics

The recorder counts what happens to processes, samples and commits, and keeps running statistics
of three series: the number of tracked processes at each tick, the duration of a tick and the
duration of a commit. Every change is one `HealthEvent`, so the statistics of a run are the fold
of its events over `HealthStats.record`.

The commit success rate is the share of committed snapshots among committed and failed ones, in
percent, and a full hundred before the first of either. `HealthStats.table` is the report printed
at shutdown.

Only commit events move the two commit counters (`record_commitCounts`).
-/

namespace MemoryRecorder

/-- Count, sum, extremes and latest value of a series of samples. All of them are zero before the
first sample, which sets every one of them. -/
structure RunningStat where
  count : Nat := 0
  sum : Float := 0
  min : Float := 0
  max : Float := 0
  last : Float := 0
  deriving Repr

namespace RunningStat

def add (s : RunningStat) (v : Float) : RunningStat :=
  if s.count = 0 then { count := 1, sum := v, min := v, max := v, last := v }
  else
    { count := s.count + 1, sum := s.sum + v, last := v,
      min := if v < s.min then v else s.min,
      max := if v > s.max then v else s.max }

def avg (s : RunningStat) : Float :=
  if s.count = 0 then 0 else s.sum / s.count.toFloat

theorem add_count (s : RunningStat) (v : Float) : (s.add v).count = s.count + 1 := by
  unfold add
  split <;> simp_all

end RunningStat

inductive HealthEvent where
  | processStarted
  | processExited
  | processInaccessible
  /-- A tick ran with this many tracked processes and took this long. -/
  | tick (tracked : Nat) (durationMs : Float)
  | sampleSent
  | sampleDropped
  | sampleThrottled
  /-- A worker dropped a tick because a newer one was already queued. -/
  | staleTickSkipped
  | snapshotCommitted (durationMs : Float)
  | snapshotFailed
  | systemSnapshotCommitted

structure HealthStats where
  processesStarted : Nat := 0
  processesExited : Nat := 0
  processesInaccessible : Nat := 0
  totalTicks : Nat := 0
  trackedProcesses : RunningStat := {}
  tickDurationMs : RunningStat := {}
  samplesSent : Nat := 0
  samplesDropped : Nat := 0
  samplesThrottled : Nat := 0
  staleTicksSkipped : Nat := 0
  snapshotsCommitted : Nat := 0
  snapshotsFailed : Nat := 0
  systemSnapshotsCommitted : Nat := 0
  commitDurationMs : RunningStat := {}
  deriving Repr

namespace HealthStats

def record (s : HealthStats) : HealthEvent → HealthStats
  | .processStarted => { s with processesStarted := s.processesStarted + 1 }
  | .processExited => { s with processesExited := s.processesExited + 1 }
  | .processInaccessible => { s with processesInaccessible := s.processesInaccessible + 1 }
  | .tick tracked ms =>
      { s with totalTicks := s.totalTicks + 1,
               trackedProcesses := s.trackedProcesses.add tracked.toFloat,
               tickDurationMs := s.tickDurationMs.add ms }
  | .sampleSent => { s with samplesSent := s.samplesSent + 1 }
  | .sampleDropped => { s with samplesDropped := s.samplesDropped + 1 }
  | .sampleThrottled => { s with samplesThrottled := s.samplesThrottled + 1 }
  | .staleTickSkipped => { s with staleTicksSkipped := s.staleTicksSkipped + 1 }
  | .snapshotCommitted ms =>
      { s with snapshotsCommitted := s.snapshotsCommitted + 1,
               commitDurationMs := s.commitDurationMs.add ms }
  | .snapshotFailed => { s with snapshotsFailed := s.snapshotsFailed + 1 }
  | .systemSnapshotCommitted =>
      { s with systemSnapshotsCommitted := s.systemSnapshotsCommitted + 1 }

/-- Committed snapshots among committed and failed ones, in percent; a hundred before either. -/
def commitSuccessRate (s : HealthStats) : Float :=
  let total := s.snapshotsCommitted + s.snapshotsFailed
  if total = 0 then 100 else s.snapshotsCommitted.toFloat / total.toFloat * 100

def counters (s : HealthStats) : List (String × Nat) :=
  [("processes_started", s.processesStarted), ("processes_exited", s.processesExited),
   ("processes_inaccessible", s.processesInaccessible), ("samples_sent", s.samplesSent),
   ("samples_dropped", s.samplesDropped), ("samples_throttled", s.samplesThrottled),
   ("stale_ticks_skipped", s.staleTicksSkipped), ("snapshots_committed", s.snapshotsCommitted),
   ("snapshots_failed", s.snapshotsFailed), ("system_snapshots", s.systemSnapshotsCommitted)]

/-- A report row: a label left-aligned in 26 characters, then centred cells of 12. -/
def row (label : String) (cells : List String) : String :=
  cells.foldl (fun acc c => acc ++ " | " ++ Text.centre 12 c) (Text.padRight 26 label)

def table (s : HealthStats) (uptime : Nat) : List String :=
  let stat (label : String) (r : RunningStat) : String :=
    row label ([r.last, r.avg, r.max, r.min].map (Text.fixed 1))
  ["MEMORY WATCHER INTERNAL STATS", "=============================", "",
   row "" ["current", "average", "max", "min"],
   stat "tracked_processes" s.trackedProcesses,
   stat "tick_duration (ms)" s.tickDurationMs,
   stat "commit_duration (ms)" s.commitDurationMs,
   "", "COUNTERS", "--------"] ++
  s.counters.map (fun (label, n) => row label [toString n]) ++
  ["", "number of ticks: " ++ toString s.totalTicks ++ " | commit success: " ++
    Text.fixed 1 s.commitSuccessRate ++ "% | uptime: " ++ toString uptime ++ "s"]

theorem record_commitCounts (s : HealthStats) (e : HealthEvent)
    (h : ∀ ms, e ≠ .snapshotCommitted ms) (h' : e ≠ .snapshotFailed) :
    (s.record e).snapshotsCommitted = s.snapshotsCommitted ∧
      (s.record e).snapshotsFailed = s.snapshotsFailed := by
  cases e <;> simp_all [record]

end HealthStats

end MemoryRecorder
