import MemoryRecorder.Store.Open
import MemoryRecorder.Store.Value
import MemoryRecorder.Process.Groups
/-!
# Reading the store

Reads are queries run through the handle's connection. They join each measurement with its
process, so a measurement whose process row is gone is not found. Values come back under the
bits they were stored with. A read takes its columns in the order it selects them, and the first
that is not of the kind it expects fails the read: an integer column must hold an integer, a
name a text; a pid or OOM value must also fit a signed 32-bit word, and a time must be an
instant of the calendar. A measurement's mappings are its data rows by row id, each joined with
its range and shown under the measurement's process.

Orders:
* the measurement of a process at an instant is the one with the latest time not after it;
* a peak is the measurement with the greatest figure in a window of sequence numbers, the
  earliest of equals;
* the system peak is the sample with the least available memory, the earliest of equals;
* the system sample at an instant is the latest not after it, the last inserted of equals.

The cached range lookup reads a measurement's data rows alone and finds their ranges among the
ranges of the measurement's process, loaded once and again whenever one is missing; a data row
whose range belongs to another process is then not found.
-/

namespace MemoryRecorder

structure Measurement where
  id : Int64
  seq : Int64
  process : ProcessId
  time : Millis
  rssSum : UInt64
  pssSum : UInt64
  statm : Statm
  oom : OomScore
  ranges : List Mapping := []
  deriving Repr

namespace Measurement

def value (m : Measurement) : MemoryType → UInt64
  | .rss => m.rssSum
  | .pss => m.pssSum
  | .statm => m.statm.resident

def groups (m : Measurement) (t : MemoryType) (groupSockets : Bool) : Except Overflow Groups :=
  group m.ranges m.statm t groupSockets

end Measurement

structure StoredRange where
  id : Int64
  key : RangeKey
  deriving Repr

structure ProcessInfo where
  process : ProcessId
  name : String
  deriving Repr

structure SystemMemoryAt where
  system : SystemSnapshot
  measurements : List Measurement

namespace Store

def measurementSelect : String :=
  "SELECT m.id, m.seq, p.pid, p.start_time, m.time, " ++
    "m.rss_sum, m.pss_sum, m.statm_size, m.statm_resident, m.statm_shared, m.statm_text, " ++
    "m.statm_lib, m.statm_data, m.statm_dt, m.oom_adj, m.oom_score, m.oom_score_adj " ++
    "FROM measurement m JOIN process p ON p.id = m.process_id"

def systemSelect : String :=
  "SELECT time, mem_total, mem_free, mem_available, buffers, " ++
    "cached, swap_cache, swap_total, swap_free, anon_pages, mapped, shmem, s_reclaimable " ++
    "FROM system_memory"

/-- A row of a measurement read as a measurement without its mappings, column by column in the
order they are selected. -/
def toMeasurement (n : List String) (r : Array Value) : Except StoreError Measurement := do
  let id ← readInt n r 0
  let seq ← readInt n r 1
  let pid ← readI32 n r 2
  let start ← readWord n r 3
  let time ← readTime n r 4
  let rss ← readWord n r 5
  let pss ← readWord n r 6
  let size ← readWord n r 7
  let resident ← readWord n r 8
  let shared ← readWord n r 9
  let text ← readWord n r 10
  let lib ← readWord n r 11
  let data ← readWord n r 12
  let dt ← readWord n r 13
  let adj ← readI32 n r 14
  let score ← readI32 n r 15
  let scoreAdj ← readI32 n r 16
  return { id := id, seq := seq, process := ⟨pid, start⟩, time := time,
           rssSum := rss, pssSum := pss,
           statm := ⟨size, resident, shared, text, lib, data, dt⟩,
           oom := ⟨adj, score, scoreAdj⟩ }

def toSystem (n : List String) (r : Array Value) : Except StoreError SystemSnapshot := do
  let time ← readTime n r 0
  let total ← readWord n r 1
  let free ← readWord n r 2
  let available ← readWord n r 3
  let buffers ← readWord n r 4
  let cached ← readWord n r 5
  let swapCache ← readWord n r 6
  let swapTotal ← readWord n r 7
  let swapFree ← readWord n r 8
  let anon ← readWord n r 9
  let mapped ← readWord n r 10
  let shmem ← readWord n r 11
  let reclaimable ← readWord n r 12
  return ⟨time, ⟨total, free, available, buffers, cached, swapCache, swapTotal, swapFree, anon,
    mapped, shmem, reclaimable⟩⟩

def measurementByIdSql : String :=
  measurementSelect ++ " WHERE m.id = ?1"

def rangesOfMeasurementSql : String :=
  "SELECT r.\"from\", r.\"to\", r.permission, r.name, d.rss, d.pss " ++
    "FROM data d JOIN memory_range r ON r.id = d.range_id " ++
    "WHERE d.measurement_id = ?1 ORDER BY d.rowid"

def measurementCountSql : String :=
  "SELECT COUNT(*) FROM measurement"

section

variable {σ : Type} [Engine σ]

/-- The first row of a query read by a reader, or none when the query gives no rows. -/
def firstRow {α : Type} (sql : String) (params : List Value)
    (f : List String → Array Value → Except StoreError α) : StoreOn σ (Option α) := do
  let (names, rows) ← query sql params
  match rows with
  | [] => return none
  | r :: _ => return some (← liftRead (f names r))

/-- Every row of a query read by a reader, failing at the first row that cannot be read. -/
def allRows {α : Type} (names : List String) (rows : List (Array Value))
    (f : List String → Array Value → Except StoreError α) : StoreOn σ (List α) :=
  liftRead (rows.mapM (f names))

def countOf (sql : String) : StoreOn σ Nat := do
  let n ← firstRow sql [] fun names r => readInt names r 0
  return (n.getD 0).toInt.toNat

def measurementCount : StoreOn σ Nat :=
  countOf measurementCountSql

def processCount : StoreOn σ Nat :=
  countOf "SELECT COUNT(*) FROM process"

def systemSnapshotCount : StoreOn σ Nat :=
  countOf "SELECT COUNT(*) FROM system_memory"

/-- The mappings of a measurement: its data rows by row id, joined with their ranges. -/
def loadRanges (mid : Int64) (p : ProcessId) : StoreOn σ (List Mapping) := do
  let (names, rows) ← queryCached rangesOfMeasurementSql [.int mid]
  allRows names rows fun n r => do
    let lo ← readWord n r 0
    let hi ← readWord n r 1
    let permission ← readText n r 2
    let name ← readText n r 3
    let rss ← readWord n r 4
    let pss ← readWord n r 5
    return ⟨⟨p, lo, hi, permission, name⟩, rss, pss⟩

/-- Every range stored for a process, by start address and then id, as signed words. -/
def getAllRanges (p : ProcessId) : StoreOn σ (List StoredRange) := do
  let (names, rows) ← queryCached
    ("SELECT id, \"from\", \"to\", permission, name FROM memory_range " ++
      "WHERE process_id = ?1 ORDER BY \"from\", id") [word p.hash]
  allRows names rows fun n r => do
    let id ← readInt n r 0
    let lo ← readWord n r 1
    let hi ← readWord n r 2
    let permission ← readText n r 3
    let name ← readText n r 4
    return ⟨id, ⟨p, lo, hi, permission, name⟩⟩

def cachedRanges (key : Int64) : StoreOn σ (Option (List (Int64 × RangeKey))) := do
  return ((← get).cache.find? (·.process == key)).map (·.ranges)

/-- The mappings of a measurement through the cache: the ranges of the process are loaded
again when the cache lacks one of the measurement's range ids. -/
def loadRangesCached (mid : Int64) (p : ProcessId) : StoreOn σ (List Mapping) := do
  let (names, rows) ← queryCached
    "SELECT range_id, rss, pss FROM data WHERE measurement_id = ?1 ORDER BY rowid" [.int mid]
  let rows ← allRows names rows fun n r => do
    let rid ← readInt n r 0
    let rss ← readWord n r 1
    let pss ← readWord n r 2
    return (rid, rss, pss)
  let key := p.hash.toInt64
  let stale := match ← cachedRanges key with
    | some rs => rows.any fun (rid, _, _) => !(rs.any (·.1 == rid))
    | none => true
  if stale then
    let all ← getAllRanges p
    modify fun s => { s with cache := (s.cache.filter (·.process != key)) ++
      [⟨key, all.map fun r => (r.id, r.key)⟩] }
  let rs := (← cachedRanges key).getD []
  liftRead (rows.mapM fun (rid, rss, pss) =>
    match rs.find? (·.1 == rid) with
    | some (_, k) => .ok (⟨k, rss, pss⟩ : Mapping)
    | none => .error (StoreError.notFound ("range " ++ toString rid.toInt)))

def withRanges (useCache : Bool) (m : Measurement) : StoreOn σ Measurement := do
  let ms ← if useCache then loadRangesCached m.id m.process else loadRanges m.id m.process
  return { m with ranges := ms }

def getMeasurement (id : Int64) : StoreOn σ (Option Measurement) := do
  match ← firstRow measurementByIdSql [.int id] toMeasurement with
  | none => return none
  | some m => return some (← withRanges false m)

/-- The latest measurement of a process not after an instant. -/
def getMeasurementAt (p : ProcessId) (t : Millis) (useCache : Bool) :
    StoreOn σ (Option Measurement) := do
  let sql := measurementSelect ++
    " WHERE m.process_id = ?1 AND m.time <= ?2 ORDER BY m.time DESC LIMIT 1"
  match ← firstRow sql [word p.hash, .int t] toMeasurement with
  | none => return none
  | some m => return some (← withRanges useCache m)

def metricColumn : MemoryType → String
  | .rss => "m.rss_sum"
  | .pss => "m.pss_sum"
  | .statm => "m.statm_resident"

/-- The peak measurement of a window of sequence numbers, of one process or of all: the greatest
figure, the earliest of equals. -/
def getMemoryPeak (p : Option ProcessId) (t : MemoryType) (a b : Int64) (useCache : Bool) :
    StoreOn σ (Option Measurement) := do
  let order := "ORDER BY " ++ metricColumn t ++ " DESC, m.seq ASC LIMIT 1"
  let found ← match p with
    | some q =>
        firstRow (measurementSelect ++ " WHERE m.seq >= ?1 AND m.seq < ?2 AND m.process_id = ?3 " ++
          order) [.int a, .int b, word q.hash] toMeasurement
    | none =>
        firstRow (measurementSelect ++ " WHERE m.seq >= ?1 AND m.seq < ?2 " ++ order)
          [.int a, .int b] toMeasurement
  match found with
  | none => return none
  | some m => return some (← withRanges useCache m)

def availableExpr : Estimator → String
  | .kernel => "mem_available"
  | .computed => "(mem_free + buffers + cached - shmem + swap_cache + s_reclaimable)"

/-- The system sample with the least available memory, the earliest of equals. -/
def getSystemMemoryPeak (e : Estimator) : StoreOn σ (Option SystemSnapshot) :=
  firstRow (systemSelect ++ " ORDER BY " ++ availableExpr e ++ " ASC, id ASC LIMIT 1") [] toSystem

/-- The latest system sample not after an instant, with the measurements of its instant. -/
def getSystemMemoryAt (t : Millis) : StoreOn σ (Option SystemMemoryAt) := do
  let sql := systemSelect ++ " WHERE time <= ?1 ORDER BY time DESC, id DESC LIMIT 1"
  match ← firstRow sql [.int t] toSystem with
  | none => return none
  | some system =>
      let (names, rows) ← query (measurementSelect ++ " WHERE m.time = ?1 ORDER BY m.seq")
        [.int system.time]
      let headers ← allRows names rows toMeasurement
      let ms ← headers.mapM (withRanges false)
      return some ⟨system, ms⟩

def lookupPid (pid : Int32) : StoreOn σ (List ProcessInfo) := do
  let (names, rows) ← query
    "SELECT pid, start_time, name FROM process WHERE pid = ?1 ORDER BY start_time" [small pid]
  allRows names rows fun n r => do
    let pid ← readI32 n r 0
    let start ← readWord n r 1
    let name ← readText n r 2
    return ⟨⟨pid, start⟩, name⟩

/-- The distinct measurement times, ascending, of one process or of all. -/
def getMeasurementTimes (p : Option ProcessId) : StoreOn σ (List Millis) := do
  let (names, rows) ← match p with
    | some q =>
        query "SELECT DISTINCT time FROM measurement WHERE process_id = ?1 ORDER BY time"
          [word q.hash]
    | none => query "SELECT DISTINCT time FROM measurement ORDER BY time" []
  allRows names rows fun n r => readTime n r 0

end

end Store

end MemoryRecorder
