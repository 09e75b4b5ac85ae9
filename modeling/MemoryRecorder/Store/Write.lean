import MemoryRecorder.Store.Open
/-!
# Writing to the store

Dimension rows are inserted unless their key is there. A new row must find its parents: a range
its process, a measurement its process, a data row its range and its measurement. A
measurement's sequence number is one more than the greatest so far, or zero. A snapshot is
written in one transaction: its process (with an empty name), its ranges, its measurement and
its data rows; any failure, an overflow of its sums included, rolls the transaction back.

The range, measurement and data inserts are kept prepared by the handle, so a change of the
schema by another connection reaches them only when they run.
-/

namespace MemoryRecorder

namespace Store

/-- The measurement id of a process at an instant. -/
def measurementId (p : ProcessId) (t : Millis) : Int64 :=
  (ContentHash.u64 {} p.hash |>.i64 t).finish.toInt64

def processInsertSql : String :=
  "INSERT OR IGNORE INTO process (id, pid, start_time, name) VALUES (?1, ?2, ?3, ?4)"

def systemInsertSql : String :=
  "INSERT INTO system_memory (time, mem_total, mem_free, mem_available, buffers, " ++
    "cached, swap_cache, swap_total, swap_free, anon_pages, mapped, shmem, s_reclaimable) " ++
    "VALUES (?1, ?2, ?3, ?4, ?5, ?6, ?7, ?8, ?9, ?10, ?11, ?12, ?13)"

section

variable {σ : Type} [Engine σ]

def upsertProcess (p : ProcessId) (name : String) : StoreOn σ Unit :=
  execute processInsertSql [word p.hash, small p.pid, word p.startTime, .text name]

def rangeInsertSql : String :=
  "INSERT OR IGNORE INTO memory_range (id, process_id, \"from\", \"to\", permission, name) " ++
    "VALUES (?1, ?2, ?3, ?4, ?5, ?6)"

def upsertRange (k : RangeKey) : StoreOn σ Int64 := do
  executeCached rangeInsertSql
    [word k.hash, word k.process.hash, word k.lo, word k.hi, .text k.permission, .text k.name]
  return k.hash.toInt64

def measurementInsertSql : String :=
  "INSERT INTO measurement (id, seq, process_id, time, rss_sum, pss_sum, " ++
    "statm_size, statm_resident, statm_shared, statm_text, statm_lib, statm_data, statm_dt, " ++
    "oom_adj, oom_score, oom_score_adj) " ++
    "VALUES (?1, (SELECT COALESCE(MAX(seq) + 1, 0) FROM measurement), ?2, ?3, ?4, ?5, " ++
    "?6, ?7, ?8, ?9, ?10, ?11, ?12, ?13, ?14, ?15)"

def insertMeasurement (s : Snapshot) : StoreOn σ Int64 := do
  let id := measurementId s.process s.time
  let (rss, pss) ← match s.sums with
    | .ok v => pure v
    | .error site => throw (.overflow site)
  let st := s.statm
  executeCached measurementInsertSql
    [.int id, word s.process.hash, .int s.time, word rss, word pss, word st.size,
      word st.resident, word st.shared, word st.text, word st.lib, word st.data, word st.dt,
      small s.oom.adj, small s.oom.score, small s.oom.scoreAdj]
  return id

def dataInsertSql : String :=
  "INSERT INTO data (range_id, measurement_id, rss, pss) VALUES (?1, ?2, ?3, ?4)"

/-- Appends one data row per mapping, in order; rows written before a failing one stay
written. The insert is prepared even when there are no rows. -/
def insertData (mid : Int64) (ms : List Mapping) : StoreOn σ Unit := do
  onEngine (Engine.prepareCached dataInsertSql)
  for m in ms do
    let (_, rows) ← onEngine (Engine.stepCached dataInsertSql
      [word m.key.hash, .int mid, word m.rss, word m.pss])
    if !rows.isEmpty then throw (.sqlite .returnedResults)

/-- Runs work in a transaction: committed when the work succeeds, rolled back when it or the
commit fails. -/
def inTransaction {α : Type} (work : StoreOn σ α) : StoreOn σ α := do
  executeBatch "BEGIN DEFERRED"
  let rollback : StoreOn σ Unit := do
    if Engine.inTransaction (← get).conn then
      tryCatch (executeBatch "ROLLBACK") (fun _ => pure ())
  let a ← tryCatch work (fun e => do rollback; throw e)
  tryCatch (executeBatch "COMMIT") (fun e => do rollback; throw e)
  return a

/-- Writes a whole snapshot in one transaction and returns the id of its measurement. -/
def insertSnapshot (s : Snapshot) : StoreOn σ Int64 :=
  inTransaction do
    upsertProcess s.process ""
    for m in s.ranges do
      let _ ← upsertRange m.key
    let id ← insertMeasurement s
    insertData id s.ranges
    return id

def insertSystemSnapshot (s : SystemSnapshot) : StoreOn σ Int64 := do
  let m := s.memInfo
  execute systemInsertSql
    [.int s.time, word m.memTotal, word m.memFree, word m.memAvailable, word m.buffers,
      word m.cached, word m.swapCache, word m.swapTotal, word m.swapFree, word m.anonPages,
      word m.mapped, word m.shmem, word m.sReclaimable]
  lastInsertRowid

end

end Store

end MemoryRecorder
