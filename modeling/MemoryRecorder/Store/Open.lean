import MemoryRecorder.Store.Basic
/-!
# Opening a store

Opening a store switches foreign keys on, runs the schema text, which creates every missing
table and index, and then checks through the schema table that each of the five tables is a
table. A view standing where a table belongs keeps the table from being made, so it fails that
check, unless an index on it fails first. Tables made before a failure stay made.
-/

namespace MemoryRecorder

namespace Store

/-- The statements that create the store's tables and indexes when they are missing. -/
def schemaSql : String :=
  "
CREATE TABLE IF NOT EXISTS process (
    id          INTEGER PRIMARY KEY,
    pid         INTEGER NOT NULL,
    start_time  INTEGER NOT NULL,
    name        TEXT NOT NULL
);

CREATE TABLE IF NOT EXISTS memory_range (
    id          INTEGER PRIMARY KEY,
    process_id  INTEGER NOT NULL REFERENCES process(id),
    \"from\"      INTEGER NOT NULL,
    \"to\"        INTEGER NOT NULL,
    permission  TEXT NOT NULL,
    name        TEXT NOT NULL
);

CREATE TABLE IF NOT EXISTS measurement (
    id              INTEGER PRIMARY KEY,
    seq             INTEGER NOT NULL UNIQUE,
    process_id      INTEGER NOT NULL REFERENCES process(id),
    time            INTEGER NOT NULL,
    rss_sum         INTEGER NOT NULL,
    pss_sum         INTEGER NOT NULL,
    statm_size      INTEGER NOT NULL,
    statm_resident  INTEGER NOT NULL,
    statm_shared    INTEGER NOT NULL,
    statm_text      INTEGER NOT NULL,
    statm_lib       INTEGER NOT NULL,
    statm_data      INTEGER NOT NULL,
    statm_dt        INTEGER NOT NULL,
    oom_adj         INTEGER NOT NULL,
    oom_score       INTEGER NOT NULL,
    oom_score_adj   INTEGER NOT NULL
);

CREATE TABLE IF NOT EXISTS data (
    range_id        INTEGER NOT NULL REFERENCES memory_range(id),
    measurement_id  INTEGER NOT NULL REFERENCES measurement(id),
    rss             INTEGER NOT NULL,
    pss             INTEGER NOT NULL
);

CREATE TABLE IF NOT EXISTS system_memory (
    id              INTEGER PRIMARY KEY AUTOINCREMENT,
    time            INTEGER NOT NULL,
    mem_total       INTEGER NOT NULL,
    mem_free        INTEGER NOT NULL,
    mem_available   INTEGER NOT NULL,
    buffers         INTEGER NOT NULL,
    cached          INTEGER NOT NULL,
    swap_cache      INTEGER NOT NULL,
    swap_total      INTEGER NOT NULL,
    swap_free       INTEGER NOT NULL,
    anon_pages      INTEGER NOT NULL,
    mapped          INTEGER NOT NULL,
    shmem           INTEGER NOT NULL,
    s_reclaimable   INTEGER NOT NULL
);

CREATE INDEX IF NOT EXISTS idx_measurement_process_time ON measurement(process_id, time);
CREATE INDEX IF NOT EXISTS idx_measurement_time ON measurement(time);
CREATE INDEX IF NOT EXISTS idx_data_measurement ON data(measurement_id);
CREATE INDEX IF NOT EXISTS idx_system_memory_time ON system_memory(time);
"

def tableNames : List String :=
  ["process", "memory_range", "measurement", "data", "system_memory"]

def tableCountSql : String :=
  "SELECT COUNT(*) FROM sqlite_master WHERE type = 'table' AND name = ?1"

section

variable {σ : Type} [Engine σ]

/-- Sets up a handle: foreign keys on, the schema made, and every table checked. -/
def setUp : StoreOn σ Unit := do
  executeBatch "PRAGMA foreign_keys = ON;"
  executeBatch schemaSql
  for t in tableNames do
    let (names, rows) ← query tableCountSql [.text t]
    let found ← match rows with
      | row :: _ => liftRead (readInt names row 0)
      | [] => pure 0
    if found != 1 then throw (.schema ("table " ++ t ++ " is missing"))

/-- Opens a store on a connection: the connection afterwards, and the handle when the store is
sound. -/
def Handle.start (c : σ) : σ × Except StoreError (Handle σ) :=
  let (r, s) := (setUp.run).run { conn := c }
  match r with
  | .ok () => (s.conn, .ok s)
  | .error e => (s.conn, .error e)

def Handle.clearRangeCache (s : Handle σ) : Handle σ :=
  { s with cache := [] }

end

namespace Storage

def init (db : Sql.Database) : Sql.Database × Except StoreError Storage :=
  let (c, r) := Handle.start ((({} : Sql.Connection), db) : Sql.Link)
  (c.2, r)

end Storage

end Store

end MemoryRecorder
