import MemoryRecorder.Proofs.Store.Tables

/-!
# What the engine is taken to do

The store runs its statements through an engine that this library does not describe: SQLite,
which the store's crate links. The theorems about the store hold of every engine that does on
the store's statements what SQLite documents, seen through an abstraction of its connections
(`Documented`): what a connection's database holds, whether it enforces foreign keys, what the
database held when the open transaction began, and which statement texts it keeps prepared.

What is taken, statement by statement:

* a new database holds no table; one opened again holds what it held, with foreign keys off;
* the schema text makes the five tables in a new database and changes nothing in a store;
* `BEGIN` opens a transaction, `ROLLBACK` puts back what the database held when it began,
  `COMMIT` keeps it or fails with the transaction still open;
* an insert does what SQL says for the store's schema, or fails when that is impossible or
  would add rows to a full database; a failed statement leaves the database as it was, or rolls
  back the whole transaction;
* a query changes nothing, and answers the rows its text selects;
* a table keeps its rows by row id, and a database holds fewer than 2^48 rows (its pages hold at
  most 2^48 bytes).
-/

namespace MemoryRecorder
namespace Store

def IsQuery (sql : String) : Prop :=
  ∃ rest, sql = "SELECT " ++ rest

def cachedSql : List String :=
  [rangeInsertSql, measurementInsertSql, dataInsertSql, rangesOfMeasurementSql]

def measurementRecord (m p : Sql.Row) : Array Value :=
  #[.int m.rowid, m.col 1, p.col 1, p.col 2, m.col 3, m.col 4, m.col 5, m.col 6, m.col 7,
    m.col 8, m.col 9, m.col 10, m.col 11, m.col 12, m.col 13, m.col 14, m.col 15]

def rangeRecord (d r : Sql.Row) : Array Value :=
  #[r.col 2, r.col 3, r.col 4, r.col 5, d.col 2, d.col 3]

namespace Tables

/-- The rows the query of a measurement by id selects: the measurement of that id joined with
every process row of its process id. -/
def measurementsById (t : Tables) (id : Int64) : List (Array Value) :=
  (t.measurement.filter (·.rowid == id)).flatMap fun m =>
    (t.process.filter fun p => (m.col 2).sameAs p.rowid).map (measurementRecord m)

/-- The rows the mapping query of a measurement selects: its data rows in row id order, each
joined with every range row of its range id. -/
def rangesOf (t : Tables) (mid : Int64) : List (Array Value) :=
  (t.data.filter fun d => (d.col 1).sameAs mid).flatMap fun d =>
    (t.range.filter fun r => (d.col 0).sameAs r.rowid).map (rangeRecord d)

end Tables

section

variable {σ : Type}

/-- A batch run from a connection that succeeds and leaves the view `v`. -/
def Runs (view : σ → View) (step : σ → σ × Except Sql.DbError Unit) (s : σ) (v : View) :
    Prop :=
  (step s).2 = .ok () ∧ view (step s).1 = v

/-- A query run from a connection that answers `rows` and leaves the view as it was. -/
def Answers (view : σ → View)
    (step : σ → σ × Except Sql.DbError (List String × List (Array Value))) (s : σ)
    (rows : List (Array Value)) : Prop :=
  (∃ names, (step s).2 = .ok (names, rows)) ∧ view (step s).1 = view s

/-- A write run from a connection on the tables `t` whose documented outcomes are the tables
`ok`: it succeeds with one of them and answers no rows, or it fails and leaves the database as
it was or its transaction rolled back. It fails only when it has no outcome, or when each
outcome adds rows to a database that may be full. -/
def Writes (view : σ → View)
    (step : σ → σ × Except Sql.DbError (List String × List (Array Value))) (s : σ)
    (t : Tables) (ok : Tables → Prop) : Prop :=
  (∃ t' names, ok t' ∧ (step s).2 = .ok (names, []) ∧
      view (step s).1 = { view s with content := .store t' }) ∨
    (∀ t', ok t' → t.size < t'.size) ∧
      ∃ e, (step s).2 = .error e ∧
        (view (step s).1 = view s ∨ view (step s).1 = (view s).undone)

end

/-- An engine that does on the store's statements what SQLite documents, seen through `view`
and `prepared`. -/
structure Documented (σ : Type) [Engine σ] where
  view : σ → View
  prepared : σ → String → Prop
  ordered : ∀ s t, (view s).content = .store t → t.Ordered
  bounded : ∀ s t, (view s).content = .store t → t.size < rowLimit
  inTransaction_eq : ∀ s, Engine.inTransaction s = (view s).began.isSome
  fresh : view Engine.fresh = { content := .blank }
  reopen : ∀ s, (view s).began = none → view (Engine.reopen s) = { content := (view s).content }
  foreign_keys_on : ∀ s, (view s).began = none →
    Runs view (Engine.runBatch "PRAGMA foreign_keys = ON;") s { view s with enforcing := true }
  schema_blank : ∀ s, (view s).content = .blank →
    Runs view (Engine.runBatch schemaSql) s { view s with content := .store {} }
  schema_store : ∀ s t, (view s).content = .store t →
    Runs view (Engine.runBatch schemaSql) s (view s)
  table_count : ∀ s t n, (view s).content = .store t → n ∈ tableNames →
    Answers view (Engine.runText tableCountSql [.text n]) s [#[.int 1]]
  begin : ∀ s, (view s).began = none →
    Runs view (Engine.runBatch "BEGIN DEFERRED") s { view s with began := some (view s).content }
  commit : ∀ s c, (view s).began = some c →
    Runs view (Engine.runBatch "COMMIT") s { view s with began := none } ∨
      ∃ e, (Engine.runBatch "COMMIT" s).2 = .error e ∧
        view (Engine.runBatch "COMMIT" s).1 = view s
  rollback : ∀ s c, (view s).began = some c →
    Runs view (Engine.runBatch "ROLLBACK") s { view s with content := c, began := none }
  prepare : ∀ s sql, view (Engine.prepareCached sql s).1 = view s
  prepare_ok : ∀ s t sql, (view s).content = .store t → sql ∈ cachedSql →
    (Engine.prepareCached sql s).2 = .ok () ∧ prepared (Engine.prepareCached sql s).1 sql
  step_prepared : ∀ s sql params, prepared s sql →
    prepared (Engine.stepCached sql params s).1 sql
  put_process : ∀ s t id pid start name, (view s).content = .store t →
    Writes view (Engine.runText processInsertSql [.int id, .int pid, .int start, .text name]) s t
      (· = t.putProcess (processRow id pid start name))
  put_range : ∀ s t id process lo hi permission name,
    prepared s rangeInsertSql → (view s).content = .store t → (view s).enforcing = true →
    Writes view (Engine.stepCached rangeInsertSql
        [.int id, .int process, .int lo, .int hi, .text permission, .text name]) s t
      (t.PutRange (rangeRow id process lo hi permission name) process)
  put_measurement : ∀ s t id process time (figures : List Int64), figures.length = 12 →
    prepared s measurementInsertSql → (view s).content = .store t → (view s).enforcing = true →
    Writes view (Engine.stepCached measurementInsertSql
        (.int id :: .int process :: .int time :: figures.map .int)) s t
      (t.PutMeasurement id process time figures)
  put_data : ∀ s t rangeId mid rss pss,
    prepared s dataInsertSql → (view s).content = .store t → (view s).enforcing = true →
    Writes view (Engine.stepCached dataInsertSql [.int rangeId, .int mid, .int rss, .int pss]) s t
      (t.PutData rangeId mid rss pss)
  put_system : ∀ s t params, (view s).content = .store t →
    Writes view (Engine.runText systemInsertSql params) s t t.PutSystem
  query_view : ∀ s sql params, IsQuery sql →
    view (Engine.runText sql params s).1 = view s ∧
      view (Engine.stepCached sql params s).1 = view s
  measurement_by_id : ∀ s t id, (view s).content = .store t →
    Answers view (Engine.runText measurementByIdSql [.int id]) s (t.measurementsById id)
  ranges_of_measurement : ∀ s t mid,
    prepared s rangesOfMeasurementSql → (view s).content = .store t →
    Answers view (Engine.stepCached rangesOfMeasurementSql [.int mid]) s (t.rangesOf mid)
  measurement_count : ∀ s t, (view s).content = .store t →
    Answers view (Engine.runText measurementCountSql []) s
      [#[.int (Int64.ofNat t.measurement.length)]]

end Store
end MemoryRecorder
