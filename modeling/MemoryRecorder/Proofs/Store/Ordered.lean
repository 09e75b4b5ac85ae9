import MemoryRecorder.Proofs.Store.Reads

/-!
# Ordered reads

Two reads of the store ask the engine for the first row of an order: the latest measurement of
a process not after an instant (`ORDER BY m.time DESC LIMIT 1`), and the peak of a window of
sequence numbers, of one process or of all (`ORDER BY <figure> DESC, m.seq ASC LIMIT 1`). Of the
rows that pass the filter of such a query, SQLite answers one that no other row comes before in
its order, or none when no row passes (`FirstOf`); rows the order does not tell apart may come
in either order. Two integers compare as signed 64-bit words, so a word that the store keeps
under its bits compares as the signed number those bits make.

`OrderedReads` takes that of the engine, on tables whose measurement rows hold integers only, as
every measurement row the store writes does.
-/

namespace MemoryRecorder
namespace Store

/-! ## The texts -/

def measurementAtSql : String :=
  measurementSelect ++ " WHERE m.process_id = ?1 AND m.time <= ?2 ORDER BY m.time DESC LIMIT 1"

def peakOrder (ty : MemoryType) : String :=
  "ORDER BY " ++ metricColumn ty ++ " DESC, m.seq ASC LIMIT 1"

def peakSql (ty : MemoryType) : String :=
  measurementSelect ++ " WHERE m.seq >= ?1 AND m.seq < ?2 " ++ peakOrder ty

def processPeakSql (ty : MemoryType) : String :=
  measurementSelect ++ " WHERE m.seq >= ?1 AND m.seq < ?2 AND m.process_id = ?3 " ++ peakOrder ty

theorem isQuery_measurementAtSql : IsQuery measurementAtSql :=
  isQuery_append _ isQuery_measurementSelect

theorem isQuery_peakSql (ty : MemoryType) : IsQuery (peakSql ty) :=
  isQuery_append _ (isQuery_append _ isQuery_measurementSelect)

theorem isQuery_processPeakSql (ty : MemoryType) : IsQuery (processPeakSql ty) :=
  isQuery_append _ (isQuery_append _ isQuery_measurementSelect)

section

variable {σ : Type} [Engine σ]

/-- Reading the first measurement a query answers, with its mappings read without the cache. -/
def readFirst (sql : String) (params : List Value) : StoreOn σ (Option Measurement) := do
  match ← firstRow sql params toMeasurement with
  | none => return none
  | some m => return some (← withRanges false m)

theorem getMeasurement_eq (id : Int64) :
    (getMeasurement id : StoreOn σ (Option Measurement)) = readFirst measurementByIdSql [.int id] :=
  rfl

theorem getMeasurementAt_eq (p : ProcessId) (time : Millis) :
    (getMeasurementAt p time false : StoreOn σ (Option Measurement)) =
      readFirst measurementAtSql [word p.hash, .int time] :=
  rfl

theorem getMemoryPeak_none_eq (ty : MemoryType) (a b : Int64) :
    (getMemoryPeak none ty a b false : StoreOn σ (Option Measurement)) =
      readFirst (peakSql ty) [.int a, .int b] :=
  rfl

theorem getMemoryPeak_some_eq (q : ProcessId) (ty : MemoryType) (a b : Int64) :
    (getMemoryPeak (some q) ty a b false : StoreOn σ (Option Measurement)) =
      readFirst (processPeakSql ty) [.int a, .int b, word q.hash] :=
  rfl

end

/-! ## Rows in order -/

namespace Sql

def Row.Integral (r : Row) : Prop :=
  ∀ v ∈ r.vals.toList, ∃ n, v = .int n

def Row.intAt (r : Row) (i : Nat) : Int64 :=
  (r.col i).intValue

def Row.seq (m : Row) : Int64 :=
  m.intAt 1

def Row.processKey (m : Row) : Int64 :=
  m.intAt 2

def Row.time (m : Row) : Millis :=
  m.intAt 3

end Sql

def metricIndex : MemoryType → Nat
  | .rss => 4
  | .pss => 5
  | .statm => 7

def Sql.Row.figure (m : Sql.Row) (ty : MemoryType) : Int64 :=
  m.intAt (metricIndex ty)

/-- What `ORDER BY … LIMIT 1` answers of rows: none when there are none, else one of them that no
row comes before. -/
def FirstOf {α : Type} (before : α → α → Prop) (rows answer : List α) : Prop :=
  rows = [] ∧ answer = [] ∨ ∃ x ∈ rows, answer = [x] ∧ ∀ y ∈ rows, ¬ before y x

namespace Tables

/-- Each measurement row joined with every process row of its process id, as the measurement
queries join them. -/
def joined (t : Tables) : List (Sql.Row × Sql.Row) :=
  t.measurement.flatMap fun m =>
    (t.process.filter fun p => (m.col 2).sameAs p.rowid).map fun p => (m, p)

def records (xs : List (Sql.Row × Sql.Row)) : List (Array Value) :=
  xs.map fun x => measurementRecord x.1 x.2

theorem measurementsById_eq (t : Tables) (id : Int64) :
    t.measurementsById id = records (t.joined.filter fun x => x.1.rowid == id) := by
  simp only [measurementsById, joined, records]
  induction t.measurement with
  | nil => rfl
  | cons m ms ih =>
      by_cases hm : m.rowid = id <;>
        simp [hm, ih, List.filter_map, Function.comp_def]

end Tables

def Newer (x y : Sql.Row × Sql.Row) : Prop :=
  y.1.time < x.1.time

/-- The order of a peak query: a greater figure comes first, then a smaller sequence number. -/
def Higher (ty : MemoryType) (x y : Sql.Row × Sql.Row) : Prop :=
  y.1.figure ty < x.1.figure ty ∨ x.1.figure ty = y.1.figure ty ∧ x.1.seq < y.1.seq

instance : DecidableRel Newer := fun x y => inferInstanceAs (Decidable (y.1.time < x.1.time))

instance (ty : MemoryType) : DecidableRel (Higher ty) := fun x y =>
  inferInstanceAs (Decidable (y.1.figure ty < x.1.figure ty ∨
    x.1.figure ty = y.1.figure ty ∧ x.1.seq < y.1.seq))

/-- A strict weak order: nothing comes before itself, coming before is transitive, and what comes
before a row comes before any other row or after it. -/
structure StrictWeak {α : Type} (before : α → α → Prop) : Prop where
  irrefl : ∀ a, ¬ before a a
  trans : ∀ a b c, before a b → before b c → before a c
  cotrans : ∀ a b c, before a c → before a b ∨ before b c

theorem strictWeak_newer : StrictWeak Newer where
  irrefl _ h := Int64.lt_irrefl h
  trans _ _ _ hab hbc := Int64.lt_trans hbc hab
  cotrans a b c hac := by
    simp only [Newer, Int64.lt_iff_toInt_lt] at hac ⊢
    omega

theorem strictWeak_higher (ty : MemoryType) : StrictWeak (Higher ty) where
  irrefl a := by
    simp only [Higher, Int64.lt_iff_toInt_lt]
    omega
  trans a b c hab hbc := by
    simp only [Higher, Int64.lt_iff_toInt_lt, ← Int64.toInt_inj] at hab hbc ⊢
    omega
  cotrans a b c hac := by
    simp only [Higher, Int64.lt_iff_toInt_lt, ← Int64.toInt_inj] at hac ⊢
    omega

def atOrBefore (key time : Int64) (x : Sql.Row × Sql.Row) : Bool :=
  x.1.processKey == key && decide (x.1.time ≤ time)

def inWindow (a b : Int64) (x : Sql.Row × Sql.Row) : Bool :=
  decide (a ≤ x.1.seq) && decide (x.1.seq < b)

def inProcessWindow (a b key : Int64) (x : Sql.Row × Sql.Row) : Bool :=
  inWindow a b x && x.1.processKey == key

/-- An engine that answers the store's ordered reads as SQLite documents, on tables whose
measurement rows hold integers: with the joined rows that pass the query's filter, the first
in its order under `LIMIT 1`. -/
structure OrderedReads (σ : Type) [Engine σ] extends Documented σ where
  measurement_at : ∀ s t key time, (view s).content = .store t →
    (∀ m ∈ t.measurement, m.Integral) →
    ∃ xs, FirstOf Newer (t.joined.filter (atOrBefore key time)) xs ∧
      Answers view (Engine.runText measurementAtSql [.int key, .int time]) s (Tables.records xs)
  memory_peak : ∀ s t ty a b, (view s).content = .store t →
    (∀ m ∈ t.measurement, m.Integral) →
    ∃ xs, FirstOf (Higher ty) (t.joined.filter (inWindow a b)) xs ∧
      Answers view (Engine.runText (peakSql ty) [.int a, .int b]) s (Tables.records xs)
  process_memory_peak : ∀ s t ty a b key, (view s).content = .store t →
    (∀ m ∈ t.measurement, m.Integral) →
    ∃ xs, FirstOf (Higher ty) (t.joined.filter (inProcessWindow a b key)) xs ∧
      Answers view (Engine.runText (processPeakSql ty) [.int a, .int b, .int key]) s
        (Tables.records xs)

end Store
end MemoryRecorder
