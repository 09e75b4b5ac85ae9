import MemoryRecorder.Proofs.Store.Ordered

/-!
# Listing reads

Four reads of the store ask the engine for rows in an order (`ORDER BY`):

* the latest system sample not after an instant, the last inserted of equals
  (`ORDER BY time DESC, id DESC LIMIT 1`);
* the measurements at an instant, by sequence number (`ORDER BY m.seq`);
* the ranges of a process, by start address and then id (`ORDER BY "from", id`);
* the processes with a pid, by start time (`ORDER BY start_time`).

Of the rows that pass the filter of an ordered query without a limit, SQLite answers every one
once, and no row after one that comes after it in the query's order (`SortedBy`); rows the order
does not tell apart may come either way. Integers compare as signed 64-bit words, so a word the
store keeps under its bits compares as the signed number those bits make: an address or a start
time of `2 ^ 63` or more comes before every one under it.

The system table numbers its rows itself (`AUTOINCREMENT`), and the store deletes none, so a
sample goes in under the id after the greatest (`Tables.addSystem`).

`ListingReads` takes all of that of the engine, on tables whose columns the orders compare hold
integers, as every row the store writes does.
-/

namespace MemoryRecorder
namespace Store

/-! ## The texts -/

def systemAtSql : String :=
  systemSelect ++ " WHERE time <= ?1 ORDER BY time DESC, id DESC LIMIT 1"

def measurementsAtSql : String :=
  measurementSelect ++ " WHERE m.time = ?1 ORDER BY m.seq"

def allRangesSql : String :=
  "SELECT id, \"from\", \"to\", permission, name FROM memory_range " ++
    "WHERE process_id = ?1 ORDER BY \"from\", id"

def lookupPidSql : String :=
  "SELECT pid, start_time, name FROM process WHERE pid = ?1 ORDER BY start_time"

theorem isQuery_systemAtSql : IsQuery systemAtSql :=
  isQuery_append _ isQuery_systemSelect

theorem isQuery_measurementsAtSql : IsQuery measurementsAtSql :=
  isQuery_append _ isQuery_measurementSelect

theorem isQuery_allRangesSql : IsQuery allRangesSql :=
  isQuery_append _ ⟨"id, \"from\", \"to\", permission, name FROM memory_range ", rfl⟩

theorem isQuery_lookupPidSql : IsQuery lookupPidSql :=
  ⟨"pid, start_time, name FROM process WHERE pid = ?1 ORDER BY start_time", rfl⟩

/-! ## Rows in order -/

namespace Sql

def Row.sampleTime (r : Row) : Int64 :=
  r.intAt 1

def Row.rangeStart (r : Row) : Int64 :=
  r.intAt 2

def Row.processStart (r : Row) : Int64 :=
  r.intAt 2

end Sql

/-- What `ORDER BY` without a limit answers of rows: each of them once, and none after a row that
comes after it. -/
def SortedBy {α : Type} (before : α → α → Prop) (rows answer : List α) : Prop :=
  answer.Perm rows ∧ answer.Pairwise fun x y => ¬ before y x

/-- The order of the system-at query: a later sample comes first, then the one with the greater
id. -/
def LaterSample (x y : Sql.Row) : Prop :=
  y.sampleTime < x.sampleTime ∨ y.sampleTime = x.sampleTime ∧ y.rowid < x.rowid

def LowerSeq (x y : Sql.Row × Sql.Row) : Prop :=
  x.1.seq < y.1.seq

/-- The order of the ranges of a process: a lower start address comes first, then a smaller
id. -/
def LowerRange (x y : Sql.Row) : Prop :=
  x.rangeStart < y.rangeStart ∨ x.rangeStart = y.rangeStart ∧ x.rowid < y.rowid

def EarlierStart (x y : Sql.Row) : Prop :=
  x.processStart < y.processStart

instance : DecidableRel LaterSample := fun x y =>
  inferInstanceAs (Decidable (y.sampleTime < x.sampleTime ∨
    y.sampleTime = x.sampleTime ∧ y.rowid < x.rowid))

instance : DecidableRel LowerSeq := fun x y => inferInstanceAs (Decidable (x.1.seq < y.1.seq))

instance : DecidableRel LowerRange := fun x y =>
  inferInstanceAs (Decidable (x.rangeStart < y.rangeStart ∨
    x.rangeStart = y.rangeStart ∧ x.rowid < y.rowid))

instance : DecidableRel EarlierStart := fun x y =>
  inferInstanceAs (Decidable (x.processStart < y.processStart))

theorem StrictWeak.flip {α : Type} {before : α → α → Prop} (h : StrictWeak before) :
    StrictWeak fun x y => before y x where
  irrefl := h.irrefl
  trans a b c hab hbc := h.trans c b a hbc hab
  cotrans a b c hac := (h.cotrans c b a hac).symm

theorem strictWeak_lex {α : Type} (f g : α → Int64) :
    StrictWeak fun x y : α => f x < f y ∨ f x = f y ∧ g x < g y where
  irrefl a := by
    simp only [Int64.lt_iff_toInt_lt]
    omega
  trans a b c hab hbc := by
    simp only [Int64.lt_iff_toInt_lt, ← Int64.toInt_inj] at hab hbc ⊢
    omega
  cotrans a b c hac := by
    simp only [Int64.lt_iff_toInt_lt, ← Int64.toInt_inj] at hac ⊢
    omega

theorem strictWeak_key {α : Type} (f : α → Int64) : StrictWeak fun x y : α => f x < f y where
  irrefl _ h := Int64.lt_irrefl h
  trans _ _ _ hab hbc := Int64.lt_trans hab hbc
  cotrans a b c hac := by
    simp only [Int64.lt_iff_toInt_lt] at hac ⊢
    omega

theorem strictWeak_laterSample : StrictWeak LaterSample :=
  (strictWeak_lex Sql.Row.sampleTime Sql.Row.rowid).flip

theorem strictWeak_lowerSeq : StrictWeak LowerSeq :=
  strictWeak_key (fun x : Sql.Row × Sql.Row => x.1.seq)

theorem strictWeak_lowerRange : StrictWeak LowerRange :=
  strictWeak_lex Sql.Row.rangeStart Sql.Row.rowid

theorem strictWeak_earlierStart : StrictWeak EarlierStart :=
  strictWeak_key Sql.Row.processStart

/-! ## What the reads answer and what the insert writes -/

def systemRecord (r : Sql.Row) : Array Value :=
  #[r.col 1, r.col 2, r.col 3, r.col 4, r.col 5, r.col 6, r.col 7, r.col 8, r.col 9, r.col 10,
    r.col 11, r.col 12, r.col 13]

def rangeListing (r : Sql.Row) : Array Value :=
  #[r.col 0, r.col 2, r.col 3, r.col 4, r.col 5]

def processListing (r : Sql.Row) : Array Value :=
  #[r.col 1, r.col 2, r.col 3]

def systemRow (id : Int64) (xs : List Int64) : Sql.Row :=
  ⟨id, (Value.int id :: xs.map .int).toArray⟩

/-- The tables after the insert of a system sample of integers, as the table numbers its rows:
the row goes in under the id after the greatest, when the database has room for one more row and
the greatest id is not the largest word. Otherwise the tables stay as they were: the insert is
taken never to fail (`Documented.put_system`), so on a full database it writes nothing. -/
def Tables.addSystem (t : Tables) (xs : List Int64) : Tables :=
  match Sql.nextRowid? t.system with
  | some n =>
      if t.size + 1 < rowLimit then { t with system := Sql.insertRow (systemRow n xs) t.system }
      else t
  | none => t

/-- An engine that answers the store's listing reads, and numbers its system rows, as SQLite
documents: with the rows that pass a query's filter, in the query's order. -/
structure ListingReads (σ : Type) [Engine σ] extends Documented σ where
  add_system : ∀ s t (xs : List Int64), (view s).content = .store t →
    Writes view (Engine.runText systemInsertSql (xs.map .int)) s t (· = t.addSystem xs)
  system_at : ∀ s t time, (view s).content = .store t →
    (∀ r ∈ t.system, ∃ n, r.col 1 = .int n) →
    ∃ xs, FirstOf LaterSample (t.system.filter fun r => decide (r.sampleTime ≤ time)) xs ∧
      Answers view (Engine.runText systemAtSql [.int time]) s (xs.map systemRecord)
  measurements_at : ∀ s t time, (view s).content = .store t →
    (∀ m ∈ t.measurement, m.Integral) →
    ∃ xs, SortedBy LowerSeq (t.joined.filter fun x => x.1.time == time) xs ∧
      Answers view (Engine.runText measurementsAtSql [.int time]) s (Tables.records xs)
  prepare_all_ranges : ∀ s t, (view s).content = .store t →
    (Engine.prepareCached allRangesSql s).2 = .ok () ∧
      prepared (Engine.prepareCached allRangesSql s).1 allRangesSql
  all_ranges : ∀ s t key, prepared s allRangesSql → (view s).content = .store t →
    (∀ r ∈ t.range, ∃ n, r.col 2 = .int n) →
    ∃ xs, SortedBy LowerRange (t.range.filter fun r => (r.col 1).sameAs key) xs ∧
      Answers view (Engine.stepCached allRangesSql [.int key]) s (xs.map rangeListing)
  lookup_pid : ∀ s t pid, (view s).content = .store t →
    (∀ p ∈ t.process, ∃ n, p.col 2 = .int n) →
    ∃ xs, SortedBy EarlierStart (t.process.filter fun p => (p.col 1).sameAs pid) xs ∧
      Answers view (Engine.runText lookupPidSql [.int pid]) s (xs.map processListing)

end Store
end MemoryRecorder
