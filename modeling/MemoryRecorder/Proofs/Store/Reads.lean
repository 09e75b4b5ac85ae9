import MemoryRecorder.Proofs.Store.Statements

/-!
# Reading the store

A read of the store runs queries only: texts that begin with `SELECT`, prepared or not, each
leaving the view of the database as it was. So every read leaves the view as it found it
(`ReadOnly`), whatever it answers and whether or not it fails; reading through the range cache
changes only the handle's cache. This module proves that for every read of the store, from
closure lemmas that follow the reads' programs.

It also gives what the count of measurements answers, from the row the engine's law says the
count query selects.
-/

namespace MemoryRecorder
namespace Store

/-! ## Query texts -/

theorem isQuery_append {a : String} (b : String) (h : IsQuery a) : IsQuery (a ++ b) := by
  obtain ⟨rest, rfl⟩ := h
  exact ⟨rest ++ b, String.append_assoc⟩

theorem isQuery_measurementSelect : IsQuery measurementSelect := by
  unfold measurementSelect
  exact isQuery_append _ (isQuery_append _ (isQuery_append _
    ⟨"m.id, m.seq, p.pid, p.start_time, m.time, ", rfl⟩))

theorem isQuery_systemSelect : IsQuery systemSelect := by
  unfold systemSelect
  exact isQuery_append _ (isQuery_append _
    ⟨"time, mem_total, mem_free, mem_available, buffers, ", rfl⟩)

theorem isQuery_rangesOfMeasurementSql : IsQuery rangesOfMeasurementSql := by
  unfold rangesOfMeasurementSql
  exact isQuery_append _ (isQuery_append _
    ⟨"r.\"from\", r.\"to\", r.permission, r.name, d.rss, d.pss ", rfl⟩)

theorem isQuery_measurementByIdSql : IsQuery measurementByIdSql :=
  isQuery_append _ isQuery_measurementSelect

theorem isQuery_measurementCountSql : IsQuery measurementCountSql :=
  ⟨"COUNT(*) FROM measurement", rfl⟩

section

variable {σ α β : Type} [Engine σ] (L : Documented σ)

/-- Work that leaves the view of every handle's connection as it was. -/
def ReadOnly (m : StoreOn σ α) : Prop :=
  ∀ h : Handle σ, L.view (h.exec m).1.conn = L.view h.conn

variable {L}

/-! ## Closure -/

namespace ReadOnly

theorem pure (a : α) : ReadOnly L (pure a : StoreOn σ α) :=
  fun _ => rfl

theorem throw (e : StoreError) : ReadOnly L (throw e : StoreOn σ α) :=
  fun _ => rfl

theorem get : ReadOnly L (get : StoreOn σ (Handle σ)) :=
  fun _ => rfl

/-- A change of the handle that keeps its connection, such as one of its cache. -/
theorem modify {f : Handle σ → Handle σ} (hf : ∀ h, (f h).conn = h.conn) :
    ReadOnly L (modify f : StoreOn σ Unit) := fun h => by
  rw [Handle.exec_modify, hf]

theorem liftRead (x : Except StoreError α) : ReadOnly L (liftRead x : StoreOn σ α) := fun h => by
  rw [Handle.exec_liftRead]

theorem bind {m : StoreOn σ α} {f : α → StoreOn σ β} (hm : ReadOnly L m)
    (hf : ∀ a, ReadOnly L (f a)) : ReadOnly L (m >>= f) := fun h => by
  rw [Handle.exec_bind]
  rcases hr : h.exec m with ⟨h', _ | a⟩
  · have := hm h
    rw [hr] at this
    exact this
  · have := hm h
    rw [hr] at this
    exact (hf a h').trans this

theorem ite {c : Prop} [Decidable c] {m k : StoreOn σ α} (hm : ReadOnly L m) (hk : ReadOnly L k) :
    ReadOnly L (if c then m else k) := by
  split
  · exact hm
  · exact hk

theorem mapM {f : α → StoreOn σ β} (hf : ∀ a, ReadOnly L (f a)) :
    ∀ xs : List α, ReadOnly L (xs.mapM f)
  | [] => ReadOnly.pure _
  | x :: xs => by
      rw [List.mapM_cons]
      exact bind (hf x) fun b => bind (mapM hf xs) fun bs => ReadOnly.pure _

theorem query {sql : String} (params : List Value) (hq : IsQuery sql) :
    ReadOnly L (query sql params : StoreOn σ _) := fun h => by
  simp only [Store.query, Handle.exec_onEngine]
  exact (L.query_view h.conn sql params hq).1

theorem queryCached {sql : String} (params : List Value) (hq : IsQuery sql) :
    ReadOnly L (queryCached sql params : StoreOn σ _) := by
  refine bind (fun h => ?_) fun _ => fun h => ?_
  · simp only [Handle.exec_onEngine]
    exact L.prepare h.conn sql
  · simp only [Handle.exec_onEngine]
    exact (L.query_view h.conn sql params hq).2

end ReadOnly

/-! ## The reads of the store -/

theorem readOnly_firstRow {sql : String} (params : List Value)
    (f : List String → Array Value → Except StoreError α) (hq : IsQuery sql) :
    ReadOnly L (firstRow sql params f : StoreOn σ _) := by
  refine ReadOnly.bind (ReadOnly.query params hq) fun ⟨names, rows⟩ => ?_
  cases rows with
  | nil => exact ReadOnly.pure _
  | cons r rs => exact ReadOnly.bind (ReadOnly.liftRead _) fun _ => ReadOnly.pure _

theorem readOnly_allRows (names : List String) (rows : List (Array Value))
    (f : List String → Array Value → Except StoreError α) :
    ReadOnly L (allRows names rows f : StoreOn σ _) :=
  ReadOnly.liftRead _

theorem readOnly_countOf {sql : String} (hq : IsQuery sql) :
    ReadOnly L (countOf sql : StoreOn σ Nat) :=
  ReadOnly.bind (readOnly_firstRow _ _ hq) fun _ => ReadOnly.pure _

theorem readOnly_measurementCount : ReadOnly L (measurementCount : StoreOn σ Nat) :=
  readOnly_countOf isQuery_measurementCountSql

theorem readOnly_processCount : ReadOnly L (processCount : StoreOn σ Nat) :=
  readOnly_countOf ⟨"COUNT(*) FROM process", rfl⟩

theorem readOnly_systemSnapshotCount : ReadOnly L (systemSnapshotCount : StoreOn σ Nat) :=
  readOnly_countOf ⟨"COUNT(*) FROM system_memory", rfl⟩

theorem readOnly_loadRanges (mid : Int64) (p : ProcessId) :
    ReadOnly L (loadRanges mid p : StoreOn σ _) :=
  ReadOnly.bind (ReadOnly.queryCached _ isQuery_rangesOfMeasurementSql) fun ⟨_, _⟩ =>
    readOnly_allRows _ _ _

theorem readOnly_getAllRanges (p : ProcessId) : ReadOnly L (getAllRanges p : StoreOn σ _) :=
  ReadOnly.bind (ReadOnly.queryCached _ (isQuery_append _
    ⟨"id, \"from\", \"to\", permission, name FROM memory_range ", rfl⟩)) fun ⟨_, _⟩ =>
    readOnly_allRows _ _ _

theorem readOnly_cachedRanges (key : Int64) : ReadOnly L (cachedRanges key : StoreOn σ _) :=
  ReadOnly.bind ReadOnly.get fun _ => ReadOnly.pure _

/-- The cached range lookup changes the handle's cache only. -/
theorem readOnly_loadRangesCached (mid : Int64) (p : ProcessId) :
    ReadOnly L (loadRangesCached mid p : StoreOn σ _) := by
  refine ReadOnly.bind (ReadOnly.queryCached _
    ⟨"range_id, rss, pss FROM data WHERE measurement_id = ?1 ORDER BY rowid", rfl⟩)
    fun answer => ?_
  rcases answer with ⟨names, rows⟩
  refine ReadOnly.bind (readOnly_allRows _ _ _) fun rows => ?_
  refine ReadOnly.bind (readOnly_cachedRanges _) fun _ => ?_
  -- both branches of the refresh end in the same join point: a second cache read, then a
  -- lookup of every row that reads nothing
  dsimp only
  refine ReadOnly.ite (ReadOnly.bind (readOnly_getAllRanges p) fun _ =>
    ReadOnly.bind (ReadOnly.modify fun _ => rfl) fun _ => ?_) ?_ <;>
  exact ReadOnly.bind (readOnly_cachedRanges _) fun _ => ReadOnly.liftRead _

theorem readOnly_withRanges (useCache : Bool) (m : Measurement) :
    ReadOnly L (withRanges useCache m : StoreOn σ _) :=
  ReadOnly.ite (ReadOnly.bind (readOnly_loadRangesCached _ _) fun _ => ReadOnly.pure _)
    (ReadOnly.bind (readOnly_loadRanges _ _) fun _ => ReadOnly.pure _)

/-- A measurement found by a query, with its mappings. -/
theorem readOnly_found {o : Option Measurement} (useCache : Bool) :
    ReadOnly L (match o with
      | none => Pure.pure none
      | some m => do return some (← withRanges useCache m) : StoreOn σ (Option Measurement)) := by
  cases o with
  | none => exact ReadOnly.pure _
  | some m => exact ReadOnly.bind (readOnly_withRanges _ _) fun _ => ReadOnly.pure _

theorem readOnly_getMeasurement (id : Int64) : ReadOnly L (getMeasurement id : StoreOn σ _) :=
  ReadOnly.bind (readOnly_firstRow _ _ isQuery_measurementByIdSql) fun _ => readOnly_found false

theorem readOnly_getMeasurementAt (p : ProcessId) (t : Millis) (useCache : Bool) :
    ReadOnly L (getMeasurementAt p t useCache : StoreOn σ _) :=
  ReadOnly.bind (readOnly_firstRow _ _ (isQuery_append _ isQuery_measurementSelect)) fun _ =>
    readOnly_found useCache

theorem readOnly_getMemoryPeak (p : Option ProcessId) (t : MemoryType) (a b : Int64)
    (useCache : Bool) : ReadOnly L (getMemoryPeak p t a b useCache : StoreOn σ _) := by
  cases p with
  | some q =>
      exact ReadOnly.bind (readOnly_firstRow _ _
        (isQuery_append _ (isQuery_append _ isQuery_measurementSelect))) fun _ =>
        readOnly_found useCache
  | none =>
      exact ReadOnly.bind (readOnly_firstRow _ _
        (isQuery_append _ (isQuery_append _ isQuery_measurementSelect))) fun _ =>
        readOnly_found useCache

theorem readOnly_getSystemMemoryPeak (e : Estimator) :
    ReadOnly L (getSystemMemoryPeak e : StoreOn σ _) :=
  readOnly_firstRow _ _ (isQuery_append _ (isQuery_append _ (isQuery_append _
    isQuery_systemSelect)))

theorem readOnly_getSystemMemoryAt (t : Millis) :
    ReadOnly L (getSystemMemoryAt t : StoreOn σ _) := by
  refine ReadOnly.bind (readOnly_firstRow _ _ (isQuery_append _ isQuery_systemSelect))
    fun found => ?_
  cases found with
  | none => exact ReadOnly.pure _
  | some system =>
      refine ReadOnly.bind (ReadOnly.query _ (isQuery_append _ isQuery_measurementSelect))
        fun ⟨names, rows⟩ => ?_
      exact ReadOnly.bind (readOnly_allRows _ _ _) fun headers =>
        ReadOnly.bind (ReadOnly.mapM (readOnly_withRanges false) headers) fun _ =>
          ReadOnly.pure _

theorem readOnly_lookupPid (pid : Int32) : ReadOnly L (lookupPid pid : StoreOn σ _) :=
  ReadOnly.bind (ReadOnly.query _ ⟨"pid, start_time, name FROM process WHERE pid = ?1 " ++
    "ORDER BY start_time", rfl⟩) fun ⟨_, _⟩ => readOnly_allRows _ _ _

theorem readOnly_getMeasurementTimes (p : Option ProcessId) :
    ReadOnly L (getMeasurementTimes p : StoreOn σ _) := by
  cases p with
  | some q =>
      exact ReadOnly.bind (ReadOnly.query _ ⟨"DISTINCT time FROM measurement WHERE " ++
        "process_id = ?1 ORDER BY time", rfl⟩) fun ⟨_, _⟩ => readOnly_allRows _ _ _
  | none =>
      exact ReadOnly.bind (ReadOnly.query _ ⟨"DISTINCT time FROM measurement ORDER BY time", rfl⟩)
        fun ⟨_, _⟩ => readOnly_allRows _ _ _

theorem readOnly_clearRangeCache :
    ReadOnly L (modify Handle.clearRangeCache : StoreOn σ Unit) :=
  ReadOnly.modify fun _ => rfl

/-! ## What the count answers -/

variable {h : Handle σ} {t : Tables}

/-- The first row of a query that the engine answers with rows, read by a reader. -/
theorem exec_firstRow_cons {sql : String} {params : List Value}
    {f : List String → Array Value → Except StoreError α} {names : List String}
    {r : Array Value} {rows : List (Array Value)}
    (hr : (Engine.runText sql params h.conn).2 = .ok (names, r :: rows)) :
    (h.exec (firstRow sql params f)).2 = (f names r).map some := by
  have hrun : h.exec (query sql params) =
      ({ h with conn := (Engine.runText sql params h.conn).1 }, .ok (names, r :: rows)) :=
    Handle.exec_onEngine_ok hr
  simp only [firstRow, Handle.exec_bind_ok _ hrun]
  cases f names r <;> rfl

theorem exec_measurementCount (hc : (L.view h.conn).content = .store t) :
    (h.exec measurementCount).2 = .ok t.measurement.length := by
  obtain ⟨⟨names, hr⟩, -⟩ := L.measurement_count h.conn t hc
  -- the count is under the row limit, so it reads back as itself
  have hlt : t.measurement.length < rowLimit := by
    have := L.bounded h.conn t hc
    simp only [Tables.size] at this
    omega
  have hk : (Int64.ofNat t.measurement.length).toInt = t.measurement.length :=
    Int64.toInt_ofNat_of_lt (by unfold rowLimit at hlt; omega)
  have hfirst := exec_firstRow_cons (h := h) (f := fun names r => readInt names r 0) hr
  simp only [measurementCount, countOf]
  rw [Handle.exec_bind_of_ok _ (hfirst.trans rfl), Handle.exec_pure]
  simp [hk]

end

end Store
end MemoryRecorder
