import MemoryRecorder.Proofs.Store.Reads

/-!
# Looking a measurement up

A measurement is read back by two queries: its row joined with its process row, and its data
rows in row id order, each joined with its range row. The columns are read in the order they are
selected; a word comes back under the bits it was stored with, and a signed 32-bit word or a time
is checked on the way. This module says what the read of a measurement by id gives when the two
queries answer the rows that the store writes for a snapshot (`exec_getMeasurement`,
`toMeasurement_measurementRecord`, `exec_withRanges`), that on tables in row id order the first
query answers one row for a measurement joined with its process row
(`Tables.measurementsById_single`), and that grouping the mappings read back does not depend on
the process they are shown under (`group_withProcess`).
-/

namespace MemoryRecorder

def Mapping.withProcess (p : ProcessId) (m : Mapping) : Mapping :=
  { m with key := { m.key with process := p } }

/-- Grouping reads the address range, permission, name and sizes of each mapping, never its
process. -/
theorem group_withProcess (p : ProcessId) (ms : List Mapping) (statm : Statm) (ty : MemoryType)
    (g : Bool) : group (ms.map (Mapping.withProcess p)) statm ty g = group ms statm ty g := by
  unfold group
  rw [List.foldlM_map]
  rfl

namespace Store

theorem Value.sameAs_int (a b : Int64) : (Value.int a).sameAs b = (a == b) := by
  have hnum : Affinity.integer.isNumeric = true := rfl
  simp only [Value.sameAs, Value.against, Value.compareUnder, Value.forNumericCompare,
    Value.compare, SqlNum.compare, hnum, if_true]
  by_cases hab : a < b
  · have hne : a ≠ b := fun h => Int64.lt_irrefl (h ▸ hab)
    simp [hab, hne]
  · by_cases hba : b < a
    · have hne : a ≠ b := fun h => Int64.lt_irrefl (h ▸ hba)
      simp [hab, hba, hne]
    · -- neither is below the other, so they are equal
      have heq : a = b := by
        rw [Int64.lt_iff_toInt_lt] at hab hba
        exact Int64.toInt_inj.1 (by omega)
      subst heq
      simp

/-- The measurement query of an id of tables in row id order answers the measurement of that
id joined with the process row it names. -/
theorem Tables.measurementsById_single {t : Tables} (hord : t.Ordered) {m p : Sql.Row}
    (hm : m ∈ t.measurement) (hp : p ∈ t.process) (hkey : m.col 2 = .int p.rowid) :
    t.measurementsById m.rowid = [measurementRecord m p] := by
  have hms := hord.2.2.1.filter_rowid hm (p := (·.rowid == m.rowid)) fun _ _ => rfl
  have hps := hord.1.filter_rowid hp (p := fun q => (m.col 2).sameAs q.rowid) fun q _ => by
    rw [hkey, Value.sameAs_int, Bool.beq_comm]
  rw [Tables.measurementsById, hms, List.flatMap_cons, List.flatMap_nil, List.append_nil, hps]
  rfl

/-! ## Columns -/

section

variable {n : List String} {r : Array Value} {i : Nat}

theorem readInt_of_int {v : Int64} (h : r[i]? = some (.int v)) : readInt n r i = .ok v := by
  simp only [readInt, h, Option.getD_some]

theorem readWord_of_int {w : UInt64} (h : r[i]? = some (.int w.toInt64)) :
    readWord n r i = .ok w := by
  rw [readWord, readInt_of_int h]
  rfl

theorem readI32_of_int {x : Int32} (h : r[i]? = some (.int x.toInt64)) :
    readI32 n r i = .ok x := by
  have hlo := Int32.le_toInt x
  have hhi := Int32.toInt_lt x
  simp only [readI32, readInt_of_int h]
  show (if _ then Except.ok _ else _) = _
  rw [if_pos ⟨by simp; omega, by simp; omega⟩]
  simp

theorem readTime_of_int {x : Millis} (h : r[i]? = some (.int x)) (hx : Millis.inRange x = true) :
    readTime n r i = .ok x := by
  simp only [readTime, readInt_of_int h]
  show (if Millis.inRange x = true then Except.ok x else _) = _
  rw [if_pos hx]

theorem readText_of_text {s : String} (h : r[i]? = some (.text s)) : readText n r i = .ok s := by
  simp only [readText, h, Option.getD_some]

end

/-! ## Records -/

def mappingRecord (m : Mapping) : Array Value :=
  #[word m.key.lo, word m.key.hi, .text m.key.permission, .text m.key.name, word m.rss, word m.pss]

/-- The row the measurement query gives for the measurement row of a snapshot and its process
row is read back as the snapshot's measurement, whatever the column names. -/
theorem toMeasurement_measurementRecord {n : List String} {id seq : Int64} {s : Snapshot}
    {rss pss : UInt64} {name : String} (htime : Millis.inRange s.time = true) :
    toMeasurement n (measurementRecord
        (measurementRow id (.int seq) s.process.hash.toInt64 s.time (s.figures rss pss))
        (s.process.row name)) =
      .ok { id := id, seq := seq, process := s.process, time := s.time,
            rssSum := rss, pssSum := pss, statm := s.statm, oom := s.oom } := by
  -- the signed words and the time are checked on reading; the other columns are read as stored
  have hread : ∀ r, r = measurementRecord
      (measurementRow id (.int seq) s.process.hash.toInt64 s.time (s.figures rss pss))
      (s.process.row name) → toMeasurement n r =
        .ok { id := id, seq := seq, process := s.process, time := s.time,
              rssSum := rss, pssSum := pss, statm := s.statm, oom := s.oom } := by
    intro r hr
    have h2 : readI32 n r 2 = .ok s.process.pid := readI32_of_int (by rw [hr]; rfl)
    have h4 : readTime n r 4 = .ok s.time := readTime_of_int (by rw [hr]; rfl) htime
    have h14 : readI32 n r 14 = .ok s.oom.adj := readI32_of_int (by rw [hr]; rfl)
    have h15 : readI32 n r 15 = .ok s.oom.score := readI32_of_int (by rw [hr]; rfl)
    have h16 : readI32 n r 16 = .ok s.oom.scoreAdj := readI32_of_int (by rw [hr]; rfl)
    simp only [toMeasurement, h2, h4, h14, h15, h16]
    rw [hr]
    rfl
  exact hread _ rfl

/-! ## Reads -/

section

variable {σ : Type} [Engine σ] {L : Documented σ} {h : Handle σ} {t : Tables}

/-- The mappings of a measurement whose data rows and ranges the mapping query answers as the
store writes them: each read back in order, shown under the process asked for. -/
theorem exec_loadRanges {mid : Int64} {ms : List Mapping} (hc : (L.view h.conn).content = .store t)
    (hr : t.rangesOf mid = ms.map mappingRecord) (p : ProcessId) :
    (h.exec (loadRanges mid p)).2 = .ok (ms.map (Mapping.withProcess p)) := by
  obtain ⟨hok, hprep⟩ := L.prepare_ok h.conn t rangesOfMeasurementSql hc (by simp [cachedSql])
  have hview : L.view (Engine.prepareCached rangesOfMeasurementSql h.conn).1 = L.view h.conn :=
    L.prepare h.conn rangesOfMeasurementSql
  obtain ⟨⟨names, hans⟩, -⟩ := L.ranges_of_measurement _ t mid hprep (by rw [hview]; exact hc)
  have hquery : (h.exec (queryCached rangesOfMeasurementSql [.int mid])).2 =
      .ok (names, t.rangesOf mid) := by
    unfold queryCached
    rw [Handle.exec_bind_ok _ (Handle.exec_onEngine_ok hok), Handle.exec_onEngine_ok hans]
  unfold loadRanges
  rw [Handle.exec_bind_of_ok _ hquery]
  simp only [allRows, Handle.exec_liftRead, hr, List.mapM_map]
  exact List.mapM_pure

theorem exec_withRanges {m : Measurement} {ms : List Mapping}
    (hc : (L.view h.conn).content = .store t) (hr : t.rangesOf m.id = ms.map mappingRecord) :
    (h.exec (withRanges false m)).2 =
      .ok { m with ranges := ms.map (Mapping.withProcess m.process) } := by
  unfold withRanges
  simp only [Bool.false_eq_true, if_false]
  rw [Handle.exec_bind_of_ok _ (exec_loadRanges hc hr m.process)]
  rfl

/-- The measurement of an id whose row the measurement query answers first, read back as `m`,
and whose mappings the mapping query answers as the store writes them: found, with those
mappings in order, shown under its process. -/
theorem exec_getMeasurement {id : Int64} {r : Array Value} {rows : List (Array Value)}
    {m : Measurement} {ms : List Mapping} (hc : (L.view h.conn).content = .store t)
    (hm : t.measurementsById id = r :: rows) (hread : ∀ n, toMeasurement n r = .ok m)
    (hr : t.rangesOf m.id = ms.map mappingRecord) :
    (h.exec (getMeasurement id)).2 =
      .ok (some { m with ranges := ms.map (Mapping.withProcess m.process) }) := by
  obtain ⟨⟨names, hans⟩, -⟩ := L.measurement_by_id h.conn t id hc
  rw [hm] at hans
  have hfirst : (h.exec (firstRow measurementByIdSql [.int id] toMeasurement)).2 =
      .ok (some m) := by
    rw [exec_firstRow_cons hans, hread]
    rfl
  -- the query leaves the view, so the mapping query finds the same tables
  have hc1 : (L.view (h.exec (firstRow measurementByIdSql [.int id] toMeasurement)).1.conn).content
      = .store t := by
    rw [readOnly_firstRow _ _ isQuery_measurementByIdSql h, hc]
  unfold getMeasurement
  rw [Handle.exec_bind_of_ok _ hfirst]
  dsimp only
  rw [Handle.exec_bind_of_ok _ (exec_withRanges hc1 hr)]
  rfl

end

end Store
end MemoryRecorder
