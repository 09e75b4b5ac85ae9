import MemoryRecorder.Proofs.Store.Snapshot

/-!
# Sound tables

What the store's tables hold is said against what a program wrote to them successfully: the
processes and ranges it upserted and the measurements it inserted, in order (`Past`). Tables are
`Sound` for such a past when

* the measurements are exactly those inserted, the `i`-th inserted numbered `i`;
* the row of each process id and of each range id is the row of the first upsert under it;
* every range and measurement row names a process row, and every data row a range row and a
  measurement row;
* the data rows are numbered compactly, so the next one goes after all of them.

The lemmas of this module say that each documented outcome of the store's writes keeps the
tables sound, for the past that records what the write did.
-/

namespace MemoryRecorder
namespace Store

/-- What a program has written to a store successfully, in order: each process upserted with its
name, each range upserted, and the id of each measurement inserted. -/
structure Past where
  processes : List (ProcessId × String) := []
  ranges : List RangeKey := []
  measurements : List Int64 := []

namespace Past

variable (past : Past)

def afterProcess (p : ProcessId) (name : String) : Past :=
  { past with processes := past.processes ++ [(p, name)] }

def afterRange (k : RangeKey) : Past :=
  { past with ranges := past.ranges ++ [k] }

def afterRanges (ms : List Mapping) : Past :=
  { past with ranges := past.ranges ++ ms.map (·.key) }

def afterMeasurement (id : Int64) : Past :=
  { past with measurements := past.measurements ++ [id] }

/-- The past after a snapshot was written, its measurement under an id: its process under an
empty name, its ranges, and its measurement. -/
def afterSnapshot (s : Snapshot) (id : Int64) : Past :=
  ((past.afterProcess s.process "").afterRanges s.ranges).afterMeasurement id

/-- The first process upserted under an id, with its name. -/
def firstProcess (id : Int64) : Option (ProcessId × String) :=
  past.processes.find? (·.1.hash.toInt64 == id)

def firstRange (id : Int64) : Option RangeKey :=
  past.ranges.find? (·.hash.toInt64 == id)

/-- Each measurement inserted with the sequence number of its place in the order. -/
def sequence : List (Int64 × Value) :=
  past.measurements.zipIdx.map fun (id, i) => (id, .int (Int64.ofNat i))

theorem firstProcess_afterProcess (p : ProcessId) (name : String) (id : Int64) :
    (past.afterProcess p name).firstProcess id =
      (past.firstProcess id).or (if p.hash.toInt64 = id then some (p, name) else none) := by
  simp [firstProcess, afterProcess, List.find?_append]

theorem afterRanges_cons (m : Mapping) (ms : List Mapping) :
    past.afterRanges (m :: ms) = (past.afterRange m.key).afterRanges ms := by
  simp [afterRanges, afterRange]

theorem firstRange_afterRange (k : RangeKey) (id : Int64) :
    (past.afterRange k).firstRange id =
      (past.firstRange id).or (if k.hash.toInt64 = id then some k else none) := by
  simp [firstRange, afterRange, List.find?_append]

theorem sequence_afterMeasurement (id : Int64) :
    (past.afterMeasurement id).sequence =
      past.sequence ++ [(id, .int (Int64.ofNat past.measurements.length))] := by
  simp [sequence, afterMeasurement, List.zipIdx_append]

theorem map_snd_sequence :
    past.sequence.map Prod.snd =
      (List.range past.measurements.length).map fun i => .int (Int64.ofNat i) := by
  have h := List.zipIdx_map_snd 0 past.measurements
  simp only [sequence, List.map_map]
  rw [List.range_eq_range', ← h, List.map_map]
  rfl

end Past

/-- Tables that hold what a program wrote successfully, as the store's schema keeps it. -/
structure Sound (t : Tables) (past : Past) : Prop where
  sequence : (t.measurement.map fun m => (m.rowid, m.col 1)).Perm past.sequence
  processes : ∀ id, Sql.lookup t.process id = (past.firstProcess id).map fun pn => pn.1.row pn.2
  ranges : ∀ id, Sql.lookup t.range id = (past.firstRange id).map RangeKey.row
  range_process : ∀ r ∈ t.range, ∃ p ∈ t.process, r.col 1 = .int p.rowid
  measurement_process : ∀ m ∈ t.measurement, ∃ p ∈ t.process, m.col 2 = .int p.rowid
  data_range : ∀ d ∈ t.data, ∃ r ∈ t.range, d.col 0 = .int r.rowid
  data_measurement : ∀ d ∈ t.data, ∃ m ∈ t.measurement, d.col 1 = .int m.rowid
  compact : Sql.Compact t.data

namespace Sound

variable {t t' : Tables} {past : Past}

theorem empty : Sound {} {} where
  sequence := by simp [Past.sequence]
  processes := by simp [Sql.lookup, Past.firstProcess]
  ranges := by simp [Sql.lookup, Past.firstRange]
  range_process := by simp
  measurement_process := by simp
  data_range := by simp
  data_measurement := by simp
  compact := by simp [Sql.Compact]

theorem length_measurement (hs : Sound t past) :
    t.measurement.length = past.measurements.length := by
  simpa [Past.sequence] using hs.sequence.length_eq

theorem seqs_perm (hs : Sound t past) :
    (t.measurement.map (·.col 1)).Perm
      ((List.range t.measurement.length).map fun i => .int (Int64.ofNat i)) := by
  have h := hs.sequence.map Prod.snd
  rw [List.map_map, past.map_snd_sequence, ← hs.length_measurement] at h
  exact h

theorem mem_seqs (hs : Sound t past) (v : Value) :
    v ∈ t.measurement.map (·.col 1) ↔ ∃ i < t.measurement.length, v = .int (Int64.ofNat i) := by
  rw [hs.seqs_perm.mem_iff]
  simp only [List.mem_map, List.mem_range]
  constructor
  · rintro ⟨i, hi, rfl⟩
    exact ⟨i, hi, rfl⟩
  · rintro ⟨i, hi, rfl⟩
    exact ⟨i, hi, rfl⟩

/-- A new measurement of sound tables under the row limit is numbered with their count. -/
theorem nextSeq_eq (hs : Sound t past) (hb : t.measurement.length < rowLimit) :
    nextSeq t.measurement = .int (Int64.ofNat t.measurement.length) :=
  Store.nextSeq_eq hb hs.mem_seqs

theorem putProcess (hs : Sound t past) (p : ProcessId) (name : String) :
    Sound (t.putProcess (p.row name)) (past.afterProcess p name) where
  sequence := hs.sequence
  processes id := by
    rw [Tables.putProcess, Sql.lookup_keepRow, hs.processes, past.firstProcess_afterProcess,
      Option.map_or]
    by_cases hid : p.hash.toInt64 = id <;> simp [hid, ProcessId.row, processRow]
  ranges := hs.ranges
  range_process r hr := by
    obtain ⟨q, hq, hrq⟩ := hs.range_process r hr
    exact ⟨q, Sql.mem_keepRow_of_mem hq, hrq⟩
  measurement_process m hm := by
    obtain ⟨q, hq, hmq⟩ := hs.measurement_process m hm
    exact ⟨q, Sql.mem_keepRow_of_mem hq, hmq⟩
  data_range := hs.data_range
  data_measurement := hs.data_measurement
  compact := hs.compact

theorem putRange (hs : Sound t past) {k : RangeKey}
    (hput : t.PutRange k.row k.process.hash.toInt64 t') :
    Sound t' (past.afterRange k) := by
  obtain ⟨hnew, rfl⟩ := hput
  refine ⟨hs.sequence, hs.processes, fun id => ?_, fun r hr => ?_, hs.measurement_process,
    fun d hd => ?_, hs.data_measurement, hs.compact⟩
  · rw [Sql.lookup_keepRow, hs.ranges, past.firstRange_afterRange, Option.map_or]
    by_cases hid : k.hash.toInt64 = id <;> simp [hid, RangeKey.row, rangeRow]
  · rcases Sql.mem_keepRow.1 hr with hr | ⟨hfresh, rfl⟩
    · exact hs.range_process r hr
    · -- a new range row: its process is there, since its own id was not
      have hp : Sql.hasRowid t.process k.process.hash.toInt64 = true := by
        rcases hnew with h | h
        · simp [hfresh] at h
        · exact h
      obtain ⟨q, hq, hqid⟩ := Sql.hasRowid_iff.1 hp
      exact ⟨q, hq, by simp [hqid, RangeKey.row, rangeRow, Sql.Row.col]⟩
  · obtain ⟨r, hr, hdr⟩ := hs.data_range d hd
    exact ⟨r, Sql.mem_keepRow_of_mem hr, hdr⟩

theorem putRanges (hs : Sound t past) {ms : List Mapping} (hput : t.PutRanges ms t') :
    Sound t' (past.afterRanges ms) := by
  induction ms generalizing t past with
  | nil =>
      cases hput
      simpa [Past.afterRanges] using hs
  | cons m ms ih =>
      obtain ⟨t1, hput1, hrest⟩ := hput
      rw [past.afterRanges_cons]
      exact ih (hs.putRange hput1) hrest

theorem putMeasurement (hs : Sound t past) (hb : t.measurement.length < rowLimit) {id process time : Int64}
    {figures : List Int64} (hput : t.PutMeasurement id process time figures t') :
    Sound t' (past.afterMeasurement id) := by
  obtain ⟨-, -, hp, rfl⟩ := hput
  have hseq := hs.nextSeq_eq hb
  refine ⟨?_, hs.processes, hs.ranges, hs.range_process, fun m hm => ?_, hs.data_range,
    fun d hd => ?_, hs.compact⟩
  · -- the new row takes the next number, which is the count so far
    rw [past.sequence_afterMeasurement, ← hs.length_measurement]
    have hrow : ((measurementRow id (nextSeq t.measurement) process time figures).rowid,
        (measurementRow id (nextSeq t.measurement) process time figures).col 1) =
          (id, .int (Int64.ofNat t.measurement.length)) := by
      simp [measurementRow, Sql.Row.col, hseq]
    refine ((Sql.insertRow_perm _ _).map _).trans ?_
    rw [List.map_cons, hrow]
    exact (hs.sequence.cons _).trans (List.perm_append_singleton _ _).symm
  · rcases Sql.mem_insertRow.1 hm with rfl | hm
    · obtain ⟨q, hq, hqid⟩ := Sql.hasRowid_iff.1 hp
      exact ⟨q, hq, by simp [hqid, measurementRow, Sql.Row.col]⟩
    · exact hs.measurement_process m hm
  · obtain ⟨m, hm, hdm⟩ := hs.data_measurement d hd
    exact ⟨m, Sql.mem_insertRow.2 (.inr hm), hdm⟩

theorem addsData (hs : Sound t past) {mid : Int64} {ms : List Mapping}
    (hadds : t.AddsData mid ms t') : Sound t' past := by
  obtain ⟨⟨rows, hdata, hvals⟩, hothers, hranges, hmeasurement, hcompact⟩ := hadds
  rw [hothers]
  refine ⟨hs.sequence, hs.processes, hs.ranges, hs.range_process, hs.measurement_process,
    fun d hd => ?_, fun d hd => ?_, hcompact⟩
  all_goals
    rw [hdata] at hd
    rcases List.mem_append.1 hd with hd | hd
  · exact hs.data_range d hd
  · -- a new data row names the range of its mapping
    obtain ⟨m, hm, hdm⟩ : ∃ m ∈ ms, d.vals = dataValues mid m := by
      have : d.vals ∈ ms.map (dataValues mid) := hvals ▸ List.mem_map_of_mem hd
      simpa [eq_comm] using this
    obtain ⟨r, hr, hrid⟩ := Sql.hasRowid_iff.1 (hranges m hm)
    exact ⟨r, hr, by simp [Sql.Row.col, hdm, dataValues, hrid]⟩
  · exact hs.data_measurement d hd
  · obtain ⟨m, hm, hdm⟩ : ∃ m ∈ ms, d.vals = dataValues mid m := by
      have : d.vals ∈ ms.map (dataValues mid) := hvals ▸ List.mem_map_of_mem hd
      simpa [eq_comm] using this
    obtain ⟨r, hr, hrid⟩ := Sql.hasRowid_iff.1 (hmeasurement (List.ne_nil_of_mem hm))
    exact ⟨r, hr, by simp [Sql.Row.col, hdm, dataValues, hrid]⟩

/-- Writing a snapshot keeps tables sound, when the tables it leaves are under the row limit. -/
theorem putSnapshot (hs : Sound t past) {s : Snapshot} {id : Int64} (hput : t.PutSnapshot s id t')
    (hb : t'.size < rowLimit) : Sound t' (past.afterSnapshot s id) := by
  obtain ⟨t2, t3, rss, pss, hranges, -, hm, hadds⟩ := hput
  -- the measurement goes in before the data rows, so it was under the limit too
  have h3 : t3.measurement.length = t2.measurement.length + 1 := by
    rw [hm.eq]
    exact Sql.length_insertRow
  have h4 : t'.measurement = t3.measurement := by rw [hadds.others]
  have hb2 : t2.measurement.length < rowLimit := by
    simp only [Tables.size, h4] at hb
    omega
  exact (((hs.putProcess s.process "").putRanges hranges).putMeasurement hb2 hm).addsData hadds

theorem putSystem (hs : Sound t past) (hput : t.PutSystem t') : Sound t' past := by
  obtain ⟨hp, hr, hm, hd⟩ := hput
  exact ⟨hm ▸ hs.sequence, hp ▸ hs.processes, hr ▸ hs.ranges, hr ▸ hp ▸ hs.range_process,
    hm ▸ hp ▸ hs.measurement_process, hd ▸ hr ▸ hs.data_range,
    hd ▸ hm ▸ hs.data_measurement, hd ▸ hs.compact⟩

end Sound

end Store
end MemoryRecorder
