import MemoryRecorder.Proofs.Store.ReadBack
import Mathlib.Data.List.Nodup
import Mathlib.Tactic.IntervalCases

/-!
# The rows a program leaves

Every measurement row of a store that a program reaches is the row the store writes for a
snapshot: under the measurement id of its process and time, with an integer sequence number and
twelve integer figures. Every data row holds the values of a mapping in a measurement
(`Tables.Written`, `Reachable.written`). With the soundness of the tables, every process and
range row is one the store writes too. So

* two measurements of one process at one time are one (`Tables.Written.eq_of_time`), since the
  measurement id is made of the process's hash and the time;
* the mapping query of every measurement answers rows of mappings (`Tables.Written.rangesOf`);
* the row that the measurement query joins for a measurement reads back whatever the names of
  its columns (`toMeasurement_names`);
* two measurements with one sequence number are one (`Tables.Written.eq_of_seq`).

Reading the first measurement that a query answers therefore gives what reading that
measurement by its id gives (`exec_readFirst_joined`), and a query that answers no row reads
none (`exec_readFirst_nil`).
-/

namespace MemoryRecorder
namespace Store

/-! ## Rows as the store writes them -/

namespace Sql

/-- A measurement row as the store writes it: under the measurement id of a process and a time,
with an integer sequence number and twelve integer figures. -/
def Row.IsMeasurement (m : Row) : Prop :=
  ∃ (q : ProcessId) (time seq : Int64) (figures : List Int64), figures.length = 12 ∧
    m = measurementRow (measurementId q time) (.int seq) q.hash.toInt64 time figures

/-- A data row as the store writes it: the values of a mapping in a measurement. -/
def Row.IsData (d : Row) : Prop :=
  ∃ (mid : Int64) (x : Mapping), d.vals = dataValues mid x

end Sql

namespace Tables

/-- Tables whose measurement and data rows are all as the store writes them. -/
structure Written (t : Tables) : Prop where
  measurement : ∀ m ∈ t.measurement, m.IsMeasurement
  data : ∀ d ∈ t.data, d.IsData

theorem Written.empty : ({} : Tables).Written :=
  ⟨by simp, by simp⟩

section

variable {t t' : Tables}

/-! ### What each write keeps -/

theorem Written.putProcess (hw : t.Written) (r : Sql.Row) : (t.putProcess r).Written :=
  ⟨hw.measurement, hw.data⟩

theorem Written.putRanges (hw : t.Written) {ms : List Mapping} (h : t.PutRanges ms t') :
    t'.Written := by
  rw [h.eq]
  exact ⟨hw.measurement, hw.data⟩

theorem Written.putMeasurement (hw : t.Written) {q : ProcessId} {time : Int64}
    {figures : List Int64} (hlen : figures.length = 12)
    (hseq : ∃ n, nextSeq t.measurement = .int n)
    (h : t.PutMeasurement (measurementId q time) q.hash.toInt64 time figures t') :
    t'.Written := by
  obtain ⟨n, hn⟩ := hseq
  rw [h.eq]
  refine ⟨fun m hm => ?_, hw.data⟩
  rcases Sql.mem_insertRow.1 hm with rfl | hm
  · exact ⟨q, time, n, figures, hlen, by rw [hn]⟩
  · exact hw.measurement m hm

theorem Written.addsData (hw : t.Written) {mid : Int64} {ms : List Mapping}
    (h : t.AddsData mid ms t') : t'.Written := by
  obtain ⟨rows, hdata, hvals⟩ := h.appended
  have hm : t'.measurement = t.measurement := by
    have := congrArg Tables.measurement h.others
    exact this
  refine ⟨fun m hm' => hw.measurement m (hm ▸ hm'), fun d hd => ?_⟩
  rw [hdata] at hd
  rcases List.mem_append.1 hd with hd | hd
  · exact hw.data d hd
  · -- an appended row holds the values of one of the mappings
    have hd' := List.mem_map_of_mem (f := fun d : Sql.Row => d.vals) hd
    obtain ⟨x, -, hx⟩ := List.mem_map.1 (hvals ▸ hd')
    exact ⟨mid, x, hx.symm⟩

theorem Written.putSnapshot (hw : t.Written) {s : Snapshot}
    (hseq : ∃ n, nextSeq t.measurement = .int n)
    (h : t.PutSnapshot s (measurementId s.process s.time) t') : t'.Written := by
  obtain ⟨t2, t3, rss, pss, hranges, -, hm, hadds⟩ := h
  have h2 : t2.measurement = t.measurement := by
    rw [hranges.eq]
    rfl
  have hw2 := (hw.putProcess _).putRanges hranges
  exact (hw2.putMeasurement rfl (h2 ▸ hseq) hm).addsData hadds

theorem Written.putSystem (hw : t.Written) (h : t.PutSystem t') : t'.Written := by
  obtain ⟨-, -, hm, hd⟩ := h
  exact ⟨hm ▸ hw.measurement, hd ▸ hw.data⟩

theorem Written.effect (hw : t.Written) (hseq : ∃ n, nextSeq t.measurement = .int n) {c : Call}
    (he : c.Effect t t') : t'.Written := by
  cases c with
  | upsertProcess p name =>
      rw [show t' = t.putProcess (p.row name) from he]
      exact hw.putProcess _
  | upsertRange k =>
      obtain ⟨-, rfl⟩ := he
      exact ⟨hw.measurement, hw.data⟩
  | insertMeasurement s =>
      obtain ⟨rss, pss, -, hput⟩ := he
      exact hw.putMeasurement rfl hseq hput
  | insertData mid ms => exact hw.addsData he
  | insertSnapshot s => exact hw.putSnapshot hseq he
  | insertSystemSnapshot _ => exact hw.putSystem he

theorem Written.failed (hw : t.Written) {c : Call} (hf : c.Failed t t') : t'.Written := by
  cases c with
  | insertData mid ms =>
      obtain ⟨n, -, hadds⟩ := hf
      exact hw.addsData hadds
  | _ =>
      rw [show t' = t from hf]
      exact hw

end

end Tables

section

variable {σ : Type} [Engine σ] {L : Documented σ} {h : Handle σ} {past : Past}

/-- Every handle a program reaches sees sound tables whose rows are as the store writes them. -/
theorem Reachable.written (hr : Reachable L h past) :
    ∃ t, L.view h.conn = { content := .store t, enforcing := true } ∧ Sound t past ∧
      t.Written := by
  induction hr with
  | start hc hopen =>
      obtain ⟨hstart, hv⟩ := start_eq (L := L) (t := {}) (by rw [hc]) (.inl ⟨by rw [hc], rfl⟩)
      rw [hstart] at hopen
      cases hopen
      exact ⟨{}, hv, Sound.empty, Tables.Written.empty⟩
  | step _ hstep ih =>
      obtain ⟨t, hv, hs, hw⟩ := ih
      have hlimit : t.measurement.length < rowLimit := length_measurement_lt (by rw [hv])
      obtain ⟨t', hv', hcase⟩ := Step.lands hv hs.compact hstep
      have hbound : t'.size < rowLimit := L.bounded _ t' (by rw [hv'])
      refine ⟨t', hv', ?_⟩
      rcases hcase with ⟨-, rfl, rfl⟩ | ⟨c, -, ⟨heff, rfl⟩ | ⟨hfail, rfl⟩⟩
      · exact ⟨hs, hw⟩
      · exact ⟨heff.sound hs hlimit hbound, hw.effect ⟨_, hs.nextSeq_eq hlimit⟩ heff⟩
      · exact ⟨hfail.sound hs, hw.failed hfail⟩

end

/-! ## Process and range rows -/

theorem Sql.lookup_of_mem {rows : List Sql.Row} {x : Sql.Row} (h : Sql.Ordered rows)
    (hx : x ∈ rows) : Sql.lookup rows x.rowid = some x := by
  rw [Sql.lookup, ← List.head?_filter, h.filter_rowid hx fun _ _ => rfl]
  rfl

namespace Sound

variable {t : Tables} {past : Past} {r : Sql.Row}

theorem process_row (hs : Sound t past) (hord : Sql.Ordered t.process) (hr : r ∈ t.process) :
    ∃ (q : ProcessId) (name : String), r = q.row name := by
  have h := hs.processes r.rowid
  rw [Sql.lookup_of_mem hord hr] at h
  obtain ⟨⟨q, name⟩, -, hq⟩ := Option.map_eq_some_iff.1 h.symm
  exact ⟨q, name, hq.symm⟩

theorem range_row (hs : Sound t past) (hord : Sql.Ordered t.range) (hr : r ∈ t.range) :
    ∃ k : RangeKey, r = k.row := by
  have h := hs.ranges r.rowid
  rw [Sql.lookup_of_mem hord hr] at h
  obtain ⟨k, -, hk⟩ := Option.map_eq_some_iff.1 h.symm
  exact ⟨k, hk.symm⟩

end Sound

/-! ## Measurement rows -/

namespace Sql.Row.IsMeasurement

variable {m m' : Sql.Row}

theorem integral (hm : m.IsMeasurement) : m.Integral := by
  obtain ⟨q, time, seq, figures, -, rfl⟩ := hm
  intro v hv
  simp only [measurementRow, List.mem_cons, List.mem_map] at hv
  rcases hv with rfl | rfl | rfl | rfl | ⟨n, -, rfl⟩ <;> exact ⟨_, rfl⟩

theorem col (hm : m.IsMeasurement) {j : Nat} (hj : j < 16) : ∃ v, m.col j = .int v := by
  obtain ⟨q, time, seq, figures, hlen, rfl⟩ := hm
  have hsize : j < (measurementRow (measurementId q time) (.int seq) q.hash.toInt64 time
      figures).vals.size := by
    simp [measurementRow, hlen, hj]
  obtain ⟨v, hv⟩ := integral ⟨q, time, seq, figures, hlen, rfl⟩ _ (Array.getElem_mem_toList hsize)
  refine ⟨v, ?_⟩
  rw [Sql.Row.col, Array.getD_eq_getD_getElem?, Array.getElem?_eq_getElem hsize, hv]
  rfl

/-- Two measurement rows the store writes, of one process key and one time, have one id: the
id is made of the process's hash and the time. -/
theorem rowid_eq (hm : m.IsMeasurement) (hm' : m'.IsMeasurement)
    (hk : m.processKey = m'.processKey) (ht : m.time = m'.time) : m.rowid = m'.rowid := by
  obtain ⟨q, time, seq, figures, -, rfl⟩ := hm
  obtain ⟨q', time', seq', figures', -, rfl⟩ := hm'
  have hq : q.hash = q'.hash := by
    simpa using congrArg Int64.toUInt64 (show q.hash.toInt64 = q'.hash.toInt64 from hk)
  have htime : time = time' := ht
  show measurementId q time = measurementId q' time'
  rw [measurementId, measurementId, hq, htime]

end Sql.Row.IsMeasurement

namespace Tables

variable {t : Tables} {past : Past}

theorem Written.eq_of_time (hw : t.Written) (hord : Sql.Ordered t.measurement)
    {m m' : Sql.Row} (hm : m ∈ t.measurement) (hm' : m' ∈ t.measurement)
    (hk : m.processKey = m'.processKey) (ht : m.time = m'.time) : m = m' :=
  List.inj_on_of_nodup_map hord.nodup hm hm'
    ((hw.measurement m hm).rowid_eq (hw.measurement m' hm') hk ht)

/-- Two measurements of sound tables under the row limit with one sequence number are one: the
numbers are `0` to `n - 1`, each given once. -/
theorem Written.eq_of_seq (hw : t.Written) (hs : Sound t past)
    (hb : t.measurement.length < rowLimit) {m m' : Sql.Row} (hm : m ∈ t.measurement)
    (hm' : m' ∈ t.measurement) (hseq : m.seq = m'.seq) : m = m' := by
  have hnodup : (t.measurement.map (·.col 1)).Nodup := by
    refine hs.seqs_perm.nodup_iff.2 (List.nodup_range.map_on fun i hi j hj hij => ?_)
    have hi' := List.mem_range.1 hi
    have hj' := List.mem_range.1 hj
    have hint := congrArg Int64.toInt (Value.int.inj hij)
    rw [Int64.toInt_ofNat_of_lt (by unfold rowLimit at hb; omega),
      Int64.toInt_ofNat_of_lt (by unfold rowLimit at hb; omega)] at hint
    exact_mod_cast hint
  -- both numbers are integers, so equal numbers are equal columns
  obtain ⟨v, hv⟩ := (hw.measurement m hm).col (j := 1) (by omega)
  obtain ⟨v', hv'⟩ := (hw.measurement m' hm').col (j := 1) (by omega)
  have hvv : v = v' := by
    simpa [Sql.Row.seq, Sql.Row.intAt, hv, hv', Value.intValue] using hseq
  exact List.inj_on_of_nodup_map hnodup hm hm' (by rw [hv, hv', hvv])

/-! ## What the queries answer -/

theorem mem_joined {x : Sql.Row × Sql.Row} :
    x ∈ t.joined ↔ x.1 ∈ t.measurement ∧ x.2 ∈ t.process ∧ (x.1.col 2).sameAs x.2.rowid := by
  obtain ⟨m, p⟩ := x
  simp [joined]

theorem exists_joined (hs : Sound t past) {m : Sql.Row} (hm : m ∈ t.measurement) :
    ∃ p, (m, p) ∈ t.joined := by
  obtain ⟨p, hp, hkey⟩ := hs.measurement_process m hm
  refine ⟨p, mem_joined.2 ⟨hm, hp, ?_⟩⟩
  rw [hkey, Value.sameAs_int]
  simp

private theorem exists_map_of_forall {α β γ : Type} {f : α → β} {g : γ → β} :
    ∀ {xs : List α}, (∀ a ∈ xs, ∃ c, f a = g c) → ∃ cs : List γ, xs.map f = cs.map g
  | [], _ => ⟨[], rfl⟩
  | a :: as, h => by
      obtain ⟨c, hc⟩ := h a List.mem_cons_self
      obtain ⟨cs, hcs⟩ := exists_map_of_forall fun b hb => h b (List.mem_cons_of_mem a hb)
      exact ⟨c :: cs, by rw [List.map_cons, List.map_cons, hc, hcs]⟩

private theorem exists_flatMap_of_forall {α β γ : Type} {f : α → List β} {g : γ → β} :
    ∀ {xs : List α}, (∀ a ∈ xs, ∃ cs : List γ, f a = cs.map g) →
      ∃ cs : List γ, xs.flatMap f = cs.map g
  | [], _ => ⟨[], rfl⟩
  | a :: as, h => by
      obtain ⟨c, hc⟩ := h a List.mem_cons_self
      obtain ⟨cs, hcs⟩ := exists_flatMap_of_forall fun b hb => h b (List.mem_cons_of_mem a hb)
      exact ⟨c ++ cs, by rw [List.flatMap_cons, List.map_append, hc, hcs]⟩

/-- The mapping query of every measurement of sound tables whose rows are as the store writes
them answers rows of mappings. -/
theorem Written.rangesOf (hw : t.Written) (hs : Sound t past) (hord : Sql.Ordered t.range)
    (mid : Int64) : ∃ ms : List Mapping, t.rangesOf mid = ms.map mappingRecord := by
  -- a data row joined with a range row is the row of the range with the data row's sizes
  have hrec : ∀ d ∈ t.data, ∀ r ∈ t.range, ∃ x, rangeRecord d r = mappingRecord x := by
    intro d hd r hr
    obtain ⟨mid', x, hx⟩ := hw.data d hd
    obtain ⟨k, rfl⟩ := hs.range_row hord hr
    refine ⟨⟨k, x.rss, x.pss⟩, ?_⟩
    simp [rangeRecord, Sql.Row.col, hx, dataValues, RangeKey.row, rangeRow, mappingRecord, word]
  refine exists_flatMap_of_forall fun d hd => exists_map_of_forall fun r hr => ?_
  exact hrec d (List.mem_of_mem_filter hd) r (List.mem_of_mem_filter hr)

end Tables

/-! ## Reading back -/

/-- The row the measurement query joins for a measurement row the store writes and a process
row reads back whatever the names of its columns: every column holds an integer. -/
theorem toMeasurement_names {m : Sql.Row} (hm : m.IsMeasurement) (q : ProcessId) (name : String)
    (n n' : List String) :
    toMeasurement n (measurementRecord m (q.row name)) =
      toMeasurement n' (measurementRecord m (q.row name)) := by
  have hpid : (q.row name).col 1 = .int q.pid.toInt64 := rfl
  have hstart : (q.row name).col 2 = .int q.startTime.toInt64 := rfl
  have hints : ∀ i < 17, ∃ v, (measurementRecord m (q.row name))[i]? = some (.int v) := by
    intro i hi
    interval_cases i <;> simp [measurementRecord, hm.col, hpid, hstart]
  have hread : ∀ i < 17, readInt n (measurementRecord m (q.row name)) i =
      readInt n' (measurementRecord m (q.row name)) i := fun i hi => by
    obtain ⟨v, hv⟩ := hints i hi
    rw [readInt_of_int hv, readInt_of_int hv]
  simp (disch := omega) only [toMeasurement, readWord, readI32, readTime, hread]

section

variable {σ : Type} [Engine σ] {L : Documented σ} {h : Handle σ} {t : Tables}

theorem exec_readFirst_nil {sql : String} {params : List Value}
    (ha : Answers L.view (Engine.runText sql params) h.conn []) :
    (h.exec (readFirst sql params)).2 = .ok none := by
  obtain ⟨⟨names, hans⟩, -⟩ := ha
  have hrun : h.exec (query sql params) =
      ({ h with conn := (Engine.runText sql params h.conn).1 }, .ok (names, [])) :=
    Handle.exec_onEngine_ok hans
  have hfirst : (h.exec (firstRow sql params toMeasurement)).2 = .ok none := by
    simp only [firstRow, Handle.exec_bind_ok _ hrun]
    rfl
  unfold readFirst
  rw [Handle.exec_bind_of_ok _ hfirst]
  rfl

theorem exec_readFirst_cons {sql : String} {params : List Value} {r : Array Value}
    {rows : List (Array Value)} (hc : (L.view h.conn).content = .store t) (hq : IsQuery sql)
    (ha : Answers L.view (Engine.runText sql params) h.conn (r :: rows))
    {ms : Int64 → List Mapping} (hms : ∀ mid, t.rangesOf mid = (ms mid).map mappingRecord) :
    ∃ names, (h.exec (readFirst sql params)).2 = (toMeasurement names r).map fun m =>
      some { m with ranges := (ms m.id).map (Mapping.withProcess m.process) } := by
  obtain ⟨⟨names, hans⟩, -⟩ := ha
  refine ⟨names, ?_⟩
  have hfirst := exec_firstRow_cons (h := h) (f := toMeasurement) hans
  -- the query leaves the view, so the mapping query finds the same tables
  have hc1 : (L.view (h.exec (firstRow sql params toMeasurement)).1.conn).content = .store t := by
    rw [readOnly_firstRow _ _ hq h, hc]
  unfold readFirst
  cases hm : toMeasurement names r with
  | error e =>
      rw [hm] at hfirst
      rw [Handle.exec_bind_of_error _ hfirst]
      rfl
  | ok m =>
      rw [hm] at hfirst
      rw [Handle.exec_bind_of_ok _ hfirst]
      dsimp only
      rw [Handle.exec_bind_of_ok _ (exec_withRanges hc1 (hms m.id))]
      rfl

/-- On tables a program leaves, a query that answers a measurement joined with its process row
reads what reading that measurement by its id reads, and that is no answer of none. -/
theorem exec_readFirst_joined {past : Past}
    (hv : L.view h.conn = { content := .store t, enforcing := true }) (hs : Sound t past)
    (hw : t.Written) {x : Sql.Row × Sql.Row} (hx : x ∈ t.joined) {sql : String}
    {params : List Value} (hq : IsQuery sql)
    (ha : Answers L.view (Engine.runText sql params) h.conn (Tables.records [x])) :
    (h.exec (readFirst sql params)).2 = (h.exec (getMeasurement x.1.rowid)).2 ∧
      (h.exec (getMeasurement x.1.rowid)).2 ≠ .ok none := by
  have hc : (L.view h.conn).content = .store t := by
    rw [hv]
  have hord : t.Ordered := L.ordered _ t hc
  obtain ⟨hm, hp, hkey⟩ := Tables.mem_joined.1 hx
  obtain ⟨q, name, hq'⟩ := hs.process_row hord.1 hp
  -- the measurement names its process row by its id
  have hcol : x.1.col 2 = .int x.2.rowid := by
    obtain ⟨v, hv⟩ := (hw.measurement _ hm).col (j := 2) (by omega)
    rw [hv, Value.sameAs_int, beq_iff_eq] at hkey
    rw [hv, hkey]
  have hbyid : Answers L.view (Engine.runText measurementByIdSql [.int x.1.rowid]) h.conn
      (Tables.records [x]) := by
    have := L.measurement_by_id h.conn t x.1.rowid hc
    rwa [Tables.measurementsById_single hord hm hp hcol] at this
  have hms := fun mid => Classical.choose_spec (hw.rangesOf hs hord.2.1 mid)
  obtain ⟨names, h1⟩ := exec_readFirst_cons hc hq ha hms
  obtain ⟨names', h2⟩ := exec_readFirst_cons hc isQuery_measurementByIdSql hbyid hms
  rw [getMeasurement_eq, h1, h2]
  simp only [hq']
  refine ⟨by rw [toMeasurement_names (hw.measurement _ hm) q name names names'], ?_⟩
  cases toMeasurement names' (measurementRecord x.1 (q.row name)) <;> simp [Except.map]

end

end Store
end MemoryRecorder
