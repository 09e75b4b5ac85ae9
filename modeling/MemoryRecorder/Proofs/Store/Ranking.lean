import MemoryRecorder.Proofs.Store.Rows

/-!
# The latest measurement and the peak

On every store a program reaches, through an engine that answers the ordered reads as SQLite
documents (`OrderedReads`):

* reading the measurement of a process at an instant gives none exactly when the process has no
  measurement at or before it, and otherwise what reading by id gives for its one measurement
  with the greatest time at or before it (`getMeasurementAt_latest`);
* reading the peak of a window of sequence numbers, of one process or of all, gives none exactly
  when no measurement lies in the window, and otherwise what reading by id gives for the
  measurement of the window with the greatest figure, the earliest of equals
  (`getMemoryPeak_greatest`). The figures are compared as the signed integers their columns
  hold, so a figure of `2 ^ 63` or more ranks below every figure under it.

Both follow from one lemma on a query that answers the first joined row of an order
(`exec_readFirst_firstOf`).
-/

namespace MemoryRecorder
namespace Store

def inPeakWindow : Option ProcessId → Int64 → Int64 → Sql.Row → Bool
  | none, a, b, m => decide (a ≤ m.seq) && decide (m.seq < b)
  | some p, a, b, m => decide (a ≤ m.seq) && decide (m.seq < b) && m.processKey == p.hash.toInt64

section

variable {σ : Type} [Engine σ] {h : Handle σ} {t : Tables} {past : Past}

/-- On tables a program leaves, a query that answers the first of the joined rows whose
measurement passes a test, in an order of measurements, reads none when no measurement passes,
and otherwise reads what reading by id reads for a measurement that passes and that no
measurement that passes comes before. -/
theorem exec_readFirst_firstOf {L : Documented σ}
    (hv : L.view h.conn = { content := .store t, enforcing := true }) (hs : Sound t past)
    (hw : t.Written) (pass : Sql.Row → Bool) (before : Sql.Row → Sql.Row → Prop)
    {xs : List (Sql.Row × Sql.Row)}
    (hfirst : FirstOf (fun x y => before x.1 y.1) (t.joined.filter fun x => pass x.1) xs)
    {sql : String} {params : List Value} (hq : IsQuery sql)
    (ha : Answers L.view (Engine.runText sql params) h.conn (Tables.records xs)) :
    (∀ m ∈ t.measurement, pass m = false) ∧ (h.exec (readFirst sql params)).2 = .ok none ∨
      ∃ m ∈ t.measurement, pass m ∧ (∀ m' ∈ t.measurement, pass m' → ¬ before m' m) ∧
        (h.exec (readFirst sql params)).2 = (h.exec (getMeasurement m.rowid)).2 ∧
        (h.exec (getMeasurement m.rowid)).2 ≠ .ok none := by
  rcases hfirst with ⟨hnil, rfl⟩ | ⟨x, hx, rfl, hnone⟩
  · -- no joined row passes, and every measurement is joined with its process row
    refine .inl ⟨fun m hm => ?_, exec_readFirst_nil ha⟩
    obtain ⟨p, hp⟩ := Tables.exists_joined hs hm
    by_contra hpass
    have hmem : (m, p) ∈ t.joined.filter fun x => pass x.1 :=
      List.mem_filter.2 ⟨hp, by simpa using hpass⟩
    rw [hnil] at hmem
    cases hmem
  · obtain ⟨hxj, hxp⟩ := List.mem_filter.1 hx
    obtain ⟨hread, hsome⟩ := exec_readFirst_joined hv hs hw hxj hq ha
    refine .inr ⟨x.1, (Tables.mem_joined.1 hxj).1, hxp, fun m' hm' hpass => ?_, hread, hsome⟩
    obtain ⟨p', hp'⟩ := Tables.exists_joined hs hm'
    exact hnone (m', p') (List.mem_filter.2 ⟨hp', hpass⟩)

/-- On every store a program reaches, reading the measurement of a process at an instant gives
none when the process has no measurement at or before it. Otherwise the process has one
measurement with the greatest time at or before the instant, every other one at or before it
being earlier, and the read gives what reading that measurement by its id gives, which is not
none. -/
theorem getMeasurementAt_latest (L : OrderedReads σ) (hr : Reachable L.toDocumented h past)
    (p : ProcessId) (time : Millis) :
    ∃ t, L.view h.conn = { content := .store t, enforcing := true } ∧
      ((∀ m ∈ t.measurement, m.processKey = p.hash.toInt64 → time < m.time) ∧
          (h.exec (getMeasurementAt p time false)).2 = .ok none ∨
        ∃ m ∈ t.measurement, m.processKey = p.hash.toInt64 ∧ m.time ≤ time ∧
          (∀ m' ∈ t.measurement, m'.processKey = p.hash.toInt64 → m'.time ≤ time →
            m' = m ∨ m'.time < m.time) ∧
          (h.exec (getMeasurementAt p time false)).2 = (h.exec (getMeasurement m.rowid)).2 ∧
          (h.exec (getMeasurement m.rowid)).2 ≠ .ok none) := by
  obtain ⟨t, hv, hs, hw⟩ := hr.written
  have hc : (L.view h.conn).content = .store t := by
    rw [hv]
  have hord : Sql.Ordered t.measurement := (L.ordered _ t hc).2.2.1
  obtain ⟨xs, hfirst, ha⟩ := L.measurement_at h.conn t p.hash.toInt64 time hc
    fun m hm => (hw.measurement m hm).integral
  refine ⟨t, hv, ?_⟩
  rw [getMeasurementAt_eq]
  rcases exec_readFirst_firstOf hv hs hw
      (fun m => m.processKey == p.hash.toInt64 && decide (m.time ≤ time))
      (fun m m' => m'.time < m.time) hfirst isQuery_measurementAtSql ha with
    ⟨hnone, hread⟩ | ⟨m, hm, hpass, hlatest, hread, hsome⟩
  · refine .inl ⟨fun m hm hkey => ?_, hread⟩
    have hlate := hnone m hm
    simp only [hkey, beq_self_eq_true, Bool.true_and, decide_eq_false_iff_not] at hlate
    exact Int64.not_le.1 hlate
  · simp only [Bool.and_eq_true, beq_iff_eq, decide_eq_true_eq] at hpass
    refine .inr ⟨m, hm, hpass.1, hpass.2, fun m' hm' hkey hle => ?_, hread, hsome⟩
    -- no measurement of the process at or before the instant is later, and one at the same
    -- time is the same
    have hnot : ¬ m.time < m'.time := hlatest m' hm' (by simp [hkey, hle])
    by_cases heq : m'.time = m.time
    · exact .inl (hw.eq_of_time hord hm' hm (hkey.trans hpass.1.symm) heq)
    · right
      rw [Int64.lt_iff_toInt_lt] at hnot ⊢
      rw [← Int64.toInt_inj] at heq
      omega

/-- The read of the measurement of a process at an instant between its two snapshots, on the
reference engine, with a snapshot of another process written in between. -/
theorem getMeasurementAt_latest_between :
    let p : ProcessId := ⟨1, 0⟩
    let heap : RangeKey := ⟨p, 4096, 8192, "rw-p", "[heap]"⟩
    let c₁ := Call.insertSnapshot { time := 1000, process := p, ranges := [⟨heap, 4, 4⟩] }
    let c₂ := Call.insertSnapshot { time := 1500, process := ⟨2, 0⟩ }
    let c₃ := Call.insertSnapshot { time := 2000, process := p, ranges := [⟨heap, 8, 8⟩] }
    let h₀ := Handle.opened (Engine.fresh : Reference.Conn)
    let h₁ := (h₀.exec c₁.run).1
    let h₂ := (h₁.exec c₂.run).1
    let h := (h₂.exec c₃.run).1
    let past :=
      c₃.after (h₂.exec c₃.run).2 (c₂.after (h₁.exec c₂.run).2 (c₁.after (h₀.exec c₁.run).2 {}))
    Reachable Reference.orderedReads.toDocumented h past ∧
      ∃ t, Reference.orderedReads.view h.conn = { content := .store t, enforcing := true } ∧
        ((∀ m ∈ t.measurement, m.processKey = p.hash.toInt64 → 1800 < m.time) ∧
            (h.exec (getMeasurementAt p 1800 false)).2 = .ok none ∨
          ∃ m ∈ t.measurement, m.processKey = p.hash.toInt64 ∧ m.time ≤ 1800 ∧
            (∀ m' ∈ t.measurement, m'.processKey = p.hash.toInt64 →
              m'.time ≤ 1800 → m' = m ∨ m'.time < m.time) ∧
            (h.exec (getMeasurementAt p 1800 false)).2 = (h.exec (getMeasurement m.rowid)).2 ∧
            (h.exec (getMeasurement m.rowid)).2 ≠ .ok none) := by
  intro p heap c₁ c₂ c₃ h₀ h₁ h₂ h past
  have hr₀ : Reachable Reference.orderedReads.toDocumented h₀ {} := Reachable.of_blank rfl
  have hr : Reachable Reference.orderedReads.toDocumented h past :=
    ((hr₀.step (.call c₁ h₀ {})).step (.call c₂ h₁ _)).step (.call c₃ h₂ _)
  exact ⟨hr, getMeasurementAt_latest Reference.orderedReads hr p 1800⟩

/-- On every store a program reaches, reading the peak of a figure over the window `[a, b)` of
sequence numbers, of one process or of all, gives none when no measurement lies in the window.
Otherwise it gives what reading by its id gives, which is not none, for the measurement of the
window whose figure, as the signed integer its column holds, is the greatest, the one with the
smallest sequence number of equals. -/
theorem getMemoryPeak_greatest (L : OrderedReads σ) (hr : Reachable L.toDocumented h past)
    (q : Option ProcessId) (ty : MemoryType) (a b : Int64) :
    ∃ t, L.view h.conn = { content := .store t, enforcing := true } ∧
      ((∀ m ∈ t.measurement, inPeakWindow q a b m = false) ∧
          (h.exec (getMemoryPeak q ty a b false)).2 = .ok none ∨
        ∃ m ∈ t.measurement, inPeakWindow q a b m ∧
          (∀ m' ∈ t.measurement, inPeakWindow q a b m' →
            m' = m ∨ m'.figure ty < m.figure ty ∨ m'.figure ty = m.figure ty ∧ m.seq < m'.seq) ∧
          (h.exec (getMemoryPeak q ty a b false)).2 = (h.exec (getMeasurement m.rowid)).2 ∧
          (h.exec (getMeasurement m.rowid)).2 ≠ .ok none) := by
  obtain ⟨t, hv, hs, hw⟩ := hr.written
  have hc : (L.view h.conn).content = .store t := by
    rw [hv]
  have hb : t.measurement.length < rowLimit := length_measurement_lt hc
  have hint : ∀ m ∈ t.measurement, m.Integral := fun m hm => (hw.measurement m hm).integral
  -- the two peak queries differ in their filter only
  obtain ⟨sql, params, hq, heq, xs, hfirst, ha⟩ : ∃ sql params, IsQuery sql ∧
      (getMemoryPeak q ty a b false : StoreOn σ (Option Measurement)) = readFirst sql params ∧
      ∃ xs, FirstOf (Higher ty) (t.joined.filter fun x => inPeakWindow q a b x.1) xs ∧
        Answers L.view (Engine.runText sql params) h.conn (Tables.records xs) := by
    cases q with
    | none =>
        exact ⟨_, _, isQuery_peakSql ty, getMemoryPeak_none_eq ty a b,
          L.memory_peak h.conn t ty a b hc hint⟩
    | some p =>
        exact ⟨_, _, isQuery_processPeakSql ty, getMemoryPeak_some_eq p ty a b,
          L.process_memory_peak h.conn t ty a b _ hc hint⟩
  refine ⟨t, hv, ?_⟩
  rw [heq]
  rcases exec_readFirst_firstOf hv hs hw (inPeakWindow q a b)
      (fun m m' => m'.figure ty < m.figure ty ∨ m.figure ty = m'.figure ty ∧ m.seq < m'.seq)
      hfirst hq ha with
    ⟨hnone, hread⟩ | ⟨m, hm, hpass, hbest, hread, hsome⟩
  · exact .inl ⟨hnone, hread⟩
  · refine .inr ⟨m, hm, hpass, fun m' hm' hpass' => ?_, hread, hsome⟩
    -- no measurement of the window ranks before the one read, and one with its sequence
    -- number is the same
    have hnot := hbest m' hm' hpass'
    by_cases hseq : m'.seq = m.seq
    · exact .inl (hw.eq_of_seq hs hb hm' hm hseq)
    · right
      rw [Int64.lt_iff_toInt_lt, Int64.lt_iff_toInt_lt, ← Int64.toInt_inj] at hnot ⊢
      rw [← Int64.toInt_inj] at hseq
      omega

/-- The read of the peak of rss over the first two sequence numbers, on the reference engine,
after a snapshot of `2 ^ 63` KiB of rss and a later one of 1 KiB were both stored. -/
theorem getMemoryPeak_greatest_top_bit :
    let p : ProcessId := ⟨1, 0⟩
    let heap : RangeKey := ⟨p, 4096, 8192, "rw-p", "[heap]"⟩
    let s₁ : Snapshot :=
      { time := 1000, process := p, ranges := [⟨heap, 9223372036854775808, 9223372036854775808⟩] }
    let s₂ : Snapshot := { time := 2000, process := p, ranges := [⟨heap, 1, 1⟩] }
    let h₁ := ((Handle.opened (Engine.fresh : Reference.Conn)).exec (insertSnapshot s₁)).1
    let h := (h₁.exec (insertSnapshot s₂)).1
    ((Handle.opened (Engine.fresh : Reference.Conn)).exec (insertSnapshot s₁)).2 =
        .ok (measurementId p s₁.time) ∧
      (h₁.exec (insertSnapshot s₂)).2 = .ok (measurementId p s₂.time) ∧
      Reachable Reference.orderedReads.toDocumented h
        ((({} : Past).afterSnapshot s₁ (measurementId p s₁.time)).afterSnapshot s₂
          (measurementId p s₂.time)) ∧
      ∃ t, Reference.orderedReads.view h.conn = { content := .store t, enforcing := true } ∧
        ((∀ m ∈ t.measurement, inPeakWindow none 0 2 m = false) ∧
            (h.exec (getMemoryPeak none .rss 0 2 false)).2 = .ok none ∨
          ∃ m ∈ t.measurement, inPeakWindow none 0 2 m ∧
            (∀ m' ∈ t.measurement, inPeakWindow none 0 2 m' →
              m' = m ∨ m'.figure .rss < m.figure .rss ∨
                m'.figure .rss = m.figure .rss ∧ m.seq < m'.seq) ∧
            (h.exec (getMemoryPeak none .rss 0 2 false)).2 = (h.exec (getMeasurement m.rowid)).2 ∧
            (h.exec (getMeasurement m.rowid)).2 ≠ .ok none) := by
  intro p heap s₁ s₂ h₁ h
  simp only [h₁, h]
  have hr₀ : Reachable Reference.documented (Handle.opened (Engine.fresh : Reference.Conn)) {} :=
    Reachable.of_blank rfl
  have hv₀ := (start_eq (L := Reference.documented) (t := {}) (c := Engine.fresh) rfl
    (.inl ⟨rfl, rfl⟩)).2
  obtain ⟨hok₁, hr₁, t₁, hv₁, hsize₁⟩ := insertSnapshot_ok Reference.complete hr₀ hv₀ (s := s₁)
    ⟨_, _, rfl⟩ (by simp) (by simp [s₁, heap]) (by decide)
  have hroom : t₁.size + 2 * s₂.ranges.length + 2 < rowLimit :=
    calc t₁.size + 2 * s₂.ranges.length + 2
        ≤ ({} : Tables).size + 2 * s₁.ranges.length + 2 + 2 * s₂.ranges.length + 2 := by omega
      _ < rowLimit := by decide
  obtain ⟨hok₂, hr₂, -⟩ := insertSnapshot_ok Reference.complete hr₁ hv₁ (s := s₂) ⟨_, _, rfl⟩
    (by decide +kernel) (by simp [s₂, heap]) hroom
  exact ⟨hok₁, hok₂, hr₂, getMemoryPeak_greatest Reference.orderedReads hr₂ none .rss 0 2⟩

end

end Store
end MemoryRecorder
