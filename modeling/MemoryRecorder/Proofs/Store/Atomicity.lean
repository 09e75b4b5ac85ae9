import MemoryRecorder.Proofs.Store.Invariants

/-!
# Snapshots are written whole

Writing a snapshot runs many statements in one transaction, any of which may fail after others
have written, and the snapshot's sums may overflow in the middle of it. From every store a
program reaches, it still does all or nothing (`insertSnapshot_all_or_nothing`): it returns the
measurement's id and adds exactly the snapshot's rows (`Tables.AddsSnapshot`), or it fails and
leaves all five tables, and so the next sequence number, as they were.
-/

namespace MemoryRecorder
namespace Store

namespace Tables

/-- The tables after a snapshot was added under a measurement id: its process row under an
empty name unless its id was there, a range row for each of its ranges whose id was not there
yet, one measurement row numbered with the count of measurements so far, and one data row per
range in the ranges' order, after all others. -/
structure AddsSnapshot (t : Tables) (s : Snapshot) (id : Int64) (t' : Tables) : Prop where
  process : t'.process = Sql.keepRow (s.process.row "") t.process
  range : t'.range = s.ranges.foldl (fun rows m => Sql.keepRow m.key.row rows) t.range
  measurement : ∃ rss pss, s.sums = .ok (rss, pss) ∧
    t'.measurement = Sql.insertRow (measurementRow id (.int (Int64.ofNat t.measurement.length))
      s.process.hash.toInt64 s.time (s.figures rss pss)) t.measurement
  data : ∃ rows, t'.data = t.data ++ rows ∧ rows.map (·.vals) = s.ranges.map (dataValues id)
  system : t'.system = t.system

variable {t t' : Tables} {past : Past} {s : Snapshot} {id : Int64}

theorem PutSnapshot.adds (hs : Sound t past) (hb : t.measurement.length < rowLimit)
    (hput : t.PutSnapshot s id t') : t.AddsSnapshot s id t' := by
  obtain ⟨t2, t3, rss, pss, hranges, hsums, hm, hadds⟩ := hput
  obtain ⟨rows, hdata, hvals⟩ := hadds.appended
  have h2 := hranges.eq
  have h3 := hm.eq
  have h4 := hadds.others
  -- the process and range rows leave the measurements as they were
  have hmeasurement : t2.measurement = t.measurement := by
    rw [h2]
    rfl
  have hseq := hs.nextSeq_eq hb
  refine ⟨?_, ?_, ⟨rss, pss, hsums, ?_⟩, ⟨rows, ?_, hvals⟩, ?_⟩
  · rw [h4, h3, h2]
    rfl
  · rw [h4, h3, h2]
    rfl
  · rw [h4, h3, hmeasurement, hseq]
  · rw [hdata, h3, h2]
    rfl
  · rw [h4, h3, h2]
    rfl

end Tables

section

variable {σ : Type} [Engine σ] {L : Documented σ} {h : Handle σ} {t : Tables} {past : Past}

/-- Writing a snapshot from a handle on sound tables, with foreign keys enforced and no
transaction open: it returns its measurement's id with the tables its statements leave one after
the other, or it fails and leaves the view as it was, since its rollback has no transaction of
an earlier write to undo. -/
theorem exec_insertSnapshot_settled
    (hv : L.view h.conn = { content := .store t, enforcing := true }) (hs : Sound t past)
    (s : Snapshot) :
    (∃ t', (h.exec (insertSnapshot s)).2 = .ok (measurementId s.process s.time) ∧
        L.view (h.exec (insertSnapshot s)).1.conn = { content := .store t', enforcing := true } ∧
        t.PutSnapshot s (measurementId s.process s.time) t') ∨
      ∃ e, (h.exec (insertSnapshot s)).2 = .error e ∧
        L.view (h.exec (insertSnapshot s)).1.conn = L.view h.conn := by
  have hc : (L.view h.conn).content = .store t := by
    rw [hv]
  have he : (L.view h.conn).enforcing = true := by
    rw [hv]
  have hb : (L.view h.conn).began = none := by
    rw [hv]
  rcases exec_insertSnapshot s hc he hb hs.compact with
    ⟨a, t', hok, ⟨rfl, hput⟩, hv'⟩ | ⟨e, herr, hv'⟩
  · refine .inl ⟨t', hok, ?_, hput⟩
    rw [hv', hv]
  · refine .inr ⟨e, herr, ?_⟩
    rcases hv' with hv' | hv'
    · exact hv'
    · rw [hv', View.undone_of_none hb]

/-- From every store a program reaches, writing a snapshot returns its measurement's id and
adds exactly the snapshot's rows, or fails and leaves every table as it was. -/
theorem insertSnapshot_all_or_nothing (hr : Reachable L h past) (s : Snapshot) :
    ∃ t, L.view h.conn = { content := .store t, enforcing := true } ∧
      ((∃ t', (h.exec (insertSnapshot s)).2 = .ok (measurementId s.process s.time) ∧
          L.view (h.exec (insertSnapshot s)).1.conn =
            { content := .store t', enforcing := true } ∧
          t.AddsSnapshot s (measurementId s.process s.time) t') ∨
        ∃ e, (h.exec (insertSnapshot s)).2 = .error e ∧
          L.view (h.exec (insertSnapshot s)).1.conn = L.view h.conn) := by
  obtain ⟨t, hv, hs⟩ := hr.settled
  have hlimit : t.measurement.length < rowLimit := length_measurement_lt (by rw [hv])
  refine ⟨t, hv, ?_⟩
  rcases exec_insertSnapshot_settled hv hs s with ⟨t', hok, hv', hput⟩ | hfail
  · -- committed: the tables are the old ones with the snapshot added
    exact .inl ⟨t', hok, hv', hput.adds hs hlimit⟩
  · exact .inr hfail

end

/-- A snapshot whose mappings come back to a range and hold 2^63 KiB, written on the reference
engine after a process row and a first snapshot of the same process. -/
theorem insertSnapshot_all_or_nothing_second_snapshot :
    let p : ProcessId := ⟨1, 0⟩
    let heap : RangeKey := ⟨p, 4096, 8192, "rw-p", "[heap]"⟩
    let s₁ : Snapshot := { time := 1000, process := p, ranges := [⟨heap, 4, 4⟩] }
    let ms : List Mapping := [⟨heap, 9223372036854775808, 9223372036854775808⟩, ⟨heap, 8, 8⟩]
    let s₂ : Snapshot := { time := 2000, process := p, ranges := ms }
    let c₁ := Call.upsertProcess p "app"
    let c₂ := Call.insertSnapshot s₁
    let h₀ := Handle.opened (Engine.fresh : Reference.Conn)
    let h₁ := (h₀.exec c₁.run).1
    let h₂ := (h₁.exec c₂.run).1
    Reachable Reference.documented h₂ (c₂.after (h₁.exec c₂.run).2 (c₁.after (h₀.exec c₁.run).2 {})) ∧
      ∃ t, Reference.documented.view h₂.conn = { content := .store t, enforcing := true } ∧
        ((∃ t', (h₂.exec (insertSnapshot s₂)).2 = .ok (measurementId p s₂.time) ∧
            Reference.documented.view (h₂.exec (insertSnapshot s₂)).1.conn =
              { content := .store t', enforcing := true } ∧
            t.AddsSnapshot s₂ (measurementId p s₂.time) t') ∨
          ∃ e, (h₂.exec (insertSnapshot s₂)).2 = .error e ∧
            Reference.documented.view (h₂.exec (insertSnapshot s₂)).1.conn =
              Reference.documented.view h₂.conn) := by
  intro p heap s₁ ms s₂ c₁ c₂ h₀ h₁ h₂
  have hr₀ : Reachable Reference.documented h₀ {} := Reachable.of_blank rfl
  have hr : Reachable Reference.documented h₂
      (c₂.after (h₁.exec c₂.run).2 (c₁.after (h₀.exec c₁.run).2 {})) :=
    (hr₀.step (.call c₁ h₀ {})).step (.call c₂ h₁ _)
  exact ⟨hr, insertSnapshot_all_or_nothing hr s₂⟩

end Store
end MemoryRecorder
