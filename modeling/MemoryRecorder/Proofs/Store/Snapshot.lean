import MemoryRecorder.Proofs.Store.Statements

/-!
# Writing a snapshot

A snapshot is written in one transaction: its process under an empty name, its ranges one by
one, its measurement, and its data rows. The main statement, `exec_insertSnapshot`, says what
that leaves: the tables that the documented outcome of each statement gives, one after the
other (`Tables.PutSnapshot`), or, when any statement or the sums fail, the view exactly as the
transaction found it.
-/

namespace MemoryRecorder
namespace Store

namespace Tables

def PutRanges (t : Tables) : List Mapping → Tables → Prop
  | [], t' => t' = t
  | m :: ms, t' => ∃ t1, t.PutRange m.key.row m.key.process.hash.toInt64 t1 ∧ t1.PutRanges ms t'

/-- What writing a snapshot may leave while foreign keys are enforced: its process put under an
empty name, its ranges put in their order, its measurement inserted with its sums, and its data
rows appended. -/
def PutSnapshot (t : Tables) (s : Snapshot) (id : Int64) (t' : Tables) : Prop :=
  ∃ t2 t3 rss pss, (t.putProcess (s.process.row "")).PutRanges s.ranges t2 ∧
    s.sums = .ok (rss, pss) ∧
    t2.PutMeasurement id s.process.hash.toInt64 s.time (s.figures rss pss) t3 ∧
    t3.AddsData id s.ranges t'

/-- Putting range rows changes the range table only: each row is kept unless its id was there. -/
theorem PutRanges.eq {t t' : Tables} {ms : List Mapping} (h : t.PutRanges ms t') :
    t' = { t with range := (ms.foldl (fun rows m => Sql.keepRow m.key.row rows) t.range) } := by
  induction ms generalizing t with
  | nil => exact h
  | cons m ms ih =>
      obtain ⟨t1, ⟨-, rfl⟩, hrest⟩ := h
      exact ih hrest

theorem PutMeasurement.eq {t t' : Tables} {id process time : Int64} {figures : List Int64}
    (h : t.PutMeasurement id process time figures t') :
    t' = { t with measurement := (Sql.insertRow
      (measurementRow id (nextSeq t.measurement) process time figures) t.measurement) } :=
  h.2.2.2

end Tables

section

variable {σ : Type} [Engine σ] {L : Documented σ} {h : Handle σ} {t : Tables}

def rangeRound (m : Mapping) (_ : PUnit) : StoreOn σ (ForInStep PUnit) := do
  let _ ← upsertRange m.key
  pure (ForInStep.yield PUnit.unit)

theorem insertSnapshot_eq (s : Snapshot) :
    (insertSnapshot s : StoreOn σ Int64) = inTransaction (do
      upsertProcess s.process ""
      forIn s.ranges PUnit.unit rangeRound
      let id ← insertMeasurement s
      insertData id s.ranges
      pure id) := rfl

/-- The range loop inside a transaction puts the range rows in their order. -/
theorem exec_rangeRounds {v : View} (hb : v.began = none) (he : v.enforcing = true)
    (ms : List Mapping) :
    ∀ (h : Handle σ) (t : Tables),
      L.view h.conn = { v with content := .store t, began := some v.content } →
      LandsWithin L v (fun _ t' => t.PutRanges ms t') (h.exec (forIn ms PUnit.unit rangeRound)) := by
  induction ms with
  | nil =>
      intro h t hv
      rw [Handle.exec_forIn_nil]
      exact .inl ⟨PUnit.unit, t, rfl, rfl, hv⟩
  | cons m ms ih =>
      intro h t hv
      have hround : LandsWithin L v
          (fun r t1 => r = .yield PUnit.unit ∧ t.PutRange m.key.row m.key.process.hash.toInt64 t1)
          (h.exec (rangeRound m PUnit.unit)) := by
        refine LandsWithin.bind (Lands.within hb hv
          (exec_upsertRange m.key (by rw [hv]) (by rw [hv]; exact he))) ?_
        rintro a t1 ⟨-, hput⟩ h1 hv1
        exact .inl ⟨.yield PUnit.unit, t1, rfl, ⟨rfl, hput⟩, hv1⟩
      rcases hround with ⟨r, t1, hr, ⟨rfl, hput⟩, hv1⟩ | ⟨e, hr, hw⟩
      · rw [Handle.exec_forIn_cons_of_yield ms hr]
        exact (ih _ t1 hv1).mono fun _ t' hrest => ⟨t1, hput, hrest⟩
      · rw [Handle.exec_forIn_cons_of_error ms hr]
        exact .inr ⟨e, rfl, hw⟩

/-- Writing a snapshot on the store's tables, with foreign keys enforced and no transaction
open: it returns the measurement's id and leaves what each statement's documented outcome gives,
or it fails and leaves the view as it was. -/
theorem exec_insertSnapshot (s : Snapshot) (hc : (L.view h.conn).content = .store t)
    (he : (L.view h.conn).enforcing = true) (hb : (L.view h.conn).began = none)
    (hcompact : Sql.Compact t.data) :
    Lands L (L.view h.conn) (fun id t' => id = measurementId s.process s.time ∧ t.PutSnapshot s id t')
      (h.exec (insertSnapshot s)) := by
  rw [insertSnapshot_eq]
  apply exec_inTransaction hb
  intro h1 hv1
  have hv1' : L.view h1.conn =
      { L.view h.conn with content := .store t, began := some (L.view h.conn).content } := by
    rw [hv1, ← hc]
  -- the process row
  refine LandsWithin.bind (Lands.within hb hv1' (exec_upsertProcess s.process "" (by rw [hv1']))) ?_
  rintro - t1 rfl h2 hv2
  -- the range rows
  refine LandsWithin.bind (exec_rangeRounds hb he s.ranges h2 _ hv2) ?_
  rintro - t2 hranges h3 hv3
  -- the measurement row
  refine LandsWithin.bind (Lands.within hb hv3
    (exec_insertMeasurement s (by rw [hv3]) (by rw [hv3]; exact he))) ?_
  rintro id t3 ⟨rfl, rss, pss, hsums, hmeasurement⟩ h4 hv4
  -- the data rows, on the data table the transaction began with
  have hdata : t3.data = t.data := by
    rw [hmeasurement.eq, hranges.eq]
    rfl
  obtain ⟨n, t4, -, hadds, hleaves, hall⟩ := exec_insertData (measurementId s.process s.time)
    s.ranges (h := h4) (by rw [hv4]) (by rw [hv4]; exact he) (hdata ▸ hcompact)
  rcases hr : (h4.exec (insertData (measurementId s.process s.time) s.ranges)).2 with e | u
  · rw [Handle.exec_bind_of_error _ hr]
    refine .inr ⟨e, rfl, ?_⟩
    rcases hleaves with hl | ⟨-, hb4, hu⟩
    · rw [hl, hv4]
      exact View.within_open _ _
    · rw [hu, hv4, View.undone_within hb]
      exact View.within_self _
  · rw [Handle.exec_bind_of_ok _ hr, Handle.exec_pure]
    have hn : n = s.ranges.length := hall hr
    subst hn
    rw [List.take_length] at hadds
    rcases hleaves with hl | ⟨⟨e, he'⟩, -⟩
    · refine .inl ⟨_, t4, rfl, ⟨rfl, t2, t3, rss, pss, hranges, hsums, hmeasurement, hadds⟩, ?_⟩
      rw [hl, hv4]
    · rw [hr] at he'
      cases he'

end

end Store
end MemoryRecorder
