import MemoryRecorder.Proofs.Store.Reference

/-!
# What every store holds

A program that opens a store on a new database, calls its writes and reads in any order, and
may close it and open it again, only reaches stores of which the following hold
(`invariant_of_reachable`):

* the measurements are numbered `0` to `n - 1` in the order they were inserted, `n` being the
  count of measurements the store reports, whatever failed or was rolled back on the way;
* the process and range tables hold one row per id ever upserted successfully, the row of its
  first upsert, and upserting an id that is there again succeeds and changes nothing;
* every range and measurement row names a process row, and every data row a range row and a
  measurement row.
-/

namespace MemoryRecorder
namespace Store

section

variable {σ : Type} [Engine σ]

/-- What a store holds, seen through a handle on the tables `t`, for what was written to it
successfully (`past`). -/
structure Invariant (L : Documented σ) (h : Handle σ) (past : Past) (t : Tables) : Prop where
  /-- The handle sees the tables, with foreign keys enforced and no transaction open. -/
  view : L.view h.conn = { content := .store t, enforcing := true }
  sound : Sound t past
  count : (h.exec measurementCount).2 = .ok past.measurements.length
  /-- The sequence numbers are `0` to `n - 1`, each once. -/
  seqs : (t.measurement.map (·.col 1)).Perm
    ((List.range past.measurements.length).map fun i => .int (Int64.ofNat i))
  process_ids : (t.process.map (·.rowid)).Nodup
  range_ids : (t.range.map (·.rowid)).Nodup
  /-- Upserting a process whose id is there succeeds and changes nothing. -/
  process_again : ∀ p name, Sql.hasRowid t.process p.hash.toInt64 = true →
    (h.exec (upsertProcess p name)).2 = .ok () ∧
      L.view (h.exec (upsertProcess p name)).1.conn = L.view h.conn
  /-- Upserting a range whose id is there succeeds, returns its id and changes nothing. -/
  range_again : ∀ k : RangeKey, Sql.hasRowid t.range k.hash.toInt64 = true →
    (h.exec (upsertRange k)).2 = .ok k.hash.toInt64 ∧
      L.view (h.exec (upsertRange k)).1.conn = L.view h.conn

variable {L : Documented σ} {h : Handle σ} {past : Past}

/-- Every store a program reaches from a new database holds the invariant, for what it wrote
successfully. -/
theorem invariant_of_reachable (hr : Reachable L h past) : ∃ t, Invariant L h past t := by
  obtain ⟨t, hv, hs⟩ := hr.settled
  have hc : (L.view h.conn).content = .store t := by
    rw [hv]
  have he : (L.view h.conn).enforcing = true := by
    rw [hv]
  have hord : t.Ordered := L.ordered h.conn t hc
  refine ⟨t, hv, hs, ?_, ?_, hord.1.nodup, hord.2.1.nodup, ?_, ?_⟩
  · rw [exec_measurementCount hc, hs.length_measurement]
  · rw [← hs.length_measurement]
    exact hs.seqs_perm
  · intro p name hp
    exact exec_upsertProcess_of_hasRowid name hc hp
  · intro k hk
    exact exec_upsertRange_of_hasRowid hc he hk

end

/-- A store of the reference engine holds the invariant after a process row, a snapshot with
mappings, a close and a reopening, and the same snapshot written again. -/
theorem invariant_of_reopened :
    let p : ProcessId := ⟨1, 0⟩
    let heap : RangeKey := ⟨p, 4096, 8192, "rw-p", "[heap]"⟩
    let s : Snapshot := { time := 1000, process := p, ranges := [⟨heap, 4, 4⟩, ⟨heap, 8, 8⟩] }
    let c₁ := Call.upsertProcess p "app"
    let c₂ := Call.insertSnapshot s
    let h₀ := Handle.opened (Engine.fresh : Reference.Conn)
    let h₁ := (h₀.exec c₁.run).1
    let h₂ := (h₁.exec c₂.run).1
    let h₃ := Handle.opened (Engine.reopen h₂.conn)
    let past₂ := c₂.after (h₁.exec c₂.run).2 (c₁.after (h₀.exec c₁.run).2 {})
    Reachable Reference.documented (h₃.exec c₂.run).1 (c₂.after (h₃.exec c₂.run).2 past₂) ∧
      ∃ t, Invariant Reference.documented (h₃.exec c₂.run).1
        (c₂.after (h₃.exec c₂.run).2 past₂) t := by
  intro p heap s c₁ c₂ h₀ h₁ h₂ h₃ past₂
  have hr₀ : Reachable Reference.documented h₀ {} := Reachable.of_blank rfl
  have hr₂ : Reachable Reference.documented h₂ past₂ := (hr₀.step (.call c₁ h₀ {})).step (.call c₂ h₁ _)
  have hr := hr₂.reopened.step (.call c₂ h₃ past₂)
  exact ⟨hr, invariant_of_reachable hr⟩

end Store
end MemoryRecorder
