import MemoryRecorder.Proofs.Store.Listing
import MemoryRecorder.Proofs.Store.Reachable

/-!
# The system samples a program inserts

A program that uses a store passes it system samples to insert, among its other writes and
reads (`Logged`, beside `Reachable`, keeps them in order). The system table numbers its rows
itself and the store deletes none, so the samples stay there as they were passed, the first
inserted under the smallest id (`Tables.Logs`): each row holds a sample's time and its twelve
figures, the words under their bits (`Sql.Row.sample_systemRow`), and while the database has room
for one more row, the rows are the samples passed, in order.

That holds of every handle a program reaches (`Logged.logs`), from one lemma per kind of step:
every write but a system insert keeps the system rows and never lowers the number of rows
(`Tables.Grows`), and a system insert puts its sample in (`Tables.Logs.addSystem`). The
measurement rows keep OOM values that are 32-bit words (`Tables.OomFits`), as the store writes
them, so that every measurement reads back.
-/

namespace MemoryRecorder

namespace SystemSnapshot

/-- The values of the system row of a sample: its time and its twelve figures, each word under
its bits. -/
def values (s : SystemSnapshot) : List Int64 :=
  [s.time, s.memInfo.memTotal.toInt64, s.memInfo.memFree.toInt64,
    s.memInfo.memAvailable.toInt64, s.memInfo.buffers.toInt64, s.memInfo.cached.toInt64,
    s.memInfo.swapCache.toInt64, s.memInfo.swapTotal.toInt64, s.memInfo.swapFree.toInt64,
    s.memInfo.anonPages.toInt64, s.memInfo.mapped.toInt64, s.memInfo.shmem.toInt64,
    s.memInfo.sReclaimable.toInt64]

end SystemSnapshot

namespace Store

namespace Sql

def Row.sample (r : Row) : SystemSnapshot :=
  ⟨r.intAt 1, ⟨(r.intAt 2).toUInt64, (r.intAt 3).toUInt64, (r.intAt 4).toUInt64,
    (r.intAt 5).toUInt64, (r.intAt 6).toUInt64, (r.intAt 7).toUInt64, (r.intAt 8).toUInt64,
    (r.intAt 9).toUInt64, (r.intAt 10).toUInt64, (r.intAt 11).toUInt64, (r.intAt 12).toUInt64,
    (r.intAt 13).toUInt64⟩⟩

@[simp]
theorem Row.sample_systemRow (id : Int64) (s : SystemSnapshot) :
    (systemRow id s.values).sample = s := by
  obtain ⟨time, ⟨a, b, c, d, e, f, g, i, j, k, l, m⟩⟩ := s
  simp [systemRow, Row.sample, Row.intAt, Row.col, SystemSnapshot.values, Value.intValue]

end Sql

/-! ## Rows a write keeps -/

theorem Sql.length_le_keepRow (r : Sql.Row) (rows : List Sql.Row) :
    rows.length ≤ (Sql.keepRow r rows).length := by
  unfold Sql.keepRow
  split
  · exact Nat.le_refl _
  · rw [Sql.length_insertRow]
    exact Nat.le_succ _

namespace Tables

/-- Tables that hold the system rows of others and at least as many rows: what every write of
the store but a system insert leaves. -/
def Grows (t t' : Tables) : Prop :=
  t'.system = t.system ∧ t.size ≤ t'.size

variable {t t1 t' : Tables}

theorem Grows.refl (t : Tables) : t.Grows t :=
  ⟨rfl, Nat.le_refl _⟩

theorem Grows.trans (h1 : t.Grows t1) (h2 : t1.Grows t') : t.Grows t' :=
  ⟨h2.1.trans h1.1, Nat.le_trans h1.2 h2.2⟩

theorem grows_putProcess (t : Tables) (r : Sql.Row) : t.Grows (t.putProcess r) := by
  refine ⟨rfl, ?_⟩
  have := Sql.length_le_keepRow r t.process
  simp only [size, putProcess]
  omega

theorem PutRange.grows {r : Sql.Row} {process : Int64} (h : t.PutRange r process t') :
    t.Grows t' := by
  obtain ⟨-, rfl⟩ := h
  refine ⟨rfl, ?_⟩
  have := Sql.length_le_keepRow r t.range
  simp only [size]
  omega

theorem PutRanges.grows {ms : List Mapping} (h : t.PutRanges ms t') : t.Grows t' := by
  induction ms generalizing t with
  | nil =>
      rw [show t' = t from h]
      exact Grows.refl t
  | cons m ms ih =>
      obtain ⟨t1, hput, hrest⟩ := h
      exact hput.grows.trans (ih hrest)

theorem PutMeasurement.grows {id process time : Int64} {figures : List Int64}
    (h : t.PutMeasurement id process time figures t') : t.Grows t' := by
  obtain ⟨-, -, -, rfl⟩ := h
  refine ⟨rfl, ?_⟩
  simp only [size, Sql.length_insertRow]
  omega

theorem AddsData.grows {mid : Int64} {ms : List Mapping} (h : t.AddsData mid ms t') :
    t.Grows t' := by
  obtain ⟨rows, hdata, -⟩ := h.appended
  rw [h.others]
  refine ⟨rfl, ?_⟩
  simp only [size, hdata, List.length_append]
  omega

theorem PutSnapshot.grows {s : Snapshot} {id : Int64} (h : t.PutSnapshot s id t') :
    t.Grows t' := by
  obtain ⟨t2, t3, rss, pss, hranges, -, hm, hadds⟩ := h
  exact (((grows_putProcess t _).trans hranges.grows).trans hm.grows).trans hadds.grows

end Tables

def Call.samples : Call → List SystemSnapshot
  | .insertSystemSnapshot s => [s]
  | _ => []

namespace Call

variable {c : Call} {t t' : Tables}

theorem Effect.grows (hc : c.samples = []) (he : c.Effect t t') : t.Grows t' := by
  cases c with
  | upsertProcess p name =>
      rw [show t' = t.putProcess (p.row name) from he]
      exact Tables.grows_putProcess t _
  | upsertRange k => exact Tables.PutRange.grows he
  | insertMeasurement s =>
      obtain ⟨_, _, -, hput⟩ := he
      exact hput.grows
  | insertData mid ms => exact Tables.AddsData.grows he
  | insertSnapshot s => exact Tables.PutSnapshot.grows he
  | insertSystemSnapshot s => cases hc

theorem Failed.grows (hf : c.Failed t t') : t.Grows t' := by
  cases c with
  | insertData mid ms =>
      obtain ⟨n, -, hadds⟩ := hf
      exact hadds.grows
  | _ =>
      rw [show t' = t from hf]
      exact Tables.Grows.refl t

end Call

/-! ## OOM values -/

def Sql.Row.OomFits (m : Sql.Row) : Prop :=
  ∃ a b c : Int32, m.col 13 = .int a.toInt64 ∧ m.col 14 = .int b.toInt64 ∧
    m.col 15 = .int c.toInt64

def Tables.OomFits (t : Tables) : Prop :=
  ∀ m ∈ t.measurement, m.OomFits

namespace Tables

variable {t t' : Tables}

theorem OomFits.of_measurement_eq (h : t.OomFits) (he : t'.measurement = t.measurement) :
    t'.OomFits := by
  rw [OomFits, he]
  exact h

theorem OomFits.putMeasurement (h : t.OomFits) {s : Snapshot} {rss pss : UInt64}
    {id process time : Int64} (hput : t.PutMeasurement id process time (s.figures rss pss) t') :
    t'.OomFits := by
  obtain ⟨-, -, -, rfl⟩ := hput
  intro m hm
  rcases Sql.mem_insertRow.1 hm with rfl | hm
  · exact ⟨s.oom.adj, s.oom.score, s.oom.scoreAdj, rfl, rfl, rfl⟩
  · exact h m hm

theorem AddsData.measurement_eq {mid : Int64} {ms : List Mapping} (h : t.AddsData mid ms t') :
    t'.measurement = t.measurement := by
  rw [h.others]

theorem OomFits.putSnapshot (h : t.OomFits) {s : Snapshot} {id : Int64}
    (hput : t.PutSnapshot s id t') : t'.OomFits := by
  obtain ⟨t2, t3, rss, pss, hranges, -, hm, hadds⟩ := hput
  have h2 : t2.OomFits := h.of_measurement_eq (by rw [hranges.eq]; rfl)
  exact (h2.putMeasurement hm).of_measurement_eq hadds.measurement_eq

end Tables

namespace Call

variable {c : Call} {t t' : Tables}

theorem Effect.oomFits (h : t.OomFits) (he : c.Effect t t') : t'.OomFits := by
  cases c with
  | upsertProcess p name =>
      rw [show t' = t.putProcess (p.row name) from he]
      exact h
  | upsertRange k =>
      obtain ⟨-, rfl⟩ := he
      exact h
  | insertMeasurement s =>
      obtain ⟨_, _, -, hput⟩ := he
      exact h.putMeasurement hput
  | insertData mid ms => exact h.of_measurement_eq (Tables.AddsData.measurement_eq he)
  | insertSnapshot s => exact h.putSnapshot he
  | insertSystemSnapshot s => exact h.of_measurement_eq he.2.2.1

theorem Failed.oomFits (h : t.OomFits) (hf : c.Failed t t') : t'.OomFits := by
  cases c with
  | insertData mid ms =>
      obtain ⟨n, -, hadds⟩ := hf
      exact h.of_measurement_eq hadds.measurement_eq
  | _ =>
      rw [show t' = t from hf]
      exact h

end Call

/-! ## The system insert -/

section

variable {σ : Type} [Engine σ] {h : Handle σ} {t : Tables}

/-- Through an engine that numbers its system rows, a system insert succeeds and leaves the
tables `Tables.addSystem` gives: the insert's law leaves it no failure, since the tables as they
were are one of its outcomes, and the numbering law fixes the outcome. -/
theorem exec_insertSystemSnapshot_addSystem (L : ListingReads σ)
    (hc : (L.view h.conn).content = .store t) (s : SystemSnapshot) :
    (h.exec (Call.insertSystemSnapshot s).run).2 = .ok () ∧
      L.view (h.exec (Call.insertSystemSnapshot s).run).1.conn =
        { L.view h.conn with content := .store (t.addSystem s.values) } := by
  obtain ⟨-, names, -, hok, -⟩ :=
    Writes.succeeds (L.put_system h.conn t (s.values.map .int) hc) ⟨rfl, rfl, rfl, rfl⟩
  rcases L.add_system h.conn t s.values hc with ⟨-, names', rfl, hok', hview⟩ | ⟨-, e, herr, -⟩
  · have hrun : (Call.insertSystemSnapshot s).run =
        ((execute systemInsertSql (s.values.map .int) >>= fun _ => lastInsertRowid) >>=
          fun _ => pure () : StoreOn σ Unit) := rfl
    have hexec : h.exec (execute systemInsertSql (s.values.map .int)) =
        ({ h with conn := (Engine.runText systemInsertSql (s.values.map .int) h.conn).1 }, .ok ()) :=
      exec_write_of_ok hok'
    rw [hrun, Handle.exec_bind, Handle.exec_bind_ok _ hexec]
    exact ⟨rfl, hview⟩
  · rw [hok] at herr
    cases herr

end

/-! ## The log a program keeps -/

def Call.samplesOf : Option Call → List SystemSnapshot
  | some c => c.samples
  | none => []

section

variable {σ : Type} [Engine σ] (L : Documented σ)

/-- The handles a program reaches, with what it wrote successfully and the system samples it
passed the store, in the order it passed them. -/
inductive Logged : Handle σ → Past → List SystemSnapshot → Prop
  | start {c : σ} {h : Handle σ} (hc : L.view c = { content := .blank })
      (hopen : (Handle.start c).2 = .ok h) : Logged h {} []
  | step {l : Option Call} {h h' : Handle σ} {past past' : Past} {ss : List SystemSnapshot} :
      Logged h past ss → Step L l (h, past) (h', past') → Logged h' past' (ss ++ Call.samplesOf l)

variable {L} {h : Handle σ} {past : Past} {ss : List SystemSnapshot}

theorem Logged.reachable (hl : Logged L h past ss) : Reachable L h past := by
  induction hl with
  | start hc hopen => exact .start hc hopen
  | step _ hstep ih => exact .step ih hstep

theorem Logged.of_blank {c : σ} (hc : L.view c = { content := .blank }) :
    Logged L (Handle.opened c) {} [] := by
  obtain ⟨hstart, -⟩ := start_eq (L := L) (t := {}) (c := c) (by rw [hc]) (.inl ⟨by rw [hc], rfl⟩)
  exact Logged.start hc (by rw [hstart])

end

namespace Tables

/-- What tables hold of the system samples passed to the store, in order. Their system rows have
ids no greater than their number, and each is the row of the sample it holds. While the
database has room for one more row, the samples those rows hold are the ones passed. Their
measurement rows hold OOM values that are 32-bit words. -/
structure Logs (t : Tables) (ss : List SystemSnapshot) : Prop where
  compact : Sql.Compact t.system
  rows : ∀ r ∈ t.system, r = systemRow r.rowid r.sample.values
  samples : t.size + 1 < rowLimit → t.system.map Sql.Row.sample = ss
  oomFits : t.OomFits

variable {t t' : Tables} {ss : List SystemSnapshot}

theorem Logs.empty : ({} : Tables).Logs [] :=
  ⟨by simp [Sql.Compact], by simp, fun _ => rfl, by simp [OomFits]⟩

theorem Logs.grows (hl : t.Logs ss) (hg : t.Grows t') (hoom : t'.OomFits) : t'.Logs ss := by
  obtain ⟨hsys, hsize⟩ := hg
  refine ⟨hsys ▸ hl.compact, hsys ▸ hl.rows, fun hroom => ?_, hoom⟩
  rw [hsys]
  exact hl.samples (by omega)

/-- A system insert puts the sample's row last, under the id after the greatest, when the
database has room for it; on a full database it writes nothing, and the log claims nothing. -/
theorem Logs.addSystem (hl : t.Logs ss) (hb : t.size < rowLimit) (s : SystemSnapshot) :
    (t.addSystem s.values).Logs (ss ++ [s]) := by
  have hlen : t.system.length < rowLimit := by
    unfold size at hb
    omega
  obtain ⟨n, hn, hlt, hle⟩ := Sql.nextRowid?_of_compact hl.compact hlen
  have happ : Sql.insertRow (systemRow n s.values) t.system = t.system ++ [systemRow n s.values] :=
    Sql.insertRow_eq_append hlt
  unfold Tables.addSystem
  rw [hn]
  dsimp only
  split
  · rename_i hroom
    refine ⟨fun r hr => ?_, fun r hr => ?_, fun _ => ?_, hl.oomFits⟩
    · -- the new row's id is at most one past the number of rows before it
      rw [happ, List.length_append, List.length_singleton]
      rw [happ] at hr
      rcases List.mem_append.1 hr with hr | hr
      · have := hl.compact r hr
        omega
      · rw [List.mem_singleton.1 hr]
        exact hle
    · rw [happ] at hr
      rcases List.mem_append.1 hr with hr | hr
      · exact hl.rows r hr
      · rw [List.mem_singleton.1 hr, Sql.Row.sample_systemRow]
        rfl
    · rw [happ, List.map_append, hl.samples hroom]
      simp
  · rename_i hfull
    exact ⟨hl.compact, hl.rows, fun hroom => absurd hroom hfull, hl.oomFits⟩

end Tables

section

variable {σ : Type} [Engine σ] {h h' : Handle σ} {t : Tables} {past past' : Past}
  {ss : List SystemSnapshot}

/-- One step of a program keeps the log, with the samples the step passed the store added. -/
theorem Tables.Logs.step (L : ListingReads σ) {l : Option Call}
    (hv : L.view h.conn = { content := .store t, enforcing := true })
    (hcompact : Sql.Compact t.data) (hl : t.Logs ss)
    (hstep : Step L.toDocumented l (h, past) (h', past')) :
    ∃ t', L.view h'.conn = { content := .store t', enforcing := true } ∧
      t'.Logs (ss ++ Call.samplesOf l) := by
  obtain ⟨t', hv', hcase⟩ := Step.lands hv hcompact hstep
  refine ⟨t', hv', ?_⟩
  rcases hcase with ⟨rfl, rfl, -⟩ | ⟨c, rfl, hcall⟩
  · rw [Call.samplesOf, List.append_nil]
    exact hl
  · cases c with
    | insertSystemSnapshot s =>
        -- whatever outcome the step names, the insert left the tables `addSystem` gives
        cases hstep
        have hc : (L.view h.conn).content = .store t := by
          rw [hv]
        have hview := (exec_insertSystemSnapshot_addSystem L hc s).2
        rw [hv', hv] at hview
        obtain rfl : t' = t.addSystem s.values := by
          simpa using hview
        exact hl.addSystem (L.bounded _ t hc) s
    | _ =>
        show t'.Logs (ss ++ [])
        rw [List.append_nil]
        rcases hcall with ⟨heff, -⟩ | ⟨hfail, -⟩
        · exact hl.grows (heff.grows rfl) (heff.oomFits hl.oomFits)
        · exact hl.grows hfail.grows (hfail.oomFits hl.oomFits)

/-- Every handle a program reaches sees tables that hold the samples it passed the store. -/
theorem Logged.logs (L : ListingReads σ) (hl : Logged L.toDocumented h past ss) :
    ∃ t, L.view h.conn = { content := .store t, enforcing := true } ∧ t.Logs ss := by
  induction hl with
  | start hc hopen =>
      obtain ⟨hstart, hv⟩ := start_eq (L := L.toDocumented) (t := {}) (by rw [hc])
        (.inl ⟨by rw [hc], rfl⟩)
      rw [hstart] at hopen
      cases hopen
      exact ⟨{}, hv, Tables.Logs.empty⟩
  | step hprev hstep ih =>
      obtain ⟨t, hv, hlogs⟩ := ih
      -- the handle before the step is settled on the same tables, which are sound
      obtain ⟨t₀, hv₀, hs⟩ := hprev.reachable.settled
      obtain rfl : t₀ = t := by
        simpa using hv₀.symm.trans hv
      exact hlogs.step L hv hs.compact hstep

end

end Store
end MemoryRecorder
