import MemoryRecorder.Proofs.Store.Reachable

/-!
# Writes that go through

`Documented` lets a write fail whenever each of its outcomes adds rows, since a full database may
refuse them; on its own it never says that a write succeeds. An engine is `Complete` when it
fails a write of the store only when none of the write's outcomes is under the row limit, and
when its commits succeed.

On such an engine a snapshot is written whenever it can be (`exec_insertSnapshot_goes`): its
measurement is new, its sums do not overflow, its mappings are of its own process, and the tables
have room for its rows. So on every store a program reaches, writing such a snapshot returns its
measurement's id (`insertSnapshot_ok`).
-/

namespace MemoryRecorder
namespace Store

namespace Sql

variable {r : Row} {rows : List Row} {id : Int64}

theorem length_keepRow_le (r : Row) (rows : List Row) :
    (keepRow r rows).length ≤ rows.length + 1 := by
  unfold keepRow
  split
  · omega
  · exact Nat.le_of_eq length_insertRow

theorem hasRowid_keepRow_self (r : Row) (rows : List Row) :
    hasRowid (keepRow r rows) r.rowid = true := by
  cases h : hasRowid rows r.rowid
  · rw [keepRow_of_not_hasRowid h]
    exact hasRowid_of_mem (mem_insertRow.2 (.inl rfl))
  · rw [keepRow_of_hasRowid h]
    exact h

theorem hasRowid_keepRow (h : hasRowid rows id = true) : hasRowid (keepRow r rows) id = true := by
  obtain ⟨y, hy, rfl⟩ := hasRowid_iff.1 h
  exact hasRowid_of_mem (mem_keepRow_of_mem hy)

end Sql

namespace Tables

variable {t t' : Tables} {ms : List Mapping}

theorem size_putProcess_le (t : Tables) (r : Sql.Row) : (t.putProcess r).size ≤ t.size + 1 := by
  have := Sql.length_keepRow_le r t.process
  simp only [size, putProcess]
  omega

theorem PutRanges.size_le (h : t.PutRanges ms t') : t'.size ≤ t.size + ms.length := by
  induction ms generalizing t with
  | nil =>
      subst h
      omega
  | cons m ms ih =>
      obtain ⟨t1, ⟨-, rfl⟩, hrest⟩ := h
      have h1 := ih hrest
      have h2 := Sql.length_keepRow_le m.key.row t.range
      simp only [size, List.length_cons] at h1 ⊢
      omega

theorem PutRanges.hasRowid (h : t.PutRanges ms t') {id : Int64}
    (hid : Sql.hasRowid t.range id = true ∨ ∃ m ∈ ms, m.key.hash.toInt64 = id) :
    Sql.hasRowid t'.range id = true := by
  induction ms generalizing t with
  | nil =>
      subst h
      simpa using hid
  | cons m ms ih =>
      obtain ⟨t1, ⟨-, rfl⟩, hrest⟩ := h
      refine ih hrest ?_
      rcases hid with hid | ⟨m', hm', rfl⟩
      · exact .inl (Sql.hasRowid_keepRow hid)
      · rcases List.mem_cons.1 hm' with rfl | hm'
        · exact .inl (Sql.hasRowid_keepRow_self m'.key.row t.range)
        · exact .inr ⟨m', hm', rfl⟩

theorem PutSnapshot.size_le {s : Snapshot} {id : Int64} (h : t.PutSnapshot s id t') :
    t'.size ≤ t.size + 2 * s.ranges.length + 2 := by
  obtain ⟨t2, t3, rss, pss, hranges, -, hm, hadds⟩ := h
  have h1 := t.size_putProcess_le (s.process.row "")
  have h2 := hranges.size_le
  have h3 : t3.size = t2.size + 1 := by
    rw [hm.eq]
    simp only [size, Sql.length_insertRow]
    omega
  obtain ⟨rows, hdata, hvals⟩ := hadds.appended
  have hlen : rows.length = s.ranges.length := by
    simpa using congrArg List.length hvals
  have h4 : t'.size = t3.size + rows.length := by
    rw [hadds.others]
    simp only [size, hdata, List.length_append]
    omega
  omega

end Tables

theorem Sound.hasRowid_measurement {t : Tables} {past : Past} (hs : Sound t past) (id : Int64) :
    Sql.hasRowid t.measurement id = true ↔ id ∈ past.measurements := by
  have hfst : past.sequence.map Prod.fst = past.measurements := by
    simp only [Past.sequence, List.map_map]
    exact (List.map_congr_left fun _ _ => rfl).trans (List.zipIdx_map_fst 0 _)
  have hperm : (t.measurement.map (·.rowid)).Perm past.measurements := by
    have h := hs.sequence.map Prod.fst
    simp only [List.map_map, Function.comp_def] at h
    rwa [hfst] at h
  rw [Sql.hasRowid_iff, ← hperm.mem_iff, List.mem_map]

theorem Sound.nextSeq_unused {t : Tables} {past : Past} (hs : Sound t past)
    (hb : t.measurement.length < rowLimit) :
    (t.measurement.all fun m => Value.compare (m.col 1) (nextSeq t.measurement) != .eq) = true := by
  rw [hs.nextSeq_eq hb, List.all_eq_true]
  intro m hm
  obtain ⟨i, hi, hv⟩ := (hs.mem_seqs (m.col 1)).1 (List.mem_map_of_mem hm)
  have hne : Int64.ofNat i ≠ Int64.ofNat t.measurement.length := by
    intro h
    have := congrArg Int64.toInt h
    rw [Int64.toInt_ofNat_of_lt (by unfold rowLimit at hb; omega),
      Int64.toInt_ofNat_of_lt (by unfold rowLimit at hb; omega)] at this
    omega
  rw [hv]
  rcases Int64.lt_or_lt_of_ne hne with hlt | hlt
  · simp [Value.compare, SqlNum.compare, hlt]
  · simp [Value.compare, SqlNum.compare, hlt, Int64.not_lt.2 (Int64.le_of_lt hlt)]

section

variable {σ α β : Type} [Engine σ]

/-- A write that fails only when none of its documented outcomes is under the row limit. -/
def Refuses (step : σ → σ × Except Sql.DbError (List String × List (Array Value))) (s : σ)
    (ok : Tables → Prop) : Prop :=
  ∀ e, (step s).2 = .error e → ∀ t', ok t' → rowLimit ≤ t'.size

/-- What an engine that does what is documented may be taken to do on top: it fails a write of
the store's rows only when the write has no outcome under the row limit, and its commits
succeed. -/
structure Complete (L : Documented σ) : Prop where
  put_process : ∀ s t id pid start name, (L.view s).content = .store t →
    Refuses (Engine.runText processInsertSql [.int id, .int pid, .int start, .text name]) s
      (· = t.putProcess (processRow id pid start name))
  put_range : ∀ s t id process lo hi permission name,
    L.prepared s rangeInsertSql → (L.view s).content = .store t → (L.view s).enforcing = true →
    Refuses (Engine.stepCached rangeInsertSql
        [.int id, .int process, .int lo, .int hi, .text permission, .text name]) s
      (t.PutRange (rangeRow id process lo hi permission name) process)
  put_measurement : ∀ s t id process time (figures : List Int64), figures.length = 12 →
    L.prepared s measurementInsertSql → (L.view s).content = .store t →
    (L.view s).enforcing = true →
    Refuses (Engine.stepCached measurementInsertSql
        (.int id :: .int process :: .int time :: figures.map .int)) s
      (t.PutMeasurement id process time figures)
  put_data : ∀ s t rangeId mid rss pss,
    L.prepared s dataInsertSql → (L.view s).content = .store t → (L.view s).enforcing = true →
    Sql.Compact t.data →
    Refuses (Engine.stepCached dataInsertSql [.int rangeId, .int mid, .int rss, .int pss]) s
      (t.PutData rangeId mid rss pss)
  commit : ∀ s c, (L.view s).began = some c → (Engine.runBatch "COMMIT" s).2 = .ok ()

variable (L : Documented σ)

/-- A run from the view `v` that succeeds with a value and tables that `ok` allows for it. -/
def Goes (v : View) (ok : α → Tables → Prop) (r : Handle σ × Except StoreError α) : Prop :=
  ∃ a t', r.2 = .ok a ∧ ok a t' ∧ L.view r.1.conn = { v with content := .store t' }

variable {L} {h : Handle σ} {t t' : Tables}

theorem Goes.mono {v : View} {ok ok' : α → Tables → Prop} {r : Handle σ × Except StoreError α}
    (hr : Goes L v ok r) (himp : ∀ a t', ok a t' → ok' a t') : Goes L v ok' r := by
  obtain ⟨a, t', hr, hok, hv⟩ := hr
  exact ⟨a, t', hr, himp a t' hok, hv⟩

theorem Goes.bind {v : View} {m : StoreOn σ α} {f : α → StoreOn σ β}
    {ok : α → Tables → Prop} {ok' : β → Tables → Prop} (hm : Goes L v ok (h.exec m))
    (hf : ∀ a t1, ok a t1 → ∀ h1 : Handle σ, L.view h1.conn = { v with content := .store t1 } →
      Goes L { v with content := .store t1 } ok' (h1.exec (f a))) :
    Goes L v ok' (h.exec (m >>= f)) := by
  obtain ⟨a, t1, hr, hok, hv⟩ := hm
  rw [Handle.exec_bind_of_ok _ hr]
  exact hf a t1 hok _ hv

theorem Goes.then_pure {v : View} {m : StoreOn σ Unit} {b : β} {ok : Tables → Prop}
    (hm : Goes L v (fun _ => ok) (h.exec m)) :
    Goes L v (fun a t' => a = b ∧ ok t') (h.exec (m >>= fun _ => pure b)) := by
  obtain ⟨a, t', hr, hok, hv⟩ := hm
  rw [Handle.exec_bind_of_ok _ hr, Handle.exec_pure]
  exact ⟨b, t', rfl, ⟨rfl, hok⟩, hv⟩

/-- A write that refuses only outcomes past the row limit succeeds with an outcome under it. -/
theorem Writes.goes {f : σ → σ × Except Sql.DbError (List String × List (Array Value))}
    {s : σ} {ok : Tables → Prop} (hw : Writes L.view f s t ok) (hr : Refuses f s ok)
    (hok : ok t') (hb : t'.size < rowLimit) :
    ∃ t' names, ok t' ∧ (f s).2 = .ok (names, []) ∧
      L.view (f s).1 = { L.view s with content := .store t' } := by
  rcases hw with hw | ⟨-, e, he, -⟩
  · exact hw
  · exact absurd (hr e he t' hok) (Nat.not_le.2 hb)

theorem exec_write_goes {f : σ → σ × Except Sql.DbError (List String × List (Array Value))}
    {ok : Tables → Prop} (hw : Writes L.view f h.conn t ok) (hr : Refuses f h.conn ok)
    (hok : ok t') (hb : t'.size < rowLimit) :
    Goes L (L.view h.conn) (fun _ => ok) (h.exec (do
      let (_, rows) ← onEngine f
      if !rows.isEmpty then throw (StoreError.sqlite .returnedResults))) := by
  obtain ⟨t'', names, hok', hr', hv⟩ := hw.goes hr hok hb
  rw [exec_write_of_ok hr']
  exact ⟨(), t'', rfl, hok', hv⟩

theorem exec_executeCached_goes {sql : String} {params : List Value} {ok : Tables → Prop}
    (hsql : sql ∈ cachedSql) (hc : (L.view h.conn).content = .store t)
    (hw : ∀ s, L.prepared s sql → L.view s = L.view h.conn →
      Writes L.view (Engine.stepCached sql params) s t ok ∧
        Refuses (Engine.stepCached sql params) s ok)
    (hok : ok t') (hb : t'.size < rowLimit) :
    Goes L (L.view h.conn) (fun _ => ok) (h.exec (executeCached sql params)) := by
  obtain ⟨hprepared, hprep⟩ := L.prepare_ok h.conn t sql hc hsql
  have hview : L.view (Engine.prepareCached sql h.conn).1 = L.view h.conn := L.prepare h.conn sql
  obtain ⟨hw', hr'⟩ := hw _ hprep hview
  have hstep := exec_write_goes (h := { h with conn := (Engine.prepareCached sql h.conn).1 })
    hw' hr' hok hb
  unfold executeCached
  rw [Handle.exec_bind_ok _ (Handle.exec_onEngine_ok hprepared)]
  rw [hview] at hstep
  exact hstep

/-! ## The store's writes -/

section Writes

variable (hL : Complete L)
include hL

theorem exec_upsertProcess_goes (p : ProcessId) (name : String)
    (hc : (L.view h.conn).content = .store t) (hb : (t.putProcess (p.row name)).size < rowLimit) :
    Goes L (L.view h.conn) (fun _ t' => t' = t.putProcess (p.row name))
      (h.exec (upsertProcess p name)) :=
  exec_write_goes (L.put_process h.conn t _ _ _ name hc) (hL.put_process h.conn t _ _ _ name hc)
    rfl hb

theorem exec_upsertRange_goes (k : RangeKey) (hc : (L.view h.conn).content = .store t)
    (he : (L.view h.conn).enforcing = true)
    (hfk : Sql.hasRowid t.range k.hash.toInt64 = true ∨
      Sql.hasRowid t.process k.process.hash.toInt64 = true)
    (hb : ({ t with range := Sql.keepRow k.row t.range } : Tables).size < rowLimit) :
    Goes L (L.view h.conn)
      (fun a t' => a = k.hash.toInt64 ∧ t.PutRange k.row k.process.hash.toInt64 t')
      (h.exec (upsertRange k)) :=
  Goes.then_pure (exec_executeCached_goes (by simp [cachedSql]) hc (fun s hp hs =>
    ⟨L.put_range s t _ _ _ _ _ _ hp (hs ▸ hc) (hs ▸ he),
      hL.put_range s t _ _ _ _ _ _ hp (hs ▸ hc) (hs ▸ he)⟩) ⟨hfk, rfl⟩ hb)

theorem exec_insertMeasurement_goes {s : Snapshot} {rss pss : UInt64}
    (hsums : s.sums = .ok (rss, pss)) (hc : (L.view h.conn).content = .store t)
    (he : (L.view h.conn).enforcing = true)
    (hput : t.PutMeasurement (measurementId s.process s.time) s.process.hash.toInt64 s.time
      (s.figures rss pss) t') (hb : t'.size < rowLimit) :
    Goes L (L.view h.conn)
      (fun id t' => id = measurementId s.process s.time ∧
        t.PutMeasurement id s.process.hash.toInt64 s.time (s.figures rss pss) t')
      (h.exec (insertMeasurement s)) := by
  rw [insertMeasurement_of_sums hsums]
  refine Goes.mono (Goes.then_pure (exec_executeCached_goes (by simp [cachedSql]) hc
    (fun c hp hv => ⟨L.put_measurement c t _ _ _ (s.figures rss pss) rfl hp (hv ▸ hc) (hv ▸ he),
      hL.put_measurement c t _ _ _ (s.figures rss pss) rfl hp (hv ▸ hc) (hv ▸ he)⟩) hput hb)) ?_
  rintro a t' ⟨rfl, hok⟩
  exact ⟨rfl, hok⟩

theorem exec_rangeRounds_goes (ms : List Mapping) :
    ∀ (h : Handle σ) (t : Tables), (L.view h.conn).content = .store t →
      (L.view h.conn).enforcing = true →
      (∀ m ∈ ms, Sql.hasRowid t.range m.key.hash.toInt64 = true ∨
        Sql.hasRowid t.process m.key.process.hash.toInt64 = true) →
      t.size + ms.length < rowLimit →
      Goes L (L.view h.conn) (fun _ t' => t.PutRanges ms t')
        (h.exec (forIn ms PUnit.unit rangeRound)) := by
  induction ms with
  | nil =>
      intro h t hc _ _ _
      rw [Handle.exec_forIn_nil]
      exact ⟨PUnit.unit, t, rfl, rfl, (View.with_content_of_eq hc).symm⟩
  | cons m ms ih =>
      intro h t hc he hfk hroom
      have hb : ({ t with range := Sql.keepRow m.key.row t.range } : Tables).size < rowLimit := by
        have := Sql.length_keepRow_le m.key.row t.range
        simp only [Tables.size, List.length_cons] at hroom ⊢
        omega
      obtain ⟨a, t1, hr, ⟨-, hput⟩, hv⟩ :=
        exec_upsertRange_goes hL m.key hc he (hfk m List.mem_cons_self) hb
      have hround : h.exec (rangeRound m PUnit.unit) =
          ((h.exec (upsertRange m.key)).1, .ok (.yield PUnit.unit)) := by
        rw [rangeRound, Handle.exec_bind_of_ok _ hr, Handle.exec_pure]
      rw [Handle.exec_forIn_cons_of_yield ms (by rw [hround]), hround]
      obtain ⟨hfk1, rfl⟩ := hput
      have hrest := ih _ { t with range := Sql.keepRow m.key.row t.range } (by rw [hv])
        (by rw [hv]; exact he)
        (fun m' hm' => (hfk m' (List.mem_cons_of_mem m hm')).imp Sql.hasRowid_keepRow id)
        (by
          have := Sql.length_keepRow_le m.key.row t.range
          simp only [Tables.size, List.length_cons] at hroom ⊢
          omega)
      rw [hv] at hrest
      exact hrest.mono fun _ t' h' => ⟨_, ⟨hfk1, rfl⟩, h'⟩

theorem exec_dataRounds_goes (mid : Int64) (ms : List Mapping) :
    ∀ (h : Handle σ) (t : Tables), L.prepared h.conn dataInsertSql →
      (L.view h.conn).content = .store t → (L.view h.conn).enforcing = true →
      Sql.Compact t.data → (∀ m ∈ ms, Sql.hasRowid t.range m.key.hash.toInt64 = true) →
      Sql.hasRowid t.measurement mid = true → t.size + ms.length < rowLimit →
      Goes L (L.view h.conn) (fun _ t' => t.AddsData mid ms t')
        (h.exec (forIn ms PUnit.unit (dataRound mid))) := by
  induction ms with
  | nil =>
      intro h t _ hc _ hcompact _ _ _
      rw [Handle.exec_forIn_nil]
      exact ⟨PUnit.unit, t, rfl, Tables.AddsData.nil hcompact, (View.with_content_of_eq hc).symm⟩
  | cons m ms ih =>
      intro h t hp hc he hcompact hranges hmid hroom
      have hdata : t.data.length < rowLimit := by
        simp only [Tables.size, List.length_cons] at hroom
        omega
      obtain ⟨n, hn, -, -⟩ := Sql.nextRowid?_of_compact hcompact hdata
      obtain ⟨t1, hput⟩ : ∃ t1, t.PutData m.key.hash.toInt64 mid m.rss.toInt64 m.pss.toInt64 t1 :=
        ⟨_, hranges m List.mem_cons_self, hmid, n, (Sql.freshRowid_iff hn).2 rfl, rfl⟩
      have hsize : t1.size = t.size + 1 := by
        obtain ⟨-, -, k, -, rfl⟩ := hput
        simp only [Tables.size, Sql.length_insertRow]
        omega
      obtain ⟨t1', names, hok, hr, hv⟩ := (L.put_data h.conn t _ mid _ _ hp hc he).goes
        (hL.put_data h.conn t _ mid _ _ hp hc he hcompact) hput (by
          simp only [List.length_cons] at hroom
          omega)
      have hround : (h.exec (dataRound mid m PUnit.unit)).2 = .ok (.yield PUnit.unit) := by
        simp [dataRound, word, Handle.exec_bind, Handle.exec_onEngine, hr]
      have hv1 : L.view (h.exec (dataRound mid m PUnit.unit)).1.conn =
          { L.view h.conn with content := .store t1' } := by
        simp [dataRound, word, Handle.exec_bind, Handle.exec_onEngine, hr, hv]
      obtain ⟨row, rfl, -, hcompact1⟩ := Tables.PutData.append hok hcompact hdata
      rw [Handle.exec_forIn_cons_of_yield ms hround]
      have hrest := ih _ _ (prepared_dataRound m hp) (by rw [hv1]) (by rw [hv1]; exact he)
        hcompact1 (fun m' hm' => hranges m' (List.mem_cons_of_mem m hm')) hmid (by
          simp only [Tables.size, List.length_append, List.length_cons, List.length_nil]
            at hroom ⊢
          omega)
      rw [hv1] at hrest
      exact hrest.mono fun _ t' h' => Tables.AddsData.cons hok hcompact hdata h'

theorem exec_insertData_goes (mid : Int64) (ms : List Mapping)
    (hc : (L.view h.conn).content = .store t) (he : (L.view h.conn).enforcing = true)
    (hcompact : Sql.Compact t.data) (hranges : ∀ m ∈ ms, Sql.hasRowid t.range m.key.hash.toInt64 = true)
    (hmid : Sql.hasRowid t.measurement mid = true) (hroom : t.size + ms.length < rowLimit) :
    Goes L (L.view h.conn) (fun _ t' => t.AddsData mid ms t') (h.exec (insertData mid ms)) := by
  obtain ⟨hok, hprep⟩ := L.prepare_ok h.conn t dataInsertSql hc (by simp [cachedSql])
  have hview : L.view (Engine.prepareCached dataInsertSql h.conn).1 = L.view h.conn :=
    L.prepare h.conn dataInsertSql
  rw [insertData_eq, Handle.exec_bind_ok _ (Handle.exec_onEngine_ok hok)]
  have hloop := exec_dataRounds_goes hL mid ms { h with conn := (Engine.prepareCached dataInsertSql h.conn).1 } t
    hprep (by rw [hview]; exact hc) (by rw [hview]; exact he) hcompact hranges hmid hroom
  rw [hview] at hloop
  obtain ⟨a, t', hr, hadds, hv⟩ := hloop
  rw [Handle.exec_bind_of_ok _ hr, Handle.exec_pure]
  exact ⟨(), t', rfl, hadds, hv⟩

/-- A transaction whose work goes through commits what the work left. -/
theorem exec_inTransaction_goes {work : StoreOn σ α} {ok : α → Tables → Prop}
    (hb : (L.view h.conn).began = none)
    (hwork : ∀ h1 : Handle σ,
      L.view h1.conn = { L.view h.conn with began := some (L.view h.conn).content } →
      Goes L (L.view h1.conn) ok (h1.exec work)) :
    Goes L (L.view h.conn) ok (h.exec (inTransaction work)) := by
  obtain ⟨hbegin, hv1⟩ := L.begin h.conn hb
  have hrun : h.exec (executeBatch "BEGIN DEFERRED") =
      ({ h with conn := (Engine.runBatch "BEGIN DEFERRED" h.conn).1 }, .ok ()) :=
    Handle.exec_onEngine_ok hbegin
  rw [inTransaction_eq, Handle.exec_bind_ok _ hrun]
  obtain ⟨a, t', hr, hok, hv⟩ :=
    hwork { h with conn := (Engine.runBatch "BEGIN DEFERRED" h.conn).1 } hv1
  rw [Handle.exec_bind_of_ok _ (by rw [Handle.exec_tryCatch_of_ok _ hr]; exact hr),
    Handle.exec_tryCatch_of_ok _ hr]
  obtain ⟨h2, hh2⟩ : ∃ h2 : Handle σ, h2 = (({ h with conn :=
      (Engine.runBatch "BEGIN DEFERRED" h.conn).1 } : Handle σ).exec work).1 := ⟨_, rfl⟩
  rw [← hh2]
  rw [← hh2, hv1] at hv
  have hcommit := hL.commit h2.conn (L.view h.conn).content (by rw [hv])
  rcases L.commit h2.conn (L.view h.conn).content (by rw [hv]) with ⟨-, hvc⟩ | ⟨e, he, -⟩
  · have hrun : h2.exec (executeBatch "COMMIT") =
        ({ h2 with conn := (Engine.runBatch "COMMIT" h2.conn).1 }, .ok ()) :=
      Handle.exec_onEngine_ok hcommit
    have hok2 : (h2.exec (executeBatch "COMMIT")).2 = .ok () := by
      rw [hrun]
    rw [Handle.exec_bind_of_ok _ (by rw [Handle.exec_tryCatch_of_ok _ hok2]; exact hok2),
      Handle.exec_tryCatch_of_ok _ hok2, hrun, Handle.exec_pure]
    refine ⟨a, t', rfl, hok, ?_⟩
    show L.view (Engine.runBatch "COMMIT" h2.conn).1 = _
    rw [hvc, hv]
    cases hview : L.view h.conn
    simp_all
  · rw [hcommit] at he
    cases he

/-- Writing a snapshot from a handle on sound tables, with foreign keys enforced and no
transaction open, goes through when its measurement is new, its sums do not overflow, its
mappings are of its own process, and the tables have room for its rows. -/
theorem exec_insertSnapshot_goes {past : Past}
    (hv : L.view h.conn = { content := .store t, enforcing := true }) (hs : Sound t past)
    {s : Snapshot} {rss pss : UInt64} (hsums : s.sums = .ok (rss, pss))
    (hnew : measurementId s.process s.time ∉ past.measurements)
    (hown : ∀ m ∈ s.ranges, m.key.process = s.process)
    (hroom : t.size + 2 * s.ranges.length + 2 < rowLimit) :
    Goes L (L.view h.conn) (fun id t' => id = measurementId s.process s.time ∧
      t.PutSnapshot s id t') (h.exec (insertSnapshot s)) := by
  rw [insertSnapshot_eq]
  refine exec_inTransaction_goes hL (by rw [hv]) fun h1 hv1 => ?_
  rw [hv] at hv1
  have he1 : (L.view h1.conn).enforcing = true := by
    rw [hv1]
  -- the process row
  have hsize1 := Tables.size_putProcess_le t (s.process.row "")
  refine Goes.bind (exec_upsertProcess_goes hL s.process "" (by rw [hv1]) (by omega)) ?_
  rintro - t1 rfl h2 hv2
  rw [← hv2]
  have he2 : (L.view h2.conn).enforcing = true := by
    rw [hv2]
    exact he1
  -- the range rows, each under the process row just written
  have hproc : Sql.hasRowid (t.putProcess (s.process.row "")).process s.process.hash.toInt64 =
      true := Sql.hasRowid_keepRow_self (s.process.row "") t.process
  refine Goes.bind (exec_rangeRounds_goes hL s.ranges h2 _ (by rw [hv2]) he2
    (fun m hm => .inr (by rw [hown m hm]; exact hproc)) (by omega)) ?_
  rintro - t2 hranges h3 hv3
  rw [← hv3]
  have he3 : (L.view h3.conn).enforcing = true := by
    rw [hv3]
    exact he2
  have h2eq := hranges.eq
  have hsize2 := hranges.size_le
  -- the measurement row, new and numbered past every other
  have hmeas2 : t2.measurement = t.measurement := by
    rw [h2eq]
    rfl
  have hlen : t.measurement.length < rowLimit := by
    simp only [Tables.size] at hroom
    omega
  have hnew2 : Sql.hasRowid t2.measurement (measurementId s.process s.time) = false := by
    rw [hmeas2]
    cases hid : Sql.hasRowid t.measurement (measurementId s.process s.time)
    · rfl
    · exact absurd ((hs.hasRowid_measurement _).1 hid) hnew
  have hseq2 := hs.nextSeq_unused hlen
  rw [← hmeas2] at hseq2
  have hproc2 : Sql.hasRowid t2.process s.process.hash.toInt64 = true := by
    rw [h2eq]
    exact hproc
  obtain ⟨t3', hput3⟩ : ∃ t3', t2.PutMeasurement (measurementId s.process s.time)
      s.process.hash.toInt64 s.time (s.figures rss pss) t3' := ⟨_, hnew2, hseq2, hproc2, rfl⟩
  have hsize3 : t3'.size = t2.size + 1 := by
    rw [hput3.eq]
    simp only [Tables.size, Sql.length_insertRow]
    omega
  refine Goes.bind (exec_insertMeasurement_goes hL hsums (by rw [hv3]) he3
    hput3 (by omega)) ?_
  rintro id t3 ⟨rfl, hm3⟩ h4 hv4
  rw [← hv4]
  have he4 : (L.view h4.conn).enforcing = true := by
    rw [hv4]
    exact he3
  -- the data rows, under the range rows and the measurement row just written
  have h3eq := hm3.eq
  have hcompact : Sql.Compact t3.data := by
    rw [h3eq, h2eq]
    exact hs.compact
  have hranges3 : ∀ m ∈ s.ranges, Sql.hasRowid t3.range m.key.hash.toInt64 = true := by
    intro m hm
    rw [h3eq]
    exact hranges.hasRowid (.inr ⟨m, hm, rfl⟩)
  have hmid : Sql.hasRowid t3.measurement (measurementId s.process s.time) = true := by
    rw [h3eq]
    exact Sql.hasRowid_of_mem (Sql.mem_insertRow.2 (.inl rfl))
  have hsize4 : t3.size = t2.size + 1 := by
    rw [h3eq, ← hput3.eq]
    exact hsize3
  refine Goes.bind (exec_insertData_goes hL _ s.ranges (by rw [hv4]) he4
    hcompact hranges3 hmid (by omega)) ?_
  rintro - t4 hadds h5 hv5
  rw [Handle.exec_pure]
  exact ⟨_, t4, rfl, ⟨rfl, t2, t3, rss, pss, hranges, hsums, hm3, hadds⟩, hv5⟩

/-- Writing a snapshot whose sums overflow, from a handle on tables with foreign keys enforced and
no transaction open, fails with the overflow when its mappings are of its own process and the
tables have room for their rows: its process and range rows go in, and the transaction takes them
out again. -/
theorem exec_insertSnapshot_overflow
    (hv : L.view h.conn = { content := .store t, enforcing := true })
    {s : Snapshot} {site : OverflowSite} (hsums : s.sums = .error site)
    (hown : ∀ m ∈ s.ranges, m.key.process = s.process)
    (hroom : t.size + s.ranges.length + 1 < rowLimit) :
    (h.exec (insertSnapshot s)).2 = .error (.overflow site) ∧
      L.view (h.exec (insertSnapshot s)).1.conn = L.view h.conn := by
  rw [insertSnapshot_eq]
  refine exec_inTransaction_of_error (by rw [hv]) fun h1 hv1 => ?_
  rw [hv] at hv1
  have he1 : (L.view h1.conn).enforcing = true := by
    rw [hv1]
  have hsize1 := Tables.size_putProcess_le t (s.process.row "")
  obtain ⟨a1, t1, hr1, rfl, hv2⟩ :=
    exec_upsertProcess_goes hL s.process "" (h := h1) (by rw [hv1]) (by omega)
  rw [Handle.exec_bind_of_ok _ hr1]
  have hproc : Sql.hasRowid (t.putProcess (s.process.row "")).process s.process.hash.toInt64 =
      true := Sql.hasRowid_keepRow_self (s.process.row "") t.process
  obtain ⟨a2, t2, hr2, -, hv3⟩ := exec_rangeRounds_goes hL s.ranges _ _ (by rw [hv2])
    (by rw [hv2]; exact he1) (fun m hm => .inr (by rw [hown m hm]; exact hproc)) (by omega)
  -- the sums stop the work before the measurement row
  rw [Handle.exec_bind_of_ok _ hr2, insertMeasurement_of_overflow hsums,
    Handle.exec_bind_error _ (Handle.exec_throw _ _)]
  refine ⟨rfl, .inr ⟨.store t2, ?_⟩⟩
  rw [hv3, hv2, hv1, hv]

end Writes

variable {past : Past}

/-- On a complete engine, from every store a program reaches, writing a snapshot whose
measurement is new, whose sums do not overflow and whose mappings are of its own process returns
its measurement's id when the tables have room for its rows. The store it leaves is reached, with
the snapshot recorded, on tables grown by at most those rows. -/
theorem insertSnapshot_ok (hL : Complete L) (hr : Reachable L h past)
    (hv : L.view h.conn = { content := .store t, enforcing := true }) {s : Snapshot}
    (hsums : ∃ rss pss, s.sums = .ok (rss, pss))
    (hnew : measurementId s.process s.time ∉ past.measurements)
    (hown : ∀ m ∈ s.ranges, m.key.process = s.process)
    (hroom : t.size + 2 * s.ranges.length + 2 < rowLimit) :
    (h.exec (insertSnapshot s)).2 = .ok (measurementId s.process s.time) ∧
      Reachable L (h.exec (insertSnapshot s)).1
        (past.afterSnapshot s (measurementId s.process s.time)) ∧
      ∃ t', L.view (h.exec (insertSnapshot s)).1.conn = { content := .store t', enforcing := true } ∧
        t'.size ≤ t.size + 2 * s.ranges.length + 2 := by
  obtain ⟨t0, hv0, hs⟩ := hr.settled
  obtain rfl : t0 = t := by
    have := hv0.symm.trans hv
    simp only [View.mk.injEq, Content.store.injEq] at this
    exact this.1
  obtain ⟨rss, pss, hsums⟩ := hsums
  obtain ⟨a, t', hok, ⟨rfl, hput⟩, hv'⟩ := exec_insertSnapshot_goes hL hv0 hs hsums hnew hown hroom
  have hrun : h.exec (Call.insertSnapshot s).run = ((h.exec (insertSnapshot s)).1, .ok ()) := by
    show h.exec (insertSnapshot s >>= fun _ => pure ()) = _
    rw [Handle.exec_bind_of_ok _ hok, Handle.exec_pure]
  have hr' := Reachable.step hr (Step.call (.insertSnapshot s) h past)
  rw [hrun] at hr'
  exact ⟨hok, hr', t', by rw [hv', hv0], hput.size_le⟩

end

end Store
end MemoryRecorder
