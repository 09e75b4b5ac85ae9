import MemoryRecorder.Proofs.Store.Exec

/-!
# What the store's writes do through a handle

Every statement of the store reaches the engine through `onEngine`, so the engine's laws
(`Documented`) say what a write leaves of the handle's view. A single statement either succeeds
with one of its documented outcomes, or fails and leaves the view as it was or its transaction
rolled back (`Lands`). This module gives that for each write of the store, one lemma per
operation: a process, a range, a measurement, a system sample; for the loop of data rows, whose
failure keeps the rows written before it; and for a transaction around work, which commits the
work's outcome or leaves the view exactly as it found it.

The loops of the store are stated through their rounds (`dataRound`, `rangeRound`) and the
transaction through its rollback (`rollbackOpen`); each is the body the store's operation runs,
which the equations `insertData_eq`, `insertSnapshot_eq` and `inTransaction_eq` record.
-/

namespace MemoryRecorder
namespace Store

/-- A view inside the transaction begun from the view `v`, or back at `v` once the engine rolled
the transaction back. -/
def View.Within (v w : View) : Prop :=
  w = v ∨ ∃ c, w = { v with content := c, began := some v.content }

theorem View.undone_of_none {v : View} (h : v.began = none) : v.undone = v := by
  simp [View.undone, h]

theorem View.undone_within {v : View} (h : v.began = none) (c : Content) :
    ({ v with content := c, began := some v.content } : View).undone = v := by
  cases v
  simp_all [View.undone]

theorem View.undone_with_content {v : View} (hb : v.began ≠ none) (c : Content) :
    ({ v with content := c } : View).undone = v.undone := by
  obtain ⟨b, hb⟩ := Option.ne_none_iff_exists'.1 hb
  cases v
  simp_all [View.undone]

theorem View.with_content_of_eq {v : View} {c : Content} (h : v.content = c) :
    ({ v with content := c } : View) = v := by
  subst h
  rfl

theorem View.within_self (v : View) : v.Within v :=
  .inl rfl

theorem View.within_open (v : View) (c : Content) :
    v.Within { v with content := c, began := some v.content } :=
  .inr ⟨c, rfl⟩

section

variable {σ α β : Type} [Engine σ] (L : Documented σ)

/-- A run from the view `v` that succeeds with a value and tables that `ok` allows for it, or
fails and leaves the view as it was or its transaction rolled back. -/
def Lands (v : View) (ok : α → Tables → Prop) (r : Handle σ × Except StoreError α) : Prop :=
  (∃ a t', r.2 = .ok a ∧ ok a t' ∧ L.view r.1.conn = { v with content := .store t' }) ∨
    ∃ e, r.2 = .error e ∧ (L.view r.1.conn = v ∨ L.view r.1.conn = v.undone)

/-! ## Single statements -/

variable {L} {h : Handle σ} {t : Tables}

theorem Writes.succeeds {f : σ → σ × Except Sql.DbError (List String × List (Array Value))}
    {s : σ} {ok : Tables → Prop} (hw : Writes L.view f s t ok) (hok : ok t) :
    ∃ t' names, ok t' ∧ (f s).2 = .ok (names, []) ∧
      L.view (f s).1 = { L.view s with content := .store t' } := by
  rcases hw with hw | ⟨hgrow, -⟩
  · exact hw
  · exact absurd (hgrow t hok) (Nat.lt_irrefl _)

omit [Engine σ] in
theorem exec_write_of_ok {f : σ → σ × Except Sql.DbError (List String × List (Array Value))}
    {names : List String} (hr : (f h.conn).2 = .ok (names, [])) :
    h.exec (do
      let (_, rows) ← onEngine f
      if !rows.isEmpty then throw (StoreError.sqlite .returnedResults)) =
      ({ h with conn := (f h.conn).1 }, .ok ()) := by
  simp [Handle.exec_bind, Handle.exec_onEngine, hr]

/-- A write run for its changes lands where the engine's law puts it. -/
theorem exec_write {f : σ → σ × Except Sql.DbError (List String × List (Array Value))}
    {ok : Tables → Prop} (hw : Writes L.view f h.conn t ok) :
    Lands L (L.view h.conn) (fun _ => ok) (h.exec (do
      let (_, rows) ← onEngine f
      if !rows.isEmpty then throw (StoreError.sqlite .returnedResults))) := by
  rcases hw with ⟨t', names, hok, hr, hv⟩ | ⟨-, e, hr, hv⟩
  · rw [exec_write_of_ok hr]
    exact .inl ⟨(), t', rfl, hok, hv⟩
  · right
    refine ⟨.sqlite (.ofDb e), ?_, ?_⟩ <;>
      simp [Handle.exec_bind, Handle.exec_onEngine, hr, hv]

theorem exec_execute {sql : String} {params : List Value} {ok : Tables → Prop}
    (hw : Writes L.view (Engine.runText sql params) h.conn t ok) :
    Lands L (L.view h.conn) (fun _ => ok) (h.exec (execute sql params)) :=
  exec_write hw

/-- A statement the store keeps prepared: preparing it succeeds on the store and changes no view,
so its run lands where the law for the prepared statement puts it. -/
theorem exec_executeCached {sql : String} {params : List Value} {ok : Tables → Prop}
    (hsql : sql ∈ cachedSql) (hc : (L.view h.conn).content = .store t)
    (hw : ∀ s, L.prepared s sql → L.view s = L.view h.conn →
      Writes L.view (Engine.stepCached sql params) s t ok) :
    Lands L (L.view h.conn) (fun _ => ok) (h.exec (executeCached sql params)) := by
  obtain ⟨hok, hprep⟩ := L.prepare_ok h.conn t sql hc hsql
  have hview : L.view (Engine.prepareCached sql h.conn).1 = L.view h.conn := L.prepare h.conn sql
  have hstep := exec_write (h := { h with conn := (Engine.prepareCached sql h.conn).1 })
    (hw _ hprep hview)
  unfold executeCached
  rw [Handle.exec_bind_ok _ (Handle.exec_onEngine_ok hok)]
  rw [hview] at hstep
  exact hstep

theorem Lands.mono {v : View} {ok ok' : α → Tables → Prop} {r : Handle σ × Except StoreError α}
    (hr : Lands L v ok r) (himp : ∀ a t', ok a t' → ok' a t') : Lands L v ok' r := by
  rcases hr with ⟨a, t', hr, hok, hv⟩ | hfail
  · exact .inl ⟨a, t', hr, himp a t' hok, hv⟩
  · exact .inr hfail

theorem Lands.then {v : View} {m : StoreOn σ Unit} {k : StoreOn σ β} {ok : Tables → Prop}
    (hm : Lands L v (fun _ => ok) (h.exec m)) (hk : ∀ h' : Handle σ, ∃ b, h'.exec k = (h', .ok b)) :
    Lands L v (fun _ => ok) (h.exec (m >>= fun _ => k)) := by
  rcases hm with ⟨a, t', hr, hok, hv⟩ | ⟨e, hr, hv⟩
  · obtain ⟨b, hb⟩ := hk (h.exec m).1
    rw [Handle.exec_bind_of_ok _ hr, hb]
    exact .inl ⟨b, t', rfl, hok, hv⟩
  · rw [Handle.exec_bind_of_error _ hr]
    exact .inr ⟨e, rfl, hv⟩

theorem Lands.then_pure {v : View} {m : StoreOn σ Unit} {b : β} {ok : Tables → Prop}
    (hm : Lands L v (fun _ => ok) (h.exec m)) :
    Lands L v (fun a t' => a = b ∧ ok t') (h.exec (m >>= fun _ => pure b)) := by
  rcases hm with ⟨a, t', hr, hok, hv⟩ | ⟨e, hr, hv⟩
  · rw [Handle.exec_bind_of_ok _ hr, Handle.exec_pure]
    exact .inl ⟨b, t', rfl, ⟨rfl, hok⟩, hv⟩
  · rw [Handle.exec_bind_of_error _ hr]
    exact .inr ⟨e, rfl, hv⟩

/-! ## The store's writes -/

theorem exec_upsertProcess (p : ProcessId) (name : String)
    (hc : (L.view h.conn).content = .store t) :
    Lands L (L.view h.conn) (fun _ t' => t' = t.putProcess (p.row name))
      (h.exec (upsertProcess p name)) :=
  exec_execute (L.put_process h.conn t _ _ _ name hc)

theorem exec_upsertRange (k : RangeKey) (hc : (L.view h.conn).content = .store t)
    (he : (L.view h.conn).enforcing = true) :
    Lands L (L.view h.conn)
      (fun a t' => a = k.hash.toInt64 ∧ t.PutRange k.row k.process.hash.toInt64 t')
      (h.exec (upsertRange k)) :=
  Lands.then_pure (exec_executeCached (by simp [cachedSql]) hc fun s hp hs =>
    L.put_range s t _ _ _ _ _ _ hp (hs ▸ hc) (hs ▸ he))

theorem exec_upsertProcess_of_hasRowid {p : ProcessId} (name : String)
    (hc : (L.view h.conn).content = .store t)
    (hp : Sql.hasRowid t.process p.hash.toInt64 = true) :
    (h.exec (upsertProcess p name)).2 = .ok () ∧
      L.view (h.exec (upsertProcess p name)).1.conn = L.view h.conn := by
  have hsame : t.putProcess (processRow p.hash.toInt64 p.pid.toInt64 p.startTime.toInt64 name) = t := by
    rw [Tables.putProcess,
      Sql.keepRow_of_hasRowid (r := processRow p.hash.toInt64 p.pid.toInt64 p.startTime.toInt64 name) hp]
  obtain ⟨t', names, rfl, hr, hv⟩ := (L.put_process h.conn t _ _ _ name hc).succeeds hsame.symm
  simp only [upsertProcess, execute, word, small]
  rw [exec_write_of_ok hr]
  refine ⟨rfl, ?_⟩
  show L.view (Engine.runText processInsertSql _ h.conn).1 = _
  rw [hv, hsame, View.with_content_of_eq hc]

theorem exec_upsertRange_of_hasRowid {k : RangeKey} (hc : (L.view h.conn).content = .store t)
    (he : (L.view h.conn).enforcing = true) (hk : Sql.hasRowid t.range k.hash.toInt64 = true) :
    (h.exec (upsertRange k)).2 = .ok k.hash.toInt64 ∧
      L.view (h.exec (upsertRange k)).1.conn = L.view h.conn := by
  have hsame : ({ t with range := Sql.keepRow k.row t.range } : Tables) = t := by
    rw [Sql.keepRow_of_hasRowid (r := k.row) hk]
  obtain ⟨hok, hprep⟩ := L.prepare_ok h.conn t rangeInsertSql hc (by simp [cachedSql])
  have hview : L.view (Engine.prepareCached rangeInsertSql h.conn).1 = L.view h.conn :=
    L.prepare h.conn rangeInsertSql
  obtain ⟨t', names, ⟨-, ht'⟩, hr, hv⟩ := (L.put_range _ t _ _ _ _ _ _ hprep (hview ▸ hc)
    (hview ▸ he)).succeeds ⟨.inl hk, hsame.symm⟩
  have hkept : t' = t := ht'.trans hsame
  have hrun : h.exec (executeCached rangeInsertSql [word k.hash, word k.process.hash, word k.lo,
      word k.hi, .text k.permission, .text k.name]) =
      ({ h with conn := (Engine.stepCached rangeInsertSql [word k.hash, word k.process.hash,
        word k.lo, word k.hi, .text k.permission, .text k.name]
        (Engine.prepareCached rangeInsertSql h.conn).1).1 }, .ok ()) := by
    rw [executeCached, Handle.exec_bind_ok _ (Handle.exec_onEngine_ok hok)]
    exact exec_write_of_ok (f := Engine.stepCached rangeInsertSql [word k.hash, word k.process.hash,
      word k.lo, word k.hi, .text k.permission, .text k.name]) hr
  rw [upsertRange, Handle.exec_bind_ok _ hrun, Handle.exec_pure]
  refine ⟨rfl, hv.trans ?_⟩
  rw [hkept, hview, View.with_content_of_eq hc]

theorem insertMeasurement_of_overflow {s : Snapshot} {site : OverflowSite}
    (hs : s.sums = .error site) :
    (insertMeasurement s : StoreOn σ Int64) = throw (.overflow site) := by
  unfold insertMeasurement
  rw [hs]
  rfl

theorem insertMeasurement_of_sums {s : Snapshot} {rss pss : UInt64}
    (hs : s.sums = .ok (rss, pss)) :
    (insertMeasurement s : StoreOn σ Int64) = (do
      executeCached measurementInsertSql
        [.int (measurementId s.process s.time), word s.process.hash, .int s.time, word rss,
          word pss, word s.statm.size, word s.statm.resident, word s.statm.shared,
          word s.statm.text, word s.statm.lib, word s.statm.data, word s.statm.dt,
          small s.oom.adj, small s.oom.score, small s.oom.scoreAdj]
      pure (measurementId s.process s.time)) := by
  unfold insertMeasurement
  rw [hs]
  rfl

/-- Appending a measurement: an overflow of the sums fails before any statement; otherwise the
row is inserted with the next sequence number, and the measurement's id is returned. -/
theorem exec_insertMeasurement (s : Snapshot) (hc : (L.view h.conn).content = .store t)
    (he : (L.view h.conn).enforcing = true) :
    Lands L (L.view h.conn)
      (fun id t' => id = measurementId s.process s.time ∧ ∃ rss pss, s.sums = .ok (rss, pss) ∧
        t.PutMeasurement id s.process.hash.toInt64 s.time (s.figures rss pss) t')
      (h.exec (insertMeasurement s)) := by
  cases hs : s.sums with
  | error site =>
      rw [insertMeasurement_of_overflow hs, Handle.exec_throw]
      exact .inr ⟨_, rfl, .inl rfl⟩
  | ok sums =>
      obtain ⟨rss, pss⟩ := sums
      rw [insertMeasurement_of_sums hs]
      refine Lands.mono (Lands.then_pure (exec_executeCached (by simp [cachedSql]) hc
        fun c hp hv => L.put_measurement c t _ _ _ (s.figures rss pss) rfl hp (hv ▸ hc)
          (hv ▸ he))) ?_
      rintro a t' ⟨rfl, hok⟩
      exact ⟨rfl, rss, pss, rfl, hok⟩

theorem exec_insertSystemSnapshot (s : SystemSnapshot)
    (hc : (L.view h.conn).content = .store t) :
    Lands L (L.view h.conn) (fun _ => t.PutSystem) (h.exec (insertSystemSnapshot s)) :=
  Lands.then (exec_execute (L.put_system h.conn t _ hc)) fun _ => ⟨_, rfl⟩

/-! ## The data loop

The data rows of a measurement are inserted one statement each, so a failure keeps the rows
written before it, unless the engine rolled back the transaction they were written in. -/

variable (L) in
/-- A run from the view `v` that leaves the tables `t'`, or that failed and the engine rolled
back the transaction open at `v`. -/
def Leaves (v : View) (t' : Tables) (r : Handle σ × Except StoreError α) : Prop :=
  L.view r.1.conn = { v with content := .store t' } ∨
    (∃ e, r.2 = .error e) ∧ v.began ≠ none ∧ L.view r.1.conn = v.undone

def dataRound (mid : Int64) (m : Mapping) (_ : PUnit) : StoreOn σ (ForInStep PUnit) := do
  let (_, rows) ← onEngine (Engine.stepCached dataInsertSql
    [word m.key.hash, .int mid, word m.rss, word m.pss])
  if !rows.isEmpty then throw (.sqlite .returnedResults)
  pure (ForInStep.yield PUnit.unit)

theorem insertData_eq (mid : Int64) (ms : List Mapping) :
    (insertData mid ms : StoreOn σ Unit) = (do
      onEngine (Engine.prepareCached dataInsertSql)
      forIn ms PUnit.unit (dataRound mid)
      pure ()) := rfl

theorem prepared_dataRound {mid : Int64} (m : Mapping) (hp : L.prepared h.conn dataInsertSql) :
    L.prepared (h.exec (dataRound mid m PUnit.unit)).1.conn dataInsertSql := by
  have hstep := L.step_prepared h.conn dataInsertSql
    [word m.key.hash, .int mid, word m.rss, word m.pss] hp
  simp only [dataRound, Handle.exec_bind, Handle.exec_onEngine]
  rcases hr : (Engine.stepCached dataInsertSql
    [word m.key.hash, .int mid, word m.rss, word m.pss] h.conn).2 with e | ⟨names, rows⟩
  · simpa [hr] using hstep
  · cases rows <;> simpa [hr] using hstep

theorem exec_dataRound {mid : Int64} (m : Mapping) (hp : L.prepared h.conn dataInsertSql)
    (hc : (L.view h.conn).content = .store t) (he : (L.view h.conn).enforcing = true) :
    Lands L (L.view h.conn)
      (fun r t1 => r = .yield PUnit.unit ∧
        t.PutData m.key.hash.toInt64 mid m.rss.toInt64 m.pss.toInt64 t1)
      (h.exec (dataRound mid m PUnit.unit)) := by
  rcases L.put_data h.conn t _ mid _ _ hp hc he with ⟨t1, names, hok, hr, hv⟩ | ⟨-, e, hr, hv⟩
  · left
    refine ⟨.yield PUnit.unit, t1, ?_, ⟨rfl, hok⟩, ?_⟩ <;>
      simp [dataRound, word, Handle.exec_bind, Handle.exec_onEngine, hr, hv]
  · right
    refine ⟨.sqlite (.ofDb e), ?_, ?_⟩ <;>
      simp [dataRound, word, Handle.exec_bind, Handle.exec_onEngine, hr, hv]

theorem leaves_of_fail {r : Handle σ × Except StoreError α} {e : StoreError}
    (hc : (L.view h.conn).content = .store t) (hr : r.2 = .error e)
    (hv : L.view r.1.conn = L.view h.conn ∨ L.view r.1.conn = (L.view h.conn).undone) :
    Leaves L (L.view h.conn) t r := by
  rcases hv with hv | hv
  · exact .inl (by rw [hv, View.with_content_of_eq hc])
  · by_cases hb : (L.view h.conn).began = none
    · exact .inl (by rw [hv, View.undone_of_none hb, View.with_content_of_eq hc])
    · exact .inr ⟨⟨e, hr⟩, hb, hv⟩

/-- The loop of data rows appends a prefix of the rows: all of them when it succeeds. -/
theorem exec_dataRounds (mid : Int64) (ms : List Mapping) :
    ∀ (h : Handle σ) (t : Tables), L.prepared h.conn dataInsertSql →
      (L.view h.conn).content = .store t → (L.view h.conn).enforcing = true →
      Sql.Compact t.data →
      ∃ n t', n ≤ ms.length ∧ t.AddsData mid (ms.take n) t' ∧
        Leaves L (L.view h.conn) t' (h.exec (forIn ms PUnit.unit (dataRound mid))) ∧
        ((h.exec (forIn ms PUnit.unit (dataRound mid))).2 = .ok PUnit.unit → n = ms.length) := by
  induction ms with
  | nil =>
      intro h t _ hc _ hcompact
      refine ⟨0, t, Nat.le_refl 0, Tables.AddsData.nil hcompact, ?_, fun _ => rfl⟩
      rw [Handle.exec_forIn_nil]
      exact .inl (View.with_content_of_eq hc).symm
  | cons m ms ih =>
      intro h t hp hc he hcompact
      rcases exec_dataRound m hp hc he with ⟨r, t1, hr, ⟨rfl, hput⟩, hv⟩ | ⟨e, hr, hv⟩
      · -- the round wrote its row: the rest of the loop runs from the tables after it
        have hbound : t.data.length < rowLimit := by
          have := L.bounded h.conn t hc
          simp only [Tables.size] at this
          omega
        obtain ⟨row, rfl, -, hcompact1⟩ := Tables.PutData.append hput hcompact hbound
        have hv1 : (L.view (h.exec (dataRound mid m PUnit.unit)).1.conn).content =
            .store { t with data := t.data ++ [row] } := by
          rw [hv]
        have he1 : (L.view (h.exec (dataRound mid m PUnit.unit)).1.conn).enforcing = true := by
          rw [hv]
          exact he
        obtain ⟨n, t', hn, hadds, hleaves, hok⟩ :=
          ih _ _ (prepared_dataRound m hp) hv1 he1 hcompact1
        refine ⟨n + 1, t', by simp [hn], ?_, ?_, ?_⟩
        · exact Tables.AddsData.cons hput hcompact hbound hadds
        · rw [Handle.exec_forIn_cons_of_yield ms hr]
          rcases hleaves with hleaves | ⟨hfail, hb, hundone⟩
          · exact .inl (by rw [hleaves, hv])
          · have hb0 : (L.view h.conn).began ≠ none := by
              rw [hv] at hb
              exact hb
            refine .inr ⟨hfail, hb0, ?_⟩
            rw [hundone, hv, View.undone_with_content hb0]
        · rw [Handle.exec_forIn_cons_of_yield ms hr]
          intro hdone
          simp [hok hdone]
      · -- the round failed: nothing more is written
        refine ⟨0, t, by simp, Tables.AddsData.nil hcompact, ?_, ?_⟩
        · rw [Handle.exec_forIn_cons_of_error ms hr]
          exact leaves_of_fail hc rfl hv
        · rw [Handle.exec_forIn_cons_of_error ms hr]
          simp

/-- Appending the data rows of a measurement: the insert is prepared, then the rows are appended
one by one, all of them when it succeeds. -/
theorem exec_insertData (mid : Int64) (ms : List Mapping)
    (hc : (L.view h.conn).content = .store t) (he : (L.view h.conn).enforcing = true)
    (hcompact : Sql.Compact t.data) :
    ∃ n t', n ≤ ms.length ∧ t.AddsData mid (ms.take n) t' ∧
      Leaves L (L.view h.conn) t' (h.exec (insertData mid ms)) ∧
      ((h.exec (insertData mid ms)).2 = .ok () → n = ms.length) := by
  obtain ⟨hok, hprep⟩ := L.prepare_ok h.conn t dataInsertSql hc (by simp [cachedSql])
  rw [insertData_eq, Handle.exec_bind_ok _ (Handle.exec_onEngine_ok hok)]
  -- after preparing, the loop runs from a handle with the same view
  obtain ⟨h1, hh1⟩ : ∃ h1 : Handle σ,
      h1 = { h with conn := (Engine.prepareCached dataInsertSql h.conn).1 } := ⟨_, rfl⟩
  rw [← hh1]
  have hview : L.view h1.conn = L.view h.conn := by
    rw [hh1]
    exact L.prepare h.conn dataInsertSql
  have hprep1 : L.prepared h1.conn dataInsertSql := by
    rw [hh1]
    exact hprep
  obtain ⟨n, t', hn, hadds, hleaves, hall⟩ := exec_dataRounds mid ms h1 t hprep1
    (by rw [hview]; exact hc) (by rw [hview]; exact he) hcompact
  rw [hview] at hleaves
  refine ⟨n, t', hn, hadds, ?_, ?_⟩
  · rcases hr : (h1.exec (forIn ms PUnit.unit (dataRound mid))).2 with e | u
    · rw [Handle.exec_bind_of_error _ hr]
      rcases hleaves with hl | ⟨-, hb, hu⟩
      · exact .inl hl
      · exact .inr ⟨⟨e, rfl⟩, hb, hu⟩
    · rw [Handle.exec_bind_of_ok _ hr, Handle.exec_pure]
      rcases hleaves with hl | ⟨⟨e, he'⟩, -⟩
      · exact .inl hl
      · rw [hr] at he'
        cases he'
  · intro hdone
    rcases hr : (h1.exec (forIn ms PUnit.unit (dataRound mid))).2 with e | u
    · rw [Handle.exec_bind_of_error _ hr] at hdone
      cases hdone
    · exact hall hr

/-! ## Transactions

Inside a transaction begun from a view with none open, every write keeps the view of the form
`{ v with content := c, began := some v.content }` or, when the engine rolled the transaction
back, returns it to `v` (`View.Within`). Rolling back then restores `v` exactly. -/

variable (L) in
/-- A run inside the transaction begun from the view `v`: it succeeds with a value and tables
that `ok` allows, the transaction still open, or it fails inside the transaction or after the
engine rolled it back. -/
def LandsWithin (v : View) (ok : α → Tables → Prop) (r : Handle σ × Except StoreError α) :
    Prop :=
  (∃ a t', r.2 = .ok a ∧ ok a t' ∧
      L.view r.1.conn = { v with content := .store t', began := some v.content }) ∨
    ∃ e, r.2 = .error e ∧ v.Within (L.view r.1.conn)

theorem Lands.within {v w : View} {c : Content} {ok : α → Tables → Prop}
    {r : Handle σ × Except StoreError α} (hb : v.began = none)
    (hw : w = { v with content := c, began := some v.content }) (hr : Lands L w ok r) :
    LandsWithin L v ok r := by
  subst hw
  rcases hr with ⟨a, t', hr, hok, hv⟩ | ⟨e, hr, hv⟩
  · exact .inl ⟨a, t', hr, hok, hv⟩
  · refine .inr ⟨e, hr, ?_⟩
    rcases hv with hv | hv
    · rw [hv]
      exact View.within_open v c
    · rw [hv, View.undone_within hb]
      exact View.within_self v

theorem LandsWithin.mono {v : View} {ok ok' : α → Tables → Prop}
    {r : Handle σ × Except StoreError α} (hr : LandsWithin L v ok r)
    (himp : ∀ a t', ok a t' → ok' a t') : LandsWithin L v ok' r := by
  rcases hr with ⟨a, t', hr, hok, hv⟩ | hfail
  · exact .inl ⟨a, t', hr, himp a t' hok, hv⟩
  · exact .inr hfail

/-- Work inside a transaction followed by more work: the second part runs from where the first
left the tables. -/
theorem LandsWithin.bind {v : View} {m : StoreOn σ α} {f : α → StoreOn σ β}
    {ok : α → Tables → Prop} {ok' : β → Tables → Prop} (hm : LandsWithin L v ok (h.exec m))
    (hf : ∀ a t1, ok a t1 → ∀ h1 : Handle σ,
      L.view h1.conn = { v with content := .store t1, began := some v.content } →
      LandsWithin L v ok' (h1.exec (f a))) :
    LandsWithin L v ok' (h.exec (m >>= f)) := by
  rcases hm with ⟨a, t1, hr, hok, hv⟩ | ⟨e, hr, hv⟩
  · rw [Handle.exec_bind_of_ok _ hr]
    exact hf a t1 hok _ hv
  · rw [Handle.exec_bind_of_error _ hr]
    exact .inr ⟨e, rfl, hv⟩

/-- What the store runs to roll back: `ROLLBACK` when a transaction is open, its own failure
passed over. -/
def rollbackOpen : StoreOn σ Unit := do
  if Engine.inTransaction (← get).conn then
    tryCatch (executeBatch "ROLLBACK") (fun _ => pure ())

theorem inTransaction_eq (work : StoreOn σ α) :
    inTransaction work = (do
      executeBatch "BEGIN DEFERRED"
      let a ← tryCatch work (fun e => do rollbackOpen; throw e)
      tryCatch (executeBatch "COMMIT") (fun e => do rollbackOpen; throw e)
      return a) := rfl

theorem exec_rollbackOpen {v : View} (hb : v.began = none) (hw : v.Within (L.view h.conn)) :
    h.exec rollbackOpen = ((h.exec rollbackOpen).1, .ok ()) ∧
      L.view (h.exec rollbackOpen).1.conn = v := by
  rcases hw with hw | ⟨c, hw⟩
  · -- the engine rolled the transaction back already: nothing is run
    have hopen : Engine.inTransaction h.conn = false := by
      rw [L.inTransaction_eq, hw, hb]
      rfl
    simp [rollbackOpen, Handle.exec_bind, hopen, hw]
  · have hopen : Engine.inTransaction h.conn = true := by
      rw [L.inTransaction_eq, hw]
      rfl
    obtain ⟨hok, hv⟩ := L.rollback h.conn v.content (by rw [hw])
    have hrun : h.exec rollbackOpen =
        ({ h with conn := (Engine.runBatch "ROLLBACK" h.conn).1 }, .ok ()) := by
      simp [rollbackOpen, executeBatch, Handle.exec_bind, hopen, Handle.exec_tryCatch,
        Handle.exec_onEngine, hok]
    refine ⟨by rw [hrun], ?_⟩
    rw [hrun]
    show L.view (Engine.runBatch "ROLLBACK" h.conn).1 = v
    rw [hv, hw]
    cases v
    simp_all

theorem exec_rollback_throw {v : View} {e : StoreError} (hb : v.began = none)
    (hw : v.Within (L.view h.conn)) :
    (h.exec (do rollbackOpen; throw e : StoreOn σ α)).2 = .error e ∧
      L.view (h.exec (do rollbackOpen; throw e : StoreOn σ α)).1.conn = v := by
  obtain ⟨hrun, hv⟩ := exec_rollbackOpen hb hw
  rw [Handle.exec_bind_ok _ hrun, Handle.exec_throw]
  exact ⟨rfl, hv⟩

/-- A transaction whose work fails within it fails with the work's error, and leaves the view as
it found it. -/
theorem exec_inTransaction_of_error {work : StoreOn σ α} {e : StoreError}
    (hb : (L.view h.conn).began = none)
    (hwork : ∀ h1 : Handle σ,
      L.view h1.conn = { L.view h.conn with began := some (L.view h.conn).content } →
      (h1.exec work).2 = .error e ∧ (L.view h.conn).Within (L.view (h1.exec work).1.conn)) :
    (h.exec (inTransaction work)).2 = .error e ∧
      L.view (h.exec (inTransaction work)).1.conn = L.view h.conn := by
  obtain ⟨hbegin, hv1⟩ := L.begin h.conn hb
  have hrun : h.exec (executeBatch "BEGIN DEFERRED") =
      ({ h with conn := (Engine.runBatch "BEGIN DEFERRED" h.conn).1 }, .ok ()) :=
    Handle.exec_onEngine_ok hbegin
  rw [inTransaction_eq, Handle.exec_bind_ok _ hrun]
  obtain ⟨hr, hv⟩ := hwork { h with conn := (Engine.runBatch "BEGIN DEFERRED" h.conn).1 } hv1
  obtain ⟨hr2, hv2⟩ := exec_rollback_throw (α := α) (e := e) hb hv
  rw [Handle.exec_bind_of_error _ (by rw [Handle.exec_tryCatch_of_error _ hr]; exact hr2),
    Handle.exec_tryCatch_of_error _ hr]
  exact ⟨rfl, hv2⟩

/-- A transaction commits what its work left, or leaves the view exactly as it found it. -/
theorem exec_inTransaction {work : StoreOn σ α} {ok : α → Tables → Prop}
    (hb : (L.view h.conn).began = none)
    (hwork : ∀ h1 : Handle σ,
      L.view h1.conn = { L.view h.conn with began := some (L.view h.conn).content } →
      LandsWithin L (L.view h.conn) ok (h1.exec work)) :
    Lands L (L.view h.conn) ok (h.exec (inTransaction work)) := by
  obtain ⟨hbegin, hv1⟩ := L.begin h.conn hb
  have hrun : h.exec (executeBatch "BEGIN DEFERRED") =
      ({ h with conn := (Engine.runBatch "BEGIN DEFERRED" h.conn).1 }, .ok ()) :=
    Handle.exec_onEngine_ok hbegin
  rw [inTransaction_eq, Handle.exec_bind_ok _ hrun]
  obtain ⟨h1, hh1⟩ : ∃ h1 : Handle σ,
      h1 = { h with conn := (Engine.runBatch "BEGIN DEFERRED" h.conn).1 } := ⟨_, rfl⟩
  rw [← hh1]
  have hview1 : L.view h1.conn = { L.view h.conn with began := some (L.view h.conn).content } := by
    rw [hh1]
    exact hv1
  rcases hwork h1 hview1 with ⟨a, t', hr, hok, hv⟩ | ⟨e, hr, hv⟩
  · -- the work succeeded: the commit decides
    rw [Handle.exec_bind_of_ok _ (by rw [Handle.exec_tryCatch_of_ok _ hr]; exact hr),
      Handle.exec_tryCatch_of_ok _ hr]
    obtain ⟨h2, hh2⟩ : ∃ h2 : Handle σ, h2 = (h1.exec work).1 := ⟨_, rfl⟩
    rw [← hh2]
    rw [← hh2] at hv
    rcases L.commit h2.conn (L.view h.conn).content (by rw [hv]) with
      ⟨hcommit, hvc⟩ | ⟨e, hcommit, hvc⟩
    · -- committed: the work's tables stay, and no transaction is open
      have hrun : h2.exec (executeBatch "COMMIT") =
          ({ h2 with conn := (Engine.runBatch "COMMIT" h2.conn).1 }, .ok ()) :=
        Handle.exec_onEngine_ok hcommit
      have hok2 : (h2.exec (executeBatch "COMMIT")).2 = .ok () := by
        rw [hrun]
      rw [Handle.exec_bind_of_ok _ (by rw [Handle.exec_tryCatch_of_ok _ hok2]; exact hok2),
        Handle.exec_tryCatch_of_ok _ hok2, hrun, Handle.exec_pure]
      refine .inl ⟨a, t', rfl, hok, ?_⟩
      show L.view (Engine.runBatch "COMMIT" h2.conn).1 = _
      rw [hvc, hv]
      cases hview : L.view h.conn
      simp_all
    · -- the commit failed with the transaction still open: it is rolled back
      have hrun : h2.exec (executeBatch "COMMIT") =
          ({ h2 with conn := (Engine.runBatch "COMMIT" h2.conn).1 }, .error (.sqlite (.ofDb e))) := by
        simp [executeBatch, Handle.exec_onEngine, hcommit]
      have hfail : (h2.exec (executeBatch "COMMIT")).2 = .error (.sqlite (.ofDb e)) := by
        rw [hrun]
      have hwithin :
          (L.view h.conn).Within (L.view (h2.exec (executeBatch "COMMIT")).1.conn) := by
        rw [hrun]
        show (L.view h.conn).Within (L.view (Engine.runBatch "COMMIT" h2.conn).1)
        rw [hvc, hv]
        exact View.within_open _ _
      obtain ⟨hr2, hv2⟩ := exec_rollback_throw (α := Unit) (e := .sqlite (.ofDb e)) hb hwithin
      rw [Handle.exec_bind_of_error _ (by rw [Handle.exec_tryCatch_of_error _ hfail]; exact hr2),
        Handle.exec_tryCatch_of_error _ hfail]
      exact .inr ⟨_, rfl, .inl hv2⟩
  · -- the work failed: it is rolled back
    obtain ⟨hr2, hv2⟩ := exec_rollback_throw (α := α) (e := e) hb hv
    rw [Handle.exec_bind_of_error _ (by rw [Handle.exec_tryCatch_of_error _ hr]; exact hr2),
      Handle.exec_tryCatch_of_error _ hr]
    exact .inr ⟨e, rfl, .inl hv2⟩

end

end Store
end MemoryRecorder
