import MemoryRecorder.Proofs.Store.SystemLog
import MemoryRecorder.Proofs.Store.Listings

/-!
# The system sample at an instant

Reading the system sample at an instant asks the engine for the latest system row not after it,
the last inserted of equals (`ORDER BY time DESC, id DESC LIMIT 1`), and then for the
measurements at that row's time, by sequence number (`ORDER BY m.seq`), each read with its
mappings.

On every store a program reaches, through an engine that answers the listing reads as SQLite
documents (`ListingReads`), and while the database has room for one more row, the read gives
none exactly when every sample the program passed the store is later than the instant. Otherwise
it gives, of the samples passed, the latest not after the instant, the last passed of equals,
exactly as it was passed, words of `2 ^ 63` or more included; with it come the measurements at
its time, of every process, in ascending sequence order, each as reading it by its id gives it
(`getSystemMemoryAt_latest`).
-/

namespace MemoryRecorder
namespace Store

/-! ## Reading rows back -/

theorem toSystem_systemRecord (names : List String) (id : Int64) {s : SystemSnapshot}
    (hs : Millis.inRange s.time = true) :
    toSystem names (systemRecord (systemRow id s.values)) = .ok s := by
  have h0 : readTime names (systemRecord (systemRow id s.values)) 0 = .ok s.time :=
    readTime_of_int rfl hs
  simp only [toSystem, h0]
  rfl

theorem toMeasurement_ints (n : List String) (id seq start time rss pss a b c d e f g : Int64)
    (pid adj score scoreAdj : Int32) (ht : Millis.inRange time = true) :
    toMeasurement n #[.int id, .int seq, .int pid.toInt64, .int start, .int time, .int rss,
      .int pss, .int a, .int b, .int c, .int d, .int e, .int f, .int g, .int adj.toInt64,
      .int score.toInt64, .int scoreAdj.toInt64] =
      .ok { id := id, seq := seq, process := ⟨pid, start.toUInt64⟩, time := time,
            rssSum := rss.toUInt64, pssSum := pss.toUInt64,
            statm := ⟨a.toUInt64, b.toUInt64, c.toUInt64, d.toUInt64, e.toUInt64, f.toUInt64,
              g.toUInt64⟩,
            oom := ⟨adj, score, scoreAdj⟩ } := by
  generalize hr : (#[.int id, .int seq, .int pid.toInt64, .int start, .int time, .int rss,
      .int pss, .int a, .int b, .int c, .int d, .int e, .int f, .int g, .int adj.toInt64,
      .int score.toInt64, .int scoreAdj.toInt64] : Array Value) = r
  have h2 : readI32 n r 2 = .ok pid := readI32_of_int (by rw [← hr]; rfl)
  have h4 : readTime n r 4 = .ok time := readTime_of_int (by rw [← hr]; rfl) ht
  have h14 : readI32 n r 14 = .ok adj := readI32_of_int (by rw [← hr]; rfl)
  have h15 : readI32 n r 15 = .ok score := readI32_of_int (by rw [← hr]; rfl)
  have h16 : readI32 n r 16 = .ok scoreAdj := readI32_of_int (by rw [← hr]; rfl)
  simp only [toMeasurement, h2, h4, h14, h15, h16]
  subst hr
  rfl

theorem Sql.Row.IsMeasurement.col_eq {m : Sql.Row} (hm : m.IsMeasurement) {j : Nat} (hj : j < 16) :
    m.col j = .int (m.intAt j) := by
  obtain ⟨v, hv⟩ := hm.col hj
  rw [Sql.Row.intAt, hv]
  rfl

/-- A measurement row the store writes, with OOM values that are 32-bit words and a time in the
calendar's range, reads back joined with the row of a process, whatever the names of the
columns. -/
theorem toMeasurement_of_oomFits {m : Sql.Row} (hm : m.IsMeasurement) (hoom : m.OomFits)
    (ht : Millis.inRange m.time = true) (q : ProcessId) (name : String) :
    ∃ M, ∀ n, toMeasurement n (measurementRecord m (q.row name)) = .ok M := by
  obtain ⟨a, b, c, ha, hb, hc⟩ := hoom
  have hcol : ∀ j < 16, m.col j = .int (m.intAt j) := fun j hj => hm.col_eq hj
  have hstart : (q.row name).col 2 = .int q.startTime.toInt64 := rfl
  -- every column is an integer, the process's and the OOM values 32-bit words
  exact ⟨_, fun n => by
    simp only [measurementRecord, ProcessId.row_col_one, hstart, ha, hb, hc,
      hcol 1 (by omega), hcol 3 (by omega), hcol 4 (by omega), hcol 5 (by omega),
      hcol 6 (by omega), hcol 7 (by omega), hcol 8 (by omega), hcol 9 (by omega),
      hcol 10 (by omega), hcol 11 (by omega), hcol 12 (by omega)]
    exact toMeasurement_ints n _ _ _ _ _ _ _ _ _ _ _ _ _ _ _ _ _ ht⟩

/-! ## Reading every row -/

theorem exists_forall₂_of_forall {α β : Type} {R : α → β → Prop} :
    ∀ {xs : List α}, (∀ a ∈ xs, ∃ b, R a b) → ∃ bs, List.Forall₂ R xs bs
  | [], _ => ⟨[], .nil⟩
  | a :: as, h => by
      obtain ⟨b, hb⟩ := h a List.mem_cons_self
      obtain ⟨bs, hbs⟩ := exists_forall₂_of_forall fun x hx => h x (List.mem_cons_of_mem a hx)
      exact ⟨b :: bs, .cons hb hbs⟩

theorem mapM_eq_ok_of_forall₂ {α β ε : Type} {f : α → Except ε β} :
    ∀ {xs : List α} {bs : List β}, List.Forall₂ (fun a b => f a = .ok b) xs bs →
      xs.mapM f = .ok bs
  | _, _, .nil => rfl
  | _, _, .cons hab hrest => by
      rw [List.mapM_cons, hab, mapM_eq_ok_of_forall₂ hrest]
      rfl

section

variable {σ α β : Type} [Engine σ] {L : Documented σ}

/-- Reads that each give one value from every handle that sees a view give those values, in
order, from a handle that sees it: each read leaves the view as it was. -/
theorem exec_mapM_of_forall₂ {f : α → StoreOn σ β} (hro : ∀ a, ReadOnly L (f a)) {v : View} :
    ∀ {xs : List α} {bs : List β} {h : Handle σ}, L.view h.conn = v →
      List.Forall₂ (fun a b => ∀ h' : Handle σ, L.view h'.conn = v → (h'.exec (f a)).2 = .ok b)
        xs bs →
      (h.exec (xs.mapM f)).2 = .ok bs
  | _, _, _, _, .nil => rfl
  | _, _, h, hv, .cons hab hrest => by
      rw [List.mapM_cons, Handle.exec_bind_of_ok _ (hab h hv),
        Handle.exec_bind_of_ok _ (exec_mapM_of_forall₂ hro ((hro _ h).trans hv) hrest)]
      rfl

end

/-- Every measurement of sound tables in row id order is joined with one process row, so the
joined rows whose measurement passes a test are those measurements, in order. -/
theorem Tables.map_fst_filter_joined {t : Tables} {past : Past} (hs : Sound t past)
    (hord : t.Ordered) (pass : Sql.Row → Bool) :
    (t.joined.filter fun x => pass x.1).map Prod.fst = t.measurement.filter pass := by
  have hone : ∀ m ∈ t.measurement,
      ∃ p, (t.process.filter fun p => (m.col 2).sameAs p.rowid) = [p] := by
    intro m hm
    obtain ⟨p, hp, hkey⟩ := hs.measurement_process m hm
    exact ⟨p, hord.1.filter_rowid hp fun q _ => by rw [hkey, Value.sameAs_int, Bool.beq_comm]⟩
  unfold joined
  -- by induction on the measurement rows, each joined with its one process row
  suffices h : ∀ ms : List Sql.Row,
      (∀ m ∈ ms, ∃ p, (t.process.filter fun p => (m.col 2).sameAs p.rowid) = [p]) →
      ((ms.flatMap fun m => (t.process.filter fun p => (m.col 2).sameAs p.rowid).map
        fun p => (m, p)).filter fun x => pass x.1).map Prod.fst = ms.filter pass from
    h _ hone
  intro ms
  induction ms with
  | nil => exact fun _ => rfl
  | cons m ms ih =>
      intro hms
      obtain ⟨p, hp⟩ := hms m List.mem_cons_self
      rw [List.flatMap_cons, hp, List.filter_append, List.map_append,
        ih fun m' hm' => hms m' (List.mem_cons_of_mem m hm')]
      cases hpass : pass m <;> simp [hpass]

/-! ## The measurements at an instant -/

section

variable {σ : Type} [Engine σ] {h h₁ : Handle σ} {t : Tables} {past : Past}

/-- The measurements at an instant, in sequence order, each with its mappings: the second half of
reading the system sample at an instant. -/
def measurementsAt (time : Millis) : StoreOn σ (List Measurement) := do
  let (names, rows) ← query measurementsAtSql [.int time]
  let headers ← allRows names rows toMeasurement
  headers.mapM (withRanges false)

theorem getSystemMemoryAt_eq (time : Millis) :
    (getSystemMemoryAt time : StoreOn σ _) = (do
      match ← firstRow systemAtSql [.int time] toSystem with
      | none => return none
      | some system => return some ⟨system, ← measurementsAt system.time⟩) := by
  unfold getSystemMemoryAt measurementsAt
  refine congrArg (firstRow systemAtSql [.int time] toSystem >>= ·) (funext fun found => ?_)
  cases found with
  | none => rfl
  | some system =>
      simp only [bind_assoc]
      refine congrArg (query measurementsAtSql [.int system.time] >>= ·) (funext fun x => ?_)
      obtain ⟨names, rows⟩ := x
      rfl

theorem exec_getMeasurement_of_joined {L : Documented σ} (hc : (L.view h.conn).content = .store t)
    (hw : t.Written) {y : Sql.Row × Sql.Row} (hy : y ∈ t.joined)
    {M : Measurement} (hM : ∀ n, toMeasurement n (measurementRecord y.1 y.2) = .ok M)
    {rs : Int64 → List Mapping} (hrs : ∀ mid, t.rangesOf mid = (rs mid).map mappingRecord) :
    (h.exec (getMeasurement y.1.rowid)).2 =
      .ok (some { M with ranges := (rs M.id).map (Mapping.withProcess M.process) }) := by
  have hord : t.Ordered := L.ordered _ t hc
  obtain ⟨hm, hp, hkey⟩ := Tables.mem_joined.1 hy
  have hcol : y.1.col 2 = .int y.2.rowid := by
    obtain ⟨v, hv⟩ := (hw.measurement _ hm).col (j := 2) (by omega)
    rw [hv, Value.sameAs_int, beq_iff_eq] at hkey
    rw [hv, hkey]
  exact exec_getMeasurement hc (Tables.measurementsById_single hord hm hp hcol) hM (hrs M.id)

/-- On tables a program leaves whose measurement rows hold 32-bit OOM values, the measurements at
an instant in the calendar's range read back from a handle that sees the tables: in ascending
sequence order, every one at that instant, each as reading it by its id gives it. -/
theorem exec_measurementsAt (L : ListingReads σ)
    (hv : L.view h.conn = { content := .store t, enforcing := true }) (hs : Sound t past)
    (hw : t.Written) (hoom : t.OomFits) (hv₁ : L.view h₁.conn = L.view h.conn) {time : Millis}
    (ht : Millis.inRange time = true) :
    ∃ (rows : List Sql.Row) (ms : List Measurement),
      rows.Perm (t.measurement.filter fun m => m.time == time) ∧
      rows.Pairwise (fun m m' => m.seq < m'.seq) ∧
      List.Forall₂ (fun m M => (h.exec (getMeasurement m.rowid)).2 = .ok (some M)) rows ms ∧
      (h₁.exec (measurementsAt time)).2 = .ok ms := by
  have hc : (L.view h.conn).content = .store t := by
    rw [hv]
  have hc₁ : (L.view h₁.conn).content = .store t := by
    rw [hv₁, hc]
  have hord : t.Ordered := L.ordered _ t hc
  obtain ⟨ys, hsorted, ⟨names, hans⟩, hview⟩ := L.measurements_at h₁.conn t time hc₁
    fun m hm => (hw.measurement m hm).integral
  -- every joined row at the instant reads back
  have hread : ∀ y ∈ ys, ∃ M,
      y ∈ t.joined ∧ ∀ n, toMeasurement n (measurementRecord y.1 y.2) = .ok M := by
    intro y hy
    obtain ⟨hy, htime⟩ := List.mem_filter.1 (hsorted.1.subset hy)
    obtain ⟨hm, hp, -⟩ := Tables.mem_joined.1 hy
    obtain ⟨q, name, hq⟩ := hs.process_row hord.1 hp
    rw [beq_iff_eq] at htime
    obtain ⟨M, hM⟩ := toMeasurement_of_oomFits (hw.measurement _ hm) (hoom _ hm) (htime ▸ ht) q name
    exact ⟨M, hy, hq ▸ hM⟩
  obtain ⟨headers, hheaders⟩ := exists_forall₂_of_forall hread
  have hrs := fun mid => Classical.choose_spec (hw.rangesOf hs hord.2.1 mid)
  -- each measurement at the instant is joined once
  have hperm : (ys.map Prod.fst).Perm (t.measurement.filter fun m => m.time == time) := by
    rw [← Tables.map_fst_filter_joined hs hord fun m => m.time == time]
    exact hsorted.1.map Prod.fst
  refine ⟨ys.map Prod.fst, headers.map fun M => { M with ranges :=
      (Classical.choose (hw.rangesOf hs hord.2.1 M.id)).map (Mapping.withProcess M.process) },
    hperm, ?_, ?_, ?_⟩
  · -- the order answers no row after a smaller sequence number, and two rows have two numbers
    have hnodup : (ys.map Prod.fst).Nodup :=
      hperm.nodup_iff.2 ((hord.2.2.1.nodup.of_map _).filter _)
    have hpair : (ys.map Prod.fst).Pairwise fun a b => ¬ b.seq < a.seq :=
      List.pairwise_map.2 hsorted.2
    refine (hpair.and hnodup).imp_of_mem ?_
    rintro a b ha hb ⟨hab, hne⟩
    have hseq : a.seq ≠ b.seq := fun h => hne (hw.eq_of_seq hs (length_measurement_lt hc)
      (List.mem_of_mem_filter (hperm.subset ha)) (List.mem_of_mem_filter (hperm.subset hb)) h)
    exact Int64.lt_of_le_of_ne (Int64.not_lt.1 hab) hseq
  · rw [List.forall₂_map_left_iff, List.forall₂_map_right_iff]
    exact hheaders.imp fun y M ⟨hy, hM⟩ => exec_getMeasurement_of_joined hc hw hy hM hrs
  · -- the query answers the joined rows, they all read, and so do their mappings
    have hq : h₁.exec (query measurementsAtSql [.int time]) =
        ({ h₁ with conn := (Engine.runText measurementsAtSql [.int time] h₁.conn).1 },
          .ok (names, Tables.records ys)) :=
      Handle.exec_onEngine_ok hans
    have hheads : (Tables.records ys).mapM (toMeasurement names) = .ok headers := by
      rw [Tables.records, List.mapM_map]
      exact mapM_eq_ok_of_forall₂ (hheaders.imp fun y M ⟨_, hM⟩ => hM names)
    have hrows : ∀ h' : Handle σ,
        h'.exec (allRows names (Tables.records ys) toMeasurement) = (h', .ok headers) := by
      intro h'
      rw [allRows, Handle.exec_liftRead, hheads]
    unfold measurementsAt
    rw [Handle.exec_bind_ok _ hq]
    dsimp only
    rw [Handle.exec_bind_ok _ (hrows _)]
    refine exec_mapM_of_forall₂ (L := L.toDocumented) (fun M => readOnly_withRanges false M) rfl
      (List.forall₂_map_right_iff.2 (List.forall₂_same.2 fun M _ h' hv' => ?_))
    have hc' : (L.view h'.conn).content = .store t := by
      rw [hv', hview, hc₁]
    exact exec_withRanges hc' (hrs M.id)

end

/-! ## The latest sample -/

/-- Of system rows in row id order, the row that no row not after an instant comes before in the
order of the system-at query splits the samples they hold: those before it not after the
instant are no later than its own, and those after it not after the instant are earlier. -/
theorem samples_split_of_latest {rows : List Sql.Row} (hord : Sql.Ordered rows) {x : Sql.Row}
    (hx : x ∈ rows) {time : Millis}
    (hlatest : ∀ y ∈ rows, y.sampleTime ≤ time → ¬ LaterSample y x) :
    ∃ pre post, rows.map Sql.Row.sample = pre ++ x.sample :: post ∧
      (∀ s ∈ pre, s.time ≤ time → s.time ≤ x.sample.time) ∧
      (∀ s ∈ post, s.time ≤ time → s.time < x.sample.time) := by
  obtain ⟨P, Q, rfl⟩ := List.append_of_mem hx
  refine ⟨P.map Sql.Row.sample, Q.map Sql.Row.sample, by simp, ?_, ?_⟩
  · -- a row inserted before it is no later
    intro s hs hle
    obtain ⟨y, hy, rfl⟩ := List.mem_map.1 hs
    have hnot := hlatest y (List.mem_append_left _ hy) hle
    simp only [LaterSample, not_or] at hnot
    exact Int64.not_lt.1 hnot.1
  · -- a row inserted after it has a greater id, so one at the same time would come first
    intro s hs hle
    obtain ⟨y, hy, rfl⟩ := List.mem_map.1 hs
    have hid : x.rowid < y.rowid :=
      (List.pairwise_cons.1 (List.pairwise_append.1 hord).2.1).1 y hy
    have hnot := hlatest y (List.mem_append_right _ (List.mem_cons_of_mem x hy)) hle
    simp only [LaterSample, not_or, not_and] at hnot
    have hne : x.sampleTime ≠ y.sampleTime := fun heq => hnot.2 heq hid
    exact Int64.lt_of_le_of_ne (Int64.not_lt.1 hnot.1) (Ne.symm hne)

section

variable {σ : Type} [Engine σ] {h : Handle σ} {t : Tables} {ss : List SystemSnapshot}

/-- On tables that log samples with times in the calendar's range, reading the first system row
the system-at query answers gives none when every system row is later than the instant, and
otherwise the sample of a row not after it that no such row comes before. -/
theorem exec_firstRow_systemAt (L : ListingReads σ) (hc : (L.view h.conn).content = .store t)
    (hl : t.Logs ss) (htime : ∀ r ∈ t.system, Millis.inRange r.sample.time = true)
    (time : Millis) :
    (∀ r ∈ t.system, time < r.sampleTime) ∧
        (h.exec (firstRow systemAtSql [.int time] toSystem)).2 = .ok none ∨
      ∃ x ∈ t.system, x.sampleTime ≤ time ∧
        (∀ y ∈ t.system, y.sampleTime ≤ time → ¬ LaterSample y x) ∧
        (h.exec (firstRow systemAtSql [.int time] toSystem)).2 = .ok (some x.sample) := by
  obtain ⟨xs, hfirst, ⟨names, hans⟩, -⟩ := L.system_at h.conn t time hc fun r hr => by
    rw [hl.rows r hr]
    exact ⟨_, rfl⟩
  have hrun : h.exec (query systemAtSql [.int time]) =
      ({ h with conn := (Engine.runText systemAtSql [.int time] h.conn).1 },
        .ok (names, xs.map systemRecord)) :=
    Handle.exec_onEngine_ok hans
  rcases hfirst with ⟨hnil, rfl⟩ | ⟨x, hx, rfl, hnone⟩
  · refine .inl ⟨fun r hr => ?_, ?_⟩
    · have := List.filter_eq_nil_iff.1 hnil r hr
      simp only [decide_eq_true_eq] at this
      exact Int64.not_le.1 this
    · simp only [firstRow, Handle.exec_bind_ok _ hrun]
      rfl
  · obtain ⟨hxs, hle⟩ := List.mem_filter.1 hx
    rw [decide_eq_true_eq] at hle
    refine .inr ⟨x, hxs, hle, fun y hy hyle => hnone y (List.mem_filter.2 ⟨hy, by simpa⟩), ?_⟩
    have hread : toSystem names (systemRecord x) = .ok x.sample := by
      have hrow := hl.rows x hxs
      calc toSystem names (systemRecord x)
          = toSystem names (systemRecord (systemRow x.rowid x.sample.values)) := by rw [← hrow]
        _ = .ok x.sample := toSystem_systemRecord names x.rowid (htime x hxs)
    rw [exec_firstRow_cons hans, hread]
    rfl

end

/-! ## The sample at an instant -/

section

variable {σ : Type} [Engine σ] {h : Handle σ} {past : Past} {ss : List SystemSnapshot}

/-- On every store a program reaches, through an engine that answers the listing reads as SQLite
documents, and while the database has room for one more row: reading the system sample at an
instant gives none when every sample the program passed the store is later. Otherwise the
samples passed split around one not after the instant, the samples before it not after the
instant being no later and those after it earlier, and the read gives that sample exactly as it
was passed. With it come the measurement rows at its time, of every process, in ascending
sequence order, each read as reading it by its id gives it. -/
theorem getSystemMemoryAt_latest (L : ListingReads σ) (hl : Logged L.toDocumented h past ss)
    (htime : ∀ s ∈ ss, Millis.inRange s.time = true) (time : Millis) :
    ∃ t, L.view h.conn = { content := .store t, enforcing := true } ∧
      (t.size + 1 < rowLimit →
        (∀ s ∈ ss, time < s.time) ∧ (h.exec (getSystemMemoryAt time)).2 = .ok none ∨
        ∃ pre s post, ss = pre ++ s :: post ∧ s.time ≤ time ∧
          (∀ s' ∈ pre, s'.time ≤ time → s'.time ≤ s.time) ∧
          (∀ s' ∈ post, s'.time ≤ time → s'.time < s.time) ∧
          ∃ (rows : List Sql.Row) (ms : List Measurement),
            rows.Perm (t.measurement.filter fun m => m.time == s.time) ∧
            rows.Pairwise (fun m m' => m.seq < m'.seq) ∧
            List.Forall₂ (fun m M => (h.exec (getMeasurement m.rowid)).2 = .ok (some M)) rows ms ∧
            (h.exec (getSystemMemoryAt time)).2 = .ok (some ⟨s, ms⟩)) := by
  obtain ⟨t, hv, hs, hw⟩ := hl.reachable.written
  obtain ⟨t₀, hv₀, hlogs⟩ := hl.logs L
  obtain rfl : t = t₀ := by
    simpa using hv.symm.trans hv₀
  refine ⟨t, hv, fun hroom => ?_⟩
  have hc : (L.view h.conn).content = .store t := by
    rw [hv]
  -- with room for a row, the system rows hold the samples passed, in order
  obtain rfl := hlogs.samples hroom
  have hts : ∀ r ∈ t.system, Millis.inRange r.sample.time = true :=
    fun r hr => htime _ (List.mem_map_of_mem hr)
  rw [getSystemMemoryAt_eq]
  rcases exec_firstRow_systemAt L hc hlogs hts time with
    ⟨hlate, hnone⟩ | ⟨x, hx, hle, hlatest, hsome⟩
  · refine .inl ⟨fun s hs => ?_, ?_⟩
    · obtain ⟨r, hr, rfl⟩ := List.mem_map.1 hs
      exact hlate r hr
    · rw [Handle.exec_bind_of_ok _ hnone]
      rfl
  · obtain ⟨pre, post, hsplit, hpre, hpost⟩ :=
      samples_split_of_latest (L.ordered _ t hc).2.2.2.2 hx hlatest
    -- the system query leaves the view, so the measurement query finds the same tables
    have hv₁ : L.view (h.exec (firstRow systemAtSql [.int time] toSystem)).1.conn =
        L.view h.conn :=
      readOnly_firstRow _ _ isQuery_systemAtSql h
    obtain ⟨rows, ms, hperm, hpair, hget, hrun⟩ :=
      exec_measurementsAt L hv hs hw hlogs.oomFits hv₁ (hts x hx)
    refine .inr ⟨pre, x.sample, post, hsplit, hle, hpre, hpost, rows, ms, hperm, hpair, hget, ?_⟩
    rw [Handle.exec_bind_of_ok _ hsome]
    dsimp only
    rw [Handle.exec_bind_of_ok _ hrun]
    rfl

/-- The read of the system sample at an instant on the reference engine with the listing reads,
after samples at two times, the earlier one passed twice with snapshots of two processes taken
at it, and words of `2 ^ 63` and more in the first. -/
theorem getSystemMemoryAt_latest_repeated_time :
    let a : SystemSnapshot :=
      ⟨1000, { memTotal := 18446744073709551615, memFree := 9223372036854775808 }⟩
    let b : SystemSnapshot := ⟨2000, { memTotal := 1 }⟩
    let a' : SystemSnapshot := ⟨1000, { memTotal := 5 }⟩
    let p : ProcessId := ⟨1, 0⟩
    let heap : RangeKey := ⟨p, 4096, 8192, "rw-p", "[heap]"⟩
    let c₁ := Call.insertSystemSnapshot a
    let c₂ := Call.insertSnapshot { time := 1000, process := p, ranges := [⟨heap, 4, 4⟩] }
    let c₃ := Call.insertSnapshot { time := 1000, process := ⟨2, 0⟩ }
    let c₄ := Call.insertSystemSnapshot b
    let c₅ := Call.insertSystemSnapshot a'
    let h₀ := Handle.opened (Engine.fresh : Reference.Lister)
    let h₁ := (h₀.exec c₁.run).1
    let h₂ := (h₁.exec c₂.run).1
    let h₃ := (h₂.exec c₃.run).1
    let h₄ := (h₃.exec c₄.run).1
    let h := (h₄.exec c₅.run).1
    let past := c₅.after (h₄.exec c₅.run).2 (c₄.after (h₃.exec c₄.run).2
      (c₃.after (h₂.exec c₃.run).2 (c₂.after (h₁.exec c₂.run).2 (c₁.after (h₀.exec c₁.run).2 {}))))
    Logged Reference.listingReads.toDocumented h past [a, b, a'] ∧
      (∀ s ∈ [a, b, a'], Millis.inRange s.time = true) ∧
      ∃ t, Reference.listingReads.view h.conn = { content := .store t, enforcing := true } ∧
        (t.size + 1 < rowLimit →
          (∀ s ∈ [a, b, a'], (1500 : Millis) < s.time) ∧
            (h.exec (getSystemMemoryAt 1500)).2 = .ok none ∨
          ∃ pre s post, [a, b, a'] = pre ++ s :: post ∧ s.time ≤ 1500 ∧
            (∀ s' ∈ pre, s'.time ≤ 1500 → s'.time ≤ s.time) ∧
            (∀ s' ∈ post, s'.time ≤ 1500 → s'.time < s.time) ∧
            ∃ (rows : List Sql.Row) (ms : List Measurement),
              rows.Perm (t.measurement.filter fun m => m.time == s.time) ∧
              rows.Pairwise (fun m m' => m.seq < m'.seq) ∧
              List.Forall₂ (fun m M => (h.exec (getMeasurement m.rowid)).2 = .ok (some M))
                rows ms ∧
              (h.exec (getSystemMemoryAt 1500)).2 = .ok (some ⟨s, ms⟩)) := by
  intro a b a' p heap c₁ c₂ c₃ c₄ c₅ h₀ h₁ h₂ h₃ h₄ h past
  have hl₀ : Logged Reference.listingReads.toDocumented h₀ {} [] := Logged.of_blank rfl
  have hl : Logged Reference.listingReads.toDocumented h past [a, b, a'] :=
    ((((hl₀.step (.call c₁ h₀ {})).step (.call c₂ h₁ _)).step (.call c₃ h₂ _)).step
      (.call c₄ h₃ _)).step (.call c₅ h₄ _)
  have htime : ∀ s ∈ [a, b, a'], Millis.inRange s.time = true := by
    decide
  exact ⟨hl, htime, getSystemMemoryAt_latest Reference.listingReads hl htime 1500⟩

end

end Store
end MemoryRecorder
