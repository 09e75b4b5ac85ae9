import MemoryRecorder.Proofs.Store.SystemAt
import MemoryRecorder.Proofs.Store.ReaderReference

/-!
# The system peak

Reading the system peak under an estimator asks the engine for the first system row in the
order of the estimator's SQL expression, the earliest inserted of equals
(`ORDER BY <expr> ASC, id ASC LIMIT 1`). The expression is evaluated over the signed columns:
under the kernel's estimate it is the available counter read as a signed word, and under the
computed estimate it is the signed sum `free + buffers + cached - shmem + swap cache +
reclaimable`, which does not saturate at zero as `MemInfo.available` does.

On every store a program reaches, through an engine that orders the rows by that expression as
SQLite does while its sums stay within a word (`SystemPeakReads`), and while the database has
room for one more row, the read gives none exactly when no sample was passed to the store.
Otherwise the samples passed split around the sample it gives: every sample before it has a
greater value of the expression, and none after it has a smaller one
(`getSystemMemoryPeak_least`). So the read gives the earliest of the samples that minimise the
expression; where a computed estimate would go below zero, that is not the earliest of those
that minimise `MemInfo.available`.
-/

namespace MemoryRecorder
namespace Store

theorem Sql.systemRow_integral (id : Int64) (xs : List Int64) : (systemRow id xs).Integral := by
  intro v hv
  simp only [systemRow, List.toList_toArray, List.mem_cons, List.mem_map] at hv
  rcases hv with rfl | ⟨n, -, rfl⟩
  · exact ⟨id, rfl⟩
  · exact ⟨n, rfl⟩

/-- Of rows in row id order, a row that no row comes before in the order of the system peak query
splits the samples they hold: those before it have a greater value of the estimator's
expression, and those after it no smaller one. -/
theorem samples_split_of_least {rows : List Sql.Row} (hord : Sql.Ordered rows) {x : Sql.Row}
    (hx : x ∈ rows) {e : Estimator} (hleast : ∀ y ∈ rows, ¬ LessAvailable e y x) :
    ∃ pre post, rows.map Sql.Row.sample = pre ++ x.sample :: post ∧
      (∀ s ∈ pre, x.sample.memInfo.sqlAvailable e < s.memInfo.sqlAvailable e) ∧
      (∀ s ∈ post, x.sample.memInfo.sqlAvailable e ≤ s.memInfo.sqlAvailable e) := by
  obtain ⟨P, Q, rfl⟩ := List.append_of_mem hx
  refine ⟨P.map Sql.Row.sample, Q.map Sql.Row.sample, by simp, ?_, ?_⟩
  · -- a row inserted before it has a smaller id, so one of equal value would come first
    intro s hs
    obtain ⟨y, hy, rfl⟩ := List.mem_map.1 hs
    have hid : y.rowid < x.rowid := (List.pairwise_append.1 hord).2.2 y hy x List.mem_cons_self
    have hnot := hleast y (List.mem_append_left _ hy)
    simp only [LessAvailable, not_or, not_and] at hnot
    have hne : y.sample.memInfo.sqlAvailable e ≠ x.sample.memInfo.sqlAvailable e :=
      fun heq => hnot.2 heq hid
    omega
  · -- a row inserted after it has no smaller value, or it would come first
    intro s hs
    obtain ⟨y, hy, rfl⟩ := List.mem_map.1 hs
    have hnot := hleast y (List.mem_append_right _ (List.mem_cons_of_mem x hy))
    simp only [LessAvailable, not_or] at hnot
    omega

section

variable {σ : Type} [Engine σ] {h : Handle σ} {t : Tables} {ss : List SystemSnapshot}

theorem exec_firstRow_systemPeak (L : SystemPeakReads σ) (hc : (L.view h.conn).content = .store t)
    (hl : t.Logs ss) (htime : ∀ r ∈ t.system, Millis.inRange r.sample.time = true)
    (e : Estimator) (hexact : ∀ r ∈ t.system, r.sample.memInfo.SqlExact e) :
    t.system = [] ∧ (h.exec (firstRow (systemPeakSql e) [] toSystem)).2 = .ok none ∨
      ∃ x ∈ t.system, (∀ y ∈ t.system, ¬ LessAvailable e y x) ∧
        (h.exec (firstRow (systemPeakSql e) [] toSystem)).2 = .ok (some x.sample) := by
  obtain ⟨xs, hfirst, ⟨names, hans⟩, -⟩ := L.system_peak h.conn t e hc fun r hr => by
    refine ⟨?_, hexact r hr⟩
    rw [hl.rows r hr]
    exact Sql.systemRow_integral _ _
  have hrun : h.exec (query (systemPeakSql e) []) =
      ({ h with conn := (Engine.runText (systemPeakSql e) [] h.conn).1 },
        .ok (names, xs.map systemRecord)) :=
    Handle.exec_onEngine_ok hans
  rcases hfirst with ⟨hnil, rfl⟩ | ⟨x, hx, rfl, hnone⟩
  · refine .inl ⟨hnil, ?_⟩
    simp only [firstRow, Handle.exec_bind_ok _ hrun]
    rfl
  · refine .inr ⟨x, hx, hnone, ?_⟩
    -- the row is the row of its sample, which reads back
    have hread : toSystem names (systemRecord x) = .ok x.sample := by
      have hrow := hl.rows x hx
      calc toSystem names (systemRecord x)
          = toSystem names (systemRecord (systemRow x.rowid x.sample.values)) := by rw [← hrow]
        _ = .ok x.sample := toSystem_systemRecord names x.rowid (htime x hx)
    rw [exec_firstRow_cons hans, hread]
    rfl

end

/-! ## The peak of the samples passed -/

section

variable {σ : Type} [Engine σ] {h : Handle σ} {past : Past} {t : Tables} {ss : List SystemSnapshot}

/-- On tables that log the samples passed, with room for one more row, reading the system peak
gives none when no sample was passed, and otherwise a sample that splits them: those before it
have a greater value of the estimator's expression, those after it no smaller one. -/
theorem exec_getSystemMemoryPeak_split (L : SystemPeakReads σ)
    (hc : (L.view h.conn).content = .store t) (hlogs : t.Logs ss) (hroom : t.size + 1 < rowLimit)
    (htime : ∀ s ∈ ss, Millis.inRange s.time = true) (e : Estimator)
    (hexact : ∀ s ∈ ss, s.memInfo.SqlExact e) :
    ss = [] ∧ (h.exec (getSystemMemoryPeak e)).2 = .ok none ∨
      ∃ pre s post, ss = pre ++ s :: post ∧
        (∀ s' ∈ pre, s.memInfo.sqlAvailable e < s'.memInfo.sqlAvailable e) ∧
        (∀ s' ∈ post, s.memInfo.sqlAvailable e ≤ s'.memInfo.sqlAvailable e) ∧
        (h.exec (getSystemMemoryPeak e)).2 = .ok (some s) := by
  -- with room for a row, the system rows hold the samples passed, in order
  obtain rfl := hlogs.samples hroom
  have hts : ∀ r ∈ t.system, Millis.inRange r.sample.time = true :=
    fun r hr => htime _ (List.mem_map_of_mem hr)
  have hex : ∀ r ∈ t.system, r.sample.memInfo.SqlExact e :=
    fun r hr => hexact _ (List.mem_map_of_mem hr)
  rw [getSystemMemoryPeak_eq]
  rcases exec_firstRow_systemPeak L hc hlogs hts e hex with ⟨hnil, hnone⟩ | ⟨x, hx, hleast, hsome⟩
  · exact .inl ⟨by rw [hnil]; rfl, hnone⟩
  · obtain ⟨pre, post, hsplit, hpre, hpost⟩ :=
      samples_split_of_least (L.ordered _ t hc).2.2.2.2 hx hleast
    exact .inr ⟨pre, x.sample, post, hsplit, hpre, hpost, hsome⟩

/-- On every store a program reaches, through an engine that orders the system rows by the
estimator's expression as SQLite does, for samples whose sums stay within a word, and while the
database has room for one more row: reading the system peak gives none when no sample was passed
to the store. Otherwise the samples passed split around one that the read gives, exactly as it
was passed: every sample before it has a greater value of the estimator's expression, and every
sample after it a value no smaller. -/
theorem getSystemMemoryPeak_least (L : SystemPeakReads σ) (hl : Logged L.toDocumented h past ss)
    (htime : ∀ s ∈ ss, Millis.inRange s.time = true) (e : Estimator)
    (hexact : ∀ s ∈ ss, s.memInfo.SqlExact e) :
    ∃ t, L.view h.conn = { content := .store t, enforcing := true } ∧
      (t.size + 1 < rowLimit →
        ss = [] ∧ (h.exec (getSystemMemoryPeak e)).2 = .ok none ∨
        ∃ pre s post, ss = pre ++ s :: post ∧
          (∀ s' ∈ pre, s.memInfo.sqlAvailable e < s'.memInfo.sqlAvailable e) ∧
          (∀ s' ∈ post, s.memInfo.sqlAvailable e ≤ s'.memInfo.sqlAvailable e) ∧
          (h.exec (getSystemMemoryPeak e)).2 = .ok (some s)) := by
  obtain ⟨t, hv, hlogs⟩ := hl.logs L.toListingReads
  have hc : (L.view h.conn).content = .store t := by
    rw [hv]
  exact ⟨t, hv, fun hroom => exec_getSystemMemoryPeak_split L hc hlogs hroom htime e hexact⟩

/-- The read of the system peak under the computed estimate on a store opened on a new database of
the reference engine with the system peak query, after two samples were passed to it whose
computed estimates go below zero. -/
theorem getSystemMemoryPeak_least_below_zero :
    let s₁ : SystemSnapshot := ⟨1000, { shmem := 5 }⟩
    let s₂ : SystemSnapshot := ⟨2000, { shmem := 10 }⟩
    let h₀ := Handle.opened (Engine.fresh : Reference.Reader)
    let h₁ := (h₀.exec (Call.insertSystemSnapshot s₁).run).1
    let h₂ := (h₁.exec (Call.insertSystemSnapshot s₂).run).1
    Logged Reference.systemPeakReads.toDocumented h₂
        ((Call.insertSystemSnapshot s₂).after (h₁.exec (Call.insertSystemSnapshot s₂).run).2
          ((Call.insertSystemSnapshot s₁).after (h₀.exec (Call.insertSystemSnapshot s₁).run).2 {}))
        [s₁, s₂] ∧
      (∀ s ∈ [s₁, s₂], Millis.inRange s.time = true) ∧
      (∀ s ∈ [s₁, s₂], s.memInfo.SqlExact .computed) ∧
      ∃ t, Reference.systemPeakReads.view h₂.conn = { content := .store t, enforcing := true } ∧
        (t.size + 1 < rowLimit →
          [s₁, s₂] = [] ∧ (h₂.exec (getSystemMemoryPeak .computed)).2 = .ok none ∨
          ∃ pre s post, [s₁, s₂] = pre ++ s :: post ∧
            (∀ s' ∈ pre, s.memInfo.sqlAvailable .computed < s'.memInfo.sqlAvailable .computed) ∧
            (∀ s' ∈ post, s.memInfo.sqlAvailable .computed ≤ s'.memInfo.sqlAvailable .computed) ∧
            (h₂.exec (getSystemMemoryPeak .computed)).2 = .ok (some s)) := by
  intro s₁ s₂ h₀ h₁ h₂
  have hl : Logged Reference.systemPeakReads.toDocumented h₂
      ((Call.insertSystemSnapshot s₂).after (h₁.exec (Call.insertSystemSnapshot s₂).run).2
        ((Call.insertSystemSnapshot s₁).after (h₀.exec (Call.insertSystemSnapshot s₁).run).2 {}))
      [s₁, s₂] :=
    Logged.step (Logged.step (Logged.of_blank rfl) (Step.call (Call.insertSystemSnapshot s₁) h₀ {}))
      (Step.call (Call.insertSystemSnapshot s₂) h₁ _)
  have htime : ∀ s ∈ [s₁, s₂], Millis.inRange s.time = true := by
    decide
  have hexact : ∀ s ∈ [s₁, s₂], s.memInfo.SqlExact .computed := by
    decide
  exact ⟨hl, htime, hexact,
    getSystemMemoryPeak_least Reference.systemPeakReads hl htime .computed hexact⟩

/-- Where no sample's figure is below zero, and every counter an estimator reads is below
`2 ^ 63`, the system peak is the earliest of the samples with the least available memory: with
room for one more row, the samples passed split around the one the read gives, those before it
having more available memory and those after it no less. -/
theorem getSystemMemoryPeak_least_available (L : SystemPeakReads σ)
    (hl : Logged L.toDocumented h past ss) (htime : ∀ s ∈ ss, Millis.inRange s.time = true)
    (e : Estimator) (hexact : ∀ s ∈ ss, s.memInfo.SqlExact e)
    (hsmall : ∀ s ∈ ss, ∀ w ∈ s.memInfo.counters e, w.toNat < Nat.pow 2 63)
    (hpos : ∀ s ∈ ss, 0 ≤ s.memInfo.sqlAvailable e) :
    ∃ t, L.view h.conn = { content := .store t, enforcing := true } ∧
      (t.size + 1 < rowLimit →
        ss = [] ∧ (h.exec (getSystemMemoryPeak e)).2 = .ok none ∨
        ∃ pre s post v, ss = pre ++ s :: post ∧ s.memInfo.available e = .ok v ∧
          (∀ s' ∈ pre, ∀ v', s'.memInfo.available e = .ok v' → v < v') ∧
          (∀ s' ∈ post, ∀ v', s'.memInfo.available e = .ok v' → v ≤ v') ∧
          (h.exec (getSystemMemoryPeak e)).2 = .ok (some s)) := by
  obtain ⟨t, hv, hlogs⟩ := hl.logs L.toListingReads
  have hc : (L.view h.conn).content = .store t := by
    rw [hv]
  refine ⟨t, hv, fun hroom => ?_⟩
  rcases exec_getSystemMemoryPeak_split L hc hlogs hroom htime e hexact with
    hnone | ⟨pre, s, post, rfl, hpre, hpost, hsome⟩
  · exact .inl hnone
  -- on these samples the query's figure is the available memory
  have hfig : ∀ s' ∈ pre ++ s :: post, ∀ v', s'.memInfo.available e = .ok v' →
      s'.memInfo.sqlAvailable e = v'.toNat :=
    fun s' hs' _ hv' => MemInfo.sqlAvailable_eq_toNat hv' (hsmall s' hs') (hpos s' hs')
  have hs : s ∈ pre ++ s :: post := List.mem_append_right _ List.mem_cons_self
  obtain ⟨v, hav⟩ := MemInfo.available_ok_of_sqlExact (hexact s hs) (hsmall s hs)
  refine .inr ⟨pre, s, post, v, rfl, hav, fun s' hs' v' hav' => ?_, fun s' hs' v' hav' => ?_, hsome⟩
  · have hlt := hpre s' hs'
    rw [hfig s hs v hav, hfig s' (List.mem_append_left _ hs') v' hav'] at hlt
    exact UInt64.lt_iff_toNat_lt.2 (by omega)
  · have hle := hpost s' hs'
    rw [hfig s hs v hav, hfig s' (List.mem_append_right _ (List.mem_cons_of_mem s hs')) v' hav']
      at hle
    exact UInt64.le_iff_toNat_le.2 (by omega)

end

end Store
end MemoryRecorder
