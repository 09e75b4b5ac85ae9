import MemoryRecorder.Proofs.Store.Queries
import MemoryRecorder.Proofs.Store.ListingReference

/-!
# A reference engine for the system peak and the data query

`Reference.Lister` answers neither the system peak query nor the data query. `Reference.Reader`
is that engine with both: its connections are those of `Lister`; it answers the system peak query
under each estimator with the first system row in the query's order (`pickFirst`), and the data
query with the data rows of the measurement, in row id order. Every other statement it runs as
`Lister` does, and `Lister` runs the ordered reads as the reference engine does. So it does what
`SystemPeakReads` and `CachedReads` take of the store's engine (`Reference.systemPeakReads`,
`Reference.cachedReads`), and the theorems that assume those laws are not empty.
-/

namespace MemoryRecorder
namespace Store

namespace Reference

/-! ## The texts told apart -/

theorem availableExpr_injective (a b : Estimator) (h : availableExpr a = availableExpr b) :
    a = b := by
  have h' := congrArg String.toList h
  cases a <;> cases b <;> simp_all [availableExpr]

theorem systemPeakSql_injective (a b : Estimator) (h : systemPeakSql a = systemPeakSql b) :
    a = b :=
  availableExpr_injective a b (text_cancel_left (text_cancel_right h))

theorem begins_systemPeakSql (e : Estimator) :
    Begins (systemPeakSql e) ['S', 'E', 'L', 'E', 'C', 'T', ' ', 't'] :=
  ((begins_systemSelect.append _).append _).append _

theorem begins_dataRowsSql :
    Begins dataRowsSql ['S', 'E', 'L', 'E', 'C', 'T', ' ', 'r', 'a'] := by
  simp [dataRowsSql, Begins]

theorem begins_measurementCountSql :
    Begins measurementCountSql ['S', 'E', 'L', 'E', 'C', 'T', ' ', 'C'] := by
  simp [measurementCountSql, Begins]

theorem measurementCountSql_ne_systemPeakSql (e : Estimator) :
    measurementCountSql ≠ systemPeakSql e :=
  Begins.ne begins_measurementCountSql (begins_systemPeakSql e) rfl (by simp)

theorem rangesOfMeasurementSql_ne_dataRowsSql : rangesOfMeasurementSql ≠ dataRowsSql := by
  have hr : Begins rangesOfMeasurementSql ['S', 'E', 'L', 'E', 'C', 'T', ' ', 'r', '.'] := by
    unfold rangesOfMeasurementSql
    exact (Begins.append _ (by simp [Begins])).append _
  exact Begins.ne hr begins_dataRowsSql rfl (by simp)

theorem allRangesSql_ne_dataRowsSql : allRangesSql ≠ dataRowsSql :=
  Begins.ne begins_allRangesSql (begins_dataRowsSql.take 8) rfl (by simp)


/-! ## The engine -/

def systemPeakAnswer (t : Tables) (e : Estimator) : List (Array Value) :=
  (pickFirst (LessAvailable e) t.system).toList.map systemRecord

def answerPeak (t : Tables) (sql : String) : Option (List (Array Value)) :=
  if sql = systemPeakSql .kernel then some (systemPeakAnswer t .kernel)
  else if sql = systemPeakSql .computed then some (systemPeakAnswer t .computed)
  else none

theorem answerPeak_systemPeakSql (t : Tables) (e : Estimator) :
    answerPeak t (systemPeakSql e) = some (systemPeakAnswer t e) := by
  cases e with
  | kernel => rw [answerPeak, if_pos rfl]
  | computed =>
      rw [answerPeak, if_neg fun h => absurd (systemPeakSql_injective _ _ h) (by decide), if_pos rfl]

/-- A connection of the reference engine with the listing reads that also answers the system
peak query and the data query. -/
structure Reader where
  conn : Lister

namespace Reader

def view (s : Reader) : View :=
  s.conn.view

def tables (s : Reader) : Tables :=
  s.conn.conn.tables

def lift {α : Type} (f : Lister → Lister × α) (s : Reader) : Reader × α :=
  (⟨(f s.conn).1⟩, (f s.conn).2)

/-- Runs the first statement of a text: the system peak queries are answered, and every other
text runs as on the engine with the listing reads. -/
def runText (sql : String) (params : List Value) (s : Reader) :
    Reader × Except Sql.DbError (List String × List (Array Value)) :=
  if params = [] then
    match answerPeak s.tables sql with
    | some rows => (s, .ok ([], rows))
    | none => lift (Engine.runText sql params) s
  else lift (Engine.runText sql params) s

/-- Runs a prepared statement: the data query is answered, and every other text runs as on the
engine with the listing reads. -/
def stepCached (sql : String) (params : List Value) (s : Reader) :
    Reader × Except Sql.DbError (List String × List (Array Value)) :=
  if sql = dataRowsSql then
    match params with
    | [.int mid] => (s, .ok ([], (s.tables.dataOf mid).map dataListing))
    | _ => (s, .ok ([], []))
  else lift (Engine.stepCached sql params) s

end Reader

instance : Engine Reader where
  runBatch sql := Reader.lift (Engine.runBatch sql)
  runText := Reader.runText
  prepareCached sql := Reader.lift (Engine.prepareCached sql)
  stepCached := Reader.stepCached
  lastRowid s := Engine.lastRowid s.conn
  inTransaction s := Engine.inTransaction s.conn
  fresh := ⟨Engine.fresh⟩
  reopen s := ⟨Engine.reopen s.conn⟩

/-! ## The laws -/

theorem Lister.runBatch_snd (sql : String) (l : Lister) :
    (Engine.runBatch sql l).2 = (Engine.runBatch sql l.conn).2 :=
  rfl

namespace Reader

variable {s : Reader} {t : Tables} {sql : String} {params : List Value}

theorem tables_of_store (hc : s.view.content = .store t) : s.tables = t :=
  Conn.tables_of_store hc

/-- A text that is no system peak query runs as on the engine with the listing reads. -/
theorem runText_of_answerPeak (hp : params ≠ [] ∨ answerPeak s.tables sql = none) :
    Engine.runText sql params s = lift (Engine.runText sql params) s := by
  show runText sql params s = _
  unfold runText
  split
  · rename_i hnil
    rcases hp with hp | hp
    · exact absurd hnil hp
    · rw [hp]
  · rfl

theorem systemInsertSql_ne_systemPeakSql (e : Estimator) : systemInsertSql ≠ systemPeakSql e :=
  (ne_of_isQuery (isQuery_systemPeakSql e) begins_systemInsertSql rfl).symm

theorem stepCached_of_ne (hne : sql ≠ dataRowsSql) :
    Engine.stepCached sql params s = lift (Engine.stepCached sql params) s := by
  show stepCached sql params s = _
  unfold stepCached
  rw [if_neg hne]

theorem runs_lift {f : Lister → Lister × Except Sql.DbError Unit} {v : View}
    (h : Runs Lister.view f s.conn v) : Runs view (lift f) s v :=
  h

theorem answers_runText {rows : List (Array Value)}
    (hp : params ≠ [] ∨ answerPeak s.tables sql = none)
    (h : Answers Lister.view (Engine.runText sql params) s.conn rows) :
    Answers view (Engine.runText sql params) s rows := by
  rw [Answers, runText_of_answerPeak hp]
  exact h

theorem writes_runText {ok : Tables → Prop} (hp : params ≠ [] ∨ answerPeak s.tables sql = none)
    (h : Writes Lister.view (Engine.runText sql params) s.conn t ok) :
    Writes view (Engine.runText sql params) s t ok := by
  rw [Writes, runText_of_answerPeak hp]
  exact h

theorem answers_stepCached {rows : List (Array Value)} (hne : sql ≠ dataRowsSql)
    (h : Answers Lister.view (Engine.stepCached sql params) s.conn rows) :
    Answers view (Engine.stepCached sql params) s rows := by
  rw [Answers, stepCached_of_ne hne]
  exact h

theorem writes_stepCached {ok : Tables → Prop} (hne : sql ≠ dataRowsSql)
    (h : Writes Lister.view (Engine.stepCached sql params) s.conn t ok) :
    Writes view (Engine.stepCached sql params) s t ok := by
  rw [Writes, stepCached_of_ne hne]
  exact h

theorem answerPeak_of_ne (hne : ∀ e, sql ≠ systemPeakSql e) : answerPeak s.tables sql = none := by
  rw [answerPeak, if_neg (hne .kernel), if_neg (hne .computed)]

/-- An ordered read of the reference engine answers on this engine what it answers there. -/
theorem answers_of_conn {rows : List (Array Value)} (hq : IsQuery sql) (hp : params ≠ [])
    (hl : Lister.listing s.conn.conn sql params = none)
    (h : Answers Conn.view (Engine.runText sql params) s.conn.conn rows) :
    Answers view (Engine.runText sql params) s rows :=
  answers_runText (.inl hp)
    (Lister.answers_of_eq (Lister.runText_of_listing (ne_of_isQuery hq begins_systemInsertSql rfl) hl)
      (Lister.answers_lift h))

theorem runText_systemPeakSql (hc : s.view.content = .store t) (e : Estimator) :
    Engine.runText (systemPeakSql e) [] s = (s, .ok ([], systemPeakAnswer t e)) := by
  show runText _ _ s = _
  rw [runText, if_pos rfl, answerPeak_systemPeakSql, tables_of_store hc]

theorem stepCached_dataRowsSql (hc : s.view.content = .store t) (mid : Int64) :
    Engine.stepCached dataRowsSql [.int mid] s = (s, .ok ([], (t.dataOf mid).map dataListing)) := by
  show stepCached _ _ s = _
  rw [stepCached, if_pos rfl, tables_of_store hc]

end Reader

/-- The reference engine with the system peak and the data query does what the store's engine is
documented to do, and answers the listing reads as `ListingReads` takes it. -/
def readerListing : ListingReads Reader where
  view := Reader.view
  prepared _ _ := True
  ordered s := listingReads.ordered s.conn
  bounded s := listingReads.bounded s.conn
  inTransaction_eq s := listingReads.inTransaction_eq s.conn
  fresh := listingReads.fresh
  reopen s := listingReads.reopen s.conn
  foreign_keys_on s hb := Reader.runs_lift (listingReads.foreign_keys_on s.conn hb)
  schema_blank s hc := Reader.runs_lift (listingReads.schema_blank s.conn hc)
  schema_store s t hc := Reader.runs_lift (listingReads.schema_store s.conn t hc)
  table_count s t n hc hn :=
    Reader.answers_runText (.inl (List.cons_ne_nil _ _)) (listingReads.table_count s.conn t n hc hn)
  begin s hb := Reader.runs_lift (listingReads.begin s.conn hb)
  commit s c hb := .inl (Reader.runs_lift ((listingReads.commit s.conn c hb).resolve_right
    fun ⟨_, herr, _⟩ => by rw [Lister.runBatch_snd, Conn.runBatch_commit] at herr; cases herr))
  rollback s c hb := Reader.runs_lift (listingReads.rollback s.conn c hb)
  prepare s sql := listingReads.prepare s.conn sql
  prepare_ok s t sql hc hsql := ⟨(listingReads.prepare_ok s.conn t sql hc hsql).1, trivial⟩
  step_prepared _ _ _ _ := trivial
  put_process s t id pid start name hc :=
    Reader.writes_runText (.inl (List.cons_ne_nil _ _))
      (listingReads.put_process s.conn t id pid start name hc)
  put_range s t id process lo hi permission name _ hc he :=
    Reader.writes_stepCached (ne_of_isQuery isQuery_dataRowsSql begins_rangeInsertSql rfl).symm
      (listingReads.put_range s.conn t id process lo hi permission name trivial hc he)
  put_measurement s t id process time figures hlen _ hc he :=
    Reader.writes_stepCached (ne_of_isQuery isQuery_dataRowsSql begins_measurementInsertSql rfl).symm
      (listingReads.put_measurement s.conn t id process time figures hlen trivial hc he)
  put_data s t rangeId mid rss pss _ hc he :=
    Reader.writes_stepCached (ne_of_isQuery isQuery_dataRowsSql begins_dataInsertSql rfl).symm
      (listingReads.put_data s.conn t rangeId mid rss pss trivial hc he)
  put_system s t params hc :=
    Reader.writes_runText (.inr (Reader.answerPeak_of_ne Reader.systemInsertSql_ne_systemPeakSql))
      (listingReads.put_system s.conn t params hc)
  query_view s sql params hq := by
    have hlisting := listingReads.query_view s.conn sql params hq
    refine ⟨?_, ?_⟩
    · show (Reader.runText sql params s).1.view = s.view
      unfold Reader.runText
      split
      · split
        · rfl
        · exact hlisting.1
      · exact hlisting.1
    · show (Reader.stepCached sql params s).1.view = s.view
      unfold Reader.stepCached
      split
      · split <;> rfl
      · exact hlisting.2
  measurement_by_id s t id hc :=
    Reader.answers_runText (.inl (List.cons_ne_nil _ _)) (listingReads.measurement_by_id s.conn t id hc)
  ranges_of_measurement s t mid _ hc :=
    Reader.answers_stepCached rangesOfMeasurementSql_ne_dataRowsSql
      (listingReads.ranges_of_measurement s.conn t mid trivial hc)
  measurement_count s t hc :=
    Reader.answers_runText (.inr (Reader.answerPeak_of_ne measurementCountSql_ne_systemPeakSql))
      (listingReads.measurement_count s.conn t hc)
  add_system s t xs hc :=
    Reader.writes_runText (.inr (Reader.answerPeak_of_ne Reader.systemInsertSql_ne_systemPeakSql))
      (listingReads.add_system s.conn t xs hc)
  system_at s t time hc hint := by
    obtain ⟨xs, hfirst, hans⟩ := listingReads.system_at s.conn t time hc hint
    exact ⟨xs, hfirst, Reader.answers_runText (.inl (List.cons_ne_nil _ _)) hans⟩
  measurements_at s t time hc hint := by
    obtain ⟨xs, hsorted, hans⟩ := listingReads.measurements_at s.conn t time hc hint
    exact ⟨xs, hsorted, Reader.answers_runText (.inl (List.cons_ne_nil _ _)) hans⟩
  prepare_all_ranges s t hc := ⟨(listingReads.prepare_all_ranges s.conn t hc).1, trivial⟩
  all_ranges s t key _ hc hint := by
    obtain ⟨xs, hsorted, hans⟩ := listingReads.all_ranges s.conn t key trivial hc hint
    exact ⟨xs, hsorted, Reader.answers_stepCached allRangesSql_ne_dataRowsSql hans⟩
  lookup_pid s t pid hc hint := by
    obtain ⟨xs, hsorted, hans⟩ := listingReads.lookup_pid s.conn t pid hc hint
    exact ⟨xs, hsorted, Reader.answers_runText (.inl (List.cons_ne_nil _ _)) hans⟩

/-- The reference engine with the system peak and the data query answers the system peak query
as `SystemPeakReads` takes it. -/
def systemPeakReads : SystemPeakReads Reader :=
  { readerListing with
    system_peak := fun s t e hc _ =>
      ⟨_, firstOf_pickFirst (strictWeak_lessAvailable e) _, by
        unfold Answers
        rw [Reader.runText_systemPeakSql hc]
        exact ⟨⟨[], rfl⟩, rfl⟩⟩ }

/-- The reference engine with the system peak and the data query answers the ordered reads as
the reference engine does, and the data query as `CachedReads` takes it. -/
def cachedReads : CachedReads Reader :=
  { readerListing with
    measurement_at := fun s t key time hc hint => by
      obtain ⟨xs, hfirst, hans⟩ := orderedReads.measurement_at s.conn.conn t key time hc hint
      exact ⟨xs, hfirst,
        Reader.answers_of_conn isQuery_measurementAtSql (List.cons_ne_nil _ _) rfl hans⟩
    memory_peak := fun s t ty a b hc hint => by
      obtain ⟨xs, hfirst, hans⟩ := orderedReads.memory_peak s.conn.conn t ty a b hc hint
      exact ⟨xs, hfirst, Reader.answers_of_conn (isQuery_peakSql ty) (List.cons_ne_nil _ _) rfl hans⟩
    process_memory_peak := fun s t ty a b key hc hint => by
      obtain ⟨xs, hfirst, hans⟩ := orderedReads.process_memory_peak s.conn.conn t ty a b key hc hint
      exact ⟨xs, hfirst,
        Reader.answers_of_conn (isQuery_processPeakSql ty) (List.cons_ne_nil _ _) rfl hans⟩
    prepare_data_rows := fun _ _ _ => ⟨rfl, trivial⟩
    data_rows := fun s t mid _ hc => by
      unfold Answers
      rw [Reader.stepCached_dataRowsSql hc]
      exact ⟨⟨[], rfl⟩, rfl⟩ }

theorem view_systemPeakReads (s : Reader) : systemPeakReads.view s = s.conn.conn.view :=
  rfl

theorem view_cachedReads (s : Reader) : cachedReads.view s = s.conn.conn.view :=
  rfl

end Reference

end Store
end MemoryRecorder
