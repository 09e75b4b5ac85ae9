import MemoryRecorder.Proofs.Store.Reference
import MemoryRecorder.Proofs.Store.Listing

/-!
# A reference engine for the listing reads

The reference engine (`Reference.Conn`) answers none of the listing reads and writes no system
row. `Reference.Lister` is that engine with both: its connections are those of the reference
engine; it numbers the system rows as `Tables.addSystem` says, answers the system-at query with
the first row of its order (`pickFirst`), and the three other listing reads with their rows
sorted by their order (`sortBy`, a merge sort, which keeps rows the order does not tell apart as
they came). Every other statement it runs as the reference engine does. So it does what
`ListingReads` takes of the store's engine (`Reference.listingReads`), and the theorems that
assume those laws are not empty.
-/

namespace MemoryRecorder
namespace Store

/-! ## Tables after a system sample -/

namespace Tables

variable {t : Tables} {xs : List Int64}

theorem putSystem_addSystem (t : Tables) (xs : List Int64) : t.PutSystem (t.addSystem xs) := by
  unfold addSystem
  split
  · split <;> exact ⟨rfl, rfl, rfl, rfl⟩
  · exact ⟨rfl, rfl, rfl, rfl⟩

theorem Fits.addSystem (h : t.Fits) (xs : List Int64) : (t.addSystem xs).Fits := by
  unfold Tables.addSystem
  split
  · rename_i n hn
    split
    · rename_i hroom
      obtain ⟨⟨hp, hr, hm, hd, hs⟩, -⟩ := h
      have hfresh : Sql.hasRowid t.system n = false :=
        Sql.hasRowid_eq_false_iff.2 fun y hy heq =>
          Int64.lt_irrefl (heq ▸ Sql.lt_of_nextRowid? hn hy)
      refine ⟨⟨hp, hr, hm, hd, hs.insertRow hfresh⟩, ?_⟩
      simp only [Tables.size, Sql.length_insertRow] at hroom ⊢
      omega
    · exact h
  · exact h

end Tables

namespace Reference

/-! ## Sorting by an order -/

section

variable {α : Type} (before : α → α → Prop) [DecidableRel before]

/-- Rows sorted by an order, rows it does not tell apart kept as they came. -/
def sortBy (rows : List α) : List α :=
  rows.mergeSort fun x y => !decide (before y x)

variable {before}

/-- Rows sorted by a strict weak order are what `ORDER BY` may answer of them. -/
theorem sortedBy_sortBy (hw : StrictWeak before) (rows : List α) :
    SortedBy before rows (sortBy before rows) := by
  refine ⟨List.mergeSort_perm _ _, ?_⟩
  -- not coming after is transitive and total, since the order is strict weak
  have htrans : ∀ a b c : α, (!decide (before b a)) = true → (!decide (before c b)) = true →
      (!decide (before c a)) = true := by
    intro a b c hab hbc
    simp only [Bool.not_eq_true', decide_eq_false_iff_not] at hab hbc ⊢
    exact fun hca => (hw.cotrans c b a hca).elim hbc hab
  have htotal : ∀ a b : α, (!decide (before b a) || !decide (before a b)) = true := by
    intro a b
    simp only [Bool.or_eq_true, Bool.not_eq_true', decide_eq_false_iff_not]
    by_cases hba : before b a
    · exact .inr fun hab => hw.irrefl a (hw.trans a b a hab hba)
    · exact .inl hba
  exact (List.pairwise_mergeSort htrans htotal rows).imp fun hxy => by simpa using hxy

end

/-! ## The engine -/

/-- A connection of the reference engine that also answers the listing reads. -/
structure Lister where
  conn : Conn

namespace Lister

def view (s : Lister) : View :=
  s.conn.view

def lift {α : Type} (f : Conn → Conn × α) (s : Lister) : Lister × α :=
  (⟨(f s.conn).1⟩, (f s.conn).2)

/-- What the listing reads of one integer answer, told apart by their texts; none for any other
text. -/
def listing (s : Conn) (sql : String) : List Value → Option (List (Array Value))
  | [.int a] =>
      if sql = systemAtSql then
        some ((pickFirst LaterSample
          (s.tables.system.filter fun r => decide (r.sampleTime ≤ a))).toList.map systemRecord)
      else if sql = measurementsAtSql then
        some (Tables.records (sortBy LowerSeq (s.tables.joined.filter fun x => x.1.time == a)))
      else if sql = lookupPidSql then
        some ((sortBy EarlierStart
          (s.tables.process.filter fun p => (p.col 1).sameAs a)).map processListing)
      else none
  | _ => none

def putSystem (s : Conn) (params : List Value) : Outcome :=
  match hc : s.view.content with
  | .store t =>
      match ints params with
      | some xs => (s.put (t.addSystem xs) ((Conn.fits_of_store hc).addSystem xs), .ok ([], []))
      | none => (s, .ok ([], []))
  | _ => (s, .error refused)

/-- Runs the first statement of a text: the system insert numbers its row, the listing reads are
answered, and every other text runs as on the reference engine. -/
def runText (sql : String) (params : List Value) (s : Lister) :
    Lister × Except Sql.DbError (List String × List (Array Value)) :=
  if sql = systemInsertSql then lift (putSystem · params) s
  else
    match listing s.conn sql params with
    | some rows => (s, .ok ([], rows))
    | none => lift (Conn.runText sql params) s

/-- Runs a prepared statement: the range listing is answered, and every other text runs as on the
reference engine. -/
def stepCached (sql : String) (params : List Value) (s : Lister) :
    Lister × Except Sql.DbError (List String × List (Array Value)) :=
  if sql = allRangesSql then
    match params with
    | [.int key] =>
        (s, .ok ([], (sortBy LowerRange
          (s.conn.tables.range.filter fun r => (r.col 1).sameAs key)).map rangeListing))
    | _ => (s, .ok ([], []))
  else lift (Conn.stepCached sql params) s

end Lister

instance : Engine Lister where
  runBatch sql := Lister.lift (Engine.runBatch (σ := Conn) sql)
  runText := Lister.runText
  prepareCached _ s := (s, .ok ())
  stepCached := Lister.stepCached
  lastRowid _ := 0
  inTransaction s := s.view.began.isSome
  fresh := ⟨Engine.fresh⟩
  reopen s := ⟨Engine.reopen s.conn⟩

/-! ## The texts told apart -/

theorem begins_measurementSelect :
    Begins measurementSelect ['S', 'E', 'L', 'E', 'C', 'T', ' ', 'm'] := by
  unfold measurementSelect
  exact ((Begins.append _ (by simp [Begins])).append _).append _

theorem begins_systemSelect : Begins systemSelect ['S', 'E', 'L', 'E', 'C', 'T', ' ', 't'] := by
  unfold systemSelect
  exact (Begins.append _ (by simp [Begins])).append _

theorem begins_lookupPidSql : Begins lookupPidSql ['S', 'E', 'L', 'E', 'C', 'T', ' ', 'p'] := by
  simp [lookupPidSql, Begins]

theorem begins_allRangesSql : Begins allRangesSql ['S', 'E', 'L', 'E', 'C', 'T', ' ', 'i'] := by
  unfold allRangesSql
  exact Begins.append _ (by simp [Begins])

theorem begins_rangesOfMeasurementSql :
    Begins rangesOfMeasurementSql ['S', 'E', 'L', 'E', 'C', 'T', ' ', 'r'] := by
  unfold rangesOfMeasurementSql
  exact (Begins.append _ (by simp [Begins])).append _

theorem measurementByIdSql_ne_systemAtSql : measurementByIdSql ≠ systemAtSql :=
  Begins.ne (begins_measurementSelect.append _) (begins_systemSelect.append _) rfl (by simp)

theorem measurementsAtSql_ne_systemAtSql : measurementsAtSql ≠ systemAtSql :=
  Begins.ne (begins_measurementSelect.append _) (begins_systemSelect.append _) rfl (by simp)

theorem measurementByIdSql_ne_lookupPidSql : measurementByIdSql ≠ lookupPidSql :=
  Begins.ne (begins_measurementSelect.append _) begins_lookupPidSql rfl (by simp)

theorem lookupPidSql_ne_systemAtSql : lookupPidSql ≠ systemAtSql :=
  Begins.ne begins_lookupPidSql (begins_systemSelect.append _) rfl (by simp)

theorem lookupPidSql_ne_measurementsAtSql : lookupPidSql ≠ measurementsAtSql :=
  Begins.ne begins_lookupPidSql (begins_measurementSelect.append _) rfl (by simp)

theorem rangesOfMeasurementSql_ne_allRangesSql : rangesOfMeasurementSql ≠ allRangesSql :=
  Begins.ne begins_rangesOfMeasurementSql begins_allRangesSql rfl (by simp)

theorem measurementByIdSql_ne_measurementsAtSql : measurementByIdSql ≠ measurementsAtSql := by
  intro h
  have hw : Begins " WHERE m.id = ?1" [' ', 'W', 'H', 'E', 'R', 'E', ' ', 'm', '.', 'i'] := by
    simp [Begins]
  have hx : Begins " WHERE m.time = ?1 ORDER BY m.seq"
      [' ', 'W', 'H', 'E', 'R', 'E', ' ', 'm', '.', 't'] := by
    simp [Begins]
  exact Begins.ne hw hx rfl (by simp) (text_cancel_left h)

/-! ## The laws -/

namespace Lister

variable {s : Lister} {t : Tables} {sql : String} {params : List Value}

theorem runText_of_listing (hne : sql ≠ systemInsertSql) (hl : listing s.conn sql params = none) :
    Engine.runText sql params s = lift (Conn.runText sql params) s := by
  show runText sql params s = _
  rw [runText, if_neg hne, hl]

theorem stepCached_of_ne (hne : sql ≠ allRangesSql) :
    Engine.stepCached sql params s = lift (Conn.stepCached sql params) s := by
  show stepCached sql params s = _
  unfold stepCached
  rw [if_neg hne]

/-- A query is answered with its listing, or as on the reference engine, and changes nothing. -/
theorem runText_of_isQuery (hq : IsQuery sql) :
    Engine.runText sql params s =
      (s, .ok ([], (listing s.conn sql params).getD (s.conn.answer sql params))) := by
  show runText sql params s = _
  rw [runText, if_neg (ne_of_isQuery hq begins_systemInsertSql rfl)]
  cases listing s.conn sql params with
  | some rows => rfl
  | none =>
      rw [lift, Conn.runText_of_isQuery params hq]
      rfl

theorem answers_of_listing {rows : List (Array Value)} (hq : IsQuery sql)
    (hl : listing s.conn sql params = some rows) :
    Answers view (Engine.runText sql params) s rows := by
  unfold Answers
  rw [runText_of_isQuery hq, hl]
  exact ⟨⟨[], rfl⟩, rfl⟩

/-- The system insert of a store numbers the row of a sample of integers as the table does, and
of any other values writes nothing. -/
theorem putSystem_of_store {s : Conn} (hc : s.view.content = .store t) (params : List Value) :
    (putSystem s params).2 = .ok ([], []) ∧
      (putSystem s params).1.view =
        { s.view with content := .store ((ints params).elim t t.addSystem) } := by
  unfold putSystem
  split
  · rename_i t' hc'
    obtain rfl : t' = t := by
      rw [hc] at hc'
      exact (Content.store.inj hc').symm
    cases ints params with
    | some xs => exact ⟨rfl, rfl⟩
    | none => exact ⟨rfl, (View.with_content_of_eq hc).symm⟩
  · rename_i hnot
    exact absurd hc (hnot t)

theorem runText_systemInsert (params : List Value) :
    Engine.runText systemInsertSql params s = lift (putSystem · params) s := by
  show runText systemInsertSql params s = _
  rw [runText, if_pos rfl]

theorem answers_of_eq {step step' : Lister → Lister × Except Sql.DbError
      (List String × List (Array Value))} {rows : List (Array Value)}
    (h : step s = step' s) (ha : Answers view step' s rows) : Answers view step s rows := by
  unfold Answers at ha ⊢
  rw [h]
  exact ha

theorem writes_of_eq {step step' : Lister → Lister × Except Sql.DbError
      (List String × List (Array Value))} {ok : Tables → Prop}
    (h : step s = step' s) (hw : Writes view step' s t ok) : Writes view step s t ok := by
  unfold Writes at hw ⊢
  rw [h]
  exact hw

theorem runs_lift {f : Conn → Conn × Except Sql.DbError Unit} {v : View}
    (h : Runs Conn.view f s.conn v) : Runs view (lift f) s v :=
  h

theorem answers_lift {f : Conn → Outcome} {rows : List (Array Value)}
    (h : Answers Conn.view f s.conn rows) : Answers view (lift f) s rows :=
  h

theorem writes_lift {f : Conn → Outcome} {ok : Tables → Prop}
    (h : Writes Conn.view f s.conn t ok) : Writes view (lift f) s t ok :=
  h

end Lister

/-- The reference engine with the listing reads does what the store's engine is documented to
do, and answers the listing reads as `ListingReads` takes it. -/
def listingReads : ListingReads Lister where
  view := Lister.view
  prepared _ _ := True
  ordered s := documented.ordered s.conn
  bounded s := documented.bounded s.conn
  inTransaction_eq _ := rfl
  fresh := documented.fresh
  reopen s := documented.reopen s.conn
  foreign_keys_on s hb := Lister.runs_lift (documented.foreign_keys_on s.conn hb)
  schema_blank s hc := Lister.runs_lift (documented.schema_blank s.conn hc)
  schema_store s t hc := Lister.runs_lift (documented.schema_store s.conn t hc)
  table_count s t n hc hn :=
    Lister.answers_of_eq (Lister.runText_of_listing
        (ne_of_isQuery Conn.isQuery_tableCountSql begins_systemInsertSql rfl) rfl)
      (Lister.answers_lift (documented.table_count s.conn t n hc hn))
  begin s hb := Lister.runs_lift (documented.begin s.conn hb)
  commit s c hb := .inl (Lister.runs_lift ((documented.commit s.conn c hb).resolve_right
    fun ⟨_, herr, _⟩ => by rw [Conn.runBatch_commit] at herr; cases herr))
  rollback s c hb := Lister.runs_lift (documented.rollback s.conn c hb)
  prepare _ _ := rfl
  prepare_ok _ _ _ _ _ := ⟨rfl, trivial⟩
  step_prepared _ _ _ _ := trivial
  put_process s t id pid start name hc :=
    Lister.writes_of_eq (Lister.runText_of_listing systemInsertSql_ne.symm rfl)
      (Lister.writes_lift (documented.put_process s.conn t id pid start name hc))
  put_range s t id process lo hi permission name _ hc he :=
    Lister.writes_of_eq (Lister.stepCached_of_ne
        (ne_of_isQuery isQuery_allRangesSql begins_rangeInsertSql rfl).symm)
      (Lister.writes_lift
        (documented.put_range s.conn t id process lo hi permission name trivial hc he))
  put_measurement s t id process time figures hlen _ hc he :=
    Lister.writes_of_eq (Lister.stepCached_of_ne
        (ne_of_isQuery isQuery_allRangesSql begins_measurementInsertSql rfl).symm)
      (Lister.writes_lift
        (documented.put_measurement s.conn t id process time figures hlen trivial hc he))
  put_data s t rangeId mid rss pss _ hc he :=
    Lister.writes_of_eq (Lister.stepCached_of_ne
        (ne_of_isQuery isQuery_allRangesSql begins_dataInsertSql rfl).symm)
      (Lister.writes_lift (documented.put_data s.conn t rangeId mid rss pss trivial hc he))
  put_system s t params hc := by
    obtain ⟨hok, hview⟩ := Lister.putSystem_of_store hc params
    unfold Writes
    rw [Lister.runText_systemInsert]
    -- a sample of integers adds its row, and any other values nothing
    refine .inl ⟨_, [], ?_, hok, hview⟩
    cases ints params with
    | some xs => exact t.putSystem_addSystem xs
    | none => exact ⟨rfl, rfl, rfl, rfl⟩
  query_view s sql params hq := by
    refine ⟨?_, ?_⟩
    · rw [Lister.runText_of_isQuery hq]
    · show (Lister.stepCached sql params s).1.view = s.view
      unfold Lister.stepCached
      split
      · split <;> rfl
      · exact (documented.query_view s.conn sql params hq).2
  measurement_by_id s t id hc :=
    Lister.answers_of_eq (Lister.runText_of_listing
        (ne_of_isQuery isQuery_measurementByIdSql begins_systemInsertSql rfl) (by
          rw [Lister.listing, if_neg measurementByIdSql_ne_systemAtSql,
            if_neg measurementByIdSql_ne_measurementsAtSql,
            if_neg measurementByIdSql_ne_lookupPidSql]))
      (Lister.answers_lift (documented.measurement_by_id s.conn t id hc))
  ranges_of_measurement s t mid _ hc :=
    Lister.answers_of_eq (Lister.stepCached_of_ne rangesOfMeasurementSql_ne_allRangesSql)
      (Lister.answers_lift (documented.ranges_of_measurement s.conn t mid trivial hc))
  measurement_count s t hc :=
    Lister.answers_of_eq (Lister.runText_of_listing
        (ne_of_isQuery isQuery_measurementCountSql begins_systemInsertSql rfl) rfl)
      (Lister.answers_lift (documented.measurement_count s.conn t hc))
  add_system s t xs hc := by
    obtain ⟨hok, hview⟩ := Lister.putSystem_of_store hc (xs.map .int)
    rw [ints_map] at hview
    unfold Writes
    rw [Lister.runText_systemInsert]
    exact .inl ⟨_, [], rfl, hok, hview⟩
  system_at s t time hc _ :=
    ⟨_, firstOf_pickFirst strictWeak_laterSample _, Lister.answers_of_listing isQuery_systemAtSql (by
      rw [Lister.listing, if_pos rfl, Conn.tables_of_store hc])⟩
  measurements_at s t time hc _ :=
    ⟨_, sortedBy_sortBy strictWeak_lowerSeq _,
      Lister.answers_of_listing isQuery_measurementsAtSql (by
        rw [Lister.listing, if_neg measurementsAtSql_ne_systemAtSql, if_pos rfl,
          Conn.tables_of_store hc])⟩
  prepare_all_ranges _ _ _ := ⟨rfl, trivial⟩
  all_ranges s t key _ hc _ := by
    refine ⟨_, sortedBy_sortBy strictWeak_lowerRange _, ?_⟩
    have hrun : Engine.stepCached allRangesSql [.int key] s =
        (s, .ok ([], (sortBy LowerRange
          (t.range.filter fun r => (r.col 1).sameAs key)).map rangeListing)) := by
      show Lister.stepCached allRangesSql [.int key] s = _
      unfold Lister.stepCached
      rw [if_pos rfl, Conn.tables_of_store hc]
    unfold Answers
    rw [hrun]
    exact ⟨⟨[], rfl⟩, rfl⟩
  lookup_pid s t pid hc _ :=
    ⟨_, sortedBy_sortBy strictWeak_earlierStart _,
      Lister.answers_of_listing isQuery_lookupPidSql (by
        rw [Lister.listing, if_neg lookupPidSql_ne_systemAtSql,
          if_neg lookupPidSql_ne_measurementsAtSql, if_pos rfl, Conn.tables_of_store hc])⟩

theorem view_listingReads (c : Lister) : listingReads.view c = c.conn.view :=
  rfl

end Reference

end Store
end MemoryRecorder
