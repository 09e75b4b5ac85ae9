import MemoryRecorder.Proofs.Store.Progress
import MemoryRecorder.Proofs.Store.Ordered

/-!
# A reference engine

An engine that does on the store's statements what `Documented` takes of the store's engine,
and nothing more. Its connection is what the store can see of one (`View`), it keeps every
text prepared, and it tells the statements apart by their texts. It shows that the
laws can all hold at once, so that the theorems assuming them are not empty. It refuses a write
only when the write has no outcome or would reach the row limit (`complete`), so the snapshots
that the theorems about a written snapshot take are written on it.

It keeps only tables that a store can have (`Tables.Fits`): every table in row id order, with
fewer rows than the row limit. A write that would leave other tables is refused.

It answers the store's ordered reads with the first row no other row comes before, keeping the
first of rows its order does not tell apart (`pickFirst`), so it is an engine of `OrderedReads`
too (`orderedReads`).
-/

namespace MemoryRecorder
namespace Store

/-- Whether tables can be a store's: every table in row id order, under the row limit. -/
def Tables.Fits (t : Tables) : Prop :=
  t.Ordered ∧ t.size < rowLimit

instance (t : Tables) : Decidable t.Fits :=
  inferInstanceAs (Decidable (t.Ordered ∧ t.size < rowLimit))

def Content.Fits : Content → Prop
  | .store t => t.Fits
  | _ => True

def View.Fits (v : View) : Prop :=
  v.content.Fits ∧ ∀ c, v.began = some c → c.Fits

theorem Tables.fits_empty : Tables.Fits {} :=
  ⟨⟨List.Pairwise.nil, List.Pairwise.nil, List.Pairwise.nil, List.Pairwise.nil,
    List.Pairwise.nil⟩, by decide⟩

theorem View.fits_closed {c : Content} (h : c.Fits) : View.Fits { content := c } :=
  ⟨h, fun _ hc => by cases hc⟩

theorem View.Fits.enforce {v : View} (h : v.Fits) : View.Fits { v with enforcing := true } :=
  h

theorem View.Fits.begin {v : View} (h : v.Fits) : View.Fits { v with began := some v.content } :=
  ⟨h.1, fun c hc => by
    cases hc
    exact h.1⟩

theorem View.Fits.commit {v : View} (h : v.Fits) : View.Fits { v with began := none } :=
  ⟨h.1, fun _ hc => by cases hc⟩

theorem View.Fits.undone {v : View} (h : v.Fits) : v.undone.Fits := by
  unfold View.undone
  split
  · rename_i c hb
    exact ⟨h.2 c hb, fun _ hc => by cases hc⟩
  · exact h

theorem Tables.Fits.putProcess {t : Tables} (h : t.Fits) (r : Sql.Row)
    (hb : t.size + 1 < rowLimit) : (t.putProcess r).Fits := by
  obtain ⟨⟨hp, hr, hm, hd, hs⟩, -⟩ := h
  refine ⟨⟨hp.keepRow, hr, hm, hd, hs⟩, ?_⟩
  have := t.size_putProcess_le r
  omega

theorem Tables.Fits.insertMeasurement {t : Tables} (h : t.Fits) {r : Sql.Row}
    (hr : Sql.hasRowid t.measurement r.rowid = false) (hb : t.size + 1 < rowLimit) :
    Tables.Fits { t with measurement := Sql.insertRow r t.measurement } := by
  obtain ⟨⟨hp, hrange, hm, hd, hs⟩, -⟩ := h
  refine ⟨⟨hp, hrange, hm.insertRow hr, hd, hs⟩, ?_⟩
  simp only [Tables.size, Sql.length_insertRow] at hb ⊢
  omega

/-! ## Texts told apart by how they begin -/

def Begins (sql : String) (w : List Char) : Prop :=
  sql.toList.take w.length = w

theorem Begins.append {a : String} {w : List Char} (b : String) (h : Begins a w) :
    Begins (a ++ b) w := by
  unfold Begins at h ⊢
  have hlen : w.length ≤ a.toList.length := by
    have := congrArg List.length h
    simp only [List.length_take] at this
    omega
  rw [String.toList_append, List.take_append_of_le_length hlen, h]

theorem Begins.take {a : String} {w : List Char} (h : Begins a w) (n : Nat) :
    Begins a (w.take n) := by
  unfold Begins at h ⊢
  rw [List.length_take, ← List.take_take, h]

theorem Begins.ne {a b : String} {v w : List Char} (ha : Begins a v) (hb : Begins b w)
    (hlen : v.length = w.length) (hvw : v ≠ w) : a ≠ b := by
  rintro rfl
  unfold Begins at ha hb
  rw [hlen, hb] at ha
  exact hvw ha.symm

theorem begins_of_isQuery {sql : String} (h : IsQuery sql) : Begins sql ['S'] := by
  obtain ⟨rest, rfl⟩ := h
  exact Begins.append rest (by simp [Begins])

theorem begins_processInsertSql : Begins processInsertSql ['I', 'N', 'S', 'E', 'R', 'T', ' ', 'O'] := by
  simp [processInsertSql, Begins]

theorem begins_systemInsertSql : Begins systemInsertSql ['I', 'N', 'S', 'E', 'R', 'T', ' ', 'I'] := by
  unfold systemInsertSql
  exact (Begins.append _ (by simp [Begins])).append _

theorem begins_rangeInsertSql : Begins rangeInsertSql ['I', 'N', 'S', 'E', 'R', 'T', ' ', 'O'] := by
  unfold rangeInsertSql
  exact Begins.append _ (by simp [Begins])

theorem begins_measurementInsertSql : Begins measurementInsertSql ['I', 'N', 'S', 'E', 'R', 'T', ' ', 'I', 'N', 'T', 'O', ' ', 'm'] := by
  unfold measurementInsertSql
  exact (((Begins.append _ (by simp [Begins])).append _).append _).append _

theorem begins_dataInsertSql : Begins dataInsertSql ['I', 'N', 'S', 'E', 'R', 'T', ' ', 'I', 'N', 'T', 'O', ' ', 'd'] := by
  simp [dataInsertSql, Begins]

theorem ne_of_isQuery {sql a : String} {w : List Char} (hq : IsQuery sql) (ha : Begins a w)
    (hw : w.take 1 = ['I']) : sql ≠ a := by
  refine Begins.ne (begins_of_isQuery hq) (ha.take 1) ?_ ?_
  · rw [hw]
    rfl
  · rw [hw]
    simp

theorem systemInsertSql_ne : systemInsertSql ≠ processInsertSql :=
  Begins.ne begins_systemInsertSql begins_processInsertSql rfl (by simp)

theorem measurementInsertSql_ne : measurementInsertSql ≠ rangeInsertSql :=
  Begins.ne (begins_measurementInsertSql.take 8) begins_rangeInsertSql rfl (by simp)

theorem dataInsertSql_ne_range : dataInsertSql ≠ rangeInsertSql :=
  Begins.ne (begins_dataInsertSql.take 8) begins_rangeInsertSql rfl (by simp)

theorem dataInsertSql_ne_measurement : dataInsertSql ≠ measurementInsertSql :=
  Begins.ne begins_dataInsertSql begins_measurementInsertSql rfl (by simp)

namespace Reference

/-! ## Picking the first row of an order -/

section

variable {α : Type} (before : α → α → Prop) [DecidableRel before]

/-- One round of picking the first row of an order: a row that comes before the one kept takes
its place, so of rows the order does not tell apart the first stays. -/
def pickStep : Option α → α → Option α
  | none, x => some x
  | some b, x => if before x b then some x else some b

/-- The first row of an order, as the engine picks it under `LIMIT 1`. -/
def pickFirst (rows : List α) : Option α :=
  rows.foldl (pickStep before) none

variable {before}

/-- Picking from a kept row keeps a row among those seen that neither the first kept nor any row
after it comes before. -/
theorem foldl_pickStep (hw : StrictWeak before) (rows : List α) (b : α) :
    ∃ r, rows.foldl (pickStep before) (some b) = some r ∧ (r = b ∨ r ∈ rows) ∧
      ¬ before b r ∧ ∀ y ∈ rows, ¬ before y r := by
  induction rows generalizing b with
  | nil => exact ⟨b, rfl, .inl rfl, hw.irrefl b, by simp⟩
  | cons x xs ih =>
      by_cases hx : before x b
      · -- the row comes before the one kept and takes its place
        obtain ⟨r, hr, hmem, hxr, hys⟩ := ih x
        refine ⟨r, by simp [pickStep, hx, hr], ?_, fun hbr => hxr (hw.trans x b r hx hbr), ?_⟩
        · rcases hmem with rfl | h
          · exact .inr List.mem_cons_self
          · exact .inr (List.mem_cons_of_mem x h)
        · intro y hy
          rcases List.mem_cons.1 hy with rfl | hy
          · exact hxr
          · exact hys y hy
      · obtain ⟨r, hr, hmem, hbr, hys⟩ := ih b
        refine ⟨r, by simp [pickStep, hx, hr], ?_, hbr, ?_⟩
        · rcases hmem with rfl | h
          · exact .inl rfl
          · exact .inr (List.mem_cons_of_mem x h)
        · intro y hy
          rcases List.mem_cons.1 hy with rfl | hy
          · -- the row does not come before the one kept, which does not come before the result
            exact fun hyr => (hw.cotrans y b r hyr).elim hx hbr
          · exact hys y hy

/-- The row picked is what `ORDER BY … LIMIT 1` may answer. -/
theorem firstOf_pickFirst (hw : StrictWeak before) (rows : List α) :
    FirstOf before rows (pickFirst before rows).toList := by
  cases rows with
  | nil => exact .inl ⟨rfl, rfl⟩
  | cons x xs =>
      obtain ⟨r, hr, hmem, hxr, hys⟩ := foldl_pickStep hw xs x
      refine .inr ⟨r, ?_, by simp [pickFirst, pickStep, hr], ?_⟩
      · rcases hmem with rfl | h
        · exact List.mem_cons_self
        · exact List.mem_cons_of_mem x h
      · intro y hy
        rcases List.mem_cons.1 hy with rfl | hy
        · exact hxr
        · exact hys y hy

/- Of rows the order does not tell apart, the first is picked. -/
example : pickFirst (fun a b : Nat × Nat => a.1 < b.1) [(2, 0), (1, 1), (1, 2)] = some (1, 1) := by
  decide

end

/-- What the engine answers for an ordered read of the measurements: the first joined row that
passes the filter, in the order. -/
def firstAnswer (t : Tables) (before : Sql.Row × Sql.Row → Sql.Row × Sql.Row → Prop)
    [DecidableRel before] (pass : Sql.Row × Sql.Row → Bool) : List (Array Value) :=
  Tables.records (pickFirst before (t.joined.filter pass)).toList

def peakAnswer (t : Tables) (texts : MemoryType → String) (pass : Sql.Row × Sql.Row → Bool)
    (sql : String) : List (Array Value) :=
  if sql = texts .rss then firstAnswer t (Higher .rss) pass
  else if sql = texts .pss then firstAnswer t (Higher .pss) pass
  else if sql = texts .statm then firstAnswer t (Higher .statm) pass
  else []

theorem peakAnswer_text {texts : MemoryType → String} (hinj : ∀ a b, texts a = texts b → a = b)
    (t : Tables) (pass : Sql.Row × Sql.Row → Bool) (ty : MemoryType) :
    peakAnswer t texts pass (texts ty) = firstAnswer t (Higher ty) pass := by
  have hne : ∀ a b, a ≠ b → texts a ≠ texts b := fun a b hab h => hab (hinj a b h)
  cases ty
  · rw [peakAnswer, if_pos rfl]
  · rw [peakAnswer, if_neg (hne _ _ (by decide)), if_pos rfl]
  · rw [peakAnswer, if_neg (hne _ _ (by decide)), if_neg (hne _ _ (by decide)), if_pos rfl]

/-- A connection of the reference engine: what the store can see of it. The engine keeps every
text prepared, so a connection needs to remember none. -/
structure Conn where
  view : View
  fits : view.Fits

def refused : Sql.DbError :=
  .failure (Sql.SqlError.plain "statement refused")

abbrev Outcome := Conn × Except Sql.DbError (List String × List (Array Value))

def ints : List Value → Option (List Int64)
  | [] => some []
  | .int v :: vs => (ints vs).map (v :: ·)
  | _ :: _ => none

theorem ints_map (xs : List Int64) : ints (xs.map .int) = some xs := by
  induction xs with
  | nil => rfl
  | cons x xs ih => simp [ints, ih]

namespace Conn

variable {t : Tables}

def tables (s : Conn) : Tables :=
  match s.view.content with
  | .store t => t
  | _ => {}

theorem tables_of_store {s : Conn} (hc : s.view.content = .store t) : s.tables = t := by
  simp [tables, hc]

theorem fits_of_store {s : Conn} (hc : s.view.content = .store t) : t.Fits := by
  have := s.fits.1
  rw [hc] at this
  exact this

def withView (s : Conn) (v : View) (h : v.Fits) : Conn :=
  { s with view := v, fits := h }

def put (s : Conn) (t : Tables) (ht : t.Fits) : Conn :=
  s.withView { s.view with content := .store t } ⟨ht, s.fits.2⟩

/-- Writes tables: done when they fit, refused otherwise. -/
def write (s : Conn) (t : Tables) : Outcome :=
  if h : t.Fits then (s.put t h, .ok ([], [])) else (s, .error refused)

/-- Whatever its store holds, a connection whose database is not a store refuses writes. -/
def onStore (s : Conn) (f : Tables → Outcome) : Outcome :=
  match s.view.content with
  | .store t => f t
  | _ => (s, .error refused)

theorem onStore_of_store {s : Conn} {f : Tables → Outcome} (hc : s.view.content = .store t) :
    s.onStore f = f t := by
  simp [onStore, hc]

def putProcess (s : Conn) (r : Sql.Row) : Outcome :=
  s.onStore fun t => s.write (t.putProcess r)

/-- `INSERT OR IGNORE` of a range row of a process, while foreign keys are enforced. -/
def putRange (s : Conn) (r : Sql.Row) (process : Int64) : Outcome :=
  s.onStore fun t =>
    if Sql.hasRowid t.range r.rowid || Sql.hasRowid t.process process then
      s.write { t with range := Sql.keepRow r t.range }
    else (s, .error refused)

def putMeasurement (s : Conn) (id process time : Int64) (figures : List Int64) : Outcome :=
  s.onStore fun t =>
    if Sql.hasRowid t.measurement id = false ∧
        (t.measurement.all fun m => Value.compare (m.col 1) (nextSeq t.measurement) != .eq) ∧
        Sql.hasRowid t.process process = true then
      s.write { t with measurement := (Sql.insertRow
        (measurementRow id (nextSeq t.measurement) process time figures) t.measurement) }
    else (s, .error refused)

def putData (s : Conn) (rangeId mid rss pss : Int64) : Outcome :=
  s.onStore fun t =>
    if Sql.hasRowid t.range rangeId && Sql.hasRowid t.measurement mid then
      match Sql.nextRowid? t.data with
      | some n => s.write { t with data := Sql.insertRow (dataRow n rangeId mid rss pss) t.data }
      | none => (s, .error refused)
    else (s, .error refused)

/-- The rows the store's queries run from their texts answer, told apart by their parameters
and then their texts; any other query answers none. An ordered read answers its first row. -/
def answer (s : Conn) (sql : String) : List Value → List (Array Value)
  | [.text n] =>
      if sql = tableCountSql then
        match s.view.content with
        | .store _ => [#[.int (if n ∈ tableNames then 1 else 0)]]
        | _ => [#[.int 0]]
      else []
  | [.int id] => if sql = measurementByIdSql then s.tables.measurementsById id else []
  | [.int a, .int b] =>
      if sql = measurementAtSql then firstAnswer s.tables Newer (atOrBefore a b)
      else peakAnswer s.tables peakSql (inWindow a b) sql
  | [.int a, .int b, .int key] => peakAnswer s.tables processPeakSql (inProcessWindow a b key) sql
  | [] =>
      if sql = measurementCountSql then [#[.int (Int64.ofNat s.tables.measurement.length)]]
      else []
  | _ => []

def answerCached (s : Conn) (sql : String) : List Value → List (Array Value)
  | [.int mid] => if sql = rangesOfMeasurementSql then s.tables.rangesOf mid else []
  | _ => []

/-- Runs a batch: foreign keys on, the schema, and the transaction statements. -/
def runBatch (sql : String) (s : Conn) : Conn × Except Sql.DbError Unit :=
  if sql = "PRAGMA foreign_keys = ON;" then
    (s.withView { s.view with enforcing := true } s.fits.enforce, .ok ())
  else if sql = schemaSql then
    match s.view.content with
    | .blank => (s.put {} Tables.fits_empty, .ok ())
    | .store _ => (s, .ok ())
    | .other => (s, .error refused)
  else if sql = "BEGIN DEFERRED" then
    match s.view.began with
    | none =>
        (s.withView { s.view with began := some s.view.content } s.fits.begin, .ok ())
    | some _ => (s, .error refused)
  else if sql = "COMMIT" then
    (s.withView { s.view with began := none } s.fits.commit, .ok ())
  else if sql = "ROLLBACK" then
    if s.view.began.isSome then (s.withView s.view.undone s.fits.undone, .ok ())
    else (s, .error refused)
  else (s, .error refused)

/-- Runs the first statement of a text: the process insert writes, the system sample insert
keeps the other tables, and every other text is answered as a query. -/
def runText (sql : String) (params : List Value) (s : Conn) : Outcome :=
  if sql = processInsertSql then
    match params with
    | [.int id, .int pid, .int start, .text name] => s.putProcess (processRow id pid start name)
    | _ => (s, .error refused)
  else if sql = systemInsertSql then (s, .ok ([], []))
  else (s, .ok ([], s.answer sql params))

/-- Runs a prepared statement: the range, measurement and data inserts write, and every other
text is answered as a query. -/
def stepCached (sql : String) (params : List Value) (s : Conn) : Outcome :=
  if sql = rangeInsertSql then
    match params with
    | [.int id, .int process, .int lo, .int hi, .text permission, .text name] =>
        s.putRange (rangeRow id process lo hi permission name) process
    | _ => (s, .error refused)
  else if sql = measurementInsertSql then
    match params with
    | .int id :: .int process :: .int time :: rest =>
        match ints rest with
        | some figures => s.putMeasurement id process time figures
        | none => (s, .error refused)
    | _ => (s, .error refused)
  else if sql = dataInsertSql then
    match params with
    | [.int rangeId, .int mid, .int rss, .int pss] => s.putData rangeId mid rss pss
    | _ => (s, .error refused)
  else (s, .ok ([], s.answerCached sql params))

end Conn

instance : Engine Conn where
  runBatch := Conn.runBatch
  runText := Conn.runText
  prepareCached _ s := (s, .ok ())
  stepCached := Conn.stepCached
  lastRowid _ := 0
  inTransaction s := s.view.began.isSome
  fresh := ⟨{ content := .blank }, View.fits_closed trivial⟩
  reopen s := ⟨{ content := s.view.undone.content }, View.fits_closed s.fits.undone.1⟩

/-! ## The laws -/

namespace Conn

variable {s : Conn} {t t' : Tables}

/-- A write of tables in row id order does what `Writes` asks when they are its only outcome:
done, or refused when they reach the row limit. -/
theorem writes_write {step : Conn → Outcome} {ok : Tables → Prop}
    (hc : s.view.content = .store t) (hstep : step s = s.write t') (hord : t'.Ordered)
    (hok : ok t') (honly : ∀ t'', ok t'' → t'' = t') : Writes Conn.view step s t ok := by
  unfold Writes
  rw [hstep]
  unfold Conn.write
  split
  · exact .inl ⟨t', [], hok, rfl, rfl⟩
  · rename_i hfits
    refine .inr ⟨fun t'' h'' => ?_, refused, rfl, .inl rfl⟩
    rw [honly t'' h'']
    have hsize : ¬ t'.size < rowLimit := fun hb => hfits ⟨hord, hb⟩
    have := (fits_of_store hc).2
    omega

theorem writes_refused {step : Conn → Outcome} {ok : Tables → Prop}
    (hstep : step s = (s, .error refused)) (hgrow : ∀ t', ok t' → t.size < t'.size) :
    Writes Conn.view step s t ok := by
  unfold Writes
  rw [hstep]
  exact .inr ⟨hgrow, refused, rfl, .inl rfl⟩

theorem runText_of_isQuery {sql : String} (params : List Value) (hq : IsQuery sql) :
    runText sql params s = (s, .ok ([], s.answer sql params)) := by
  unfold runText
  rw [if_neg (ne_of_isQuery hq begins_processInsertSql rfl),
    if_neg (ne_of_isQuery hq begins_systemInsertSql rfl)]

theorem runText_answer {sql : String} {params : List Value} (hq : IsQuery sql)
    {rows : List (Array Value)} (hans : s.answer sql params = rows) :
    Answers Conn.view (Engine.runText sql params) s rows := by
  have hrun : Engine.runText sql params s = (s, .ok ([], rows)) := by
    show Conn.runText sql params s = _
    rw [Conn.runText_of_isQuery _ hq, hans]
  rw [Answers, hrun]
  exact ⟨⟨[], rfl⟩, rfl⟩

theorem stepCached_of_isQuery {sql : String} (params : List Value) (hq : IsQuery sql) :
    stepCached sql params s = (s, .ok ([], s.answerCached sql params)) := by
  unfold stepCached
  rw [if_neg (ne_of_isQuery hq begins_rangeInsertSql rfl),
    if_neg (ne_of_isQuery hq begins_measurementInsertSql rfl),
    if_neg (ne_of_isQuery hq begins_dataInsertSql rfl)]

theorem isQuery_tableCountSql : IsQuery tableCountSql :=
  ⟨"COUNT(*) FROM sqlite_master WHERE type = \u0027table\u0027 AND name = ?1", rfl⟩

theorem schemaSql_ne : schemaSql ≠ "PRAGMA foreign_keys = ON;" := by
  simp [schemaSql]

/-! ## Writes that are done -/

theorem write_of_fits (h : t'.Fits) : s.write t' = (s.put t' h, .ok ([], [])) := by
  unfold write
  rw [dif_pos h]

theorem runBatch_commit : (Engine.runBatch "COMMIT" s).2 = .ok () := by
  show (runBatch "COMMIT" s).2 = _
  simp [runBatch, schemaSql]

theorem le_size_of_write_error {e : Sql.DbError} (he : (s.write t').2 = .error e)
    (hord : t'.Ordered) : rowLimit ≤ t'.size := by
  unfold write at he
  split at he
  · cases he
  · rename_i hfits
    exact Nat.not_lt.1 fun hb => hfits ⟨hord, hb⟩

/-! ## The store's inserts, told apart by their texts -/

theorem runText_processInsert_eq {id pid start : Int64} {name : String}
    (hc : s.view.content = .store t) :
    Engine.runText processInsertSql [.int id, .int pid, .int start, .text name] s =
      s.write (t.putProcess (processRow id pid start name)) := by
  show runText processInsertSql _ s = _
  rw [runText, if_pos rfl]
  exact onStore_of_store hc

theorem stepCached_rangeInsert_eq {id process lo hi : Int64} {permission name : String} :
    Engine.stepCached rangeInsertSql
        [.int id, .int process, .int lo, .int hi, .text permission, .text name] s =
      s.putRange (rangeRow id process lo hi permission name) process := by
  show stepCached rangeInsertSql _ s = _
  rw [stepCached, if_pos rfl]

theorem stepCached_measurementInsert_eq {id process time : Int64} {figures : List Int64} :
    Engine.stepCached measurementInsertSql
        (.int id :: .int process :: .int time :: figures.map .int) s =
      s.putMeasurement id process time figures := by
  show stepCached measurementInsertSql _ s = _
  unfold stepCached
  rw [if_neg measurementInsertSql_ne, if_pos rfl]
  simp only [ints_map]

theorem stepCached_dataInsert_eq {rangeId mid rss pss : Int64} :
    Engine.stepCached dataInsertSql [.int rangeId, .int mid, .int rss, .int pss] s =
      s.putData rangeId mid rss pss := by
  show stepCached dataInsertSql _ s = _
  unfold stepCached
  rw [if_neg dataInsertSql_ne_range, if_neg dataInsertSql_ne_measurement, if_pos rfl]

end Conn

/-- The reference engine does what the store's engine is documented to do. -/
def documented : Documented Conn where
  view := Conn.view
  prepared _ _ := True
  ordered _ _ hc := (Conn.fits_of_store hc).1
  bounded _ _ hc := (Conn.fits_of_store hc).2
  inTransaction_eq _ := rfl
  fresh := rfl
  reopen s hb := by
    show ({ content := s.view.undone.content } : View) = _
    rw [View.undone_of_none hb]
  foreign_keys_on s _ := by
    refine ⟨?_, ?_⟩ <;> simp [Engine.runBatch, Conn.runBatch, Conn.withView]
  schema_blank s hc := by
    have hrun : Engine.runBatch schemaSql s = (s.put {} Tables.fits_empty, .ok ()) := by
      show Conn.runBatch schemaSql s = _
      rw [Conn.runBatch, if_neg Conn.schemaSql_ne, if_pos rfl, hc]
    rw [Runs, hrun]
    exact ⟨rfl, rfl⟩
  schema_store s t hc := by
    have hrun : Engine.runBatch schemaSql s = (s, .ok ()) := by
      show Conn.runBatch schemaSql s = _
      rw [Conn.runBatch, if_neg Conn.schemaSql_ne, if_pos rfl, hc]
    rw [Runs, hrun]
    exact ⟨rfl, rfl⟩
  table_count s t n hc hn := Conn.runText_answer Conn.isQuery_tableCountSql (by
    unfold Conn.answer
    dsimp only
    rw [if_pos rfl, hc]
    simp [hn])
  begin s hb := by
    have hrun : Engine.runBatch "BEGIN DEFERRED" s =
        (s.withView { s.view with began := some s.view.content } s.fits.begin, .ok ()) := by
      show Conn.runBatch "BEGIN DEFERRED" s = _
      simp [Conn.runBatch, schemaSql, hb]
    rw [Runs, hrun]
    exact ⟨rfl, rfl⟩
  commit s c _ := by
    refine .inl ⟨?_, ?_⟩ <;> simp [Engine.runBatch, Conn.runBatch, schemaSql, Conn.withView]
  rollback s c hb := by
    have hrun : Engine.runBatch "ROLLBACK" s = (s.withView s.view.undone s.fits.undone, .ok ()) := by
      show Conn.runBatch "ROLLBACK" s = _
      simp [Conn.runBatch, schemaSql, hb]
    rw [Runs, hrun]
    refine ⟨rfl, ?_⟩
    show s.view.undone = _
    simp [View.undone, hb]
  prepare _ _ := rfl
  prepare_ok _ _ _ _ _ := ⟨rfl, trivial⟩
  step_prepared _ _ _ _ := trivial
  put_process s t id pid start name hc := by
    have ho := (Conn.fits_of_store hc).1
    exact Conn.writes_write hc (Conn.runText_processInsert_eq hc) ⟨ho.1.keepRow, ho.2⟩ rfl
      fun _ h => h
  put_range s t id process lo hi permission name _ hc _ := by
    have ho := (Conn.fits_of_store hc).1
    have hstep : Engine.stepCached rangeInsertSql
        [.int id, .int process, .int lo, .int hi, .text permission, .text name] s =
        Conn.putRange s (rangeRow id process lo hi permission name) process :=
      Conn.stepCached_rangeInsert_eq
    rw [Conn.putRange, Conn.onStore_of_store hc] at hstep
    by_cases hcond : (Sql.hasRowid t.range (rangeRow id process lo hi permission name).rowid ||
        Sql.hasRowid t.process process) = true
    · rw [if_pos hcond] at hstep
      exact Conn.writes_write hc hstep ⟨ho.1, ho.2.1.keepRow, ho.2.2⟩
        ⟨by simpa using hcond, rfl⟩ fun _ h => h.2
    · rw [if_neg hcond] at hstep
      exact Conn.writes_refused hstep fun t' h => absurd (by simpa using h.1) hcond
  put_measurement s t id process time figures _ _ hc _ := by
    have ho := (Conn.fits_of_store hc).1
    have hstep : Engine.stepCached measurementInsertSql
        (.int id :: .int process :: .int time :: figures.map .int) s =
        Conn.putMeasurement s id process time figures :=
      Conn.stepCached_measurementInsert_eq
    rw [Conn.putMeasurement, Conn.onStore_of_store hc] at hstep
    by_cases hcond : Sql.hasRowid t.measurement id = false ∧
        (t.measurement.all fun m => Value.compare (m.col 1) (nextSeq t.measurement) != .eq) ∧
        Sql.hasRowid t.process process = true
    · rw [if_pos hcond] at hstep
      exact Conn.writes_write hc hstep ⟨ho.1, ho.2.1, ho.2.2.1.insertRow hcond.1, ho.2.2.2⟩
        ⟨hcond.1, hcond.2.1, hcond.2.2, rfl⟩ fun _ h => h.2.2.2
    · rw [if_neg hcond] at hstep
      exact Conn.writes_refused hstep fun t' h => absurd ⟨h.1, h.2.1, h.2.2.1⟩ hcond
  put_data s t rangeId mid rss pss _ hc _ := by
    have ho := (Conn.fits_of_store hc).1
    have hstep : Engine.stepCached dataInsertSql [.int rangeId, .int mid, .int rss, .int pss] s =
        Conn.putData s rangeId mid rss pss :=
      Conn.stepCached_dataInsert_eq
    rw [Conn.putData, Conn.onStore_of_store hc] at hstep
    -- every outcome adds a row under a fresh id
    have hgrow : ∀ t', t.PutData rangeId mid rss pss t' → t.size < t'.size := by
      rintro t' ⟨-, -, k, -, rfl⟩
      simp only [Tables.size, Sql.length_insertRow]
      exact Nat.add_lt_add_right (Nat.add_lt_add_left (Nat.lt_succ_self _) _) _
    by_cases hcond : (Sql.hasRowid t.range rangeId && Sql.hasRowid t.measurement mid) = true
    · rw [if_pos hcond] at hstep
      obtain ⟨hr, hm⟩ : Sql.hasRowid t.range rangeId = true ∧
          Sql.hasRowid t.measurement mid = true := by simpa using hcond
      cases hn : Sql.nextRowid? t.data with
      | some n =>
          rw [hn] at hstep
          have hfresh : Sql.hasRowid t.data n = false :=
            Sql.hasRowid_eq_false_iff.2 fun y hy heq =>
              Int64.lt_irrefl (heq ▸ Sql.lt_of_nextRowid? hn hy)
          refine Conn.writes_write hc hstep
            ⟨ho.1, ho.2.1, ho.2.2.1, ho.2.2.2.1.insertRow hfresh, ho.2.2.2.2⟩
            ⟨hr, hm, n, (Sql.freshRowid_iff hn).2 rfl, rfl⟩ ?_
          rintro t' ⟨-, -, k, hk, rfl⟩
          rw [(Sql.freshRowid_iff hn).1 hk]
      | none =>
          rw [hn] at hstep
          exact Conn.writes_refused hstep hgrow
    · rw [if_neg hcond] at hstep
      exact Conn.writes_refused hstep hgrow
  put_system s t params hc := by
    have hrun : Engine.runText systemInsertSql params s = (s, .ok ([], [])) := by
      show Conn.runText systemInsertSql params s = _
      unfold Conn.runText
      rw [if_neg systemInsertSql_ne, if_pos rfl]
    unfold Writes
    rw [hrun]
    exact .inl ⟨t, [], ⟨rfl, rfl, rfl, rfl⟩, rfl, (View.with_content_of_eq hc).symm⟩
  query_view s sql params hq := by
    refine ⟨?_, ?_⟩
    · show (Conn.runText sql params s).1.view = s.view
      rw [Conn.runText_of_isQuery params hq]
    · show (Conn.stepCached sql params s).1.view = s.view
      rw [Conn.stepCached_of_isQuery params hq]
  measurement_by_id s t id hc := Conn.runText_answer isQuery_measurementByIdSql (by
    unfold Conn.answer
    dsimp only
    rw [if_pos rfl, Conn.tables_of_store hc])
  ranges_of_measurement s t mid _ hc := by
    have hrun : Engine.stepCached rangesOfMeasurementSql [.int mid] s =
        (s, .ok ([], t.rangesOf mid)) := by
      show Conn.stepCached rangesOfMeasurementSql [.int mid] s = _
      rw [Conn.stepCached_of_isQuery _ isQuery_rangesOfMeasurementSql, Conn.answerCached,
        if_pos rfl, Conn.tables_of_store hc]
    rw [Answers, hrun]
    exact ⟨⟨[], rfl⟩, rfl⟩
  measurement_count s t hc := Conn.runText_answer isQuery_measurementCountSql (by
    unfold Conn.answer
    dsimp only
    rw [if_pos rfl, Conn.tables_of_store hc])

theorem view_documented (c : Conn) : documented.view c = c.view :=
  rfl

/-- The reference engine refuses a write of the store only when the write has no outcome or its
outcome would reach the row limit, and its commits succeed. -/
theorem complete : Complete documented where
  put_process s t id pid start name hc := by
    rintro e he t' rfl
    rw [Conn.runText_processInsert_eq hc] at he
    have ho := (Conn.fits_of_store hc).1
    exact Conn.le_size_of_write_error he ⟨ho.1.keepRow, ho.2⟩
  put_range s t id process lo hi permission name _ hc _ := by
    rintro e he t' ⟨hcond, rfl⟩
    rw [Conn.stepCached_rangeInsert_eq, Conn.putRange, Conn.onStore_of_store hc,
      if_pos (by simpa using hcond)] at he
    have ho := (Conn.fits_of_store hc).1
    exact Conn.le_size_of_write_error he ⟨ho.1, ho.2.1.keepRow, ho.2.2⟩
  put_measurement s t id process time figures _ _ hc _ := by
    rintro e he t' ⟨h1, h2, h3, rfl⟩
    rw [Conn.stepCached_measurementInsert_eq, Conn.putMeasurement, Conn.onStore_of_store hc,
      if_pos ⟨h1, h2, h3⟩] at he
    have ho := (Conn.fits_of_store hc).1
    exact Conn.le_size_of_write_error he ⟨ho.1, ho.2.1, ho.2.2.1.insertRow h1, ho.2.2.2⟩
  put_data s t rangeId mid rss pss _ hc _ hcompact := by
    rintro e he t' ⟨hr, hm, k, hk, rfl⟩
    rw [Conn.stepCached_dataInsert_eq, Conn.putData, Conn.onStore_of_store hc,
      if_pos (by simp [hr, hm])] at he
    -- compact data rows under the row limit have a next row id, which the row takes
    have hb : t.data.length < rowLimit := by
      have := (Conn.fits_of_store hc).2
      simp only [Tables.size] at this
      omega
    obtain ⟨n, hn, -, -⟩ := Sql.nextRowid?_of_compact hcompact hb
    rw [hn] at he
    obtain rfl := (Sql.freshRowid_iff hn).1 hk
    have hfresh : Sql.hasRowid t.data k = false :=
      Sql.hasRowid_eq_false_iff.2 fun y hy heq => Int64.lt_irrefl (heq ▸ Sql.lt_of_nextRowid? hn hy)
    have ho := (Conn.fits_of_store hc).1
    exact Conn.le_size_of_write_error he
      ⟨ho.1, ho.2.1, ho.2.2.1, ho.2.2.2.1.insertRow hfresh, ho.2.2.2.2⟩
  commit _ _ _ := Conn.runBatch_commit

/-! ## The texts of the ordered reads -/

theorem text_cancel_left {a b c : String} (h : a ++ b = a ++ c) : b = c := by
  rw [← String.toList_inj] at h ⊢
  simpa only [String.toList_append, List.append_cancel_left_eq] using h

theorem text_cancel_right {a b c : String} (h : a ++ c = b ++ c) : a = b := by
  rw [← String.toList_inj] at h ⊢
  simpa only [String.toList_append, List.append_cancel_right_eq] using h

theorem metricColumn_injective (a b : MemoryType) (h : metricColumn a = metricColumn b) :
    a = b := by
  have h' := congrArg String.toList h
  cases a <;> cases b <;> simp_all [metricColumn]

theorem peakOrder_injective {a b : MemoryType} (h : peakOrder a = peakOrder b) : a = b :=
  metricColumn_injective a b (text_cancel_left (text_cancel_right h))

theorem peakSql_injective (a b : MemoryType) (h : peakSql a = peakSql b) : a = b :=
  peakOrder_injective (text_cancel_left h)

theorem processPeakSql_injective (a b : MemoryType) (h : processPeakSql a = processPeakSql b) :
    a = b :=
  peakOrder_injective (text_cancel_left h)

theorem peakSql_ne (ty : MemoryType) : peakSql ty ≠ measurementAtSql := by
  intro h
  rw [peakSql, measurementAtSql, String.append_assoc] at h
  have hw : Begins (" WHERE m.seq >= ?1 AND m.seq < ?2 " ++ peakOrder ty)
      [' ', 'W', 'H', 'E', 'R', 'E', ' ', 'm', '.', 's'] :=
    Begins.append _ (by simp [Begins])
  have hx : Begins " WHERE m.process_id = ?1 AND m.time <= ?2 ORDER BY m.time DESC LIMIT 1"
      [' ', 'W', 'H', 'E', 'R', 'E', ' ', 'm', '.', 'p'] := by
    simp [Begins]
  exact Begins.ne hw hx rfl (by simp) (text_cancel_left h)

/-! ## Ordered reads -/

/-- The reference engine answers the store's ordered reads as `OrderedReads` takes it. -/
def orderedReads : OrderedReads Conn :=
  { documented with
    measurement_at := fun s t key time hc _ =>
      ⟨_, firstOf_pickFirst strictWeak_newer _,
        Conn.runText_answer isQuery_measurementAtSql (by
          unfold Conn.answer
          dsimp only
          rw [if_pos rfl, Conn.tables_of_store hc]
          rfl)⟩
    memory_peak := fun s t ty a b hc _ =>
      ⟨_, firstOf_pickFirst (strictWeak_higher ty) _,
        Conn.runText_answer (isQuery_peakSql ty) (by
          unfold Conn.answer
          dsimp only
          rw [if_neg (peakSql_ne ty), Conn.tables_of_store hc,
            peakAnswer_text peakSql_injective]
          rfl)⟩
    process_memory_peak := fun s t ty a b key hc _ =>
      ⟨_, firstOf_pickFirst (strictWeak_higher ty) _,
        Conn.runText_answer (isQuery_processPeakSql ty) (by
          unfold Conn.answer
          dsimp only
          rw [Conn.tables_of_store hc, peakAnswer_text processPeakSql_injective]
          rfl)⟩ }

theorem orderedReads_toDocumented : orderedReads.toDocumented = documented :=
  rfl

end Reference

end Store
end MemoryRecorder
