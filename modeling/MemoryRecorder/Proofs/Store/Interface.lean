import MemoryRecorder.Proofs.Store.Reachable
import MemoryRecorder.Proofs.Store.Reads
import MemoryRecorder.Proofs.Store.Snapshot

/-!
# The store's interface

`Reachable` lets a program run any work that leaves the database's view as it was, between its
writes; such work may set the range cache of the handle to anything. A program that uses the
store through its interface does less: it calls the writes (`Call`) and the reads (`Read`) and
reopens the store, and only the reads through the range cache and the clearing of the cache
touch the cache. This module names those reads, says which handles a program reaches through
the interface (`Uses`), and proves that these are reachable handles (`Uses.reachable`).

What touches the cache is told by a closure (`KeepsCache`) that follows the programs, as
`ReadOnly` does for the view: every write, the set-up of a store, and every read that does not
go through the cache keep the cache as it was, and a store opens with an empty cache
(`start_cache`).
-/

namespace MemoryRecorder
namespace Store

/-- A read of the store's interface. -/
inductive Read where
  | measurementCount
  | processCount
  | systemSnapshotCount
  | measurement (id : Int64)
  | measurementAt (p : ProcessId) (time : Millis) (useCache : Bool)
  | memoryPeak (p : Option ProcessId) (ty : MemoryType) (a b : Int64) (useCache : Bool)
  | systemPeak (e : Estimator)
  | systemAt (time : Millis)
  | allRanges (p : ProcessId)
  | lookupPid (pid : Int32)
  | measurementTimes (p : Option ProcessId)
  | clearRangeCache

namespace Read

variable {σ : Type} [Engine σ]

/-- The work of a read, its answer set aside. -/
def run : Read → StoreOn σ Unit
  | measurementCount => Store.measurementCount >>= fun _ => pure ()
  | processCount => Store.processCount >>= fun _ => pure ()
  | systemSnapshotCount => Store.systemSnapshotCount >>= fun _ => pure ()
  | measurement id => getMeasurement id >>= fun _ => pure ()
  | measurementAt p time useCache => getMeasurementAt p time useCache >>= fun _ => pure ()
  | memoryPeak p ty a b useCache => getMemoryPeak p ty a b useCache >>= fun _ => pure ()
  | systemPeak e => getSystemMemoryPeak e >>= fun _ => pure ()
  | systemAt time => getSystemMemoryAt time >>= fun _ => pure ()
  | allRanges p => getAllRanges p >>= fun _ => pure ()
  | lookupPid pid => Store.lookupPid pid >>= fun _ => pure ()
  | measurementTimes p => getMeasurementTimes p >>= fun _ => pure ()
  | clearRangeCache => modify Handle.clearRangeCache

def usesCache : Read → Bool
  | measurementAt _ _ useCache => useCache
  | memoryPeak _ _ _ _ useCache => useCache
  | clearRangeCache => true
  | _ => false

/-- Every read of the interface leaves the view of the database as it was. -/
theorem readOnly_run {L : Documented σ} (r : Read) : ReadOnly L (r.run : StoreOn σ Unit) := by
  cases r with
  | measurementCount => exact ReadOnly.bind readOnly_measurementCount fun _ => ReadOnly.pure _
  | processCount => exact ReadOnly.bind readOnly_processCount fun _ => ReadOnly.pure _
  | systemSnapshotCount =>
      exact ReadOnly.bind readOnly_systemSnapshotCount fun _ => ReadOnly.pure _
  | measurement id => exact ReadOnly.bind (readOnly_getMeasurement id) fun _ => ReadOnly.pure _
  | measurementAt p time useCache =>
      exact ReadOnly.bind (readOnly_getMeasurementAt p time useCache) fun _ => ReadOnly.pure _
  | memoryPeak p ty a b useCache =>
      exact ReadOnly.bind (readOnly_getMemoryPeak p ty a b useCache) fun _ => ReadOnly.pure _
  | systemPeak e => exact ReadOnly.bind (readOnly_getSystemMemoryPeak e) fun _ => ReadOnly.pure _
  | systemAt time =>
      exact ReadOnly.bind (readOnly_getSystemMemoryAt time) fun _ => ReadOnly.pure _
  | allRanges p => exact ReadOnly.bind (readOnly_getAllRanges p) fun _ => ReadOnly.pure _
  | lookupPid pid => exact ReadOnly.bind (readOnly_lookupPid pid) fun _ => ReadOnly.pure _
  | measurementTimes p =>
      exact ReadOnly.bind (readOnly_getMeasurementTimes p) fun _ => ReadOnly.pure _
  | clearRangeCache => exact readOnly_clearRangeCache

end Read

/-! ## Work that keeps the cache -/

section

variable {σ α β : Type}

/-- Work that leaves the range cache of every handle as it was. -/
def KeepsCache (m : StoreOn σ α) : Prop :=
  ∀ h : Handle σ, (h.exec m).1.cache = h.cache

namespace KeepsCache

theorem pure (a : α) : KeepsCache (pure a : StoreOn σ α) :=
  fun _ => rfl

theorem throw (e : StoreError) : KeepsCache (throw e : StoreOn σ α) :=
  fun _ => rfl

theorem get : KeepsCache (get : StoreOn σ (Handle σ)) :=
  fun _ => rfl

theorem liftRead (x : Except StoreError α) : KeepsCache (liftRead x : StoreOn σ α) := fun h => by
  rw [Handle.exec_liftRead]

theorem onEngine [Engine σ] (f : σ → σ × Except Sql.DbError α) :
    KeepsCache (onEngine f : StoreOn σ α) :=
  fun h => by
    rw [Handle.exec_onEngine]

theorem bind {m : StoreOn σ α} {f : α → StoreOn σ β} (hm : KeepsCache m)
    (hf : ∀ a, KeepsCache (f a)) : KeepsCache (m >>= f) := fun h => by
  rw [Handle.exec_bind]
  rcases hr : h.exec m with ⟨h', _ | a⟩
  · have := hm h
    rw [hr] at this
    exact this
  · have := hm h
    rw [hr] at this
    exact (hf a h').trans this

theorem ite {c : Prop} [Decidable c] {m k : StoreOn σ α} (hm : KeepsCache m) (hk : KeepsCache k) :
    KeepsCache (if c then m else k) := by
  split
  · exact hm
  · exact hk

theorem tryCatch {m : StoreOn σ α} {k : StoreError → StoreOn σ α} (hm : KeepsCache m)
    (hk : ∀ e, KeepsCache (k e)) : KeepsCache (tryCatch m k) := fun h => by
  rw [Handle.exec_tryCatch]
  rcases hr : h.exec m with ⟨h', e | a⟩
  · have := hm h
    rw [hr] at this
    exact (hk e h').trans this
  · have := hm h
    rw [hr] at this
    exact this

theorem forIn {γ : Type} {f : γ → β → StoreOn σ (ForInStep β)} (hf : ∀ x b, KeepsCache (f x b)) :
    ∀ (xs : List γ) (b : β), KeepsCache (forIn xs b f)
  | [], b => fun h => by
      rw [Handle.exec_forIn_nil]
  | x :: xs, b => fun h => by
      rw [Handle.exec_forIn_cons]
      have hx := hf x b h
      rcases hr : h.exec (f x b) with ⟨h', _ | b' | b'⟩ <;> rw [hr] at hx
      · exact hx
      · exact hx
      · exact (forIn hf xs b' h').trans hx

theorem mapM {f : α → StoreOn σ β} (hf : ∀ a, KeepsCache (f a)) :
    ∀ xs : List α, KeepsCache (xs.mapM f)
  | [] => KeepsCache.pure _
  | x :: xs => by
      rw [List.mapM_cons]
      exact bind (hf x) fun b => bind (mapM hf xs) fun bs => KeepsCache.pure _

end KeepsCache

/-! ### The store's work -/

theorem keepsCache_allRows (names : List String) (rows : List (Array Value))
    (f : List String → Array Value → Except StoreError α) :
    KeepsCache (allRows names rows f : StoreOn σ _) :=
  KeepsCache.liftRead _

variable [Engine σ]

theorem keepsCache_execute (sql : String) (params : List Value) :
    KeepsCache (execute sql params : StoreOn σ Unit) :=
  KeepsCache.bind (KeepsCache.onEngine _) fun _ =>
    KeepsCache.ite (KeepsCache.throw _) (KeepsCache.pure _)

theorem keepsCache_executeCached (sql : String) (params : List Value) :
    KeepsCache (executeCached sql params : StoreOn σ Unit) := by
  refine KeepsCache.bind (KeepsCache.onEngine _) fun _ => ?_
  refine KeepsCache.bind (KeepsCache.onEngine _) fun answer => ?_
  rcases answer with ⟨_, rows⟩
  exact KeepsCache.ite (KeepsCache.throw _) (KeepsCache.pure _)

theorem keepsCache_queryCached (sql : String) (params : List Value) :
    KeepsCache (queryCached sql params : StoreOn σ _) :=
  KeepsCache.bind (KeepsCache.onEngine _) fun _ => KeepsCache.onEngine _

theorem keepsCache_firstRow {sql : String} (params : List Value)
    (f : List String → Array Value → Except StoreError α) :
    KeepsCache (firstRow sql params f : StoreOn σ _) := by
  refine KeepsCache.bind (KeepsCache.onEngine _) fun answer => ?_
  rcases answer with ⟨names, _ | ⟨r, rows⟩⟩
  · exact KeepsCache.pure _
  · exact KeepsCache.bind (KeepsCache.liftRead _) fun _ => KeepsCache.pure _

theorem keepsCache_countOf (sql : String) : KeepsCache (countOf sql : StoreOn σ Nat) :=
  KeepsCache.bind (keepsCache_firstRow _ _) fun _ => KeepsCache.pure _

/-! ### Writes -/

theorem keepsCache_upsertProcess (p : ProcessId) (name : String) :
    KeepsCache (upsertProcess p name : StoreOn σ Unit) :=
  keepsCache_execute _ _

theorem keepsCache_upsertRange (k : RangeKey) : KeepsCache (upsertRange k : StoreOn σ Int64) :=
  KeepsCache.bind (keepsCache_executeCached _ _) fun _ => KeepsCache.pure _

theorem keepsCache_insertMeasurement (s : Snapshot) :
    KeepsCache (insertMeasurement s : StoreOn σ Int64) := by
  unfold insertMeasurement
  dsimp only
  -- the sums are checked first; the insert that follows keeps the cache either way
  cases s.sums with
  | ok v =>
      refine KeepsCache.bind (KeepsCache.pure _) fun sums => ?_
      rcases sums with ⟨rss, pss⟩
      exact KeepsCache.bind (keepsCache_executeCached _ _) fun _ => KeepsCache.pure _
  | error site =>
      refine KeepsCache.bind (KeepsCache.throw _) fun sums => ?_
      rcases sums with ⟨rss, pss⟩
      exact KeepsCache.bind (keepsCache_executeCached _ _) fun _ => KeepsCache.pure _

theorem keepsCache_dataRound (mid : Int64) (m : Mapping) (u : PUnit) :
    KeepsCache (dataRound mid m u : StoreOn σ _) := by
  unfold dataRound
  refine KeepsCache.bind (KeepsCache.onEngine _) fun answer => ?_
  rcases answer with ⟨_, rows⟩
  dsimp only
  exact KeepsCache.ite (KeepsCache.bind (KeepsCache.throw _) fun _ => KeepsCache.pure _)
    (KeepsCache.pure _)

theorem keepsCache_insertData (mid : Int64) (ms : List Mapping) :
    KeepsCache (insertData mid ms : StoreOn σ Unit) := by
  rw [insertData_eq]
  exact KeepsCache.bind (KeepsCache.onEngine _) fun _ =>
    KeepsCache.bind (KeepsCache.forIn (keepsCache_dataRound mid) ms _) fun _ => KeepsCache.pure _

theorem keepsCache_rollbackOpen : KeepsCache (rollbackOpen : StoreOn σ Unit) :=
  KeepsCache.bind KeepsCache.get fun _ =>
    KeepsCache.ite (KeepsCache.tryCatch (KeepsCache.onEngine _) fun _ => KeepsCache.pure _)
      (KeepsCache.pure _)

theorem keepsCache_inTransaction {work : StoreOn σ α} (hw : KeepsCache work) :
    KeepsCache (inTransaction work) := by
  rw [inTransaction_eq]
  have hfail : ∀ e, KeepsCache (do rollbackOpen; throw e : StoreOn σ α) := fun _ =>
    KeepsCache.bind keepsCache_rollbackOpen fun _ => KeepsCache.throw _
  exact KeepsCache.bind (KeepsCache.onEngine _) fun _ =>
    KeepsCache.bind (KeepsCache.tryCatch hw hfail) fun _ =>
      KeepsCache.bind (KeepsCache.tryCatch (KeepsCache.onEngine _) fun _ =>
        KeepsCache.bind keepsCache_rollbackOpen fun _ => KeepsCache.throw _) fun _ =>
        KeepsCache.pure _

theorem keepsCache_rangeRound (m : Mapping) (u : PUnit) :
    KeepsCache (rangeRound m u : StoreOn σ _) :=
  KeepsCache.bind (keepsCache_upsertRange _) fun _ => KeepsCache.pure _

theorem keepsCache_insertSnapshot (s : Snapshot) :
    KeepsCache (insertSnapshot s : StoreOn σ Int64) := by
  rw [insertSnapshot_eq]
  exact keepsCache_inTransaction (KeepsCache.bind (keepsCache_upsertProcess _ _) fun _ =>
    KeepsCache.bind (KeepsCache.forIn keepsCache_rangeRound _ _) fun _ =>
      KeepsCache.bind (keepsCache_insertMeasurement s) fun id =>
        KeepsCache.bind (keepsCache_insertData id _) fun _ => KeepsCache.pure _)

theorem keepsCache_insertSystemSnapshot (s : SystemSnapshot) :
    KeepsCache (insertSystemSnapshot s : StoreOn σ Int64) :=
  KeepsCache.bind (keepsCache_execute _ _) fun _ =>
    KeepsCache.bind KeepsCache.get fun _ => KeepsCache.pure _

/-- Every write of the interface keeps the cache. -/
theorem Call.keepsCache_run (c : Call) : KeepsCache (c.run : StoreOn σ Unit) := by
  cases c with
  | upsertProcess p name => exact keepsCache_upsertProcess p name
  | upsertRange k => exact KeepsCache.bind (keepsCache_upsertRange k) fun _ => KeepsCache.pure _
  | insertMeasurement s =>
      exact KeepsCache.bind (keepsCache_insertMeasurement s) fun _ => KeepsCache.pure _
  | insertData mid ms => exact keepsCache_insertData mid ms
  | insertSnapshot s =>
      exact KeepsCache.bind (keepsCache_insertSnapshot s) fun _ => KeepsCache.pure _
  | insertSystemSnapshot s =>
      exact KeepsCache.bind (keepsCache_insertSystemSnapshot s) fun _ => KeepsCache.pure _

/-! ### Opening -/

theorem keepsCache_tableRound (n : String) (u : PUnit) :
    KeepsCache (tableRound n u : StoreOn σ _) := by
  unfold tableRound
  dsimp only
  refine KeepsCache.bind (KeepsCache.onEngine _) fun answer => ?_
  rcases answer with ⟨names, rows⟩
  have hcheck : ∀ found : Int64, KeepsCache (if (found != 1) = true then
      ((throw (.schema ("table " ++ n ++ " is missing")) : StoreOn σ PUnit) >>= fun _ =>
        pure (ForInStep.yield PUnit.unit))
      else pure (ForInStep.yield PUnit.unit) : StoreOn σ _) := fun _ =>
    KeepsCache.ite (KeepsCache.bind (KeepsCache.throw _) fun _ => KeepsCache.pure _)
      (KeepsCache.pure _)
  cases rows with
  | nil => exact KeepsCache.bind (KeepsCache.pure _) hcheck
  | cons row rows => exact KeepsCache.bind (KeepsCache.liftRead _) hcheck

theorem keepsCache_setUp : KeepsCache (setUp : StoreOn σ Unit) := by
  rw [setUp_eq]
  exact KeepsCache.bind (KeepsCache.onEngine _) fun _ =>
    KeepsCache.bind (KeepsCache.onEngine _) fun _ =>
      KeepsCache.bind (KeepsCache.forIn keepsCache_tableRound _ _) fun _ => KeepsCache.pure _

/-! ### Reads that do not go through the cache -/

theorem keepsCache_loadRanges (mid : Int64) (p : ProcessId) :
    KeepsCache (loadRanges mid p : StoreOn σ _) := by
  refine KeepsCache.bind (keepsCache_queryCached _ _) fun answer => ?_
  rcases answer with ⟨names, rows⟩
  exact keepsCache_allRows _ _ _

theorem keepsCache_getAllRanges (p : ProcessId) : KeepsCache (getAllRanges p : StoreOn σ _) := by
  refine KeepsCache.bind (keepsCache_queryCached _ _) fun answer => ?_
  rcases answer with ⟨names, rows⟩
  exact keepsCache_allRows _ _ _

theorem keepsCache_withRanges (m : Measurement) :
    KeepsCache (withRanges false m : StoreOn σ _) := by
  unfold withRanges
  simp only [Bool.false_eq_true, if_false]
  exact KeepsCache.bind (keepsCache_loadRanges _ _) fun _ => KeepsCache.pure _

theorem keepsCache_found (o : Option Measurement) :
    KeepsCache (match o with
      | none => Pure.pure none
      | some m => do return some (← withRanges false m) : StoreOn σ (Option Measurement)) := by
  cases o with
  | none => exact KeepsCache.pure _
  | some m => exact KeepsCache.bind (keepsCache_withRanges m) fun _ => KeepsCache.pure _

theorem keepsCache_getMeasurement (id : Int64) : KeepsCache (getMeasurement id : StoreOn σ _) :=
  KeepsCache.bind (keepsCache_firstRow _ _) keepsCache_found

theorem keepsCache_getMeasurementAt (p : ProcessId) (time : Millis) :
    KeepsCache (getMeasurementAt p time false : StoreOn σ _) :=
  KeepsCache.bind (keepsCache_firstRow _ _) keepsCache_found

theorem keepsCache_getMemoryPeak (p : Option ProcessId) (ty : MemoryType) (a b : Int64) :
    KeepsCache (getMemoryPeak p ty a b false : StoreOn σ _) := by
  cases p with
  | some q => exact KeepsCache.bind (keepsCache_firstRow _ _) keepsCache_found
  | none => exact KeepsCache.bind (keepsCache_firstRow _ _) keepsCache_found

theorem keepsCache_getSystemMemoryAt (time : Millis) :
    KeepsCache (getSystemMemoryAt time : StoreOn σ _) := by
  refine KeepsCache.bind (keepsCache_firstRow _ _) fun found => ?_
  cases found with
  | none => exact KeepsCache.pure _
  | some system =>
      refine KeepsCache.bind (KeepsCache.onEngine _) fun answer => ?_
      rcases answer with ⟨names, rows⟩
      exact KeepsCache.bind (keepsCache_allRows _ _ _) fun headers =>
        KeepsCache.bind (KeepsCache.mapM keepsCache_withRanges headers) fun _ => KeepsCache.pure _

theorem keepsCache_lookupPid (pid : Int32) : KeepsCache (lookupPid pid : StoreOn σ _) := by
  refine KeepsCache.bind (KeepsCache.onEngine _) fun answer => ?_
  rcases answer with ⟨names, rows⟩
  exact keepsCache_allRows _ _ _

theorem keepsCache_getMeasurementTimes (p : Option ProcessId) :
    KeepsCache (getMeasurementTimes p : StoreOn σ _) := by
  cases p with
  | some q =>
      refine KeepsCache.bind (KeepsCache.onEngine _) fun answer => ?_
      rcases answer with ⟨names, rows⟩
      exact keepsCache_allRows _ _ _
  | none =>
      refine KeepsCache.bind (KeepsCache.onEngine _) fun answer => ?_
      rcases answer with ⟨names, rows⟩
      exact keepsCache_allRows _ _ _

/-- Every read of the interface that neither goes through the range cache nor clears it keeps
the cache. -/
theorem Read.keepsCache_run (r : Read) (hr : r.usesCache = false) :
    KeepsCache (r.run : StoreOn σ Unit) := by
  cases r with
  | measurementCount => exact KeepsCache.bind (keepsCache_countOf _) fun _ => KeepsCache.pure _
  | processCount => exact KeepsCache.bind (keepsCache_countOf _) fun _ => KeepsCache.pure _
  | systemSnapshotCount =>
      exact KeepsCache.bind (keepsCache_countOf _) fun _ => KeepsCache.pure _
  | measurement id =>
      exact KeepsCache.bind (keepsCache_getMeasurement id) fun _ => KeepsCache.pure _
  | measurementAt p time useCache =>
      obtain rfl : useCache = false := hr
      exact KeepsCache.bind (keepsCache_getMeasurementAt p time) fun _ => KeepsCache.pure _
  | memoryPeak p ty a b useCache =>
      obtain rfl : useCache = false := hr
      exact KeepsCache.bind (keepsCache_getMemoryPeak p ty a b) fun _ => KeepsCache.pure _
  | systemPeak e => exact KeepsCache.bind (keepsCache_firstRow _ _) fun _ => KeepsCache.pure _
  | systemAt time =>
      exact KeepsCache.bind (keepsCache_getSystemMemoryAt time) fun _ => KeepsCache.pure _
  | allRanges p => exact KeepsCache.bind (keepsCache_getAllRanges p) fun _ => KeepsCache.pure _
  | lookupPid pid => exact KeepsCache.bind (keepsCache_lookupPid pid) fun _ => KeepsCache.pure _
  | measurementTimes p =>
      exact KeepsCache.bind (keepsCache_getMeasurementTimes p) fun _ => KeepsCache.pure _
  | clearRangeCache => cases hr

theorem start_cache {c : σ} {h : Handle σ} (hopen : (Handle.start c).2 = .ok h) : h.cache = [] := by
  have hkeep := keepsCache_setUp ({ conn := c } : Handle σ)
  unfold Handle.exec at hkeep
  unfold Handle.start at hopen
  revert hopen hkeep
  rcases (setUp.run).run ({ conn := c } : Handle σ) with ⟨r, h'⟩
  intro hopen hkeep
  cases r with
  | ok u =>
      cases hopen
      exact hkeep
  | error e => cases hopen

end

/-! ## Handles a program reaches through the interface -/

section

variable {σ : Type} [Engine σ] (L : Documented σ)

/-- The handles a program reaches through the store's interface, with what it wrote
successfully: it opens the store on a new database, calls the store's writes and reads in any
order, and may close the store and open it again on the same database. -/
inductive Uses : Handle σ → Past → Prop
  | start {c : σ} {h : Handle σ} (hc : L.view c = { content := .blank })
      (hopen : (Handle.start c).2 = .ok h) : Uses h {}
  | call {h : Handle σ} {past : Past} (c : Call) :
      Uses h past → Uses (h.exec c.run).1 (c.after (h.exec c.run).2 past)
  | read {h : Handle σ} {past : Past} (r : Read) : Uses h past → Uses (h.exec r.run).1 past
  | reopen {h h' : Handle σ} {past : Past} :
      Uses h past → (Handle.start (Engine.reopen h.conn)).2 = .ok h' → Uses h' past

variable {L}

/-- A handle reached through the interface is reachable: each of its steps is a step of a
program. -/
theorem Uses.reachable {h : Handle σ} {past : Past} (hu : Uses L h past) : Reachable L h past := by
  induction hu with
  | start hc hopen => exact Reachable.start hc hopen
  | call c _ ih => exact Reachable.step ih (Step.call c _ _)
  | read r _ ih => exact Reachable.step ih (Step.read (Read.readOnly_run r) _ _)
  | reopen _ hopen ih => exact Reachable.step ih (Step.reopen _ hopen)

theorem Uses.of_blank {c : σ} (hc : L.view c = { content := .blank }) :
    Uses L (Handle.opened c) {} := by
  obtain ⟨hstart, -⟩ := start_eq (L := L) (t := {}) (c := c) (by rw [hc]) (.inl ⟨by rw [hc], rfl⟩)
  exact Uses.start hc (by rw [hstart])

end

end Store
end MemoryRecorder
