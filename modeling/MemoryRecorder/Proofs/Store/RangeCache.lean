import MemoryRecorder.Proofs.Store.Interface
import MemoryRecorder.Proofs.Store.SystemAt
import MemoryRecorder.Proofs.Store.ReaderReference

/-!
# Reading through the range cache

A measurement read through the range cache gets its mappings from the data rows alone: it looks
the range id of each up among the ranges the handle caches for the key of the measurement's
process, and loads the ranges stored under that key again, once, when one of the ids is missing
(`loadRangesCached`). Read without the cache, each data row is joined with the range row of its
id, wherever that range is stored (`loadRanges`).

The two agree on every data row whose range is stored under the measurement's process key. A
snapshot may name a range of another process, when that process's row is there; the store
accepts it, and reading without the cache shows that range under the measurement's process,
while the cache never finds it and the read fails with `range <id>` not found. So reading
through the cache gives what reading without it gives, except that a measurement with a data row
whose range is stored under another key fails at the first such row (`Tables.throughCache`).
That holds on every handle a program reaches through the interface, whatever it read, wrote and
cleared before (`getMeasurementAt_getMemoryPeak_throughCache`).

The invariant that carries it (`CacheSound`) says what the cache holds: under each process key,
ranges of what the program wrote, each under its id and shown under the process first written
under that key. A write keeps the cache and only adds to what was written; a read through the
cache loads, under the key of a process first written under it, the ranges stored under that key.
-/

namespace MemoryRecorder
namespace Store

/-! ## What a program wrote before -/

namespace Past

/-- A past that a later one goes on from: its processes and its ranges come first in the later
one's. -/
def Prefix (past past' : Past) : Prop :=
  past.processes <+: past'.processes ∧ past.ranges <+: past'.ranges

variable {past past' past'' : Past}

theorem Prefix.refl (past : Past) : past.Prefix past :=
  ⟨List.prefix_refl _, List.prefix_refl _⟩

theorem Prefix.trans (h : past.Prefix past') (h' : past'.Prefix past'') : past.Prefix past'' :=
  ⟨h.1.trans h'.1, h.2.trans h'.2⟩

theorem prefix_afterProcess (p : ProcessId) (name : String) :
    past.Prefix (past.afterProcess p name) :=
  ⟨List.prefix_append _ _, List.prefix_refl _⟩

theorem prefix_afterRange (k : RangeKey) : past.Prefix (past.afterRange k) :=
  ⟨List.prefix_refl _, List.prefix_append _ _⟩

theorem prefix_afterRanges (ms : List Mapping) : past.Prefix (past.afterRanges ms) :=
  ⟨List.prefix_refl _, List.prefix_append _ _⟩

theorem prefix_afterMeasurement (id : Int64) : past.Prefix (past.afterMeasurement id) :=
  Prefix.refl past

theorem prefix_afterSnapshot (s : Snapshot) (id : Int64) : past.Prefix (past.afterSnapshot s id) :=
  (prefix_afterProcess s.process "").trans
    ((prefix_afterRanges s.ranges).trans (prefix_afterMeasurement id))

theorem Prefix.firstProcess (hp : past.Prefix past') {id : Int64} {x : ProcessId × String}
    (h : past.firstProcess id = some x) : past'.firstProcess id = some x := by
  obtain ⟨rest, hrest⟩ := hp.1
  unfold Past.firstProcess at h ⊢
  rw [← hrest, List.find?_append, h]
  rfl

theorem Prefix.firstRange (hp : past.Prefix past') {id : Int64} {k : RangeKey}
    (h : past.firstRange id = some k) : past'.firstRange id = some k := by
  obtain ⟨rest, hrest⟩ := hp.2
  unfold Past.firstRange at h ⊢
  rw [← hrest, List.find?_append, h]
  rfl

theorem hash_of_firstRange {id : Int64} {k : RangeKey} (h : past.firstRange id = some k) :
    k.hash.toInt64 = id := by
  have := List.find?_some h
  simpa using this

theorem hash_of_firstProcess {id : Int64} {q : ProcessId} {name : String}
    (h : past.firstProcess id = some (q, name)) : q.hash.toInt64 = id := by
  have := List.find?_some h
  simpa using this

end Past

/-- A call only adds to what was written, whether it succeeds or fails. -/
theorem Call.prefix_after (c : Call) (r : Except StoreError Unit) (past : Past) :
    past.Prefix (c.after r past) := by
  rcases r with e | u
  · exact Past.Prefix.refl past
  · cases c with
    | upsertProcess p name => exact Past.prefix_afterProcess p name
    | upsertRange k => exact Past.prefix_afterRange k
    | insertMeasurement s => exact Past.prefix_afterMeasurement _
    | insertData mid ms => exact Past.Prefix.refl past
    | insertSnapshot s => exact Past.prefix_afterSnapshot s _
    | insertSystemSnapshot s => exact Past.Prefix.refl past

/-! ## What the cache holds -/

/-- Cached ranges of a process that are ranges of the past: each under the id of the range first
written under it, a range of the process's key, shown under the process. -/
def EntriesSound (past : Past) (q : ProcessId) (rs : List (Int64 × RangeKey)) : Prop :=
  ∀ x ∈ rs, ∃ k, past.firstRange x.1 = some k ∧ k.process.hash = q.hash ∧
    x.2 = { k with process := q }

/-- A cache that holds, under each process key, ranges of the past shown under the process
first written under that key. -/
def CacheSound (past : Past) (cache : List CachedRanges) : Prop :=
  ∀ c ∈ cache, ∃ q name, past.firstProcess c.process = some (q, name) ∧
    EntriesSound past q c.ranges

variable {past past' : Past}

theorem CacheSound.nil (past : Past) : CacheSound past [] := by
  intro c hc
  cases hc

/-- What a cache holds of a past, it holds of every later past. -/
theorem CacheSound.mono {cache : List CachedRanges} (hc : CacheSound past cache)
    (hp : past.Prefix past') : CacheSound past' cache := by
  intro c hmem
  obtain ⟨q, name, hq, hrs⟩ := hc c hmem
  refine ⟨q, name, hp.firstProcess hq, fun x hx => ?_⟩
  obtain ⟨k, hk, hkey, hx⟩ := hrs x hx
  exact ⟨k, hp.firstRange hk, hkey, hx⟩

theorem CacheSound.find? {cache : List CachedRanges} (hc : CacheSound past cache) {key : Int64}
    {rs : List (Int64 × RangeKey)}
    (hfind : (cache.find? (·.process == key)).map (·.ranges) = some rs) :
    ∃ q name, past.firstProcess key = some (q, name) ∧ EntriesSound past q rs := by
  obtain ⟨c, hfound, rfl⟩ := Option.map_eq_some_iff.1 hfind
  have hkey : c.process = key := by
    simpa using List.find?_some hfound
  obtain ⟨q, name, hq, hrs⟩ := hc c (List.mem_of_find?_eq_some hfound)
  exact ⟨q, name, hkey ▸ hq, hrs⟩

/-- Replacing the ranges cached under a key by ranges of the process first written under it
keeps the cache sound, and the key then gives them. -/
theorem CacheSound.refresh {cache : List CachedRanges} (hc : CacheSound past cache) {key : Int64}
    {q : ProcessId} {name : String} (hq : past.firstProcess key = some (q, name))
    {rs : List (Int64 × RangeKey)} (hrs : EntriesSound past q rs) :
    CacheSound past (cache.filter (fun c : CachedRanges => c.process != key) ++
        [{ process := key, ranges := rs }]) ∧
      ((cache.filter (fun c : CachedRanges => c.process != key) ++
        [({ process := key, ranges := rs } : CachedRanges)]).find?
          (fun c : CachedRanges => c.process == key)).map (·.ranges) = some rs := by
  refine ⟨fun c hmem => ?_, ?_⟩
  · rcases List.mem_append.1 hmem with hold | hnew
    · exact hc c (List.mem_filter.1 hold).1
    · obtain rfl := List.mem_singleton.1 hnew
      exact ⟨q, name, hq, hrs⟩
  · -- no entry the filter keeps has the key, so the new one is found
    have hnone : (cache.filter (fun c : CachedRanges => c.process != key)).find?
        (·.process == key) = none := by
      rw [List.find?_eq_none]
      intro c hmem
      have := (List.mem_filter.1 hmem).2
      simpa using this
    rw [List.find?_append, hnone]
    simp

/-! ## Data rows and their ranges -/

def rangeNotFound (d : Sql.Row) : StoreError :=
  .notFound ("range " ++ toString (d.intAt 0).toInt)

namespace Tables

def storedUnder (t : Tables) (key : Int64) (d : Sql.Row) : Bool :=
  (t.range.filter fun r => (d.col 0).sameAs r.rowid).any fun r => (r.col 1).sameAs key

def firstForeign (t : Tables) (mid key : Int64) : Option Sql.Row :=
  (t.dataOf mid).find? fun d => !t.storedUnder key d

/-- What reading a measurement through the range cache gives, from what reading it without the
cache gives: the same, except for a measurement with a data row whose range is stored under
another key than its process's, which fails at the first such row. -/
def throughCache (t : Tables) :
    Except StoreError (Option Measurement) → Except StoreError (Option Measurement)
  | .ok (some m) =>
      (t.firstForeign m.id m.process.hash.toInt64).elim (.ok (some m)) fun d =>
        .error (rangeNotFound d)
  | r => r

end Tables

/-- The mapping a data row shows under a process: the range first written under its range id,
with the row's sizes. -/
def Past.mappingOf (past : Past) (p : ProcessId) (d : Sql.Row) : Option Mapping :=
  (past.firstRange (d.intAt 0)).map fun k =>
    ⟨{ k with process := p }, (d.intAt 2).toUInt64, (d.intAt 3).toUInt64⟩

theorem Sql.Row.IsData.col_eq {d : Sql.Row} (hd : d.IsData) {j : Nat} (hj : j < 4) :
    d.col j = .int (d.intAt j) := by
  obtain ⟨mid, x, hx⟩ := hd
  interval_cases j <;> simp [Sql.Row.intAt, Sql.Row.col, hx, dataValues, Value.intValue]

section

variable {t : Tables}

theorem Sound.firstRange_of_mem (hs : Sound t past) (hord : Sql.Ordered t.range) {r : Sql.Row}
    (hr : r ∈ t.range) : ∃ k, past.firstRange r.rowid = some k ∧ k.row = r := by
  have h := hs.ranges r.rowid
  rw [Sql.lookup_of_mem hord hr] at h
  exact Option.map_eq_some_iff.1 h.symm

theorem Sound.firstProcess_of_mem (hs : Sound t past) (hord : Sql.Ordered t.process)
    {r : Sql.Row} (hr : r ∈ t.process) :
    ∃ q name, past.firstProcess r.rowid = some (q, name) ∧ q.row name = r := by
  have h := hs.processes r.rowid
  rw [Sql.lookup_of_mem hord hr] at h
  obtain ⟨⟨q, name⟩, hq, hrow⟩ := Option.map_eq_some_iff.1 h.symm
  exact ⟨q, name, hq, hrow⟩

theorem Tables.range_of_data (hs : Sound t past) (hord : Sql.Ordered t.range) {d : Sql.Row}
    (hd : d ∈ t.data) :
    ∃ k, past.firstRange (d.intAt 0) = some k ∧
      t.range.filter (fun r => (d.col 0).sameAs r.rowid) = [k.row] := by
  obtain ⟨r, hr, hcol⟩ := hs.data_range d hd
  have hid : d.intAt 0 = r.rowid := by
    rw [Sql.Row.intAt, hcol]
    rfl
  obtain ⟨k, hk, rfl⟩ := hs.firstRange_of_mem hord hr
  refine ⟨k, by rw [hid]; exact hk, hord.filter_rowid hr fun y _ => ?_⟩
  rw [hcol, Value.sameAs_int]
  exact Bool.beq_comm

theorem Tables.storedUnder_eq {d : Sql.Row} {k : RangeKey}
    (hfilter : t.range.filter (fun r => (d.col 0).sameAs r.rowid) = [k.row]) (key : Int64) :
    t.storedUnder key d = (k.process.hash.toInt64 == key) := by
  rw [storedUnder, hfilter, List.any_cons, List.any_nil, Bool.or_false, RangeKey.row_col_one,
    Value.sameAs_int]

private theorem flatMap_eq_map_filterMap {α β γ : Type} {f : α → List γ} {g : α → Option β}
    {e : β → γ} : ∀ {xs : List α}, (∀ a ∈ xs, f a = (g a).toList.map e) →
      xs.flatMap f = (xs.filterMap g).map e
  | [], _ => rfl
  | a :: as, h => by
      rw [List.flatMap_cons, h a List.mem_cons_self,
        flatMap_eq_map_filterMap fun b hb => h b (List.mem_cons_of_mem a hb), List.filterMap_cons]
      cases g a <;> rfl

variable {σ : Type} [Engine σ] {L : Documented σ} {h : Handle σ}

/-- Read without the cache, the mappings of a measurement of sound tables are those of its data
rows, in order, each showing the range first written under its id under the process asked for. -/
theorem exec_loadRanges_of_sound (hc : (L.view h.conn).content = .store t) (hs : Sound t past)
    (hw : t.Written) (hord : Sql.Ordered t.range) (mid : Int64) (p : ProcessId) :
    (h.exec (loadRanges mid p)).2 = .ok ((t.dataOf mid).filterMap (past.mappingOf p)) := by
  have hrec : t.rangesOf mid = ((t.dataOf mid).filterMap (past.mappingOf p)).map mappingRecord := by
    refine flatMap_eq_map_filterMap fun d hd => ?_
    have hdata := List.mem_filter.1 hd
    obtain ⟨k, hk, hfilter⟩ := Tables.range_of_data hs hord hdata.1
    have hw' := hw.data d hdata.1
    rw [hfilter, Past.mappingOf, hk]
    simp [rangeRecord, mappingRecord, RangeKey.row, rangeRow, Sql.Row.col, word,
      ← hw'.col_eq (j := 2) (by omega), ← hw'.col_eq (j := 3) (by omega)]
  rw [exec_loadRanges hc hrec p]
  congr 1
  refine (List.map_congr_left fun m hm => ?_).trans (List.map_id _)
  obtain ⟨d, -, hd⟩ := List.mem_filterMap.1 hm
  obtain ⟨k, -, rfl⟩ := Option.map_eq_some_iff.1 hd
  rfl

end

/-! ## The cached read, step by step -/

section

variable {σ : Type} [Engine σ]

def readDataRow (n : List String) (r : Array Value) :
    Except StoreError (Int64 × UInt64 × UInt64) := do
  let rid ← readInt n r 0
  let rss ← readWord n r 1
  let pss ← readWord n r 2
  return (rid, rss, pss)

/-- Whether cached ranges miss the range id of a row read; always when there are none. -/
def staleFor (rows : List (Int64 × UInt64 × UInt64)) : Option (List (Int64 × RangeKey)) → Bool
  | some rs => rows.any fun (rid, _, _) => !(rs.any (·.1 == rid))
  | none => true

def lookupRow (rs : List (Int64 × RangeKey)) : Int64 × UInt64 × UInt64 → Except StoreError Mapping
  | (rid, rss, pss) =>
      match rs.find? (·.1 == rid) with
      | some (_, k) => .ok ⟨k, rss, pss⟩
      | none => .error (StoreError.notFound ("range " ++ toString rid.toInt))

def refreshCache (key : Int64) (all : List StoredRange) (s : Handle σ) : Handle σ :=
  { s with cache := (s.cache.filter (·.process != key)) ++ [⟨key, all.map fun r => (r.id, r.key)⟩] }

/-- The cached read after its rows were read: the ranges loaded again when the cache misses one of
their ids, and each row looked up. -/
def lookupRows (p : ProcessId) (rows : List (Int64 × UInt64 × UInt64)) :
    StoreOn σ (List Mapping) := do
  let stale := staleFor rows (← cachedRanges p.hash.toInt64)
  if stale then
    let all ← getAllRanges p
    modify (refreshCache p.hash.toInt64 all)
  let rs := (← cachedRanges p.hash.toInt64).getD []
  liftRead (rows.mapM (lookupRow rs))

def cachedRead (p : ProcessId) : List String × List (Array Value) → StoreOn σ (List Mapping)
  | (names, rows) => allRows names rows readDataRow >>= lookupRows p

theorem loadRangesCached_eq (mid : Int64) (p : ProcessId) :
    (loadRangesCached mid p : StoreOn σ (List Mapping)) =
      queryCached dataRowsSql [.int mid] >>= cachedRead p :=
  rfl

end

def dataEntry (d : Sql.Row) : Int64 × UInt64 × UInt64 :=
  (d.intAt 0, (d.intAt 2).toUInt64, (d.intAt 3).toUInt64)

theorem readDataRow_dataListing {d : Sql.Row} (hd : d.IsData) (n : List String) :
    readDataRow n (dataListing d) = .ok (dataEntry d) := by
  have h0 := hd.col_eq (j := 0) (by omega)
  have h2 := hd.col_eq (j := 2) (by omega)
  have h3 := hd.col_eq (j := 3) (by omega)
  simp only [readDataRow, readInt, readWord, dataListing, dataEntry, h0, h2, h3]
  rfl

/-- Running a function over a list in which each element gives its value, or fails when it lacks
a property: the values of all when none lacks it, else the failure of the first that does. -/
theorem mapM_eq_find? {α β ε : Type} {f : α → Except ε β} {g : α → Option β} {err : α → ε}
    {P : α → Bool} :
    ∀ {xs : List α}, (∀ a ∈ xs, P a = true → ∃ b, g a = some b ∧ f a = .ok b) →
      (∀ a ∈ xs, P a = false → f a = .error (err a)) →
      xs.mapM f = (xs.find? fun a => !P a).elim (.ok (xs.filterMap g)) fun a => .error (err a)
  | [], _, _ => rfl
  | a :: as, hok, herr => by
      have ih := mapM_eq_find? (fun b hb => hok b (List.mem_cons_of_mem a hb))
        (fun b hb => herr b (List.mem_cons_of_mem a hb))
      cases hP : P a with
      | true =>
          obtain ⟨b, hg, hf⟩ := hok a List.mem_cons_self hP
          rw [List.mapM_cons, hf, ih, List.find?_cons, List.filterMap_cons, hg]
          simp only [hP, Bool.not_true]
          cases as.find? fun a => !P a <;> rfl
      | false =>
          rw [List.mapM_cons, herr a List.mem_cons_self hP, List.find?_cons]
          simp only [hP, Bool.not_false]
          rfl

theorem lookupRow_of_find? {rs : List (Int64 × RangeKey)} {rid : Int64} {x : Int64 × RangeKey}
    (hx : rs.find? (·.1 == rid) = some x) (rss pss : UInt64) :
    lookupRow rs (rid, rss, pss) = .ok ⟨x.2, rss, pss⟩ := by
  simp only [lookupRow, hx]

theorem RangeKey.eq_of_row_eq {k k' : RangeKey} (h : k.row = k'.row) (q : ProcessId) :
    k.process.hash = k'.process.hash ∧ { k with process := q } = { k' with process := q } := by
  simp [RangeKey.row, rangeRow] at h
  obtain ⟨-, hp, hlo, hhi, hperm, hname⟩ := h
  exact ⟨toInt64_injective hp, by rw [toInt64_injective hlo, toInt64_injective hhi, hperm, hname]⟩

theorem RangeKey.hash_withProcess {k : RangeKey} {q : ProcessId} (hq : k.process.hash = q.hash) :
    ({ k with process := q } : RangeKey).hash = k.hash := by
  unfold RangeKey.hash
  rw [hq]

section

variable {t : Tables} {past : Past} {p : ProcessId} {rs : List (Int64 × RangeKey)} {d : Sql.Row}

theorem lookupRow_data (hs : Sound t past) (hord : Sql.Ordered t.range)
    (hrs : EntriesSound past p rs) (hd : d ∈ t.data) (hx : ∃ x ∈ rs, x.1 = d.intAt 0) :
    ∃ m, past.mappingOf p d = some m ∧ t.storedUnder p.hash.toInt64 d = true ∧
      lookupRow rs (dataEntry d) = .ok m := by
  obtain ⟨k, hk, hfilter⟩ := Tables.range_of_data hs hord hd
  obtain ⟨y, hy⟩ : ∃ y, rs.find? (·.1 == d.intAt 0) = some y := by
    obtain ⟨x, hx, hid⟩ := hx
    exact Option.isSome_iff_exists.1 (List.find?_isSome.2 ⟨x, hx, by simp [hid]⟩)
  have hyid : y.1 = d.intAt 0 := by
    simpa using List.find?_some hy
  obtain ⟨k', hk', hkey, hy2⟩ := hrs y (List.mem_of_find?_eq_some hy)
  rw [hyid, hk, Option.some.injEq] at hk'
  subst hk'
  refine ⟨_, by rw [Past.mappingOf, hk]; rfl, ?_, ?_⟩
  · rw [Tables.storedUnder_eq hfilter, hkey, beq_self_eq_true]
  · rw [dataEntry, lookupRow_of_find? hy, hy2]

theorem lookupRow_foreign (hs : Sound t past) (hord : Sql.Ordered t.range)
    (hrs : EntriesSound past p rs) (hd : d ∈ t.data)
    (hfor : t.storedUnder p.hash.toInt64 d = false) :
    lookupRow rs (dataEntry d) = .error (rangeNotFound d) := by
  cases hy : rs.find? (·.1 == d.intAt 0) with
  | none =>
      simp only [dataEntry, lookupRow, hy]
      rfl
  | some y =>
      have hyid : y.1 = d.intAt 0 := by
        simpa using List.find?_some hy
      obtain ⟨m, -, hst, -⟩ :=
        lookupRow_data hs hord hrs hd ⟨y, List.mem_of_find?_eq_some hy, hyid⟩
      rw [hst] at hfor
      cases hfor

/-- Looking the data rows of a measurement up among sound entries that hold every range stored
under the process key gives the mappings of the rows, or fails at the first whose range is
stored under another key. -/
theorem mapM_lookupRow (hs : Sound t past) (hord : Sql.Ordered t.range)
    (hrs : EntriesSound past p rs) (mid : Int64)
    (hall : ∀ d ∈ t.dataOf mid, t.storedUnder p.hash.toInt64 d = true →
      ∃ x ∈ rs, x.1 = d.intAt 0) :
    ((t.dataOf mid).map dataEntry).mapM (lookupRow rs) =
      (t.firstForeign mid p.hash.toInt64).elim (.ok ((t.dataOf mid).filterMap (past.mappingOf p)))
        fun d => .error (rangeNotFound d) := by
  rw [List.mapM_map]
  refine mapM_eq_find? (fun d hd hst => ?_) (fun d hd hfor => ?_)
  · obtain ⟨m, hm, -, hlook⟩ :=
      lookupRow_data hs hord hrs (List.mem_filter.1 hd).1 (hall d hd hst)
    exact ⟨m, hm, hlook⟩
  · exact lookupRow_foreign hs hord hrs (List.mem_filter.1 hd).1 hfor

/-- The entries loaded for a process, one for each range row stored under its key: sound, and
holding the range of every data row stored under the key. -/
theorem refreshed_entries (hs : Sound t past) (hord : Sql.Ordered t.range) {ks : List RangeKey}
    (hperm : (ks.map RangeKey.row).Perm
      (t.range.filter fun r => (r.col 1).sameAs p.hash.toInt64)) :
    EntriesSound past p (ks.map fun k =>
        (({ k with process := p } : RangeKey).hash.toInt64, { k with process := p })) ∧
      ∀ d ∈ t.data, t.storedUnder p.hash.toInt64 d = true →
        ∃ x ∈ ks.map (fun k =>
          (({ k with process := p } : RangeKey).hash.toInt64, { k with process := p })),
          x.1 = d.intAt 0 := by
  -- a row listed under the key is one of a range whose process has the key's hash
  have hlisted : ∀ {r : Sql.Row}, r ∈ t.range.filter (fun r => (r.col 1).sameAs p.hash.toInt64) →
      ∀ {k : RangeKey}, k.row = r → k.process.hash = p.hash := by
    intro r hr k hk
    have hcol := (List.mem_filter.1 hr).2
    rw [← hk, RangeKey.row_col_one, Value.sameAs_int] at hcol
    exact toInt64_injective (beq_iff_eq.1 hcol)
  refine ⟨fun x hx => ?_, fun d hd hst => ?_⟩
  · obtain ⟨k, hk, rfl⟩ := List.mem_map.1 hx
    have hmem := hperm.subset (List.mem_map_of_mem (f := RangeKey.row) hk)
    have hkey := hlisted hmem rfl
    obtain ⟨k', hk', hrow⟩ := hs.firstRange_of_mem hord (List.mem_filter.1 hmem).1
    obtain ⟨hproc, hwith⟩ := RangeKey.eq_of_row_eq hrow p
    refine ⟨k', ?_, by rw [hproc, hkey], hwith.symm⟩
    rw [RangeKey.hash_withProcess hkey, ← RangeKey.row_rowid]
    exact hk'
  · obtain ⟨k, hk, hfilter⟩ := Tables.range_of_data hs hord hd
    rw [Tables.storedUnder_eq hfilter] at hst
    have hrow : k.row ∈ t.range.filter (fun r => (r.col 1).sameAs p.hash.toInt64) := by
      have hmem : k.row ∈ t.range.filter (fun r => (d.col 0).sameAs r.rowid) := by
        rw [hfilter]
        exact List.mem_singleton_self _
      refine List.mem_filter.2 ⟨(List.mem_filter.1 hmem).1, ?_⟩
      rw [RangeKey.row_col_one, Value.sameAs_int]
      exact hst
    obtain ⟨k', hk', hsame⟩ := List.mem_map.1 (hperm.symm.subset hrow)
    refine ⟨_, List.mem_map_of_mem hk', ?_⟩
    rw [RangeKey.hash_withProcess (hlisted hrow hsame), ← RangeKey.row_rowid, hsame,
      RangeKey.row_rowid]
    exact Past.hash_of_firstRange hk

end

theorem exists_of_staleFor_eq_false {rows : List (Int64 × UInt64 × UInt64)}
    {rs : List (Int64 × RangeKey)} (h : staleFor rows (some rs) = false) :
    ∀ x ∈ rows, ∃ y ∈ rs, y.1 = x.1 := by
  intro x hx
  simp only [staleFor, List.any_eq_false] at h
  have := h x hx
  simpa using this

section

variable {σ : Type} {h : Handle σ} {t : Tables} {past : Past} {p : ProcessId}

theorem exec_cachedRanges (h : Handle σ) (key : Int64) :
    h.exec (cachedRanges key) = (h, .ok ((h.cache.find? (·.process == key)).map (·.ranges))) :=
  rfl

theorem exec_lookupCached {key : Int64} {rs : List (Int64 × RangeKey)}
    (hfind : (h.cache.find? (·.process == key)).map (·.ranges) = some rs)
    (rows : List (Int64 × UInt64 × UInt64)) :
    h.exec (cachedRanges key >>= fun c => liftRead (rows.mapM (lookupRow (c.getD [])))) =
      (h, rows.mapM (lookupRow rs)) := by
  rw [Handle.exec_bind_ok _ (exec_cachedRanges h key), hfind, Handle.exec_liftRead]
  rfl

variable [Engine σ]

/-- Looking the data rows of a measurement up through a sound cache, on sound tables, for a
process first written under its key: the ranges are loaded again when the cache misses one, and
the rows give their mappings, or the read fails at the first whose range is stored under another
key; the cache stays sound. -/
theorem exec_lookupRows (L : ListingReads σ) (hc : (L.view h.conn).content = .store t)
    (hs : Sound t past) (hord : t.Ordered) (hcache : CacheSound past h.cache) {pname : String}
    (hp : past.firstProcess p.hash.toInt64 = some (p, pname)) (mid : Int64) :
    (h.exec (lookupRows p ((t.dataOf mid).map dataEntry))).2 =
        (t.firstForeign mid p.hash.toInt64).elim
          (.ok ((t.dataOf mid).filterMap (past.mappingOf p))) (fun d => .error (rangeNotFound d)) ∧
      CacheSound past (h.exec (lookupRows p ((t.dataOf mid).map dataEntry))).1.cache := by
  unfold lookupRows
  rw [Handle.exec_bind_ok _ (exec_cachedRanges h _)]
  dsimp only
  cases hst : staleFor ((t.dataOf mid).map dataEntry)
      ((h.cache.find? (·.process == p.hash.toInt64)).map (·.ranges)) with
  | false =>
      -- the cache holds an entry under every id the rows name
      simp only [Bool.false_eq_true, if_false]
      cases hfind : (h.cache.find? (·.process == p.hash.toInt64)).map (·.ranges) with
      | none =>
          rw [hfind] at hst
          cases hst
      | some rs =>
          rw [hfind] at hst
          obtain ⟨q, name, hq, hrs⟩ := hcache.find? hfind
          rw [hp, Option.some.injEq, Prod.mk.injEq] at hq
          obtain ⟨rfl, -⟩ := hq
          rw [exec_lookupCached hfind]
          refine ⟨mapM_lookupRow hs hord.2.1 hrs mid fun d hd _ => ?_, hcache⟩
          exact exists_of_staleFor_eq_false hst (dataEntry d) (List.mem_map_of_mem hd)
  | true =>
      -- the ranges stored under the key replace those cached under it
      simp only [if_true]
      obtain ⟨ks, hperm, -, hall⟩ := exec_getAllRanges_of_sound L hc hs hord p
      rw [Handle.exec_bind_of_ok _ hall, Handle.exec_bind_ok _ (Handle.exec_modify _ _)]
      obtain ⟨hrs, hcomplete⟩ := refreshed_entries hs hord.2.1 hperm
      have hrs' : EntriesSound past p ((ks.map fun k =>
          (⟨({ k with process := p } : RangeKey).hash.toInt64, { k with process := p }⟩ :
            StoredRange)).map fun r => (r.id, r.key)) := by
        rw [List.map_map]
        exact hrs
      obtain ⟨hsound, hfind⟩ := (keepsCache_getAllRanges p h).symm ▸ hcache.refresh hp hrs'
      rw [exec_lookupCached hfind]
      refine ⟨mapM_lookupRow hs hord.2.1 hrs' mid fun d hd hst => ?_, hsound⟩
      rw [List.map_map]
      exact hcomplete d (List.mem_filter.1 hd).1 hst

theorem exec_dataRows (L : CachedReads σ) (hc : (L.view h.conn).content = .store t)
    (mid : Int64) :
    ∃ names, (h.exec (queryCached dataRowsSql [.int mid])).2 =
        .ok (names, (t.dataOf mid).map dataListing) ∧
      L.view (h.exec (queryCached dataRowsSql [.int mid])).1.conn = L.view h.conn := by
  obtain ⟨hok, hprep⟩ := L.prepare_data_rows h.conn t hc
  have hview : L.view (Engine.prepareCached dataRowsSql h.conn).1 = L.view h.conn :=
    L.prepare h.conn dataRowsSql
  obtain ⟨⟨names, hans⟩, hv⟩ := L.data_rows _ t mid hprep (by rw [hview]; exact hc)
  unfold queryCached
  rw [Handle.exec_bind_ok _ (Handle.exec_onEngine_ok hok), Handle.exec_onEngine_ok hans]
  exact ⟨names, rfl, hv.trans hview⟩

/-- Read through a sound cache, on sound tables whose rows are as the store writes them, the
mappings of a measurement of a process first written under its key are those read without the
cache, unless a data row's range is stored under another key: then the read fails at the first
such row. The cache stays sound. -/
theorem exec_loadRangesCached (L : CachedReads σ) (hc : (L.view h.conn).content = .store t)
    (hs : Sound t past) (hw : t.Written) (hcache : CacheSound past h.cache) {pname : String}
    (hp : past.firstProcess p.hash.toInt64 = some (p, pname)) (mid : Int64) :
    (h.exec (loadRangesCached mid p)).2 =
        (t.firstForeign mid p.hash.toInt64).elim
          (.ok ((t.dataOf mid).filterMap (past.mappingOf p))) (fun d => .error (rangeNotFound d)) ∧
      CacheSound past (h.exec (loadRangesCached mid p)).1.cache := by
  have hord : t.Ordered := L.ordered _ t hc
  obtain ⟨names, hq, hv⟩ := exec_dataRows L hc mid
  have hkeep : (h.exec (queryCached dataRowsSql [.int mid])).1.cache = h.cache :=
    keepsCache_queryCached _ _ h
  have hread : ((t.dataOf mid).map dataListing).mapM (readDataRow names) =
      .ok ((t.dataOf mid).map dataEntry) :=
    mapM_eq_ok_of_forall₂ (List.forall₂_map_left_iff.2 (List.forall₂_map_right_iff.2
      (List.forall₂_same.2 fun d hd =>
        readDataRow_dataListing (hw.data d (List.mem_filter.1 hd).1) names)))
  rw [loadRangesCached_eq, Handle.exec_bind_of_ok _ hq, cachedRead,
    Handle.exec_bind_ok _ (by rw [allRows, Handle.exec_liftRead, hread])]
  exact exec_lookupRows L.toListingReads (by rw [hv]; exact hc) hs hord (hkeep ▸ hcache) hp mid

end

/-! ## Reading a measurement through the cache or not -/

theorem Except.bind_eq_ok_iff {ε α β : Type} {x : Except ε α} {f : α → Except ε β} {b : β} :
    x >>= f = .ok b ↔ ∃ a, x = .ok a ∧ f a = .ok b := by
  cases x <;> simp [bind, Except.bind]

theorem process_of_toMeasurement {n : List String} {mrow : Sql.Row} {q : ProcessId}
    {name : String} {M : Measurement}
    (h : toMeasurement n (measurementRecord mrow (q.row name)) = .ok M) : M.process = q := by
  have h2 : readI32 n (measurementRecord mrow (q.row name)) 2 = .ok q.pid :=
    readI32_of_int (by simp [measurementRecord, ProcessId.row_col_one])
  have h3 : readWord n (measurementRecord mrow (q.row name)) 3 = .ok q.startTime :=
    readWord_of_int (by simp [measurementRecord]; rfl)
  revert h
  simp only [toMeasurement, h2, h3, Except.bind_eq_ok_iff, Except.ok.injEq, pure, Except.pure,
    forall_exists_index, and_imp]
  intros
  subst_vars
  rfl

section

variable {σ : Type} [Engine σ]

def readFirstUsing (useCache : Bool) (sql : String) (params : List Value) :
    StoreOn σ (Option Measurement) := do
  match ← firstRow sql params toMeasurement with
  | none => return none
  | some m => return some (← withRanges useCache m)

theorem getMeasurementAt_eq_readFirstUsing (p : ProcessId) (time : Millis) (useCache : Bool) :
    (getMeasurementAt p time useCache : StoreOn σ (Option Measurement)) =
      readFirstUsing useCache measurementAtSql [word p.hash, .int time] :=
  rfl

theorem getMemoryPeak_none_eq_readFirstUsing (ty : MemoryType) (a b : Int64) (useCache : Bool) :
    (getMemoryPeak none ty a b useCache : StoreOn σ (Option Measurement)) =
      readFirstUsing useCache (peakSql ty) [.int a, .int b] :=
  rfl

theorem getMemoryPeak_some_eq_readFirstUsing (q : ProcessId) (ty : MemoryType) (a b : Int64)
    (useCache : Bool) :
    (getMemoryPeak (some q) ty a b useCache : StoreOn σ (Option Measurement)) =
      readFirstUsing useCache (processPeakSql ty) [.int a, .int b, word q.hash] :=
  rfl

variable {h : Handle σ} {t : Tables} {past : Past}

theorem exec_withRanges_false {L : Documented σ} (hc : (L.view h.conn).content = .store t)
    (hs : Sound t past) (hw : t.Written) (hord : Sql.Ordered t.range) (m : Measurement) :
    (h.exec (withRanges false m)).2 =
      .ok { m with ranges := (t.dataOf m.id).filterMap (past.mappingOf m.process) } := by
  unfold withRanges
  simp only [Bool.false_eq_true, if_false]
  rw [Handle.exec_bind_of_ok _ (exec_loadRanges_of_sound hc hs hw hord m.id m.process)]
  rfl

theorem exec_withRanges_true (L : CachedReads σ) (hc : (L.view h.conn).content = .store t)
    (hs : Sound t past) (hw : t.Written) (hcache : CacheSound past h.cache) {m : Measurement}
    {pname : String} (hp : past.firstProcess m.process.hash.toInt64 = some (m.process, pname)) :
    (h.exec (withRanges true m)).2 =
        ((t.firstForeign m.id m.process.hash.toInt64).elim
          (Except.ok ((t.dataOf m.id).filterMap (past.mappingOf m.process)))
          (fun d => Except.error (rangeNotFound d))).map (fun ms => { m with ranges := ms }) ∧
      CacheSound past (h.exec (withRanges true m)).1.cache := by
  obtain ⟨hres, hcs⟩ := exec_loadRangesCached L hc hs hw hcache hp m.id
  unfold withRanges
  simp only [if_true]
  cases hf : t.firstForeign m.id m.process.hash.toInt64 with
  | none =>
      simp only [hf, Option.elim] at hres
      rw [Handle.exec_bind_of_ok _ hres, Handle.exec_pure]
      exact ⟨rfl, hcs⟩
  | some d =>
      simp only [hf, Option.elim] at hres
      rw [Handle.exec_bind_of_error _ hres]
      exact ⟨rfl, hcs⟩

/-- On sound tables whose rows are as the store writes them, a query that answers at most one
joined measurement row reads through a sound cache what it reads without the cache, except that
a measurement with a data row whose range is stored under another key fails at the first such
row. The cache stays sound. -/
theorem exec_readFirstUsing (L : CachedReads σ) (hc : (L.view h.conn).content = .store t)
    (hs : Sound t past) (hw : t.Written) (hcache : CacheSound past h.cache) {sql : String}
    {params : List Value} (hq : IsQuery sql) {xs : List (Sql.Row × Sql.Row)}
    (hxs : xs = [] ∨ ∃ x ∈ t.joined, xs = [x])
    (ha : Answers L.view (Engine.runText sql params) h.conn (Tables.records xs)) :
    (h.exec (readFirstUsing true sql params)).2 =
        t.throughCache (h.exec (readFirstUsing false sql params)).2 ∧
      CacheSound past (h.exec (readFirstUsing true sql params)).1.cache := by
  have hord : t.Ordered := L.ordered _ t hc
  obtain ⟨⟨names, hans⟩, -⟩ := ha
  -- the query leaves the tables and the cache as they were
  have hc1 : (L.view (h.exec (firstRow sql params toMeasurement)).1.conn).content = .store t := by
    rw [readOnly_firstRow _ _ hq h, hc]
  have hcache1 : CacheSound past (h.exec (firstRow sql params toMeasurement)).1.cache := by
    rw [keepsCache_firstRow _ _ h]
    exact hcache
  unfold readFirstUsing
  rcases hxs with rfl | ⟨x, hx, rfl⟩
  · -- no row: no measurement either way
    have hrun : h.exec (query sql params) =
        ({ h with conn := (Engine.runText sql params h.conn).1 }, .ok (names, [])) :=
      Handle.exec_onEngine_ok hans
    have hfirst : (h.exec (firstRow sql params toMeasurement)).2 = .ok none := by
      simp only [firstRow, Handle.exec_bind_ok _ hrun]
      rfl
    rw [Handle.exec_bind_of_ok _ hfirst, Handle.exec_bind_of_ok _ hfirst]
    exact ⟨rfl, hcache1⟩
  · obtain ⟨-, hpr, -⟩ := Tables.mem_joined.1 hx
    obtain ⟨q, name, hfirstq, hrow⟩ := hs.firstProcess_of_mem hord.1 hpr
    have hfirst := exec_firstRow_cons (h := h) (f := toMeasurement) hans
    cases hM : toMeasurement names (measurementRecord x.1 x.2) with
    | error e =>
        rw [hM] at hfirst
        rw [Handle.exec_bind_of_error _ hfirst, Handle.exec_bind_of_error _ hfirst]
        exact ⟨rfl, hcache1⟩
    | ok M =>
        rw [hM] at hfirst
        have hproc : M.process = q := process_of_toMeasurement (by rw [hrow]; exact hM)
        have hp : past.firstProcess M.process.hash.toInt64 = some (M.process, name) := by
          rw [hproc, ← ProcessId.row_rowid q name, hrow]
          exact hfirstq
        obtain ⟨hwt, hcs⟩ := exec_withRanges_true L hc1 hs hw hcache1 hp
        rw [Handle.exec_bind_of_ok _ hfirst, Handle.exec_bind_of_ok _ hfirst]
        dsimp only
        rw [Handle.exec_bind_of_ok _ (exec_withRanges_false hc1 hs hw hord.2.1 M), Handle.exec_pure]
        cases hf : t.firstForeign M.id M.process.hash.toInt64 with
        | none =>
            simp only [hf, Option.elim] at hwt
            rw [Handle.exec_bind_of_ok _ hwt, Handle.exec_pure]
            exact ⟨by simp only [Tables.throughCache, hf, Option.elim], hcs⟩
        | some d =>
            simp only [hf, Option.elim] at hwt
            rw [Handle.exec_bind_of_error _ hwt]
            exact ⟨by simp only [Tables.throughCache, hf, Option.elim], hcs⟩

theorem joined_of_firstOf {before : Sql.Row × Sql.Row → Sql.Row × Sql.Row → Prop}
    {P : Sql.Row × Sql.Row → Bool} {xs : List (Sql.Row × Sql.Row)}
    (hfirst : FirstOf before (t.joined.filter P) xs) : xs = [] ∨ ∃ x ∈ t.joined, xs = [x] := by
  rcases hfirst with ⟨-, rfl⟩ | ⟨x, hx, rfl, -⟩
  · exact .inl rfl
  · exact .inr ⟨x, (List.mem_filter.1 hx).1, rfl⟩

theorem exec_getMeasurementAt_true (L : CachedReads σ) (hc : (L.view h.conn).content = .store t)
    (hs : Sound t past) (hw : t.Written) (hcache : CacheSound past h.cache) (p : ProcessId)
    (time : Millis) :
    (h.exec (getMeasurementAt p time true)).2 =
        t.throughCache (h.exec (getMeasurementAt p time false)).2 ∧
      CacheSound past (h.exec (getMeasurementAt p time true)).1.cache := by
  have hint : ∀ m ∈ t.measurement, m.Integral := fun m hm => (hw.measurement m hm).integral
  obtain ⟨xs, hfirst, ha⟩ := L.measurement_at h.conn t p.hash.toInt64 time hc hint
  rw [getMeasurementAt_eq_readFirstUsing, getMeasurementAt_eq_readFirstUsing]
  exact exec_readFirstUsing L hc hs hw hcache isQuery_measurementAtSql (joined_of_firstOf hfirst) ha

theorem exec_getMemoryPeak_true (L : CachedReads σ) (hc : (L.view h.conn).content = .store t)
    (hs : Sound t past) (hw : t.Written) (hcache : CacheSound past h.cache)
    (q : Option ProcessId) (ty : MemoryType) (a b : Int64) :
    (h.exec (getMemoryPeak q ty a b true)).2 =
        t.throughCache (h.exec (getMemoryPeak q ty a b false)).2 ∧
      CacheSound past (h.exec (getMemoryPeak q ty a b true)).1.cache := by
  have hint : ∀ m ∈ t.measurement, m.Integral := fun m hm => (hw.measurement m hm).integral
  cases q with
  | none =>
      obtain ⟨xs, hfirst, ha⟩ := L.memory_peak h.conn t ty a b hc hint
      rw [getMemoryPeak_none_eq_readFirstUsing, getMemoryPeak_none_eq_readFirstUsing]
      exact exec_readFirstUsing L hc hs hw hcache (isQuery_peakSql ty) (joined_of_firstOf hfirst) ha
  | some q =>
      obtain ⟨xs, hfirst, ha⟩ := L.process_memory_peak h.conn t ty a b q.hash.toInt64 hc hint
      rw [getMemoryPeak_some_eq_readFirstUsing, getMemoryPeak_some_eq_readFirstUsing]
      exact exec_readFirstUsing L hc hs hw hcache (isQuery_processPeakSql ty)
        (joined_of_firstOf hfirst) ha

end

/-! ## Handles reached through the interface -/

section

variable {σ : Type} {h : Handle σ} {past : Past}

theorem Handle.exec_discard_fst {α : Type} (h : Handle σ) (m : StoreOn σ α) :
    (h.exec (m >>= fun _ => pure ())).1 = (h.exec m).1 := by
  rw [Handle.exec_bind]
  rcases h.exec m with ⟨h', _ | _⟩ <;> rfl

variable [Engine σ]

/-- On every handle a program reaches through the interface, the cache holds, under each process
key, ranges of what the program wrote, shown under the process first written under the key. -/
theorem Uses.cacheSound (L : CachedReads σ) (hu : Uses L.toDocumented h past) :
    CacheSound past h.cache := by
  induction hu with
  | start hc hopen =>
      rw [start_cache hopen]
      exact CacheSound.nil _
  | @call h' past' c _ ih =>
      -- a write keeps the cache and only adds to what was written
      rw [Call.keepsCache_run c h']
      exact ih.mono (Call.prefix_after c _ past')
  | @read h' past' r hu ih =>
      obtain ⟨t, hv, hs, hw⟩ := hu.reachable.written
      have hc : (L.view h'.conn).content = .store t := by
        rw [hv]
      cases hr : r.usesCache with
      | false =>
          rw [Read.keepsCache_run r hr h']
          exact ih
      | true =>
          -- only the reads through the cache and the clearing of it touch the cache
          cases r with
          | measurementAt p time useCache =>
              obtain rfl : useCache = true := hr
              rw [Read.run, Handle.exec_discard_fst]
              exact (exec_getMeasurementAt_true L hc hs hw ih p time).2
          | memoryPeak q ty a b useCache =>
              obtain rfl : useCache = true := hr
              rw [Read.run, Handle.exec_discard_fst]
              exact (exec_getMemoryPeak_true L hc hs hw ih q ty a b).2
          | clearRangeCache =>
              rw [Read.run, Handle.exec_modify]
              exact CacheSound.nil _
          | _ => cases hr
  | reopen _ hopen =>
      rw [start_cache hopen]
      exact CacheSound.nil _

/-- On every handle a program reaches through the interface, whatever it wrote, read through the
cache or not, and cleared before, reading the latest measurement of a process at an instant or
the peak measurement of a window through the range cache gives what reading it without the
cache gives, except for a measurement with a data row whose range is stored under another key
than its process's: that read fails at the first such row with `range <id>` not found. -/
theorem getMeasurementAt_getMemoryPeak_throughCache (L : CachedReads σ)
    (hu : Uses L.toDocumented h past) :
    ∃ t, L.view h.conn = { content := .store t, enforcing := true } ∧
      (∀ p time, (h.exec (getMeasurementAt p time true)).2 =
        t.throughCache (h.exec (getMeasurementAt p time false)).2) ∧
      (∀ q ty a b, (h.exec (getMemoryPeak q ty a b true)).2 =
        t.throughCache (h.exec (getMemoryPeak q ty a b false)).2) := by
  obtain ⟨t, hv, hs, hw⟩ := hu.reachable.written
  have hc : (L.view h.conn).content = .store t := by
    rw [hv]
  have hcache := hu.cacheSound L
  exact ⟨t, hv, fun p time => (exec_getMeasurementAt_true L hc hs hw hcache p time).1,
    fun q ty a b => (exec_getMemoryPeak_true L hc hs hw hcache q ty a b).1⟩

/-- The store opened on a new database, a process row written for process 2, and a snapshot of
process 1 whose range names process 2: the range is stored under the key of process 2, so a read
of the measurement through the cache fails where a read without it succeeds. -/
theorem getMeasurementAt_getMemoryPeak_throughCache_foreign :
    let other : ProcessId := ⟨2, 0⟩
    let s : Snapshot :=
      { time := 1000, process := ⟨1, 0⟩, ranges := [⟨⟨other, 4096, 8192, "rw-p", "[heap]"⟩, 4, 4⟩] }
    let h₀ := Handle.opened (Engine.fresh : Reference.Reader)
    let h₁ := (h₀.exec (Call.upsertProcess other "other").run).1
    let h₂ := (h₁.exec (Call.insertSnapshot s).run).1
    Uses Reference.cachedReads.toDocumented h₂
        ((Call.insertSnapshot s).after (h₁.exec (Call.insertSnapshot s).run).2
          ((Call.upsertProcess other "other").after
            (h₀.exec (Call.upsertProcess other "other").run).2 {})) ∧
      ∃ t, Reference.cachedReads.view h₂.conn = { content := .store t, enforcing := true } ∧
        (∀ p time, (h₂.exec (getMeasurementAt p time true)).2 =
          t.throughCache (h₂.exec (getMeasurementAt p time false)).2) ∧
        (∀ q ty a b, (h₂.exec (getMemoryPeak q ty a b true)).2 =
          t.throughCache (h₂.exec (getMemoryPeak q ty a b false)).2) := by
  intro other s h₀ h₁ h₂
  have hu : Uses Reference.cachedReads.toDocumented h₂
      ((Call.insertSnapshot s).after (h₁.exec (Call.insertSnapshot s).run).2
        ((Call.upsertProcess other "other").after
          (h₀.exec (Call.upsertProcess other "other").run).2 {})) :=
    Uses.call _ (Uses.call _ (Uses.of_blank rfl))
  exact ⟨hu, getMeasurementAt_getMemoryPeak_throughCache Reference.cachedReads hu⟩

end

end Store
end MemoryRecorder
