import Mathlib.Data.Set.List
import MemoryRecorder.Proofs.Store.Rows
import MemoryRecorder.Proofs.Store.ListingReference

/-!
# The ranges of a process and the processes of a pid

On every store a program reaches, through an engine that answers the listing reads as SQLite
documents (`ListingReads`):

* listing the ranges of a process gives each range row stored under the process's key once, as
  the range it was written for, shown under the process asked for and with that range's hash as
  its id, by start address and then id;
* looking a pid up gives each process row with that pid once, as the process and name it was
  written with, by start time.

Both orders compare the words as the signed 64-bit integers their bits make
(`getAllRanges_lookupPid_signed`), so an address or a start time of `2 ^ 63` or more, such as the
`[vsyscall]` page at `0xffffffffff600000`, comes before every one under it.
-/

namespace MemoryRecorder
namespace Store

/-! ## Reading a listed row -/

/-- A row of the range listing read as a range of a process. -/
def rangeOfRow (p : ProcessId) (n : List String) (r : Array Value) : Except StoreError StoredRange := do
  let id ← readInt n r 0
  let lo ← readWord n r 1
  let hi ← readWord n r 2
  let permission ← readText n r 3
  let name ← readText n r 4
  return ⟨id, ⟨p, lo, hi, permission, name⟩⟩

/-- A row of the pid lookup read as a process and its name. -/
def processOfRow (n : List String) (r : Array Value) : Except StoreError ProcessInfo := do
  let pid ← readI32 n r 0
  let start ← readWord n r 1
  let name ← readText n r 2
  return ⟨⟨pid, start⟩, name⟩

section

variable {σ : Type} [Engine σ]

theorem getAllRanges_eq (p : ProcessId) :
    (getAllRanges p : StoreOn σ (List StoredRange)) = (do
      let (names, rows) ← queryCached allRangesSql [word p.hash]
      allRows names rows (rangeOfRow p)) :=
  rfl

theorem lookupPid_eq (pid : Int32) :
    (lookupPid pid : StoreOn σ (List ProcessInfo)) = (do
      let (names, rows) ← query lookupPidSql [small pid]
      allRows names rows processOfRow) :=
  rfl

end

theorem rangeOfRow_rangeListing (p : ProcessId) (n : List String) (k : RangeKey) :
    rangeOfRow p n (rangeListing k.row) = .ok ⟨k.hash.toInt64, { k with process := p }⟩ := by
  simp only [rangeOfRow, rangeListing, RangeKey.row, rangeRow, Sql.Row.col]
  rw [readInt_of_int rfl, readWord_of_int rfl, readWord_of_int rfl, readText_of_text rfl,
    readText_of_text rfl]
  rfl

theorem processOfRow_processListing (n : List String) (q : ProcessId) (name : String) :
    processOfRow n (processListing (q.row name)) = .ok ⟨q, name⟩ := by
  simp only [processOfRow, processListing, ProcessId.row, processRow, Sql.Row.col]
  rw [readI32_of_int rfl, readWord_of_int rfl, readText_of_text rfl]
  rfl

/-! ## Rows in order -/

@[simp]
theorem RangeKey.row_rowid (k : RangeKey) : k.row.rowid = k.hash.toInt64 :=
  rfl

@[simp]
theorem RangeKey.row_col_one (k : RangeKey) : k.row.col 1 = .int k.process.hash.toInt64 :=
  rfl

@[simp]
theorem RangeKey.row_rangeStart (k : RangeKey) : k.row.rangeStart = k.lo.toInt64 :=
  rfl

@[simp]
theorem ProcessId.row_rowid (q : ProcessId) (name : String) : (q.row name).rowid = q.hash.toInt64 :=
  rfl

@[simp]
theorem ProcessId.row_col_one (q : ProcessId) (name : String) :
    (q.row name).col 1 = .int q.pid.toInt64 :=
  rfl

@[simp]
theorem ProcessId.row_processStart (q : ProcessId) (name : String) :
    (q.row name).processStart = q.startTime.toInt64 :=
  rfl

theorem toInt64_injective {a b : UInt64} (h : a.toInt64 = b.toInt64) : a = b := by
  simpa using congrArg Int64.toUInt64 h

theorem SortedBy.pairwise_rowid {before : Sql.Row → Sql.Row → Prop} {rows xs : List Sql.Row}
    (hs : SortedBy before rows xs) (hnd : (rows.map (·.rowid)).Nodup) :
    xs.Pairwise fun x y => x.rowid ≠ y.rowid :=
  List.pairwise_map.1 ((hs.1.map _).nodup_iff.2 hnd)

theorem Sql.Ordered.nodup_filter {rows : List Sql.Row} (h : Sql.Ordered rows) (p : Sql.Row → Bool) :
    ((rows.filter p).map (·.rowid)).Nodup :=
  h.nodup.sublist ((List.filter_sublist).map _)

theorem exists_eq_map_of_forall {α : Type} {f : α → Sql.Row} {xs : List Sql.Row}
    (h : ∀ r ∈ xs, ∃ a, r = f a) : ∃ as : List α, xs = as.map f := by
  have hmem : xs ∈ Set.range (List.map f) := by
    rw [Set.range_list_map]
    intro r hr
    obtain ⟨a, rfl⟩ := h r hr
    exact ⟨a, rfl⟩
  obtain ⟨as, has⟩ := hmem
  exact ⟨as, has.symm⟩

/-! ## The two listings -/

section

variable {σ : Type} [Engine σ] {h : Handle σ} {t : Tables} {past : Past}

/-- Listing the ranges of a process runs the prepared range listing of the process's key, and
reads every row it answers. -/
theorem exec_getAllRanges (L : ListingReads σ) (hc : (L.view h.conn).content = .store t)
    (hint : ∀ r ∈ t.range, ∃ n, r.col 2 = .int n) (p : ProcessId) :
    ∃ xs, SortedBy LowerRange
        (t.range.filter fun r => (r.col 1).sameAs p.hash.toInt64) xs ∧
      ∃ names, (h.exec (getAllRanges p)).2 = (xs.map rangeListing).mapM (rangeOfRow p names) := by
  obtain ⟨hok, hprep⟩ := L.prepare_all_ranges h.conn t hc
  have hview : L.view (Engine.prepareCached allRangesSql h.conn).1 = L.view h.conn :=
    L.prepare h.conn allRangesSql
  obtain ⟨xs, hsorted, ⟨names, hans⟩, -⟩ :=
    L.all_ranges _ t p.hash.toInt64 hprep (by rw [hview]; exact hc) hint
  have hquery : (h.exec (queryCached allRangesSql [word p.hash])).2 =
      .ok (names, xs.map rangeListing) := by
    unfold queryCached
    rw [Handle.exec_bind_ok _ (Handle.exec_onEngine_ok hok), Handle.exec_onEngine_ok hans]
  refine ⟨xs, hsorted, names, ?_⟩
  rw [getAllRanges_eq, Handle.exec_bind_of_ok _ hquery]
  exact congrArg Prod.snd (Handle.exec_liftRead _ _)

theorem exec_lookupPid (L : ListingReads σ) (hc : (L.view h.conn).content = .store t)
    (hint : ∀ q ∈ t.process, ∃ n, q.col 2 = .int n) (pid : Int32) :
    ∃ xs, SortedBy EarlierStart (t.process.filter fun q => (q.col 1).sameAs pid.toInt64) xs ∧
      ∃ names, (h.exec (lookupPid pid)).2 = (xs.map processListing).mapM (processOfRow names) := by
  obtain ⟨xs, hsorted, ⟨names, hans⟩, -⟩ := L.lookup_pid h.conn t pid.toInt64 hc hint
  have hquery : (h.exec (query lookupPidSql [small pid])).2 =
      .ok (names, xs.map processListing) := by
    unfold query
    rw [Handle.exec_onEngine_ok (f := Engine.runText lookupPidSql [small pid]) hans]
  refine ⟨xs, hsorted, names, ?_⟩
  rw [lookupPid_eq, Handle.exec_bind_of_ok _ hquery]
  exact congrArg Prod.snd (Handle.exec_liftRead _ _)

/-- On sound tables in row id order, listing the ranges of a process gives each range row stored
under the process's key once, as the range it was written for, shown under the process and with
the hash of the range shown as its id; by start address and then id, each compared as a signed
64-bit integer. -/
theorem exec_getAllRanges_of_sound (L : ListingReads σ) (hc : (L.view h.conn).content = .store t)
    (hs : Sound t past) (hord : t.Ordered) (p : ProcessId) :
    ∃ ks : List RangeKey,
      (ks.map RangeKey.row).Perm (t.range.filter fun r => (r.col 1).sameAs p.hash.toInt64) ∧
      ks.Pairwise (fun a b => a.lo.toInt64 < b.lo.toInt64 ∨
        a.lo = b.lo ∧ a.hash.toInt64 < b.hash.toInt64) ∧
      (h.exec (getAllRanges p)).2 =
        .ok (ks.map fun k => ⟨({ k with process := p } : RangeKey).hash.toInt64,
          { k with process := p }⟩) := by
  obtain ⟨xs, hsorted, names, hread⟩ := exec_getAllRanges L hc (fun r hr => by
    obtain ⟨k, rfl⟩ := hs.range_row hord.2.1 hr
    exact ⟨_, rfl⟩) p
  obtain ⟨ks, rfl⟩ := exists_eq_map_of_forall (f := RangeKey.row) fun r hr =>
    hs.range_row hord.2.1 (List.mem_of_mem_filter (hsorted.1.subset hr))
  -- the rows listed are stored under the process's key, so their ranges share its hash
  have hkey : ∀ k ∈ ks, k.process.hash = p.hash := by
    intro k hk
    have hmem := List.mem_filter.1 (hsorted.1.subset (List.mem_map_of_mem hk))
    have heq : k.process.hash.toInt64 = p.hash.toInt64 := by
      simpa [Value.sameAs_int] using hmem.2
    simpa using congrArg Int64.toUInt64 heq
  have hrows := hsorted.2.and (hsorted.pairwise_rowid (hord.2.1.nodup_filter _))
  refine ⟨ks, hsorted.1, ?_, ?_⟩
  · -- the order puts no range after one it comes after, and ids tell ranges apart
    refine (List.pairwise_map.1 hrows).imp ?_
    rintro a b ⟨hab, hid⟩
    simp only [LowerRange, RangeKey.row_rangeStart, RangeKey.row_rowid, not_or, not_and] at hab hid
    by_cases hlo : a.lo = b.lo
    · exact .inr ⟨hlo, Int64.lt_of_le_of_ne (Int64.not_lt.1 (hab.2 (by rw [hlo]))) hid⟩
    · exact .inl (Int64.lt_of_le_of_ne (Int64.not_lt.1 hab.1) fun h => hlo (toInt64_injective h))
  · rw [hread]
    simp only [List.mapM_map]
    have hf : (rangeOfRow p names ∘ rangeListing) ∘ RangeKey.row =
        fun k => pure ⟨k.hash.toInt64, { k with process := p }⟩ :=
      funext (rangeOfRow_rangeListing p names)
    rw [hf, List.mapM_pure]
    refine congrArg Except.ok (List.map_congr_left fun k hk => ?_)
    simp [RangeKey.hash, hkey k hk]

/-- On sound tables in row id order, looking a pid up gives each process row with that pid once,
as the process and name it was written with, by start time compared as a signed 64-bit
integer. -/
theorem exec_lookupPid_of_sound (L : ListingReads σ) (hc : (L.view h.conn).content = .store t)
    (hs : Sound t past) (hord : t.Ordered) (pid : Int32) :
    ∃ qs : List (ProcessId × String),
      (qs.map fun q => q.1.row q.2).Perm
        (t.process.filter fun r => (r.col 1).sameAs pid.toInt64) ∧
      qs.Pairwise (fun a b => a.1.startTime.toInt64 < b.1.startTime.toInt64) ∧
      (h.exec (lookupPid pid)).2 = .ok (qs.map fun q => ⟨q.1, q.2⟩) := by
  obtain ⟨xs, hsorted, names, hread⟩ := exec_lookupPid L hc (fun r hr => by
    obtain ⟨q, name, rfl⟩ := hs.process_row hord.1 hr
    exact ⟨_, rfl⟩) pid
  obtain ⟨qs, rfl⟩ := exists_eq_map_of_forall (f := fun q : ProcessId × String => q.1.row q.2)
    fun r hr => by
      obtain ⟨q, name, rfl⟩ := hs.process_row hord.1
        (List.mem_of_mem_filter (hsorted.1.subset hr))
      exact ⟨(q, name), rfl⟩
  have hpid : ∀ q ∈ qs, q.1.pid = pid := by
    intro q hq
    have hmem := List.mem_filter.1 (hsorted.1.subset (List.mem_map_of_mem hq))
    have heq : q.1.pid.toInt64 = pid.toInt64 := by
      simpa [Value.sameAs_int] using hmem.2
    simpa using congrArg Int64.toInt32 heq
  have hrows := hsorted.2.and (hsorted.pairwise_rowid (hord.1.nodup_filter _))
  refine ⟨qs, hsorted.1, ?_, ?_⟩
  · -- two processes with one pid and one start time are one process, so one row
    refine (List.pairwise_map.1 hrows).imp_of_mem ?_
    rintro a b ha hb ⟨hab, hid⟩
    simp only [EarlierStart, ProcessId.row_processStart, ProcessId.row_rowid] at hab hid
    by_cases heq : a.1.startTime = b.1.startTime
    · have hsame : a.1 = b.1 := by
        obtain ⟨⟨pa, sa⟩, na⟩ := a
        obtain ⟨⟨pb, sb⟩, nb⟩ := b
        have hpa := hpid _ ha
        have hpb := hpid _ hb
        simp_all
      exact absurd (by rw [hsame]) hid
    · exact Int64.lt_of_le_of_ne (Int64.not_lt.1 hab) fun h => heq (toInt64_injective h)
  · rw [hread]
    simp only [List.mapM_map]
    have hf : (processOfRow names ∘ processListing) ∘ (fun q : ProcessId × String => q.1.row q.2) =
        fun q => pure ⟨q.1, q.2⟩ :=
      funext fun q => processOfRow_processListing names q.1 q.2
    rw [hf, List.mapM_pure]
    rfl

/-- On every store a program reaches, listing the ranges of a process gives each range row
stored under the process's key once, as the range it was written for, shown under the process
and with the hash of the range shown as its id; by start address and then id, each compared as a
signed 64-bit integer. Looking a pid up gives each process row with that pid once, as the
process and name it was written with, by start time compared as a signed 64-bit integer. -/
theorem getAllRanges_lookupPid_signed (L : ListingReads σ) (hr : Reachable L.toDocumented h past)
    (p : ProcessId) (pid : Int32) :
    ∃ t, L.view h.conn = { content := .store t, enforcing := true } ∧
      (∃ ks : List RangeKey,
        (ks.map RangeKey.row).Perm (t.range.filter fun r => (r.col 1).sameAs p.hash.toInt64) ∧
        ks.Pairwise (fun a b => a.lo.toInt64 < b.lo.toInt64 ∨
          a.lo = b.lo ∧ a.hash.toInt64 < b.hash.toInt64) ∧
        (h.exec (getAllRanges p)).2 =
          .ok (ks.map fun k => ⟨({ k with process := p } : RangeKey).hash.toInt64,
            { k with process := p }⟩)) ∧
      ∃ qs : List (ProcessId × String),
        (qs.map fun q => q.1.row q.2).Perm
          (t.process.filter fun r => (r.col 1).sameAs pid.toInt64) ∧
        qs.Pairwise (fun a b => a.1.startTime.toInt64 < b.1.startTime.toInt64) ∧
        (h.exec (lookupPid pid)).2 = .ok (qs.map fun q => ⟨q.1, q.2⟩) := by
  obtain ⟨t, hv, hs, -⟩ := hr.written
  have hc : (L.view h.conn).content = .store t := by
    rw [hv]
  have hord : t.Ordered := L.ordered _ t hc
  exact ⟨t, hv, exec_getAllRanges_of_sound L hc hs hord p, exec_lookupPid_of_sound L hc hs hord pid⟩

/-- The listings on the reference engine with the listing reads, after a process was written with
a range at 4096 and the `[vsyscall]` page, and a process of the same pid started at `2 ^ 63`. -/
theorem getAllRanges_lookupPid_signed_vsyscall :
    let p : ProcessId := ⟨1, 0⟩
    let c₁ := Call.upsertProcess p "app"
    let c₂ := Call.upsertRange ⟨p, 4096, 8192, "r-xp", "app"⟩
    let c₃ := Call.upsertRange ⟨p, 18446744073699065856, 18446744073699069952, "--xp", "[vsyscall]"⟩
    let c₄ := Call.upsertProcess ⟨1, 9223372036854775808⟩ "new"
    let h₀ := Handle.opened (Engine.fresh : Reference.Lister)
    let h₁ := (h₀.exec c₁.run).1
    let h₂ := (h₁.exec c₂.run).1
    let h₃ := (h₂.exec c₃.run).1
    let h := (h₃.exec c₄.run).1
    let past := c₄.after (h₃.exec c₄.run).2 (c₃.after (h₂.exec c₃.run).2
      (c₂.after (h₁.exec c₂.run).2 (c₁.after (h₀.exec c₁.run).2 {})))
    Reachable Reference.listingReads.toDocumented h past ∧
      ∃ t, Reference.listingReads.view h.conn = { content := .store t, enforcing := true } ∧
        (∃ ks : List RangeKey,
          (ks.map RangeKey.row).Perm (t.range.filter fun r => (r.col 1).sameAs p.hash.toInt64) ∧
          ks.Pairwise (fun a b => a.lo.toInt64 < b.lo.toInt64 ∨
            a.lo = b.lo ∧ a.hash.toInt64 < b.hash.toInt64) ∧
          (h.exec (getAllRanges p)).2 =
            .ok (ks.map fun k => ⟨({ k with process := p } : RangeKey).hash.toInt64,
              { k with process := p }⟩)) ∧
        ∃ qs : List (ProcessId × String),
          (qs.map fun q => q.1.row q.2).Perm
            (t.process.filter fun r => (r.col 1).sameAs (1 : Int32).toInt64) ∧
          qs.Pairwise (fun a b => a.1.startTime.toInt64 < b.1.startTime.toInt64) ∧
          (h.exec (lookupPid 1)).2 = .ok (qs.map fun q => ⟨q.1, q.2⟩) := by
  intro p c₁ c₂ c₃ c₄ h₀ h₁ h₂ h₃ h past
  have hr₀ : Reachable Reference.listingReads.toDocumented h₀ {} := Reachable.of_blank rfl
  have hr : Reachable Reference.listingReads.toDocumented h past :=
    (((hr₀.step (.call c₁ h₀ {})).step (.call c₂ h₁ _)).step (.call c₃ h₂ _)).step (.call c₄ h₃ _)
  exact ⟨hr, getAllRanges_lookupPid_signed Reference.listingReads hr p 1⟩

end

end Store
end MemoryRecorder
