import MemoryRecorder.Proofs.Store.SystemLog

/-!
# The system peak query and the data query

Two reads of the store ask the engine for rows that the laws so far leave open.

Reading the system peak under an estimator asks the engine for the first system row in the
order of an expression of its columns, the smaller id first among equals
(`ORDER BY <expression> ASC, id ASC LIMIT 1`): the kernel's estimate alone, or free memory plus
buffers and page cache, less shared memory, plus swap cache and reclaimable slab, left to right.

SQLite evaluates that expression over the signed integers the columns hold: a figure of
`2 ^ 63` or more counts as the negative number its bits make, and the difference does not stop
at zero. While no partial sum leaves the signed 64-bit range the value is exact
(`MemInfo.sqlAvailable`); past it SQLite goes on in floating point, which this library does not
describe, so `SystemPeakReads` takes the engine's order only on tables whose rows keep every
partial sum in range (`MemInfo.SqlExact`).

The figure the query ranks by is not `MemInfo.available`, which reads the words unsigned and
stops at zero. When every counter an estimator reads is below `2 ^ 63`, the query's figure
stopped at zero is the available memory (`toNat_sqlAvailable`): the two part only below zero,
where the query still tells apart samples that `available` puts level.

Reading the mappings of a measurement through the range cache asks for its data rows alone
(`SELECT range_id, rss, pss FROM data WHERE measurement_id = ?1 ORDER BY rowid`): the range id and
the two sizes of each, in row id order. `CachedReads` takes that of the engine, beside the ordered
reads and the listing reads.
-/

namespace MemoryRecorder

namespace MemInfo

def signed (w : UInt64) : Int :=
  w.toInt64.toInt

/-- Available memory under an estimator as the system peak query computes it from the columns:
the signed values, added and subtracted left to right, with no stop at zero. -/
def sqlAvailable (m : MemInfo) : Estimator → Int
  | .kernel => signed m.memAvailable
  | .computed =>
      signed m.memFree + signed m.buffers + signed m.cached - signed m.shmem +
        signed m.swapCache + signed m.sReclaimable

def InWord (x : Int) : Prop :=
  -Int.pow 2 63 ≤ x ∧ x < Int.pow 2 63

instance (x : Int) : Decidable (InWord x) :=
  inferInstanceAs (Decidable (-Int.pow 2 63 ≤ x ∧ x < Int.pow 2 63))

/-- Whether the system peak query computes available memory exactly: the kernel's estimate is
one column, and the computed one is exact while every partial sum, left to right, is a signed
64-bit word. -/
def SqlExact (m : MemInfo) : Estimator → Prop
  | .kernel => True
  | .computed =>
      InWord (signed m.memFree + signed m.buffers) ∧
        InWord (signed m.memFree + signed m.buffers + signed m.cached) ∧
        InWord (signed m.memFree + signed m.buffers + signed m.cached - signed m.shmem) ∧
        InWord (signed m.memFree + signed m.buffers + signed m.cached - signed m.shmem +
          signed m.swapCache) ∧
        InWord (m.sqlAvailable .computed)

instance (m : MemInfo) (e : Estimator) : Decidable (m.SqlExact e) :=
  match e with
  | .kernel => inferInstanceAs (Decidable True)
  | .computed => inferInstanceAs (Decidable (_ ∧ _ ∧ _ ∧ _ ∧ _))

def counters (m : MemInfo) : Estimator → List UInt64
  | .kernel => [m.memAvailable]
  | .computed => [m.memFree, m.buffers, m.cached, m.swapCache, m.sReclaimable, m.shmem]

theorem signed_of_lt {w : UInt64} (h : w.toNat < Nat.pow 2 63) : signed w = w.toNat := by
  have hw : w.toBitVec.toNat = w.toNat := rfl
  rw [signed, Int64.toInt, UInt64.toBitVec_toInt64, BitVec.toInt_eq_toNat_cond, hw, if_pos]
  simp only [Nat.pow_eq] at h
  omega

/-- When every counter an estimator reads is below `2 ^ 63`, the system peak query's figure,
stopped at zero, is the available memory: the query does not stop at zero, and reads the words as
they are. -/
theorem toNat_sqlAvailable {m : MemInfo} {e : Estimator} {v : UInt64}
    (hv : m.available e = .ok v) (hsmall : ∀ w ∈ m.counters e, w.toNat < Nat.pow 2 63) :
    (m.sqlAvailable e).toNat = v.toNat := by
  cases e with
  | kernel =>
      cases hv
      rw [sqlAvailable, signed_of_lt (hsmall _ List.mem_cons_self)]
      rfl
  | computed =>
      simp only [available] at hv
      split at hv
      · rename_i s hs
        cases hv
        -- the checked sum is the sum of the five counters, and shared memory comes off it
        have hsum := ((Word.sumChecked_eq_ok_iff _ s).1 hs).2
        simp only [Word.exactSum, List.foldr_cons, List.foldr_nil, Nat.add_zero] at hsum
        simp only [counters, List.mem_cons, List.not_mem_nil, or_false,
          forall_eq_or_imp, forall_eq] at hsmall
        obtain ⟨h1, h2, h3, h4, h5, h6⟩ := hsmall
        rw [sqlAvailable, signed_of_lt h1, signed_of_lt h2, signed_of_lt h3, signed_of_lt h4,
          signed_of_lt h5, signed_of_lt h6, Word.subSaturating]
        split
        · rename_i hle
          rw [UInt64.toNat_sub_of_le _ _ (UInt64.le_iff_toNat_le.2 hle)]
          omega
        · rename_i hlt
          simp only [UInt64.toNat_zero]
          omega
      · cases hv

/-- Where the system peak query computes exactly from counters below `2 ^ 63`, the available
memory does not overflow: the five counters the computed estimate adds are the query's figure
plus shared memory, both below `2 ^ 63`. -/
theorem available_ok_of_sqlExact {m : MemInfo} {e : Estimator} (hexact : m.SqlExact e)
    (hsmall : ∀ w ∈ m.counters e, w.toNat < Nat.pow 2 63) : ∃ v, m.available e = .ok v := by
  cases e with
  | kernel => exact ⟨_, rfl⟩
  | computed =>
      simp only [counters, List.mem_cons, List.not_mem_nil, or_false,
        forall_eq_or_imp, forall_eq] at hsmall
      obtain ⟨h1, h2, h3, h4, h5, h6⟩ := hsmall
      obtain ⟨-, -, -, -, -, hlast⟩ := hexact
      rw [sqlAvailable, signed_of_lt h1, signed_of_lt h2, signed_of_lt h3, signed_of_lt h4,
        signed_of_lt h5, signed_of_lt h6] at hlast
      have h63 : Int.pow 2 63 = 9223372036854775808 := rfl
      simp only [Nat.pow_eq] at h6
      have hsum : Word.exactSum [m.memFree, m.buffers, m.cached, m.swapCache, m.sReclaimable] <
          UInt64.size := by
        simp only [Word.exactSum, List.foldr_cons, List.foldr_nil, Nat.add_zero, UInt64.size]
        omega
      have hok := (Word.sumChecked_eq_ok_iff _ (UInt64.ofNat (Word.exactSum
        [m.memFree, m.buffers, m.cached, m.swapCache, m.sReclaimable]))).2
          ⟨hsum, UInt64.toNat_ofNat_of_lt hsum⟩
      simp only [available, hok]
      exact ⟨_, rfl⟩

theorem sqlAvailable_eq_toNat {m : MemInfo} {e : Estimator} {v : UInt64}
    (hv : m.available e = .ok v) (hsmall : ∀ w ∈ m.counters e, w.toNat < Nat.pow 2 63)
    (hpos : 0 ≤ m.sqlAvailable e) : m.sqlAvailable e = v.toNat := by
  have hnat := toNat_sqlAvailable hv hsmall
  omega

end MemInfo

namespace Store

def systemPeakSql (e : Estimator) : String :=
  systemSelect ++ " ORDER BY " ++ availableExpr e ++ " ASC, id ASC LIMIT 1"

theorem isQuery_systemPeakSql (e : Estimator) : IsQuery (systemPeakSql e) :=
  isQuery_append _ (isQuery_append _ (isQuery_append _ isQuery_systemSelect))

theorem getSystemMemoryPeak_eq {σ : Type} [Engine σ] (e : Estimator) :
    (getSystemMemoryPeak e : StoreOn σ _) = firstRow (systemPeakSql e) [] toSystem :=
  rfl

/-- The order of the system peak query: less available memory first, as the query computes it,
then the smaller id. -/
def LessAvailable (e : Estimator) (x y : Sql.Row) : Prop :=
  x.sample.memInfo.sqlAvailable e < y.sample.memInfo.sqlAvailable e ∨
    x.sample.memInfo.sqlAvailable e = y.sample.memInfo.sqlAvailable e ∧ x.rowid < y.rowid

instance (e : Estimator) : DecidableRel (LessAvailable e) := fun x y =>
  inferInstanceAs (Decidable (x.sample.memInfo.sqlAvailable e < y.sample.memInfo.sqlAvailable e ∨
    x.sample.memInfo.sqlAvailable e = y.sample.memInfo.sqlAvailable e ∧ x.rowid < y.rowid))

theorem strictWeak_lessAvailable (e : Estimator) : StrictWeak (LessAvailable e) where
  irrefl a := by
    simp only [LessAvailable, Int64.lt_iff_toInt_lt]
    omega
  trans a b c hab hbc := by
    simp only [LessAvailable, Int64.lt_iff_toInt_lt] at hab hbc ⊢
    omega
  cotrans a b c hac := by
    simp only [LessAvailable, Int64.lt_iff_toInt_lt] at hac ⊢
    omega

/-- An engine that answers the listing reads as SQLite documents, and the system peak query too:
on tables whose system rows hold integers with which the query's expression is exact, with the
first system row in its order. -/
structure SystemPeakReads (σ : Type) [Engine σ] extends ListingReads σ where
  system_peak : ∀ s t e, (view s).content = .store t →
    (∀ r ∈ t.system, r.Integral ∧ r.sample.memInfo.SqlExact e) →
    ∃ xs, FirstOf (LessAvailable e) t.system xs ∧
      Answers view (Engine.runText (systemPeakSql e) []) s (xs.map systemRecord)

def dataRowsSql : String :=
  "SELECT range_id, rss, pss FROM data WHERE measurement_id = ?1 ORDER BY rowid"

theorem isQuery_dataRowsSql : IsQuery dataRowsSql :=
  ⟨"range_id, rss, pss FROM data WHERE measurement_id = ?1 ORDER BY rowid", rfl⟩

def Tables.dataOf (t : Tables) (mid : Int64) : List Sql.Row :=
  t.data.filter fun d => (d.col 1).sameAs mid

def dataListing (d : Sql.Row) : Array Value :=
  #[d.col 0, d.col 2, d.col 3]

/-- An engine that answers the ordered reads and the listing reads as SQLite documents, and keeps
the data query prepared and answers it with the data rows of the measurement, in row id order. -/
structure CachedReads (σ : Type) [Engine σ] extends OrderedReads σ, ListingReads σ where
  prepare_data_rows : ∀ s t, (view s).content = .store t →
    (Engine.prepareCached dataRowsSql s).2 = .ok () ∧
      prepared (Engine.prepareCached dataRowsSql s).1 dataRowsSql
  data_rows : ∀ s t mid, prepared s dataRowsSql → (view s).content = .store t →
    Answers view (Engine.stepCached dataRowsSql [.int mid]) s ((t.dataOf mid).map dataListing)

end Store
end MemoryRecorder
