import MemoryRecorder.Store.Read
import MemoryRecorder.Store.Write

/-!
# The store's tables as the engine keeps them

What the statements of the store do is said of the rows of its five tables: each table a list
of rows in row id order, each row its values in column order, the integer primary key included.
A connection's database holds nothing yet (`Content.blank`), the store's tables
(`Content.store`), or something else.

This module gives the rows the store's inserts write, and what each insert may leave of the
tables, as SQL says for the store's schema: a process or range row is kept when its id is there,
a new row needs its parents, a measurement's sequence number is one more than the greatest so
far, and a data row takes the row id after the greatest.
-/

namespace MemoryRecorder
namespace Store

/-- The number of rows a database can hold, 2^48: it has at most 2^48 bytes of pages. -/
def rowLimit : Nat := 281474976710656

namespace Sql

def Row.col (r : Row) (i : Nat) : Value :=
  r.vals.getD i .null

def hasRowid (rows : List Row) (id : Int64) : Bool :=
  rows.any (·.rowid == id)

/-- Whether rows are in strictly ascending row id order, as a table keeps them. -/
def Ordered (rows : List Row) : Prop :=
  rows.Pairwise fun a b => a.rowid < b.rowid

instance (rows : List Row) : Decidable (Ordered rows) :=
  inferInstanceAs (Decidable (rows.Pairwise fun a b => a.rowid < b.rowid))

def greatestRowid : List Row → Option Int64
  | [] => none
  | r :: rs =>
      match greatestRowid rs with
      | some m => some (if m < r.rowid then r.rowid else m)
      | none => some r.rowid

def lookup (rows : List Row) (id : Int64) : Option Row :=
  rows.find? (·.rowid == id)

/-- Rows after `INSERT OR IGNORE` of a row: the same when its id is there, else the row added in
its place. -/
def keepRow (r : Row) (rows : List Row) : List Row :=
  if hasRowid rows r.rowid then rows else insertRow r rows

/-- The row id an insert gives a row of a table whose rows name none: one past the greatest,
one in an empty table, and none of these when the greatest is the largest word, where the
engine picks an unused one. -/
def nextRowid? (rows : List Row) : Option Int64 :=
  match greatestRowid rows with
  | none => some 1
  | some m => if m < Int64.maxValue then some (m + 1) else none

/-- The row ids an insert may give a row: the next one, or when there is none, any positive id
no row has. -/
def FreshRowid (rows : List Row) (r : Int64) : Prop :=
  match nextRowid? rows with
  | some n => r = n
  | none => 0 < r ∧ hasRowid rows r = false

/-- Whether no row id exceeds the number of rows, as when the engine numbered every row one past
the greatest before it. -/
def Compact (rows : List Row) : Prop :=
  ∀ r ∈ rows, r.rowid.toInt ≤ rows.length

/-! ## Rows kept by row id -/

section

variable {r x : Row} {rows : List Row} {id : Int64}

theorem insertRow_perm (r : Row) (rows : List Row) : (insertRow r rows).Perm (r :: rows) := by
  induction rows with
  | nil => rfl
  | cons y ys ih =>
      unfold insertRow
      split
      · rfl
      · exact (ih.cons y).trans (List.Perm.swap r y ys)

@[simp]
theorem mem_insertRow : x ∈ insertRow r rows ↔ x = r ∨ x ∈ rows := by
  simp [(insertRow_perm r rows).mem_iff]

@[simp]
theorem length_insertRow : (insertRow r rows).length = rows.length + 1 := by
  simp [(insertRow_perm r rows).length_eq]

theorem insertRow_eq_append (h : ∀ y ∈ rows, y.rowid < r.rowid) :
    insertRow r rows = rows ++ [r] := by
  induction rows with
  | nil => rfl
  | cons y ys ih =>
      have hy : ¬ r.rowid < y.rowid := by
        have := h y List.mem_cons_self
        rw [Int64.lt_iff_toInt_lt] at this ⊢
        omega
      simp only [insertRow, hy, if_false, List.cons_append]
      rw [ih fun z hz => h z (List.mem_cons_of_mem y hz)]

theorem filter_insertRow (p : Row → Bool) (h : p r = false) :
    (insertRow r rows).filter p = rows.filter p := by
  induction rows with
  | nil => simp [insertRow, h]
  | cons y ys ih =>
      unfold insertRow
      split <;> simp [List.filter_cons, h, ih]

theorem hasRowid_iff : hasRowid rows id = true ↔ ∃ y ∈ rows, y.rowid = id := by
  simp [hasRowid]

theorem hasRowid_eq_false_iff : hasRowid rows id = false ↔ ∀ y ∈ rows, y.rowid ≠ id := by
  simp [hasRowid]

theorem hasRowid_of_mem (h : x ∈ rows) : hasRowid rows x.rowid = true :=
  hasRowid_iff.2 ⟨x, h, rfl⟩

theorem lookup_eq_none : lookup rows id = none ↔ hasRowid rows id = false := by
  simp [lookup, hasRowid]

theorem lookup_eq_some : lookup rows id = some x → x ∈ rows ∧ x.rowid = id := by
  intro h
  exact ⟨List.mem_of_find?_eq_some h, by simpa using List.find?_some h⟩

theorem lookup_insertRow (hr : hasRowid rows r.rowid = false) :
    lookup (insertRow r rows) id = if r.rowid = id then some r else lookup rows id := by
  induction rows with
  | nil => simp [insertRow, lookup, List.find?]
  | cons y ys ih =>
      have hy : y.rowid ≠ r.rowid := (hasRowid_eq_false_iff.1 hr) y List.mem_cons_self
      have hys : hasRowid ys r.rowid = false :=
        hasRowid_eq_false_iff.2 fun z hz => (hasRowid_eq_false_iff.1 hr) z (List.mem_cons_of_mem y hz)
      unfold insertRow
      split
      · by_cases hri : r.rowid = id <;> simp [lookup, List.find?_cons, hri]
      · by_cases hyi : y.rowid = id
        · have hri : r.rowid ≠ id := fun h => hy (hyi.trans h.symm)
          simp [lookup, hyi, hri]
        · simp only [lookup] at ih ⊢
          simp [hyi, ih hys]

theorem keepRow_of_hasRowid (h : hasRowid rows r.rowid = true) : keepRow r rows = rows := by
  simp [keepRow, h]

theorem keepRow_of_not_hasRowid (h : hasRowid rows r.rowid = false) :
    keepRow r rows = insertRow r rows := by
  simp [keepRow, h]

theorem lookup_keepRow :
    lookup (keepRow r rows) id = (lookup rows id).or (if r.rowid = id then some r else none) := by
  cases hr : hasRowid rows r.rowid with
  | true =>
      rw [keepRow_of_hasRowid hr]
      by_cases hri : r.rowid = id
      · subst hri
        cases hl : lookup rows r.rowid with
        | none => simp [lookup_eq_none.1 hl] at hr
        | some z => simp
      · simp [hri]
  | false =>
      rw [keepRow_of_not_hasRowid hr, lookup_insertRow hr]
      by_cases hri : r.rowid = id
      · subst hri
        simp [lookup_eq_none.2 hr]
      · simp [hri]

theorem mem_keepRow : x ∈ keepRow r rows ↔ x ∈ rows ∨ hasRowid rows r.rowid = false ∧ x = r := by
  cases hr : hasRowid rows r.rowid
  · simp [keepRow_of_not_hasRowid hr, or_comm]
  · simp [keepRow_of_hasRowid hr]

theorem mem_keepRow_of_mem (h : x ∈ rows) : x ∈ keepRow r rows :=
  mem_keepRow.2 (.inl h)

theorem filter_keepRow (p : Row → Bool) (h : p r = false) :
    (keepRow r rows).filter p = rows.filter p := by
  unfold keepRow
  split
  · rfl
  · exact filter_insertRow p h

theorem le_greatestRowid {m : Int64} (h : greatestRowid rows = some m) (hx : x ∈ rows) :
    x.rowid ≤ m := by
  induction rows generalizing m x with
  | nil => simp at hx
  | cons y ys ih =>
      simp only [greatestRowid] at h
      rw [Int64.le_iff_toInt_le]
      cases hg : greatestRowid ys with
      | none =>
          rw [hg] at h
          have hys : ys = [] := by
            cases ys with
            | nil => rfl
            | cons z zs => simp [greatestRowid] at hg; split at hg <;> simp at hg
          subst hys
          simp only [Option.some.injEq] at h
          simp only [List.mem_singleton] at hx
          subst hx h
          omega
      | some k =>
          rw [hg] at h
          simp only [Option.some.injEq] at h
          subst h
          have hk : ∀ z ∈ ys, z.rowid.toInt ≤ k.toInt := fun z hz =>
            Int64.le_iff_toInt_le.1 (ih hg hz)
          -- the greater of the head's id and the rest's greatest bounds both
          have hmax : y.rowid.toInt ≤ (if k < y.rowid then y.rowid else k).toInt ∧
              k.toInt ≤ (if k < y.rowid then y.rowid else k).toInt := by
            by_cases hlt : k < y.rowid
            · rw [if_pos hlt]
              rw [Int64.lt_iff_toInt_lt] at hlt
              omega
            · rw [if_neg hlt]
              rw [Int64.lt_iff_toInt_lt] at hlt
              omega
          rcases List.mem_cons.1 hx with rfl | hx
          · exact hmax.1
          · exact Int.le_trans (hk x hx) hmax.2

theorem greatestRowid_eq_none : greatestRowid rows = none ↔ rows = [] := by
  cases rows with
  | nil => simp [greatestRowid]
  | cons y ys =>
      simp only [greatestRowid]
      split <;> simp

theorem greatestRowid_mem {m : Int64} (h : greatestRowid rows = some m) :
    ∃ y ∈ rows, y.rowid = m := by
  induction rows generalizing m with
  | nil => simp [greatestRowid] at h
  | cons y ys ih =>
      simp only [greatestRowid] at h
      cases hg : greatestRowid ys with
      | none =>
          rw [hg] at h
          cases h
          exact ⟨y, List.mem_cons_self, rfl⟩
      | some k =>
          rw [hg] at h
          cases h
          split
          · exact ⟨y, List.mem_cons_self, rfl⟩
          · obtain ⟨z, hz, rfl⟩ := ih hg
            exact ⟨z, List.mem_cons_of_mem y hz, rfl⟩

/-- Compact rows under the row limit get a next row id: one past each of theirs, and at most
one past their number. -/
theorem nextRowid?_of_compact (hc : Compact rows) (hb : rows.length < rowLimit) :
    ∃ n, nextRowid? rows = some n ∧ (∀ y ∈ rows, y.rowid < n) ∧ n.toInt ≤ rows.length + 1 := by
  unfold nextRowid?
  cases hg : greatestRowid rows with
  | none =>
      rw [greatestRowid_eq_none] at hg
      subst hg
      exact ⟨1, rfl, by simp, by simp [Int64.toInt_one]⟩
  | some m =>
      obtain ⟨y, hy, rfl⟩ := greatestRowid_mem hg
      have hm : y.rowid.toInt ≤ rows.length := hc y hy
      have hlo := Int64.le_toInt y.rowid
      have hlim : (rows.length : Int) < 281474976710656 := by
        simp only [rowLimit] at hb
        omega
      have hadd : (y.rowid + 1).toInt = y.rowid.toInt + 1 := by
        rw [Int64.toInt_add, Int64.toInt_one]
        exact Int.bmod_eq_of_le (by omega) (by omega)
      have hlt : y.rowid < Int64.maxValue := by
        rw [Int64.lt_iff_toInt_lt, Int64.toInt_maxValue]
        omega
      refine ⟨y.rowid + 1, by simp [hlt], fun z hz => ?_, by omega⟩
      have := Int64.le_iff_toInt_le.1 (le_greatestRowid hg hz)
      rw [Int64.lt_iff_toInt_lt]
      omega

theorem lt_of_nextRowid? {n : Int64} (hn : nextRowid? rows = some n) (hx : x ∈ rows) :
    x.rowid < n := by
  unfold nextRowid? at hn
  cases hg : greatestRowid rows with
  | none =>
      rw [greatestRowid_eq_none] at hg
      subst hg
      simp at hx
  | some m =>
      have hxm := Int64.le_iff_toInt_le.1 (le_greatestRowid hg hx)
      by_cases hlt : m < Int64.maxValue
      · simp only [hg, hlt, if_true, Option.some.injEq] at hn
        subst hn
        rw [Int64.lt_iff_toInt_lt, Int64.toInt_maxValue] at hlt
        have hlo := Int64.le_toInt m
        have hadd : (m + 1).toInt = m.toInt + 1 := by
          rw [Int64.toInt_add, Int64.toInt_one]
          exact Int.bmod_eq_of_le (by omega) (by omega)
        rw [Int64.lt_iff_toInt_lt, hadd]
        omega
      · simp [hg, hlt] at hn

theorem freshRowid_iff {n k : Int64} (hn : nextRowid? rows = some n) :
    FreshRowid rows k ↔ k = n := by
  simp [FreshRowid, hn]

theorem Ordered.insertRow (h : Ordered rows) (hr : hasRowid rows r.rowid = false) :
    Ordered (insertRow r rows) := by
  induction rows with
  | nil => exact List.pairwise_singleton _ r
  | cons y ys ih =>
      obtain ⟨hy, hys⟩ := List.pairwise_cons.1 h
      have hne : y.rowid ≠ r.rowid := (hasRowid_eq_false_iff.1 hr) y List.mem_cons_self
      have hr' : hasRowid ys r.rowid = false :=
        hasRowid_eq_false_iff.2 fun z hz => (hasRowid_eq_false_iff.1 hr) z (List.mem_cons_of_mem y hz)
      unfold Sql.insertRow
      split
      · -- the row goes first: it is before `y`, so before all of `ys` too
        rename_i hlt
        refine List.Pairwise.cons (fun z hz => ?_) h
        rcases List.mem_cons.1 hz with rfl | hz
        · exact hlt
        · have := hy z hz
          rw [Int64.lt_iff_toInt_lt] at this hlt ⊢
          omega
      · -- the row goes after `y`, which is before it since their ids differ
        rename_i hlt
        have hyr : y.rowid < r.rowid := by
          have : y.rowid.toInt ≠ r.rowid.toInt := fun he => hne (Int64.toInt_inj.1 he)
          rw [Int64.lt_iff_toInt_lt] at hlt ⊢
          omega
        refine List.Pairwise.cons (fun z hz => ?_) (ih hys hr')
        rcases mem_insertRow.1 hz with rfl | hz
        · exact hyr
        · exact hy z hz

theorem Ordered.keepRow (h : Ordered rows) : Ordered (keepRow r rows) := by
  cases hr : hasRowid rows r.rowid
  · rw [keepRow_of_not_hasRowid hr]
    exact h.insertRow hr
  · rw [keepRow_of_hasRowid hr]
    exact h

theorem Ordered.nodup (h : Ordered rows) : (rows.map (·.rowid)).Nodup :=
  (List.pairwise_map.2 h).imp fun hlt heq => by
    rw [heq] at hlt
    exact Int64.lt_irrefl hlt

theorem Ordered.filter_rowid (h : Ordered rows) (hx : x ∈ rows) {p : Row → Bool}
    (hp : ∀ y ∈ rows, p y = (y.rowid == x.rowid)) : rows.filter p = [x] := by
  induction rows with
  | nil => cases hx
  | cons y ys ih =>
      obtain ⟨hy, hys⟩ := List.pairwise_cons.1 h
      have hp' : ∀ z ∈ ys, p z = (z.rowid == x.rowid) := fun z hz => hp z (List.mem_cons_of_mem y hz)
      rcases List.mem_cons.1 hx with rfl | hx
      · -- the row comes first, and every later row has a greater id
        have hrest : ys.filter p = [] := List.filter_eq_nil_iff.2 fun z hz => by
          have hne : z.rowid ≠ x.rowid := fun he => Int64.lt_irrefl (he ▸ hy z hz)
          simp [hp' z hz, hne]
        rw [List.filter_cons_of_pos (by simp [hp x List.mem_cons_self]), hrest]
      · -- an earlier row has a smaller id
        have hne : y.rowid ≠ x.rowid := fun he => Int64.lt_irrefl (he ▸ hy x hx)
        rw [List.filter_cons_of_neg (by simp [hp y List.mem_cons_self, hne]), ih hys hx hp']

end

end Sql

/-- The greatest so far after one more value, in the engine's order: a null is passed over and
the first of equals is kept. -/
def greaterValue (best : Option Value) (v : Value) : Option Value :=
  match v, best with
  | .null, _ => best
  | _, none => some v
  | _, some b => if Value.compare b v = .lt then some v else some b

def greatestValue (vs : List Value) : Option Value :=
  vs.foldl greaterValue none

/-- The sequence number `COALESCE(MAX(seq) + 1, 0)` gives a new measurement, as its integer
column keeps it. -/
def nextSeq (rows : List Sql.Row) : Value :=
  let v : Value := match greatestValue (rows.map (·.col 1)) with
    | none => .int 0
    | some m =>
        match Value.arith .add m (.int 1) with
        | .null => .int 0
        | w => w
  v.withAffinity .integer

theorem greaterValue_int (a x : Int64) :
    greaterValue (some (.int a)) (.int x) = some (.int (if a < x then x else a)) := by
  by_cases h : a < x
  · simp [greaterValue, Value.compare, SqlNum.compare, h]
  · by_cases h' : x < a <;> simp [greaterValue, Value.compare, SqlNum.compare, h, h']

private theorem foldl_greaterValue_ints {m : Int64} :
    ∀ {vs : List Value} {a : Int64}, a ≤ m → (∀ v ∈ vs, ∃ x, v = .int x ∧ x ≤ m) →
      (a = m ∨ .int m ∈ vs) → vs.foldl greaterValue (some (.int a)) = some (.int m)
  | [], a, _, _, hm => by simp_all
  | v :: vs, a, ha, hle, hm => by
      obtain ⟨x, rfl, hx⟩ := hle v List.mem_cons_self
      rw [List.foldl_cons, greaterValue_int]
      rw [Int64.le_iff_toInt_le] at ha hx
      apply foldl_greaterValue_ints
      · split <;> rwa [Int64.le_iff_toInt_le]
      · exact fun w hw => hle w (List.mem_cons_of_mem _ hw)
      · rcases hm with rfl | hm
        · left
          split
          · rename_i h
            rw [Int64.lt_iff_toInt_lt] at h
            exact Int64.toInt_inj.1 (by omega)
          · rfl
        · rcases List.mem_cons.1 hm with h | h
          · cases h
            left
            split
            · rfl
            · rename_i h
              rw [Int64.lt_iff_toInt_lt] at h
              exact Int64.toInt_inj.1 (by omega)
          · exact .inr h

theorem greatestValue_ints {m : Int64} {vs : List Value}
    (hle : ∀ v ∈ vs, ∃ x, v = .int x ∧ x ≤ m) (hm : .int m ∈ vs) :
    greatestValue vs = some (.int m) := by
  cases vs with
  | nil => simp at hm
  | cons v vs =>
      obtain ⟨x, rfl, hx⟩ := hle v List.mem_cons_self
      have hm' : x = m ∨ .int m ∈ vs := by
        rcases List.mem_cons.1 hm with h | h
        · cases h
          exact .inl rfl
        · exact .inr h
      exact foldl_greaterValue_ints hx (fun w hw => hle w (List.mem_cons_of_mem _ hw)) hm'

theorem nextSeq_eq {rows : List Sql.Row} {n : Nat} (hn : n < rowLimit)
    (hseq : ∀ v, v ∈ rows.map (·.col 1) ↔ ∃ i < n, v = .int (Int64.ofNat i)) :
    nextSeq rows = .int (Int64.ofNat n) := by
  have hlim : n < 281474976710656 := hn
  cases n with
  | zero =>
      have hnil : rows.map (·.col 1) = [] :=
        List.eq_nil_iff_forall_not_mem.2 fun v hv => by simpa using (hseq v).1 hv
      simp [nextSeq, hnil, greatestValue, Value.withAffinity]
  | succ k =>
      have hk : (Int64.ofNat k).toInt = k := Int64.toInt_ofNat_of_lt (by omega)
      have hgreatest : greatestValue (rows.map (·.col 1)) = some (.int (Int64.ofNat k)) := by
        refine greatestValue_ints (fun v hv => ?_) ((hseq _).2 ⟨k, by omega, rfl⟩)
        obtain ⟨i, hi, rfl⟩ := (hseq v).1 hv
        have hi' : (Int64.ofNat i).toInt = i := Int64.toInt_ofNat_of_lt (by omega)
        exact ⟨_, rfl, by rw [Int64.le_iff_toInt_le, hi', hk]; omega⟩
      have hsucc : (Int64.ofNat (k + 1)).toInt = k + 1 := Int64.toInt_ofNat_of_lt (by omega)
      have hadd : Value.arith .add (.int (Int64.ofNat k)) (.int 1) =
          .int (Int64.ofNat (k + 1)) := by
        have hfits : SqlNum.fits ((Int64.ofNat k).toInt + (1 : Int64).toInt) = true := by
          have h63 : Int.pow 2 63 = 9223372036854775808 := rfl
          simp only [SqlNum.fits, hk, Int64.toInt_one, h63, decide_eq_true_eq]
          omega
        simp only [Value.arith, Value.num?, hfits, if_true, Option.getD_some]
        congr 1
        apply Int64.toInt_inj.1
        rw [Int64.toInt_ofInt_of_le (by rw [hk, Int64.toInt_one]; omega)
          (by rw [hk, Int64.toInt_one]; omega), hsucc, hk, Int64.toInt_one]
      simp [nextSeq, hgreatest, hadd, Value.withAffinity]

/-- The rows of the store's five tables, each in row id order. -/
structure Tables where
  process : List Sql.Row := []
  range : List Sql.Row := []
  measurement : List Sql.Row := []
  data : List Sql.Row := []
  system : List Sql.Row := []

/-- What a connection's database holds. -/
inductive Content where
  | blank
  | store (t : Tables)
  | other

/-- What the store's statements can see of a connection: its database, whether it enforces
foreign keys, and, while a transaction is open, what the database held when it began. -/
structure View where
  content : Content
  enforcing : Bool := false
  began : Option Content := none

def View.undone (v : View) : View :=
  match v.began with
  | some c => { v with content := c, began := none }
  | none => v

def processRow (id pid start : Int64) (name : String) : Sql.Row :=
  ⟨id, #[.int id, .int pid, .int start, .text name]⟩

def rangeRow (id process lo hi : Int64) (permission name : String) : Sql.Row :=
  ⟨id, #[.int id, .int process, .int lo, .int hi, .text permission, .text name]⟩

def measurementRow (id : Int64) (seq : Value) (process time : Int64) (figures : List Int64) :
    Sql.Row :=
  ⟨id, (Value.int id :: seq :: Value.int process :: Value.int time :: figures.map .int).toArray⟩

def dataRow (rowid rangeId mid rss pss : Int64) : Sql.Row :=
  ⟨rowid, #[.int rangeId, .int mid, .int rss, .int pss]⟩

namespace Tables

def size (t : Tables) : Nat :=
  t.process.length + t.range.length + t.measurement.length + t.data.length + t.system.length

def Ordered (t : Tables) : Prop :=
  Sql.Ordered t.process ∧ Sql.Ordered t.range ∧ Sql.Ordered t.measurement ∧
    Sql.Ordered t.data ∧ Sql.Ordered t.system

instance (t : Tables) : Decidable t.Ordered :=
  inferInstanceAs (Decidable (Sql.Ordered t.process ∧ Sql.Ordered t.range ∧
    Sql.Ordered t.measurement ∧ Sql.Ordered t.data ∧ Sql.Ordered t.system))

def putProcess (t : Tables) (r : Sql.Row) : Tables :=
  { t with process := Sql.keepRow r t.process }

/-- What `INSERT OR IGNORE` of a range row of a process may leave while foreign keys are
enforced: the row put, when its id is there already or its process is. -/
def PutRange (t : Tables) (r : Sql.Row) (process : Int64) (t' : Tables) : Prop :=
  (Sql.hasRowid t.range r.rowid = true ∨ Sql.hasRowid t.process process = true) ∧
    t' = { t with range := Sql.keepRow r t.range }

/-- What the insert of a measurement may leave while foreign keys are enforced: the row, with
the next sequence number, added when neither its id nor that number is there and its process
is. -/
def PutMeasurement (t : Tables) (id process time : Int64) (figures : List Int64) (t' : Tables) :
    Prop :=
  let row := measurementRow id (nextSeq t.measurement) process time figures
  Sql.hasRowid t.measurement id = false ∧
    (t.measurement.all fun m => Value.compare (m.col 1) (nextSeq t.measurement) != .eq) ∧
    Sql.hasRowid t.process process = true ∧
    t' = { t with measurement := Sql.insertRow row t.measurement }

/-- What the insert of a data row may leave while foreign keys are enforced: the row, under a
fresh row id, added when its range and its measurement are there. -/
def PutData (t : Tables) (rangeId mid rss pss : Int64) (t' : Tables) : Prop :=
  Sql.hasRowid t.range rangeId = true ∧ Sql.hasRowid t.measurement mid = true ∧
    ∃ r, Sql.FreshRowid t.data r ∧
      t' = { t with data := Sql.insertRow (dataRow r rangeId mid rss pss) t.data }

def PutSystem (t t' : Tables) : Prop :=
  t'.process = t.process ∧ t'.range = t.range ∧ t'.measurement = t.measurement ∧
    t'.data = t.data

end Tables

def dataValues (mid : Int64) (m : Mapping) : Array Value :=
  #[.int m.key.hash.toInt64, .int mid, .int m.rss.toInt64, .int m.pss.toInt64]

namespace Tables

/-- The tables after the data rows of a measurement were appended for mappings, in their order:
each under a row id past the rows before it, and each naming a range and the measurement that
were there. The other tables stay as they were. -/
structure AddsData (t : Tables) (mid : Int64) (ms : List Mapping) (t' : Tables) : Prop where
  appended : ∃ rows, t'.data = t.data ++ rows ∧ rows.map (·.vals) = ms.map (dataValues mid)
  others : t' = { t with data := t'.data }
  ranges : ∀ m ∈ ms, Sql.hasRowid t.range m.key.hash.toInt64 = true
  measurement : ms ≠ [] → Sql.hasRowid t.measurement mid = true
  compact : Sql.Compact t'.data

section

variable {t t1 t' : Tables} {mid : Int64} {m : Mapping} {ms : List Mapping}

theorem AddsData.nil (hc : Sql.Compact t.data) : t.AddsData mid [] t :=
  ⟨⟨[], by simp, rfl⟩, rfl, by simp, by simp, hc⟩

theorem PutData.append
    (hp : t.PutData m.key.hash.toInt64 mid m.rss.toInt64 m.pss.toInt64 t1)
    (hc : Sql.Compact t.data) (hb : t.data.length < rowLimit) :
    ∃ r, t1 = { t with data := t.data ++ [r] } ∧ r.vals = dataValues mid m ∧
      Sql.Compact t1.data := by
  obtain ⟨-, -, k, hfresh, rfl⟩ := hp
  obtain ⟨n, hn, hlt, hle⟩ := Sql.nextRowid?_of_compact hc hb
  have hk : k = n := (Sql.freshRowid_iff hn).1 hfresh
  subst hk
  -- the row goes last; naming the row here spares the rewrites a search for it
  have happ : Sql.insertRow (dataRow k m.key.hash.toInt64 mid m.rss.toInt64 m.pss.toInt64) t.data =
      t.data ++ [dataRow k m.key.hash.toInt64 mid m.rss.toInt64 m.pss.toInt64] :=
    Sql.insertRow_eq_append hlt
  refine ⟨dataRow k m.key.hash.toInt64 mid m.rss.toInt64 m.pss.toInt64, ?_, rfl, ?_⟩
  · rw [happ]
  · rw [happ]
    intro r hr
    rcases List.mem_append.1 hr with hr | hr
    · have := hc r hr
      simp only [List.length_append, List.length_singleton]
      omega
    · simp only [List.mem_singleton] at hr
      subst hr
      simp only [List.length_append, List.length_singleton, dataRow]
      omega

theorem AddsData.cons
    (hp : t.PutData m.key.hash.toInt64 mid m.rss.toInt64 m.pss.toInt64 t1)
    (hc : Sql.Compact t.data) (hb : t.data.length < rowLimit) (hrest : t1.AddsData mid ms t') :
    t.AddsData mid (m :: ms) t' := by
  have hput := hp
  obtain ⟨hrange, hmeasurement, -⟩ := hput
  obtain ⟨r, rfl, hr, -⟩ := PutData.append hp hc hb
  obtain ⟨rows, hdata, hvals⟩ := hrest.appended
  refine ⟨⟨r :: rows, by simp [hdata], by simp [hr, hvals]⟩, ?_, ?_, fun _ => hmeasurement,
    hrest.compact⟩
  · have := hrest.others
    cases t
    cases t'
    simp_all
  · intro m' hm'
    rcases List.mem_cons.1 hm' with rfl | hm'
    · exact hrange
    · exact hrest.ranges m' hm'

end

end Tables

end Store

namespace ProcessId

def row (p : ProcessId) (name : String) : Store.Sql.Row :=
  Store.processRow p.hash.toInt64 p.pid.toInt64 p.startTime.toInt64 name

end ProcessId

namespace RangeKey

def row (k : RangeKey) : Store.Sql.Row :=
  Store.rangeRow k.hash.toInt64 k.process.hash.toInt64 k.lo.toInt64 k.hi.toInt64 k.permission k.name

end RangeKey

namespace Snapshot

def figures (s : Snapshot) (rss pss : UInt64) : List Int64 :=
  [rss.toInt64, pss.toInt64, s.statm.size.toInt64, s.statm.resident.toInt64,
    s.statm.shared.toInt64, s.statm.text.toInt64, s.statm.lib.toInt64, s.statm.data.toInt64,
    s.statm.dt.toInt64, s.oom.adj.toInt64, s.oom.score.toInt64, s.oom.scoreAdj.toInt64]

end Snapshot

end MemoryRecorder
