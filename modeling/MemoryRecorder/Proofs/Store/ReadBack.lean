import MemoryRecorder.Proofs.Store.Lookup
import MemoryRecorder.Proofs.Store.Atomicity

/-!
# A written snapshot is read back

When writing a snapshot succeeds, reading its measurement by the id the write returned gives
the snapshot back (`getMeasurement_insertSnapshot`): its id, its place in the order of
measurements, its process and time, its sums, its page counters and OOM values, and its
mappings in order, duplicates included, each shown under the snapshot's process. So it is
grouped as the snapshot is. It does so right after the write and after any later steps of the
program but a direct write of data rows of that measurement. The store keys processes and
ranges by content hashes, so it is taken that no two different processes, and no two different
ranges, written to the store share one (`Past.Unambiguous`).

The tables that hold the snapshot's rows (`Tables.Holds`) answer the two queries of the read
with the rows the snapshot was written from. Each later step keeps them holding it: the store
changes and deletes no row, and every data row a step appends names another measurement.
-/

namespace MemoryRecorder
namespace Store

/-- No two different processes, and no two different ranges, written to a store share a content
hash. -/
def Past.Unambiguous (past : Past) : Prop :=
  (∀ p ∈ past.processes, ∀ q ∈ past.processes, p.1.hash = q.1.hash → p.1 = q.1) ∧
    ∀ k ∈ past.ranges, ∀ k' ∈ past.ranges, k.hash = k'.hash → k = k'

namespace Past

variable {past : Past}

theorem firstProcess_of_unambiguous (hu : past.Unambiguous) {p : ProcessId} {name : String}
    (hp : (p, name) ∈ past.processes) :
    ∃ name', past.firstProcess p.hash.toInt64 = some (p, name') := by
  unfold firstProcess
  cases hq : past.processes.find? (·.1.hash.toInt64 == p.hash.toInt64) with
  | none =>
      have := List.find?_eq_none.1 hq (p, name) hp
      simp at this
  | some q =>
      have hqp : q.1.hash.toInt64 = p.hash.toInt64 := by simpa using List.find?_some hq
      have heq : q.1 = p := hu.1 q (List.mem_of_find?_eq_some hq) (p, name) hp
        (by simpa using congrArg Int64.toUInt64 hqp)
      exact ⟨q.2, by rw [← heq]⟩

theorem firstRange_of_unambiguous (hu : past.Unambiguous) {k : RangeKey}
    (hk : k ∈ past.ranges) : past.firstRange k.hash.toInt64 = some k := by
  unfold firstRange
  cases hq : past.ranges.find? (·.hash.toInt64 == k.hash.toInt64) with
  | none =>
      have := List.find?_eq_none.1 hq k hk
      simp at this
  | some k' =>
      have hkk : k'.hash.toInt64 = k.hash.toInt64 := by simpa using List.find?_some hq
      have heq : k' = k := hu.2 k' (List.mem_of_find?_eq_some hq) k hk
        (by simpa using congrArg Int64.toUInt64 hkk)
      rw [heq]

end Past

namespace Tables

/-- Tables that hold a snapshot's rows under a measurement id, numbered `seq`, with its sums:
the measurement row, a row of its process, the row of each of its ranges, and, of the data rows
that name the measurement, exactly one per mapping in the mappings' order. -/
structure Holds (t : Tables) (s : Snapshot) (id : Int64) (seq : Nat) (rss pss : UInt64) :
    Prop where
  measurement : measurementRow id (.int (Int64.ofNat seq)) s.process.hash.toInt64 s.time
    (s.figures rss pss) ∈ t.measurement
  process : ∃ name, s.process.row name ∈ t.process
  ranges : ∀ m ∈ s.ranges, m.key.row ∈ t.range
  data : (t.data.filter fun d => (d.col 1).sameAs id).map (·.vals) =
    s.ranges.map (dataValues id)

variable {t t' : Tables} {s : Snapshot} {id : Int64} {seq : Nat} {rss pss : UInt64}

/-! ### The answers of tables that hold a snapshot -/

theorem Holds.measurementsById (hh : t.Holds s id seq rss pss) (hord : t.Ordered) :
    ∃ name, t.measurementsById id = [measurementRecord (measurementRow id
      (.int (Int64.ofNat seq)) s.process.hash.toInt64 s.time (s.figures rss pss))
      (s.process.row name)] := by
  obtain ⟨name, hp⟩ := hh.process
  -- the measurement names its process by id, and one process row has that id
  exact ⟨name, Tables.measurementsById_single hord hh.measurement hp rfl⟩

theorem flatMap_rangeRecord (hord : Sql.Ordered t.range) {ms : List Mapping}
    (hranges : ∀ m ∈ ms, m.key.row ∈ t.range) :
    ∀ {ds : List Sql.Row}, ds.map (·.vals) = ms.map (dataValues id) →
      ds.flatMap (fun d => (t.range.filter fun r => (d.col 0).sameAs r.rowid).map
        (rangeRecord d)) = ms.map mappingRecord := by
  induction ms with
  | nil =>
      intro ds hds
      rw [List.map_nil, List.map_eq_nil_iff] at hds
      rw [hds]
      rfl
  | cons m ms ih =>
      intro ds hds
      obtain ⟨d, ds', rfl, hd, hds'⟩ := List.map_eq_cons_iff.1 hds
      -- the data row names the range of its mapping, and one range row has that id
      have hrange := hord.filter_rowid (hranges m List.mem_cons_self)
        (p := fun r => (d.col 0).sameAs r.rowid) fun r _ => by
          show (d.vals.getD 0 .null).sameAs r.rowid = (r.rowid == m.key.hash.toInt64)
          rw [hd]
          show (Value.int m.key.hash.toInt64).sameAs r.rowid = _
          rw [Value.sameAs_int, Bool.beq_comm]
      have hrecord : rangeRecord d m.key.row = mappingRecord m := by
        simp only [rangeRecord, Sql.Row.col, hd]
        rfl
      rw [List.flatMap_cons, hrange, List.map_cons, List.map_nil, hrecord,
        ih (fun m' hm' => hranges m' (List.mem_cons_of_mem m hm')) hds']
      rfl

/-- The mapping query of tables in row id order that hold a snapshot answers the rows the store
writes for its mappings, in order. -/
theorem Holds.rangesOf (hh : t.Holds s id seq rss pss) (hord : t.Ordered) :
    t.rangesOf id = s.ranges.map mappingRecord :=
  flatMap_rangeRecord hord.2.1 hh.ranges hh.data

/-! ### Steps keep tables holding a snapshot -/

theorem Holds.putProcess (hh : t.Holds s id seq rss pss) (r : Sql.Row) :
    (t.putProcess r).Holds s id seq rss pss := by
  obtain ⟨name, hp⟩ := hh.process
  exact ⟨hh.measurement, ⟨name, Sql.mem_keepRow_of_mem hp⟩, hh.ranges, hh.data⟩

theorem Holds.keepRange (hh : t.Holds s id seq rss pss) (r : Sql.Row) :
    Tables.Holds { t with range := Sql.keepRow r t.range } s id seq rss pss :=
  ⟨hh.measurement, hh.process, fun m hm => Sql.mem_keepRow_of_mem (hh.ranges m hm), hh.data⟩

theorem Holds.putRanges (hh : t.Holds s id seq rss pss) {ms : List Mapping}
    (hput : t.PutRanges ms t') : t'.Holds s id seq rss pss := by
  induction ms generalizing t with
  | nil =>
      rw [show t' = t from hput]
      exact hh
  | cons m ms ih =>
      obtain ⟨t1, ⟨-, rfl⟩, hrest⟩ := hput
      exact ih (hh.keepRange _) hrest

theorem Holds.insertMeasurement (hh : t.Holds s id seq rss pss) (r : Sql.Row) :
    Tables.Holds { t with measurement := Sql.insertRow r t.measurement } s id seq rss pss :=
  ⟨Sql.mem_insertRow.2 (.inr hh.measurement), hh.process, hh.ranges, hh.data⟩

theorem Holds.addsData (hh : t.Holds s id seq rss pss) {mid : Int64} {ms : List Mapping}
    (hne : mid ≠ id) (hadds : t.AddsData mid ms t') : t'.Holds s id seq rss pss := by
  obtain ⟨rows, hdata, hvals⟩ := hadds.appended
  have hnone : rows.filter (fun d => (d.col 1).sameAs id) = [] := by
    refine List.filter_eq_nil_iff.2 fun d hd => ?_
    obtain ⟨m, -, hm⟩ := List.mem_map.1 (hvals ▸ List.mem_map_of_mem (f := fun d : Sql.Row => d.vals) hd)
    show ¬ (d.vals.getD 1 .null).sameAs id = true
    rw [← hm]
    show ¬ (Value.int mid).sameAs id = true
    simp [Value.sameAs_int, hne]
  rw [hadds.others]
  refine ⟨hh.measurement, hh.process, hh.ranges, ?_⟩
  show (t'.data.filter _).map _ = _
  rw [hdata, List.filter_append, hnone, List.append_nil]
  exact hh.data

theorem Holds.putSystem (hh : t.Holds s id seq rss pss) (hput : t.PutSystem t') :
    t'.Holds s id seq rss pss := by
  obtain ⟨hp, hr, hm, hd⟩ := hput
  exact ⟨hm ▸ hh.measurement, hp ▸ hh.process, hr ▸ hh.ranges, hd ▸ hh.data⟩

theorem Holds.putSnapshot (hh : t.Holds s id seq rss pss) {s' : Snapshot} {id' : Int64}
    (hput : t.PutSnapshot s' id' t') : t'.Holds s id seq rss pss := by
  obtain ⟨t2, t3, _, _, hranges, _, hm, hadds⟩ := hput
  have h2 := (hh.putProcess _).putRanges hranges
  have hne : id' ≠ id := by
    intro heq
    have hthere := Sql.hasRowid_of_mem h2.measurement
    rw [show (measurementRow id _ _ _ _).rowid = id from rfl, ← heq, hm.1] at hthere
    cases hthere
  have h3 : t3.Holds s id seq rss pss := by
    rw [hm.eq]
    exact h2.insertMeasurement _
  exact h3.addsData hne hadds

theorem Holds.effect (hh : t.Holds s id seq rss pss) {c : Call}
    (hc : ∀ ms, c ≠ .insertData id ms) (he : c.Effect t t') : t'.Holds s id seq rss pss := by
  cases c with
  | upsertProcess p name =>
      rw [show t' = t.putProcess (p.row name) from he]
      exact hh.putProcess _
  | upsertRange k =>
      obtain ⟨-, rfl⟩ := he
      exact hh.keepRange _
  | insertMeasurement s' =>
      obtain ⟨_, _, _, hput⟩ := he
      rw [hput.eq]
      exact hh.insertMeasurement _
  | insertData mid ms => exact hh.addsData (fun heq => hc ms (by rw [heq])) he
  | insertSnapshot s' => exact hh.putSnapshot he
  | insertSystemSnapshot _ => exact hh.putSystem he

theorem Holds.failed (hh : t.Holds s id seq rss pss) {c : Call}
    (hc : ∀ ms, c ≠ .insertData id ms) (hf : c.Failed t t') : t'.Holds s id seq rss pss := by
  cases c with
  | insertData mid ms =>
      obtain ⟨n, -, hadds⟩ := hf
      exact hh.addsData (fun heq => hc ms (by rw [heq])) hadds
  | _ =>
      rw [show t' = t from hf]
      exact hh

/-- Sound tables on which a snapshot's write was done hold it, numbered with the count of
measurements before, when no two processes or ranges written share a hash. -/
theorem PutSnapshot.holds {past : Past} (hs : Sound t past)
    (hb : t.measurement.length < rowLimit) (hput : t.PutSnapshot s id t')
    (hs' : Sound t' (past.afterSnapshot s id)) (hu : (past.afterSnapshot s id).Unambiguous) :
    ∃ rss pss, s.sums = .ok (rss, pss) ∧ t'.Holds s id t.measurement.length rss pss := by
  have hadds := hput.adds hs hb
  obtain ⟨rss, pss, hsums, hmeasurement⟩ := hadds.measurement
  obtain ⟨rows, hdata, hvals⟩ := hadds.data
  refine ⟨rss, pss, hsums, ⟨?_, ?_, ?_, ?_⟩⟩
  · rw [hmeasurement]
    exact Sql.mem_insertRow.2 (.inl rfl)
  · -- the process row is that of the first process written under its id: this process
    have hmem : (s.process, "") ∈ (past.afterSnapshot s id).processes := by
      simp [Past.afterSnapshot, Past.afterMeasurement, Past.afterRanges, Past.afterProcess]
    obtain ⟨name, hfirst⟩ := Past.firstProcess_of_unambiguous hu hmem
    have hlookup := hs'.processes s.process.hash.toInt64
    rw [hfirst] at hlookup
    exact ⟨name, (Sql.lookup_eq_some hlookup).1⟩
  · -- each range row is that of the first range written under its id: this range
    intro m hm
    have hfirst := Past.firstRange_of_unambiguous hu (k := m.key)
      (by simp [Past.afterSnapshot, Past.afterMeasurement, Past.afterRanges]; exact .inr ⟨m, hm, rfl⟩)
    have hlookup := hs'.ranges m.key.hash.toInt64
    rw [hfirst] at hlookup
    exact (Sql.lookup_eq_some hlookup).1
  · -- the old data rows name old measurements, and the id is new
    obtain ⟨t2, t3, _, _, hranges, _, hm, _⟩ := hput
    have hnew : Sql.hasRowid t.measurement id = false := by
      rw [← hm.1, hranges.eq]
      rfl
    have hold : t.data.filter (fun d => (d.col 1).sameAs id) = [] := by
      refine List.filter_eq_nil_iff.2 fun d hd => ?_
      obtain ⟨m, hm', hcol⟩ := hs.data_measurement d hd
      have hne : m.rowid ≠ id := fun heq => by
        rw [← heq, Sql.hasRowid_of_mem hm'] at hnew
        cases hnew
      rw [hcol, Value.sameAs_int]
      simp [hne]
    have hall : rows.filter (fun d => (d.col 1).sameAs id) = rows := by
      refine List.filter_eq_self.2 fun d hd => ?_
      obtain ⟨m, -, hm'⟩ := List.mem_map.1 (hvals ▸ List.mem_map_of_mem (f := fun d : Sql.Row => d.vals) hd)
      show (d.vals.getD 1 .null).sameAs id = true
      rw [← hm']
      show (Value.int id).sameAs id = true
      simp [Value.sameAs_int]
    rw [hdata, List.filter_append, hold, hall, List.nil_append, hvals]

end Tables

/-! ## Later steps -/

section

variable {σ : Type} [Engine σ] (L : Documented σ)

/-- The handles, with what was written, that a program reaches from a handle by steps none of
which writes data rows of the measurement `mid` directly. -/
inductive Later (mid : Int64) : Handle σ × Past → Handle σ × Past → Prop
  | refl (x : Handle σ × Past) : Later mid x x
  | step {x y z : Handle σ × Past} {l : Option Call} : Later mid x y → Step L l y z →
      (∀ ms, l ≠ some (.insertData mid ms)) → Later mid x z

variable {L} {h : Handle σ} {past : Past}

theorem Later.reachable {mid : Int64} {x y : Handle σ × Past} (hr : Reachable L x.1 x.2)
    (hl : Later L mid x y) : Reachable L y.1 y.2 := by
  induction hl with
  | refl => exact hr
  | step _ hstep _ ih => exact .step ih hstep

/-- Tables that hold a snapshot stay so along later steps that write no data rows of its
measurement directly. -/
theorem Later.holds {s : Snapshot} {id : Int64} {seq : Nat} {rss pss : UInt64}
    {x y : Handle σ × Past} (hr : Reachable L x.1 x.2) (hl : Later L id x y)
    (hx : ∃ t, L.view x.1.conn = { content := .store t, enforcing := true } ∧
      t.Holds s id seq rss pss) :
    ∃ t, L.view y.1.conn = { content := .store t, enforcing := true } ∧
      t.Holds s id seq rss pss := by
  induction hl with
  | refl => exact hx
  | step hxy hstep hlabel ih =>
      obtain ⟨t, hv, hh⟩ := ih
      -- every reachable handle is on sound tables, so on compact data rows
      obtain ⟨t0, hv0, hs0⟩ := (hxy.reachable hr).settled
      have ht : t0 = t := by
        have := hv0.symm.trans hv
        simp only [View.mk.injEq, Content.store.injEq] at this
        exact this.1
      obtain ⟨t', hv', hcase⟩ := Step.lands hv (ht ▸ hs0.compact) hstep
      refine ⟨t', hv', ?_⟩
      rcases hcase with ⟨-, rfl, -⟩ | ⟨c, rfl, ⟨heff, -⟩ | ⟨hfail, -⟩⟩
      · exact hh
      · exact hh.effect (fun ms hc => hlabel ms (by rw [hc])) heff
      · exact hh.failed (fun ms hc => hlabel ms (by rw [hc])) hfail

/-- From every store a program reaches, when writing a snapshot with a time of the calendar
returns an id, reading the measurement of that id gives the snapshot back, right after the write
and after any later steps but a direct write of data rows of that measurement: numbered with the
count of measurements before the write, with the snapshot's process, time, sums, page counters,
OOM values and mappings in order, shown under its process, so grouped as the snapshot is. It
takes that no two different processes, and no two different ranges, written share a hash. -/
theorem getMeasurement_insertSnapshot (hr : Reachable L h past) (s : Snapshot)
    (htime : Millis.inRange s.time = true) {id : Int64}
    (hok : (h.exec (insertSnapshot s)).2 = .ok id) (hu : (past.afterSnapshot s id).Unambiguous)
    {h' : Handle σ} {past' : Past}
    (hlater : Later L id ((h.exec (insertSnapshot s)).1, past.afterSnapshot s id) (h', past')) :
    ∃ n rss pss m, (h.exec measurementCount).2 = .ok n ∧ s.sums = .ok (rss, pss) ∧
      (h'.exec (getMeasurement id)).2 = .ok (some m) ∧
      m = { id := id, seq := Int64.ofNat n, process := s.process, time := s.time,
            rssSum := rss, pssSum := pss, statm := s.statm, oom := s.oom,
            ranges := s.ranges.map (Mapping.withProcess s.process) } ∧
      ∀ ty g, m.groups ty g = group s.ranges s.statm ty g := by
  obtain ⟨t, hv, hs⟩ := hr.settled
  have hc : (L.view h.conn).content = .store t := by
    rw [hv]
  have hlimit : t.measurement.length < rowLimit := length_measurement_lt hc
  rcases exec_insertSnapshot_settled hv hs s with ⟨t1, hok', hv1, hput⟩ | ⟨e, herr, -⟩
  rotate_left
  · rw [hok] at herr
    cases herr
  -- the write returned its measurement's id, and the handle it left is reachable
  obtain rfl : id = measurementId s.process s.time := by
    rw [hok] at hok'
    cases hok'
    rfl
  have hrun : (h.exec (Call.insertSnapshot s).run) = ((h.exec (insertSnapshot s)).1, .ok ()) := by
    show h.exec (insertSnapshot s >>= fun _ => pure ()) = _
    rw [Handle.exec_bind_of_ok _ hok, Handle.exec_pure]
  have hr1 : Reachable L (h.exec (insertSnapshot s)).1
      (past.afterSnapshot s (measurementId s.process s.time)) := by
    have := Reachable.step hr (Step.call (.insertSnapshot s) h past)
    rw [hrun] at this
    exact this
  have hs1 : Sound t1 (past.afterSnapshot s (measurementId s.process s.time)) :=
    hs.putSnapshot hput (L.bounded _ t1 (by rw [hv1]))
  obtain ⟨rss, pss, hsums, hh1⟩ := hput.holds hs hlimit hs1 hu
  -- the tables the read finds still hold the snapshot
  obtain ⟨t', hv', hh'⟩ := Later.holds hr1 hlater ⟨t1, hv1, hh1⟩
  have hc' : (L.view h'.conn).content = .store t' := by
    rw [hv']
  have hord : t'.Ordered := L.ordered _ t' hc'
  obtain ⟨name, hmid⟩ := hh'.measurementsById hord
  have hget := exec_getMeasurement hc' hmid (fun _ => toMeasurement_measurementRecord htime)
    (hh'.rangesOf hord)
  refine ⟨t.measurement.length, rss, pss, _, exec_measurementCount hc, hsums, hget, rfl, ?_⟩
  intro ty g
  exact group_withProcess s.process s.ranges s.statm ty g

end

/-- A snapshot of one process whose mappings come back to a range and hold 2^63 KiB, written to a
store just opened on a new database of the reference engine, is read back right after the write,
its mappings in order. -/
theorem getMeasurement_insertSnapshot_repeated_range :
    let p : ProcessId := ⟨1, 0⟩
    let heap : RangeKey := ⟨p, 4096, 8192, "rw-p", "[heap]"⟩
    let stack : RangeKey := ⟨p, 12288, 16384, "rw-p", "[stack]"⟩
    let ms : List Mapping :=
      [⟨heap, 9223372036854775808, 9223372036854775808⟩, ⟨stack, 4, 4⟩, ⟨heap, 8, 8⟩]
    let s : Snapshot := { time := 1000, process := p, ranges := ms }
    Reachable Reference.documented (Handle.opened Engine.fresh) {} ∧ Millis.inRange s.time = true ∧
      ((Handle.opened (Engine.fresh : Reference.Conn)).exec (insertSnapshot s)).2 =
        .ok (measurementId p s.time) ∧
      (({} : Past).afterSnapshot s (measurementId p s.time)).Unambiguous ∧
      ∃ n rss pss m, ((Handle.opened (Engine.fresh : Reference.Conn)).exec measurementCount).2 =
          .ok n ∧ s.sums = .ok (rss, pss) ∧
        (((Handle.opened (Engine.fresh : Reference.Conn)).exec (insertSnapshot s)).1.exec
          (getMeasurement (measurementId p s.time))).2 = .ok (some m) ∧
        m = { id := measurementId p s.time, seq := Int64.ofNat n, process := p, time := s.time,
              rssSum := rss, pssSum := pss, statm := s.statm, oom := s.oom,
              ranges := s.ranges.map (Mapping.withProcess p) } ∧
        ∀ ty g, m.groups ty g = group s.ranges s.statm ty g := by
  intro p heap stack ms s
  have hr : Reachable Reference.documented (Handle.opened (Engine.fresh : Reference.Conn)) {} :=
    Reachable.of_blank rfl
  have hv := (start_eq (L := Reference.documented) (t := {}) (c := Engine.fresh) rfl
    (.inl ⟨rfl, rfl⟩)).2
  -- the new store has room, and the snapshot's sums stay in their word
  obtain ⟨hok, -⟩ := insertSnapshot_ok Reference.complete hr hv (s := s) ⟨_, _, rfl⟩ (by simp)
    (by simp [s, ms, heap, stack]) (by decide)
  have hu : (({} : Past).afterSnapshot s (measurementId p s.time)).Unambiguous := by
    refine ⟨by simp [Past.afterSnapshot, Past.afterMeasurement, Past.afterRanges,
      Past.afterProcess], ?_⟩
    have hne : heap.hash ≠ stack.hash := by decide +kernel
    simp only [Past.afterSnapshot, Past.afterMeasurement, Past.afterRanges, Past.afterProcess]
    simp [s, ms, hne, hne.symm]
  exact ⟨hr, by decide, hok, hu,
    getMeasurement_insertSnapshot hr s (by decide) hok hu (Later.refl _)⟩

end Store
end MemoryRecorder
