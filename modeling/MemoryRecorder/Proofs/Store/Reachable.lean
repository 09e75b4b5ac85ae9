import MemoryRecorder.Proofs.Store.Sound
import MemoryRecorder.Proofs.Store.Open

/-!
# Reachable stores

A program uses a store through its interface: it opens the store on a new database, calls its
writes and its reads in any order, and may close the store and open it again on the same
database. This module says which handles such a program reaches, together with what it wrote
successfully (`Reachable`), and proves that every one of them is settled on sound tables
(`Reachable.settled`): the handle sees the store's tables with foreign keys enforced and no
transaction open, and the tables are `Sound` for what was written.

The invariant is carried by one lemma per kind of step: each write lands where its
specification puts it, and sound tables stay sound under every documented outcome.
-/

namespace MemoryRecorder
namespace Store

inductive Call where
  | upsertProcess (p : ProcessId) (name : String)
  | upsertRange (k : RangeKey)
  | insertMeasurement (s : Snapshot)
  | insertData (mid : Int64) (ms : List Mapping)
  | insertSnapshot (s : Snapshot)
  | insertSystemSnapshot (s : SystemSnapshot)

namespace Call

variable {σ : Type} [Engine σ]

def run : Call → StoreOn σ Unit
  | upsertProcess p name => Store.upsertProcess p name
  | upsertRange k => Store.upsertRange k >>= fun _ => pure ()
  | insertMeasurement s => Store.insertMeasurement s >>= fun _ => pure ()
  | insertData mid ms => Store.insertData mid ms
  | insertSnapshot s => Store.insertSnapshot s >>= fun _ => pure ()
  | insertSystemSnapshot s => Store.insertSystemSnapshot s >>= fun _ => pure ()

/-- What a call that succeeded wrote of the past: the processes and ranges it upserted and the
measurement it inserted. -/
def record : Call → Past → Past
  | upsertProcess p name, past => past.afterProcess p name
  | upsertRange k, past => past.afterRange k
  | insertMeasurement s, past => past.afterMeasurement (measurementId s.process s.time)
  | insertData _ _, past => past
  | insertSnapshot s, past => past.afterSnapshot s (measurementId s.process s.time)
  | insertSystemSnapshot _, past => past

def after (c : Call) : Except StoreError Unit → Past → Past
  | .ok (), past => c.record past
  | .error _, past => past

/-- What a call that succeeded did to the tables it found, foreign keys enforced. -/
def Effect : Call → Tables → Tables → Prop
  | upsertProcess p name, t, t' => t' = t.putProcess (p.row name)
  | upsertRange k, t, t' => t.PutRange k.row k.process.hash.toInt64 t'
  | insertMeasurement s, t, t' => ∃ rss pss, s.sums = .ok (rss, pss) ∧
      t.PutMeasurement (measurementId s.process s.time) s.process.hash.toInt64 s.time
        (s.figures rss pss) t'
  | insertData mid ms, t, t' => t.AddsData mid ms t'
  | insertSnapshot s, t, t' => t.PutSnapshot s (measurementId s.process s.time) t'
  | insertSystemSnapshot _, t, t' => t.PutSystem t'

/-- What a call that failed left of the tables it found: the data loop keeps the rows it wrote
before the failing one, and every other call leaves the tables as they were. -/
def Failed : Call → Tables → Tables → Prop
  | insertData mid ms, t, t' => ∃ n, n ≤ ms.length ∧ t.AddsData mid (ms.take n) t'
  | _, t, t' => t' = t

end Call

section

variable {σ : Type} [Engine σ] (L : Documented σ)

/-- One step of a program that uses a store, from a handle and what it wrote so far: a call of a
write, labelled with it; work that only reads; or closing the store and opening it again on the
same database. -/
inductive Step : Option Call → Handle σ × Past → Handle σ × Past → Prop
  | call (c : Call) (h : Handle σ) (past : Past) :
      Step (some c) (h, past) ((h.exec c.run).1, c.after (h.exec c.run).2 past)
  | read {α : Type} {m : StoreOn σ α} (hm : ReadOnly L m) (h : Handle σ) (past : Past) :
      Step none (h, past) ((h.exec m).1, past)
  | reopen {h h' : Handle σ} (past : Past)
      (hopen : (Handle.start (Engine.reopen h.conn)).2 = .ok h') :
      Step none (h, past) (h', past)

/-- The handles a program reaches, with what it wrote successfully, from opening a store on a
new database. -/
inductive Reachable : Handle σ → Past → Prop
  | start {c : σ} {h : Handle σ} (hc : L.view c = { content := .blank })
      (hopen : (Handle.start c).2 = .ok h) : Reachable h {}
  | step {l : Option Call} {h h' : Handle σ} {past past' : Past} :
      Reachable h past → Step L l (h, past) (h', past') → Reachable h' past'

/-- A handle that sees the store's tables, sound for a past, with foreign keys enforced and no
transaction open. -/
def Settled (h : Handle σ) (past : Past) : Prop :=
  ∃ t, L.view h.conn = { content := .store t, enforcing := true } ∧ Sound t past

variable {L} {h : Handle σ} {t : Tables} {past past' : Past}

theorem length_measurement_lt {c : σ} (hc : (L.view c).content = .store t) :
    t.measurement.length < rowLimit := by
  have := L.bounded c t hc
  simp only [Tables.size] at this
  omega

theorem Lands.discard {α : Type} {m : StoreOn σ α} {v : View} {ok : α → Tables → Prop}
    (hm : Lands L v ok (h.exec m)) :
    Lands L v (fun _ t' => ∃ a, ok a t') (h.exec (m >>= fun _ => pure ())) := by
  rcases hm with ⟨a, t', hr, hok, hv⟩ | ⟨e, hr, hv⟩
  · rw [Handle.exec_bind_of_ok _ hr, Handle.exec_pure]
    exact .inl ⟨(), t', rfl, ⟨a, hok⟩, hv⟩
  · rw [Handle.exec_bind_of_error _ hr]
    exact .inr ⟨e, rfl, hv⟩

theorem Lands.call {c : Call} (hv : L.view h.conn = { content := .store t, enforcing := true })
    (hfail : c.Failed t t)
    (hr : Lands L (L.view h.conn) (fun _ t' => c.Effect t t') (h.exec c.run)) :
    ∃ t', L.view (h.exec c.run).1.conn = { content := .store t', enforcing := true } ∧
      ((h.exec c.run).2 = .ok () ∧ c.Effect t t' ∨
        (∃ e, (h.exec c.run).2 = .error e) ∧ c.Failed t t') := by
  have hb : (L.view h.conn).began = none := by
    rw [hv]
  rcases hr with ⟨a, t', hr, hok, hv'⟩ | ⟨e, hr, hv'⟩
  · refine ⟨t', ?_, .inl ⟨hr, hok⟩⟩
    rw [hv', hv]
  · refine ⟨t, ?_, .inr ⟨⟨e, hr⟩, hfail⟩⟩
    rcases hv' with hv' | hv'
    · rw [hv', hv]
    · rw [hv', View.undone_of_none hb, hv]

/-- What a call does from a handle on tables with foreign keys enforced and no transaction open:
it leaves the handle on tables the same way, with its effect when it succeeded and with what a
failure leaves when it failed. -/
theorem Call.lands (hv : L.view h.conn = { content := .store t, enforcing := true })
    (hcompact : Sql.Compact t.data) (c : Call) :
    ∃ t', L.view (h.exec c.run).1.conn = { content := .store t', enforcing := true } ∧
      ((h.exec c.run).2 = .ok () ∧ c.Effect t t' ∨
        (∃ e, (h.exec c.run).2 = .error e) ∧ c.Failed t t') := by
  have hc : (L.view h.conn).content = .store t := by
    rw [hv]
  have he : (L.view h.conn).enforcing = true := by
    rw [hv]
  have hb : (L.view h.conn).began = none := by
    rw [hv]
  cases c with
  | upsertProcess p name =>
      exact Lands.call hv rfl (exec_upsertProcess p name hc)
  | upsertRange k =>
      exact Lands.call hv rfl ((exec_upsertRange k hc he).discard.mono
        fun _ _ ⟨_, _, hput⟩ => hput)
  | insertMeasurement s =>
      exact Lands.call hv rfl ((exec_insertMeasurement s hc he).discard.mono
        fun _ _ ⟨_, rfl, hsums⟩ => hsums)
  | insertData mid ms =>
      -- the rows written before a failure stay, so a failure is no rollback here
      obtain ⟨n, t', hn, hadds, hleaves, hfull⟩ := exec_insertData mid ms hc he hcompact
      simp only [Call.run, Call.Effect, Call.Failed]
      rcases hleaves with hv' | ⟨-, hb', -⟩
      · refine ⟨t', by rw [hv', hv], ?_⟩
        cases hr : (h.exec (Store.insertData mid ms)).2 with
        | ok u =>
            have hall : n = ms.length := hfull hr
            rw [hall, List.take_length] at hadds
            exact .inl ⟨rfl, hadds⟩
        | error e => exact .inr ⟨⟨e, rfl⟩, n, hn, hadds⟩
      · exact absurd hb hb'
  | insertSnapshot s =>
      exact Lands.call hv rfl ((exec_insertSnapshot s hc he hb hcompact).discard.mono
        fun _ _ ⟨_, rfl, hput⟩ => hput)
  | insertSystemSnapshot s =>
      exact Lands.call hv rfl ((exec_insertSystemSnapshot s hc).discard.mono
        fun _ _ ⟨_, hput⟩ => hput)

theorem Step.lands {l : Option Call} {h' : Handle σ}
    (hv : L.view h.conn = { content := .store t, enforcing := true })
    (hcompact : Sql.Compact t.data) (hstep : Step L l (h, past) (h', past')) :
    ∃ t', L.view h'.conn = { content := .store t', enforcing := true } ∧
      (l = none ∧ t' = t ∧ past' = past ∨
        ∃ c, l = some c ∧
          (c.Effect t t' ∧ past' = c.record past ∨ c.Failed t t' ∧ past' = past)) := by
  cases hstep with
  | call c =>
      obtain ⟨t', hv', hrun⟩ := Call.lands hv hcompact c
      refine ⟨t', hv', .inr ⟨c, rfl, ?_⟩⟩
      rcases hrun with ⟨hok, heff⟩ | ⟨⟨e, herr⟩, hfail⟩
      · refine .inl ⟨heff, ?_⟩
        rw [hok]
        rfl
      · refine .inr ⟨hfail, ?_⟩
        rw [herr]
        rfl
  | read hm => exact ⟨t, (hm h).trans hv, .inl ⟨rfl, rfl, rfl⟩⟩
  | reopen _ hopen =>
      -- closing keeps the database, and opening it again finds the store's tables
      have hb : (L.view h.conn).began = none := by
        rw [hv]
      have hv' : L.view (Engine.reopen h.conn) = { content := .store t } := by
        rw [L.reopen h.conn hb, hv]
      obtain ⟨hstart, hopened⟩ := start_eq (L := L) (t := t) (by rw [hv']) (.inr (by rw [hv']))
      rw [hstart] at hopen
      cases hopen
      exact ⟨t, hopened, .inl ⟨rfl, rfl, rfl⟩⟩

theorem Call.Effect.sound {c : Call} {t' : Tables} (hs : Sound t past)
    (hb : t.measurement.length < rowLimit) (hb' : t'.size < rowLimit) (he : c.Effect t t') :
    Sound t' (c.record past) := by
  cases c with
  | upsertProcess p name =>
      rw [show t' = t.putProcess (p.row name) from he]
      exact hs.putProcess p name
  | upsertRange k => exact hs.putRange he
  | insertMeasurement s =>
      obtain ⟨_, _, _, hput⟩ := he
      exact hs.putMeasurement hb hput
  | insertData mid ms => exact hs.addsData he
  | insertSnapshot s => exact hs.putSnapshot he hb'
  | insertSystemSnapshot s => exact hs.putSystem he

theorem Call.Failed.sound {c : Call} {t' : Tables} (hs : Sound t past) (hf : c.Failed t t') :
    Sound t' past := by
  cases c with
  | insertData mid ms =>
      obtain ⟨n, -, hadds⟩ := hf
      exact hs.addsData hadds
  | _ =>
      rw [show t' = t from hf]
      exact hs

theorem Settled.start {c : σ} {h : Handle σ} (hb : (L.view c).began = none)
    (hc : (L.view c).content = .blank ∧ t = {} ∨ (L.view c).content = .store t)
    (hs : Sound t past) (hopen : (Handle.start c).2 = .ok h) : Settled L h past := by
  obtain ⟨hstart, hv⟩ := start_eq (L := L) hb hc
  rw [hstart] at hopen
  cases hopen
  exact ⟨t, hv, hs⟩

/-- Every step from a settled handle leaves it settled. -/
theorem Settled.step {l : Option Call} {h' : Handle σ} (hset : Settled L h past)
    (hstep : Step L l (h, past) (h', past')) : Settled L h' past' := by
  obtain ⟨t, hv, hs⟩ := hset
  have hlimit : t.measurement.length < rowLimit := length_measurement_lt (by rw [hv])
  obtain ⟨t', hv', hcase⟩ := Step.lands hv hs.compact hstep
  have hbound : t'.size < rowLimit := L.bounded _ t' (by rw [hv'])
  refine ⟨t', hv', ?_⟩
  rcases hcase with ⟨-, rfl, rfl⟩ | ⟨c, -, ⟨heff, rfl⟩ | ⟨hfail, rfl⟩⟩
  · exact hs
  · exact heff.sound hs hlimit hbound
  · exact hfail.sound hs

theorem Reachable.of_blank {c : σ} (hc : L.view c = { content := .blank }) :
    Reachable L (Handle.opened c) {} := by
  obtain ⟨hstart, -⟩ := start_eq (L := L) (t := {}) (c := c) (by rw [hc]) (.inl ⟨by rw [hc], rfl⟩)
  exact Reachable.start hc (by rw [hstart])

/-- Every handle a program reaches is settled on tables sound for what it wrote. -/
theorem Reachable.settled (hr : Reachable L h past) : Settled L h past := by
  induction hr with
  | start hc hopen => exact Settled.start (by rw [hc]) (.inl ⟨by rw [hc], rfl⟩) Sound.empty hopen
  | step _ hstep ih => exact ih.step hstep

/-- Closing a store a program reached and opening its database again reaches the handle the
set-up leaves, with the same past. -/
theorem Reachable.reopened (hr : Reachable L h past) :
    Reachable L (Handle.opened (Engine.reopen h.conn)) past := by
  obtain ⟨t, hv, -⟩ := hr.settled
  have hb : (L.view h.conn).began = none := by
    rw [hv]
  have hv' : L.view (Engine.reopen h.conn) = { content := .store t } := by
    rw [L.reopen h.conn hb, hv]
  obtain ⟨hstart, -⟩ := start_eq (L := L) (t := t) (by rw [hv']) (.inr (by rw [hv']))
  exact hr.step (Step.reopen past (by rw [hstart]))

end

end Store
end MemoryRecorder
