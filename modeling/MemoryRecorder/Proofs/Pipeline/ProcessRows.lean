import MemoryRecorder.Proofs.Pipeline.Announcements
import MemoryRecorder.Proofs.Store.RangeCache
/-!
# The feeder's process rows

The feeder is the store's one writer. In every run its store is the one it started with, after
the calls of the messages it received, in order (`Delivery.feeder_eq`). On an engine that does
what is documented, a store opened on a blank database therefore stays one that a program
reaches, and every process it wrote was asked for by one of those messages
(`Feeder.reachable_feedAll`).

The store keeps the row of the first process write that succeeded under an id, and the feeder
receives an announcement of each process before any snapshot of it. So every process row is under
the id of an announced process, and the row under the id of a first announcement is that
announcement's, with the name it carries, whenever the store took its write
(`process_rows_announced`).
-/

namespace MemoryRecorder
namespace Pipeline

variable {σ : Type}

def FeederMessage.call? : FeederMessage → Option Store.Call
  | .announced p name => some (.upsertProcess p name)
  | .snapshot s => some (.insertSnapshot s)
  | .system s => some (.insertSystemSnapshot s)
  | .shutdown => none

theorem FeederMessage.processes_after {m : FeederMessage} {c : Store.Call} (hc : m.call? = some c)
    (res : Except StoreError Unit) (past : Store.Past) :
    ∀ x ∈ (c.after res past).processes, x ∈ past.processes ∨ m.processRow = some x := by
  intro x hx
  rcases res with e | u
  · exact .inl hx
  · cases m <;> simp only [call?, Option.some.injEq, reduceCtorEq] at hc <;> subst hc <;>
      simp only [Store.Call.after, Store.Call.record, Store.Past.afterSnapshot,
        Store.Past.afterMeasurement, Store.Past.afterRanges, Store.Past.afterProcess,
        List.mem_append, List.mem_singleton] at hx
    · rcases hx with hx | rfl
      · exact .inl hx
      · exact .inr rfl
    · rcases hx with hx | rfl
      · exact .inl hx
      · exact .inr rfl
    · exact .inl hx

namespace Feeder

variable [Store.Engine σ]

theorem handle_store (f : Feeder σ) (m : FeederMessage) :
    (f.handle m).1.store = (m.call?.map fun c => (f.store.exec c.run).1).getD f.store := by
  cases m with
  | announced p name => rfl
  | snapshot s =>
      unfold handle
      simp only [FeederMessage.call?, Option.map_some, Option.getD_some, Store.Call.run,
        Store.Handle.exec_bind, Store.Handle.exec_pure]
      rcases f.store.exec (Store.insertSnapshot s) with ⟨st, e | a⟩
      · cases e <;> rfl
      · rfl
  | system s =>
      unfold handle
      simp only [FeederMessage.call?, Option.map_some, Option.getD_some, Store.Call.run,
        Store.Handle.exec_bind, Store.Handle.exec_pure]
      rcases f.store.exec (Store.insertSystemSnapshot s) with ⟨st, e | a⟩ <;> rfl
  | shutdown => rfl

/-- From a store a program reaches, the feeder's calls reach a store whose past goes on from the
first one's, with no process written but those the messages ask for. -/
theorem reachable_feedAll {L : Store.Documented σ} (ms : List FeederMessage) :
    ∀ (f : Feeder σ) (past : Store.Past), Store.Reachable L f.store past →
      ∃ past', Store.Reachable L (f.feedAll ms).store past' ∧ past.Prefix past' ∧
        ∀ x ∈ past'.processes, x ∈ past.processes ∨ x ∈ ms.filterMap FeederMessage.processRow := by
  induction ms with
  | nil => exact fun f past hr => ⟨past, hr, .refl past, fun x hx => .inl hx⟩
  | cons m ms ih =>
      intro f past hr
      -- the message's call, if it makes one, is a step of the store
      obtain ⟨past₁, hr₁, hp₁, hx₁⟩ : ∃ past₁, Store.Reachable L (f.handle m).1.store past₁ ∧
          past.Prefix past₁ ∧
          ∀ x ∈ past₁.processes, x ∈ past.processes ∨ m.processRow = some x := by
        rw [handle_store]
        cases hc : m.call? with
        | none => exact ⟨past, hr, .refl past, fun x hx => .inl hx⟩
        | some c =>
            exact ⟨_, hr.step (.call c f.store past), Store.Call.prefix_after c _ past,
              FeederMessage.processes_after hc _ past⟩
      obtain ⟨past', hr', hp', hx'⟩ := ih _ past₁ hr₁
      refine ⟨past', hr', hp₁.trans hp', fun x hx => ?_⟩
      rw [List.filterMap_cons]
      rcases hx' x hx with h | h
      · rcases hx₁ x h with h' | h'
        · exact .inl h'
        · simp [h']
      · cases m.processRow <;> simp [h]

end Feeder

namespace Recorder

section Store

variable [Store.Engine σ] {rcv : List FeederMessage} {r r' : Recorder σ}

/-- In every run of a recording from its start, on an engine that does what is documented and a
store opened on a blank database, the feeder's store holds a store's tables, and its process rows
come from the announcements: every process row is under the id of an announced process, and the
row under the id of a first announcement is that announcement's, with the name it carries,
whenever the store took the announcement's write. -/
theorem process_rows_announced {L : Store.Documented σ} {o : Options} {tree : FileTree}
    {store : Store.Handle σ} (hstore : Store.Reachable L store {}) {rcv : List FeederMessage}
    {r : Recorder σ} (h : Delivery (start o tree store) rcv r) :
    ∃ t, (L.view r.feeder.store.conn).content = .store t ∧
      (∀ id row, Store.Sql.lookup t.process id = some row → ∃ p name,
        (rcv.filterMap FeederMessage.announcement).find? (·.1.hash.toInt64 == id) = some (p, name)) ∧
      ∀ pre p name post, rcv = pre ++ .announced p name :: post →
        (pre.filterMap FeederMessage.announcement).find? (·.1.hash.toInt64 == p.hash.toInt64) = none →
        ((Feeder.feedAll { store := store } pre).store.exec (Store.upsertProcess p name)).2 = .ok () →
        Store.Sql.lookup t.process p.hash.toInt64 = some (p.row name) := by
  have hfeeder : r.feeder = Feeder.feedAll { store := store } rcv := by
    rw [h.feeder_eq, start_feeder]
  obtain ⟨hfirst, hrows⟩ := announced_before_snapshots h
  obtain ⟨past, hr, -, hproc⟩ := Feeder.reachable_feedAll rcv { store := store } {} hstore
  rw [← hfeeder] at hr
  obtain ⟨t, hv, hs⟩ := hr.settled
  refine ⟨t, by rw [hv], fun id row hrow => ?_, fun pre p name post hrcv hnone hok => ?_⟩
  · -- the row's process was asked for by a message, and the first request under its id is an
    -- announcement
    rw [hs.processes id] at hrow
    obtain ⟨⟨q, n⟩, hq, -⟩ := Option.map_eq_some_iff.1 hrow
    have hqid : q.hash.toInt64 = id := Store.Past.hash_of_firstProcess hq
    rcases hproc _ (List.mem_of_find?_eq_some hq) with h₀ | hreq
    · cases h₀
    · obtain ⟨e, he⟩ := Option.isSome_iff_exists.1
        ((List.find?_isSome (p := fun e : ProcessId × String => e.1.hash.toInt64 == id)).2
          ⟨(q, n), hreq, by simp [hqid]⟩)
      rw [hrows id] at he
      exact ⟨e.1, e.2, he⟩
  · -- before the announcement no process was asked for under its id
    set id := p.hash.toInt64
    have hpre : ∀ x ∈ pre.filterMap FeederMessage.processRow, x.1.hash.toInt64 ≠ id := by
      have hfirst' : AnnouncedFirst pre :=
        hfirst.of_prefix (by rw [hrcv, List.append_assoc]; exact List.prefix_append _ _)
      have := hfirst'.find?_processRow (fun q => q.hash.toInt64 == id)
      rw [hnone] at this
      intro x hx hxid
      exact absurd hxid (by simpa using List.find?_eq_none.1 this x hx)
    set f₁ := Feeder.feedAll { store := store } pre
    obtain ⟨past₁, hr₁, -, hproc₁⟩ := Feeder.reachable_feedAll pre { store := store } {} hstore
    have hnone₁ : past₁.firstProcess id = none := by
      refine List.find?_eq_none.2 fun x hx => ?_
      rcases hproc₁ x hx with h₀ | hreq
      · cases h₀
      · simpa using hpre x hreq
    -- the announcement's write succeeded, so its row is the first under the id
    have hr₂ : Store.Reachable L (f₁.handle (.announced p name)).1.store (past₁.afterProcess p name) := by
      have := hr₁.step (.call (.upsertProcess p name) f₁.store past₁)
      rwa [show (f₁.store.exec (Store.Call.upsertProcess p name).run).2 = .ok () from hok] at this
    have hfirst₂ : (past₁.afterProcess p name).firstProcess id = some (p, name) := by
      rw [Store.Past.firstProcess_afterProcess, hnone₁]
      simp [id]
    obtain ⟨past₃, hr₃, hp₃, -⟩ :=
      Feeder.reachable_feedAll post (f₁.handle (.announced p name)).1 _ hr₂
    have hend : ((f₁.handle (.announced p name)).1.feedAll post) = r.feeder := by
      rw [hfeeder, hrcv, Feeder.feedAll_append, Feeder.feedAll_cons]
    rw [hend] at hr₃
    obtain ⟨t₃, hv₃, hs₃⟩ := hr₃.settled
    have ht : t₃ = t := by
      have := hv₃.symm.trans hv
      simp only [Store.View.mk.injEq, Store.Content.store.injEq] at this
      exact this.1
    subst ht
    rw [hs₃.processes, hp₃.firstProcess hfirst₂]
    rfl

def liveOne : Options :=
  { root := { shown := "proc", parts := ["proc"] }, pids := [100] }

/-- A proc tree in which process 100 is alive, with no status, name or start time to read. -/
def liveTree : FileTree :=
  ⟨[(["proc"], .dir), (["proc", "100"], .dir), (["proc", "100", "smaps"], .file [])]⟩

/-- The worker starts the watcher of process 100 and announces it under the empty name, since
none can be read, and the feeder writes the announcement. -/
theorem process_rows_announced_live :
    let rcv : List FeederMessage := [.announced ⟨100, 0⟩ ""]
    ∃ r, Delivery (start liveOne liveTree blankStore) rcv r ∧
      Store.Reachable Store.Reference.documented blankStore {} ∧
      ∃ t, (Store.Reference.documented.view r.feeder.store.conn).content = .store t ∧
        (∀ id row, Store.Sql.lookup t.process id = some row → ∃ p name,
          (rcv.filterMap FeederMessage.announcement).find? (·.1.hash.toInt64 == id) = some (p, name)) ∧
        ∀ pre p name post, rcv = pre ++ .announced p name :: post →
          (pre.filterMap FeederMessage.announcement).find? (·.1.hash.toInt64 == p.hash.toInt64) = none →
          ((Feeder.feedAll { store := blankStore } pre).store.exec (Store.upsertProcess p name)).2 =
            .ok () →
          Store.Sql.lookup t.process p.hash.toInt64 = some (p.row name) := by
  intro rcv
  have hstore : Store.Reachable Store.Reference.documented blankStore {} := Store.Reachable.of_blank rfl
  obtain ⟨r₁, hw, hfeed, hrun⟩ : ∃ r₁, (start liveOne liveTree blankStore).workerStep 0 = some r₁ ∧
      r₁.feed = rcv ∧ r₁.feeder.running = true := ⟨_, rfl, rfl, rfl⟩
  have hd : Delivery (start liveOne liveTree blankStore) rcv (r₁.receive (.announced ⟨100, 0⟩ "") []) :=
    Delivery.step .refl (.threads (.worker 0 hw (.feeder hrun hfeed (.refl _))))
  exact ⟨_, hd, hstore, process_rows_announced hstore hd⟩

end Store

end Recorder

end Pipeline
end MemoryRecorder
