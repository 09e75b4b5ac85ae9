import MemoryRecorder.Proofs.Pipeline.Delivery
import MemoryRecorder.Proofs.Store.Reference
/-!
# Closing a recording

Closing disposes every watcher, asks every worker to stop and waits for the workers for at most
the polls of the options, then sends the feeder its one shutdown message. Nothing here depends
on the schedule of the wait: the threads may move in any interleaving between two polls
(`Waits`).

* `FeedInvariant`: in every state of a run, while the feeder runs, each snapshot sent is committed,
  failed or waiting in the feeder's channel, and the snapshots in flight are those waiting; no
  shutdown is sent before close and one after, unless an overflow stopped the feeder first.
* `Quiescent.delivers`: once every worker's loop has ended, no move adds to the feeder's channel.
* `close_shutdown_once`: after a close that saw every worker stop, the shutdown is the last message
  the feeder receives, and when it comes to it every snapshot sent was committed or failed.
-/

namespace MemoryRecorder
namespace Pipeline

variable {σ : Type}

def FeederMessage.isShutdown : FeederMessage → Bool
  | .shutdown => true
  | _ => false

theorem FeederMessage.isShutdown_of_isSnapshot {m : FeederMessage} (h : m.isSnapshot = true) :
    m.isShutdown = false := by
  cases m <;> simp_all [isSnapshot, isShutdown]

def Feeder.stoppedAtShutdown (f : Feeder σ) : Bool :=
  !f.running && f.stoppedAt.isNone

/-- A worker whose loop has ended waits on no pipe. -/
def Worker.DoneIdle (wk : Worker) : Prop :=
  wk.finished = true → wk.waiting = none

theorem Worker.DoneIdle.offer {wk : Worker} (h : wk.DoneIdle) (c : Command) :
    (wk.offer c).DoneIdle := by
  unfold Worker.offer
  split
  · exact h
  · exact h

section Handled

variable [Store.Engine σ]

def Feeder.feedAll (f : Feeder σ) (ms : List FeederMessage) : Feeder σ :=
  ms.foldl (fun f m => (f.handle m).1) f

@[simp] theorem Feeder.feedAll_nil (f : Feeder σ) : f.feedAll [] = f := rfl

@[simp] theorem Feeder.feedAll_cons (f : Feeder σ) (m : FeederMessage) (ms : List FeederMessage) :
    f.feedAll (m :: ms) = (f.handle m).1.feedAll ms := rfl

theorem Feeder.feedAll_append (f : Feeder σ) (ms ms' : List FeederMessage) :
    f.feedAll (ms ++ ms') = (f.feedAll ms).feedAll ms' :=
  List.foldl_append ..

end Handled

namespace Recorder

/-- The shutdown messages sent to the feeder so far: those waiting in its channel, and the one it
stopped at. -/
def shutdownsSent (r : Recorder σ) : Nat :=
  r.feed.countP FeederMessage.isShutdown + if r.feeder.stoppedAtShutdown then 1 else 0

/-! ## What the scheduler and the workers send -/

def feedView (r : Recorder σ) : Bool × Feeder σ × List FeederMessage × Nat × Nat × Nat × Nat :=
  (r.closed, r.feeder, r.feed, r.stats.samplesSent, r.stats.snapshotsCommitted,
    r.stats.snapshotsFailed, r.queued)

/-- From `r` to `r'` the scheduler or the workers sent `ms` to the feeder and counted each snapshot
among them as sent and in flight. Nothing closed, the feeder stood still, no shutdown is among the
messages, and nothing is sent once the feeder has stopped. -/
structure Sends (r r' : Recorder σ) (ms : List FeederMessage) : Prop where
  closed : r'.closed = r.closed
  feeder : r'.feeder = r.feeder
  feed : r'.feed = r.feed ++ ms
  stopped : r.feeder.running = false → ms = []
  no_shutdown : ∀ m ∈ ms, m.isShutdown = false
  sent : r'.stats.samplesSent = r.stats.samplesSent + ms.countP FeederMessage.isSnapshot
  committed : r'.stats.snapshotsCommitted = r.stats.snapshotsCommitted
  failed : r'.stats.snapshotsFailed = r.stats.snapshotsFailed
  queued : r'.queued = r.queued + ms.countP FeederMessage.isSnapshot

namespace Sends

variable {r r₁ r₂ : Recorder σ} {ms ms' : List FeederMessage}

theorem refl (r : Recorder σ) : Sends r r [] :=
  ⟨rfl, rfl, by simp, fun _ => rfl, by simp, by simp, rfl, rfl, by simp⟩

theorem trans (h₁ : Sends r r₁ ms) (h₂ : Sends r₁ r₂ ms') : Sends r r₂ (ms ++ ms') where
  closed := h₂.closed.trans h₁.closed
  feeder := h₂.feeder.trans h₁.feeder
  feed := by rw [h₂.feed, h₁.feed, List.append_assoc]
  stopped := fun h => by
    rw [h₁.stopped h, List.nil_append]
    exact h₂.stopped (by rw [h₁.feeder]; exact h)
  no_shutdown := fun m hm => (List.mem_append.1 hm).elim (h₁.no_shutdown m) (h₂.no_shutdown m)
  sent := by rw [h₂.sent, h₁.sent, List.countP_append, Nat.add_assoc]
  committed := h₂.committed.trans h₁.committed
  failed := h₂.failed.trans h₁.failed
  queued := by rw [h₂.queued, h₁.queued, List.countP_append, Nat.add_assoc]

theorem congr (h : Sends r r₁ ms) (hv : r₂.feedView = r₁.feedView) : Sends r r₂ ms := by
  simp only [feedView, Prod.mk.injEq] at hv
  obtain ⟨hc, hf, hfd, hs, hcm, hfl, hq⟩ := hv
  exact ⟨hc.trans h.closed, hf.trans h.feeder, hfd.trans h.feed, h.stopped, h.no_shutdown,
    hs.trans h.sent, hcm.trans h.committed, hfl.trans h.failed, hq.trans h.queued⟩

end Sends

@[simp] theorem feedView_broadcast (r : Recorder σ) (c : Command) :
    (r.broadcast c).feedView = r.feedView := by
  rw [broadcast_eq]; rfl

@[simp] theorem feedView_drainExits (r : Recorder σ) : r.drainExits.1.feedView = r.feedView := by
  rw [drainExits_eq]; rfl

@[simp] theorem feedView_foldl_watch (pids : List Int32) (r : Recorder σ) :
    (pids.foldl (fun r pid => r.watch pid) r).feedView = r.feedView := by
  obtain ⟨n, t, ws, h⟩ := foldl_watch_frame pids r
  rw [h]; rfl

@[simp] theorem feedView_discover (r : Recorder σ) : r.discover.1.feedView = r.feedView := by
  rw [discover_fst]; exact feedView_foldl_watch _ r

theorem start_feeder (o : Options) (tree : FileTree) (store : Store.Handle σ) :
    (start o tree store).feeder = { store := store } := by
  have hv := feedView_foldl_watch o.pids
    ({ options := o, tree := tree, workers := List.replicate (max o.workers 1) {},
       feeder := { store := store } } : Recorder σ)
  simp only [feedView, Prod.mk.injEq] at hv
  exact hv.2.1

theorem sends_sendFeeder (r : Recorder σ) {m : FeederMessage} (hm : m.isSnapshot = false)
    (hs : m.isShutdown = false) : Sends r (r.sendFeeder m).1 (if r.feeder.running then [m] else []) := by
  rw [sendFeeder_shape]
  by_cases hrun : r.feeder.running = true
  · simp only [hrun, if_true]
    exact ⟨rfl, rfl, rfl, fun h => by simp [hrun] at h, by simpa using hs, by simp [hm], rfl, rfl,
      by simp [hm]⟩
  · simp only [hrun, Bool.false_eq_true, if_false]
    exact (Sends.refl r).congr rfl

theorem sends_startWatcher (r : Recorder σ) (seen : FileTree) (w : Watcher) :
    ∃ ms, Sends r (r.startWatcher seen w).1 ms := by
  unfold startWatcher
  dsimp only
  split
  · exact ⟨[], (Sends.refl r).congr rfl⟩
  · -- the events recorded count no snapshot, and the announcement is neither kind of message
    have h₁ : Sends r (if (w.init seen).1.accessible then r else r.record .processInaccessible) [] := by
      split <;> exact (Sends.refl r).congr rfl
    refine ⟨_, Sends.trans (h₁.congr ?_) (sends_sendFeeder _ rfl rfl)⟩
    rfl

theorem sends_sampleWatcher (r : Recorder σ) (w : Watcher) (time : Millis) :
    ∃ ms, Sends r (r.sampleWatcher w time).1 ms := by
  unfold sampleWatcher
  split
  · exact ⟨[], (Sends.refl r).congr rfl⟩
  · split
    · exact ⟨[], (Sends.refl r).congr rfl⟩
    · split
      · rename_i s _
        unfold sendFeeder
        by_cases hrun : r.feeder.running = true
        · refine ⟨[.snapshot s], ?_⟩
          simp only [hrun, if_true]
          exact ⟨rfl, rfl, rfl, fun h => by simp [hrun] at h, by simp [FeederMessage.isShutdown],
            by simp [record, HealthStats.record, FeederMessage.isSnapshot], rfl, rfl,
            by simp [record, FeederMessage.isSnapshot]⟩
        · -- a snapshot the stopped feeder cannot take is no longer counted in flight
          refine ⟨[], ?_⟩
          simp only [hrun, Bool.false_eq_true, if_false]
          exact (Sends.refl r).congr (by simp [feedView])
      · exact ⟨[], (Sends.refl r).congr rfl⟩
      · exact ⟨[], (Sends.refl r).congr rfl⟩
      · exact ⟨[], (Sends.refl r).congr rfl⟩

theorem sends_sampleAll (time : Millis) (ws : List Watcher) :
    ∀ r : Recorder σ, ∃ ms, Sends r (sampleAll time r ws).1 ms := by
  induction ws with
  | nil => exact fun r => ⟨[], Sends.refl r⟩
  | cons w ws ih =>
      intro r
      obtain ⟨ms₁, h₁⟩ := sends_sampleWatcher r w time
      rw [sampleAll]
      rcases hcall : r.sampleWatcher w time with ⟨r₁, site | keep⟩
      · rw [hcall] at h₁
        exact ⟨ms₁, h₁⟩
      · rw [hcall] at h₁
        obtain ⟨ms₂, h₂⟩ := ih r₁
        dsimp only
        rcases hrest : sampleAll time r₁ ws with ⟨r₂, rest⟩
        rw [hrest] at h₂
        exact ⟨ms₁ ++ ms₂, h₁.trans h₂⟩

theorem sampleAll_workers (time : Millis) (ws : List Watcher) (r : Recorder σ) :
    (sampleAll time r ws).1.workers = r.workers := by
  rcases h : sampleAll time r ws with ⟨r', site | kept⟩
  · obtain ⟨pre, w, post, r₀, kept, -, hpre, hcall⟩ := sampleAll_eq_error h
    exact (sampleWatcher_spec hcall).1.trans hpre.frame.1
  · exact (sampleAll_eq_ok h).frame.1

theorem sends_of_sampleAll {time : Millis} {ws : List Watcher} {r r₁ : Recorder σ} {res}
    (hall : sampleAll time r ws = (r₁, res)) : ∃ ms, Sends r r₁ ms ∧ r₁.workers = r.workers := by
  obtain ⟨ms, hs⟩ := sends_sampleAll time ws r
  have hw₁ := sampleAll_workers time ws r
  rw [hall] at hs hw₁
  exact ⟨ms, hs, hw₁⟩

theorem workerStep_sends {r r' : Recorder σ} {i : Nat} (h : r.workerStep i = some r') :
    ∃ ms w, Sends r r' ms ∧ r'.workers = r.workers.set i w ∧ w.DoneIdle := by
  obtain ⟨wk, c, wk', hw, hf, hwait, hn⟩ := workerStep_eq_some h
  obtain ⟨-, hfin, hwait'⟩ := Worker.next?_fields hn
  have hidle : wk'.waiting = none := hwait'.trans hwait
  cases c with
  | watch pid =>
      rcases workerStep_watch_cases hw hn h with ⟨-, rfl⟩ | ⟨-, rfl⟩
      · exact ⟨[], _, (Sends.refl r).congr rfl, rfl, fun h' => by
          rw [show wk'.finished = false from hfin.trans hf] at h'; cases h'⟩
      · obtain ⟨ms, hs⟩ := sends_startWatcher r r.tree (Watcher.new r.tree r.options.root pid)
        exact ⟨ms, _, hs.congr rfl, congrArg (List.set · i _) (startWatcher_workers _ _ _),
          fun _ => hidle⟩
  | sample time =>
      rcases workerStep_sample_cases hw hn h with ⟨-, rfl⟩ | ⟨-, r₁, kept, hall, rfl⟩ |
        ⟨-, r₁, site, hall, rfl⟩
      · exact ⟨[], _, (Sends.refl r).congr rfl, rfl, fun _ => hidle⟩
      · obtain ⟨ms, hs, hw₁⟩ := sends_of_sampleAll hall
        exact ⟨ms, _, hs.congr rfl, congrArg (List.set · i _) hw₁, fun _ => hidle⟩
      · obtain ⟨ms, hs, hw₁⟩ := sends_of_sampleAll hall
        exact ⟨ms, _, hs.congr rfl, congrArg (List.set · i _) hw₁, fun _ => hidle⟩
  | dispose =>
      simp only [workerStep, hw, hf, hwait, hn, Bool.or_false, Bool.false_eq_true, if_false,
        Option.isSome_none, Option.some.injEq] at h
      subst h
      exact ⟨[], _, (Sends.refl r).congr rfl, rfl, fun _ => hidle⟩
  | stop =>
      simp only [workerStep, hw, hf, hwait, hn, Bool.or_false, Bool.false_eq_true, if_false,
        Option.isSome_none, Option.some.injEq] at h
      subst h
      exact ⟨[], _, (Sends.refl r).congr rfl, rfl, fun _ => hidle⟩

theorem sends_tick (r : Recorder σ) (time : Millis) : ∃ ms, Sends r (r.tick time) ms := by
  cases hc : r.closed with
  | true => exact ⟨[], by rw [show r.tick time = r by simp [tick, hc]]; exact Sends.refl r⟩
  | false =>
      unfold tick
      rw [if_neg (show ¬r.closed = true by simp [hc])]
      dsimp only
      -- draining, discovering and the broadcast touch none of what the bookkeeping reads
      have h₁ : Sends r ((if r.drainExits.1.isWholeSystem then r.drainExits.1.discover.1
          else r.drainExits.1).broadcast (.sample time)) [] :=
        (Sends.refl r).congr (by split <;> simp)
      generalize (if r.drainExits.1.isWholeSystem then r.drainExits.1.discover.1
          else r.drainExits.1).broadcast (.sample time) = r₁ at h₁ ⊢
      split
      · split
        · exact ⟨_, (h₁.trans (sends_sendFeeder r₁ rfl rfl)).congr rfl⟩
        · exact ⟨_, h₁.congr rfl⟩
      · exact ⟨_, h₁.congr rfl⟩

theorem sends_release (r : Recorder σ) (w : PipeWrite) :
    ∃ ms, Sends r (r.release w.path w.content w.after) ms := by
  apply release_induction (fun r' => ∃ ms, Sends r r' ms) r w.path w.content w.after
  · exact ⟨[], (Sends.refl r).congr rfl⟩
  · rintro r₁ i wk w' ⟨ms, h₁⟩ - -
    obtain ⟨ms', h₂⟩ := sends_startWatcher r₁ (r.tree.write w.path.parts w.content) w'
    exact ⟨ms ++ ms', (h₁.trans h₂).congr rfl⟩

/-! ## Workers never stop while waiting on a pipe -/

section DoneIdle

variable {r : Recorder σ}

theorem doneIdle_set {ws : List Worker} (h : ∀ wk ∈ ws, wk.DoneIdle) {w : Worker}
    (hw : w.DoneIdle) (i : Nat) : ∀ wk ∈ ws.set i w, wk.DoneIdle := fun wk hwk =>
  (List.mem_or_eq_of_mem_set hwk).elim (h wk) fun he => he ▸ hw

theorem doneIdle_sendWorker (h : ∀ wk ∈ r.workers, wk.DoneIdle) (i : Nat) (c : Command) :
    ∀ wk ∈ (r.sendWorker i c).1.workers, wk.DoneIdle := by
  unfold sendWorker
  split
  · rename_i w hw
    split
    · exact h
    · exact doneIdle_set h (w := w.push c) (h w (List.mem_of_getElem? hw)) i
  · exact h

theorem doneIdle_watch (h : ∀ wk ∈ r.workers, wk.DoneIdle) (pid : Int32) :
    ∀ wk ∈ (r.watch pid).workers, wk.DoneIdle := by
  unfold watch
  split
  · exact h
  · have h' := doneIdle_sendWorker (r := { r with nextWorker := r.nextWorker + 1 }) h
      (r.nextWorker % r.workers.length) (.watch pid)
    dsimp only
    split <;> rename_i r' hs <;> rw [hs] at h' <;> exact h'

theorem doneIdle_foldl_watch (pids : List Int32) :
    ∀ r : Recorder σ, (∀ wk ∈ r.workers, wk.DoneIdle) →
      ∀ wk ∈ (pids.foldl (fun r pid => r.watch pid) r).workers, wk.DoneIdle := by
  induction pids with
  | nil => exact fun _ h => h
  | cons pid pids ih => exact fun r h => ih _ (doneIdle_watch h pid)

theorem doneIdle_broadcast (h : ∀ wk ∈ r.workers, wk.DoneIdle) (c : Command) :
    ∀ wk ∈ (r.broadcast c).workers, wk.DoneIdle := by
  rw [broadcast_eq]
  intro wk hwk
  obtain ⟨w, hw, rfl⟩ := List.mem_map.1 hwk
  exact (h w hw).offer c

theorem doneIdle_tick (h : ∀ wk ∈ r.workers, wk.DoneIdle) (time : Millis) :
    ∀ wk ∈ (r.tick time).workers, wk.DoneIdle := by
  cases hc : r.closed with
  | true => rw [show r.tick time = r by simp [tick, hc]]; exact h
  | false =>
      obtain ⟨r₁, ms, rfl, -, heq⟩ := tick_eq time hc
      rw [heq]
      have hd : ∀ wk ∈ r.drainExits.1.workers, wk.DoneIdle := by rw [drainExits_eq]; exact h
      apply doneIdle_broadcast
      split
      · rw [discover_fst]; exact doneIdle_foldl_watch _ _ hd
      · exact hd

theorem doneIdle_release (h : ∀ wk ∈ r.workers, wk.DoneIdle) (w : PipeWrite) :
    ∀ wk ∈ (r.release w.path w.content w.after).workers, wk.DoneIdle := by
  apply release_induction (fun r' => ∀ wk ∈ r'.workers, wk.DoneIdle) r w.path w.content w.after h
  intro r₁ i wk w' h₁ _ _
  simp only [setWorker, startWatcher_workers]
  exact doneIdle_set h₁ (fun _ => rfl) i

end DoneIdle

section Feeding

variable [Store.Engine σ]

/-! ## The feeder's bookkeeping -/

@[simp] theorem receive_feed (r : Recorder σ) (m : FeederMessage) (rest : List FeederMessage) :
    (r.receive m rest).feed = rest := rfl

@[simp] theorem receive_queued (r : Recorder σ) (m : FeederMessage) (rest : List FeederMessage) :
    (r.receive m rest).queued = if m.isSnapshot then r.queued - 1 else r.queued := rfl

theorem receive_cases (r : Recorder σ) (m : FeederMessage) (rest : List FeederMessage) :
    (m.isShutdown = true ∧ (r.receive m rest).feeder.running = false ∧
        (r.receive m rest).feeder.stoppedAt = r.feeder.stoppedAt) ∨
      (m.isSnapshot = true ∧ (r.receive m rest).feeder.running = false ∧
        (r.receive m rest).feeder.stoppedAt.isSome = true) ∨
      (m.isShutdown = false ∧ (r.receive m rest).feeder.running = r.feeder.running ∧
        (r.receive m rest).feeder.stoppedAt = r.feeder.stoppedAt ∧
        (r.receive m rest).stats.samplesSent = r.stats.samplesSent ∧
        (r.receive m rest).stats.snapshotsCommitted + (r.receive m rest).stats.snapshotsFailed =
          r.stats.snapshotsCommitted + r.stats.snapshotsFailed + (if m.isSnapshot then 1 else 0)) := by
  cases m with
  | announced p name =>
      refine .inr (.inr ?_)
      unfold receive Feeder.handle
      dsimp only
      simp [FeederMessage.isShutdown, FeederMessage.isSnapshot]
  | snapshot s =>
      unfold receive Feeder.handle
      dsimp only
      split
      · refine .inr (.inr ?_)
        simp [FeederMessage.isShutdown, FeederMessage.isSnapshot, HealthStats.record]
        omega
      · exact .inr (.inl ⟨rfl, rfl, rfl⟩)
      · refine .inr (.inr ?_)
        simp [FeederMessage.isShutdown, FeederMessage.isSnapshot, HealthStats.record]
        omega
  | system s =>
      refine .inr (.inr ?_)
      unfold receive Feeder.handle
      dsimp only
      split <;> simp [FeederMessage.isShutdown, FeederMessage.isSnapshot, HealthStats.record]
  | shutdown =>
      exact .inl ⟨rfl, rfl, rfl⟩

theorem Feeder.handle_overflow {f : Feeder σ} {s : Snapshot} {site : OverflowSite}
    (h : (f.store.exec (Store.insertSnapshot s)).2 = .error (.overflow site)) :
    f.handle (.snapshot s) = ({ f with
      store := (f.store.exec (Store.insertSnapshot s)).1, running := false,
      stoppedAt := some site }, none) := by
  unfold Feeder.handle
  rcases hx : f.store.exec (Store.insertSnapshot s) with ⟨st, e⟩
  rw [hx] at h
  cases h
  simp only [hx]

theorem receive_announced (r : Recorder σ) (p : ProcessId) (name : String)
    (rest : List FeederMessage) :
    (r.receive (.announced p name) rest).feeder.store =
        (r.feeder.store.exec (Store.upsertProcess p name)).1 ∧
      (r.receive (.announced p name) rest).feeder.running = r.feeder.running ∧
      (r.receive (.announced p name) rest).stats = r.stats :=
  ⟨rfl, rfl, rfl⟩

theorem receive_overflow {r : Recorder σ} {s : Snapshot} {site : OverflowSite}
    (h : (r.feeder.store.exec (Store.insertSnapshot s)).2 = .error (.overflow site))
    (rest : List FeederMessage) :
    (r.receive (.snapshot s) rest).feeder.running = false ∧
      (r.receive (.snapshot s) rest).feeder.stoppedAt = some site ∧
      (r.receive (.snapshot s) rest).stats = r.stats := by
  simp only [receive, Feeder.handle_overflow h, and_self]

/-- What every state of a recording satisfies about the feeder and the workers' loops. -/
structure FeedLedger (r : Recorder σ) : Prop where
  running_stoppedAt : r.feeder.running = true → r.feeder.stoppedAt = none
  ledger : r.feeder.running = true → r.stats.samplesSent =
    r.stats.snapshotsCommitted + r.stats.snapshotsFailed + r.feed.countP FeederMessage.isSnapshot
  queued : r.feeder.running = true → r.queued = r.feed.countP FeederMessage.isSnapshot
  doneIdle : ∀ wk ∈ r.workers, wk.DoneIdle

section Ledger

variable {r r' : Recorder σ} {ms : List FeederMessage}

omit [Store.Engine σ] in
theorem shutdownsSent_of_sends (hs : Sends r r' ms) : r'.shutdownsSent = r.shutdownsSent := by
  have hms : ms.countP FeederMessage.isShutdown = 0 :=
    List.countP_eq_zero.2 fun m hm => by simp [hs.no_shutdown m hm]
  simp only [shutdownsSent, hs.feed, hs.feeder, List.countP_append, hms, Nat.add_zero]

omit [Store.Engine σ] in
theorem countP_shutdown_eq_zero (h : r.shutdownsSent = 0) :
    r.feed.countP FeederMessage.isShutdown = 0 := by
  unfold shutdownsSent at h
  omega

omit [Store.Engine σ] in
theorem FeedLedger.sends (inv : FeedLedger r) (hs : Sends r r' ms)
    (hw : ∀ wk ∈ r'.workers, wk.DoneIdle) : FeedLedger r' := by
  refine ⟨fun h => ?_, fun h => ?_, fun h => ?_, hw⟩
  · rw [hs.feeder] at h ⊢
    exact inv.running_stoppedAt h
  · rw [hs.feeder] at h
    rw [hs.sent, hs.committed, hs.failed, hs.feed, List.countP_append, inv.ledger h]
    omega
  · rw [hs.feeder] at h
    rw [hs.queued, hs.feed, List.countP_append, inv.queued h]

omit [Store.Engine σ] in
theorem FeedLedger.workerStep (inv : FeedLedger r) {i : Nat} (h : r.workerStep i = some r') :
    FeedLedger r' ∧ r'.shutdownsSent = r.shutdownsSent ∧ r'.closed = r.closed := by
  obtain ⟨ms, w, hs, hws, hw⟩ := workerStep_sends h
  refine ⟨inv.sends hs ?_, shutdownsSent_of_sends hs, hs.closed⟩
  rw [hws]
  exact doneIdle_set inv.doneIdle hw i

/-- The feeder's step keeps the books: a snapshot it takes is committed or failed, or an overflow
stops it; the shutdown it takes counts as sent still. -/
theorem FeedLedger.feederStep (inv : FeedLedger r) (h : r.feederStep = some r') :
    FeedLedger r' ∧ r'.shutdownsSent = r.shutdownsSent ∧ r'.closed = r.closed := by
  obtain ⟨m, rest, hrun, hfeed, rfl⟩ := feederStep_shape h
  have hstop := inv.running_stoppedAt hrun
  have hled := inv.ledger hrun
  have hq := inv.queued hrun
  rw [hfeed, List.countP_cons] at hled hq
  have hsent : r.shutdownsSent =
      rest.countP FeederMessage.isShutdown + (if m.isShutdown then 1 else 0) := by
    simp [shutdownsSent, hfeed, List.countP_cons, Feeder.stoppedAtShutdown, hrun]
  have hw : ∀ wk ∈ (r.receive m rest).workers, wk.DoneIdle := inv.doneIdle
  rcases receive_cases r m rest with ⟨hm, hr, hs⟩ | ⟨hm, hr, hs⟩ | ⟨hm, hr, hs, hc, hcf⟩
  · -- the feeder stops at the shutdown, which still counts as sent
    refine ⟨⟨fun h => by simp [hr] at h, fun h => by simp [hr] at h, fun h => by simp [hr] at h,
      hw⟩, ?_, rfl⟩
    rw [hsent, hm]
    simp [shutdownsSent, Feeder.stoppedAtShutdown, hr, hs, hstop]
  · -- an overflow stops the feeder
    refine ⟨⟨fun h => by simp [hr] at h, fun h => by simp [hr] at h, fun h => by simp [hr] at h,
      hw⟩, ?_, rfl⟩
    rw [hsent, FeederMessage.isShutdown_of_isSnapshot hm]
    simp [shutdownsSent, Feeder.stoppedAtShutdown, hr, Option.isSome_iff_ne_none.1 hs]
  · have hrun' : (r.receive m rest).feeder.running = true := hr.trans hrun
    refine ⟨⟨fun _ => hs.trans hstop, fun _ => ?_, fun _ => ?_, hw⟩, ?_, rfl⟩
    · rw [receive_feed, hc]
      cases hsnap : m.isSnapshot <;> simp only [hsnap] at hcf hled <;> omega
    · rw [receive_queued, receive_feed]
      cases hsnap : m.isSnapshot <;> simp only [hsnap, Bool.false_eq_true, ↓reduceIte] at hq ⊢ <;>
        omega
    · rw [hsent, hm]
      simp [shutdownsSent, Feeder.stoppedAtShutdown, hrun']

theorem FeedLedger.threads (inv : FeedLedger r) (h : Threads r r') :
    FeedLedger r' ∧ r'.shutdownsSent = r.shutdownsSent ∧ r'.closed = r.closed := by
  induction h with
  | refl => exact ⟨inv, rfl, rfl⟩
  | worker i hs _ ih =>
      obtain ⟨inv₁, hs₁, hc₁⟩ := inv.workerStep hs
      obtain ⟨inv₂, hs₂, hc₂⟩ := ih inv₁
      exact ⟨inv₂, hs₂.trans hs₁, hc₂.trans hc₁⟩
  | feeder hs _ ih =>
      obtain ⟨inv₁, hs₁, hc₁⟩ := inv.feederStep hs
      obtain ⟨inv₂, hs₂, hc₂⟩ := ih inv₁
      exact ⟨inv₂, hs₂.trans hs₁, hc₂.trans hc₁⟩

end Ledger

/-! ## Shutdowns sent -/

/-- What every state of a run satisfies about the feeder's channel: the bookkeeping holds, and
the shutdown is sent once, at close, unless an overflow stopped the feeder before. -/
structure FeedInvariant (r : Recorder σ) : Prop extends FeedLedger r where
  open_shutdowns : r.closed = false → r.shutdownsSent = 0
  closed_shutdowns : r.closed = true →
    r.shutdownsSent = 1 ∨ r.shutdownsSent = 0 ∧ r.feeder.stoppedAt.isSome = true

section Invariant

variable {r r' : Recorder σ}

omit [Store.Engine σ] in
theorem FeedInvariant.keep (inv : FeedInvariant r) (hl : FeedLedger r')
    (hs : r'.shutdownsSent = r.shutdownsSent) (hc : r'.closed = r.closed)
    (ho : r.feeder.stoppedAt.isSome = true → r'.feeder.stoppedAt.isSome = true) :
    FeedInvariant r' where
  toFeedLedger := hl
  open_shutdowns := fun h => hs.trans (inv.open_shutdowns (hc.symm.trans h))
  closed_shutdowns := fun h => by
    rw [hs]
    rcases inv.closed_shutdowns (hc.symm.trans h) with h₁ | ⟨h₀, hso⟩
    · exact .inl h₁
    · exact .inr ⟨h₀, ho hso⟩

omit [Store.Engine σ] in
theorem FeedInvariant.sends (inv : FeedInvariant r) {ms : List FeederMessage} (hs : Sends r r' ms)
    (hw : ∀ wk ∈ r'.workers, wk.DoneIdle) : FeedInvariant r' :=
  inv.keep (inv.toFeedLedger.sends hs hw) (shutdownsSent_of_sends hs) hs.closed
    fun h => by rw [hs.feeder]; exact h

theorem FeedInvariant.waited (inv : FeedInvariant r) (hc : r.closed = false)
    (hw : Threads r.stopping r') : FeedLedger r' ∧ r'.shutdownsSent = 0 ∧ r'.closed = true := by
  have hl₀ : FeedLedger { r with closed := true } :=
    ⟨inv.running_stoppedAt, inv.ledger, inv.queued, inv.doneIdle⟩
  have hs : Sends { r with closed := true } r.stopping [] :=
    (Sends.refl _).congr (by simp [stopping])
  have hl₁ : FeedLedger r.stopping :=
    hl₀.sends hs (doneIdle_broadcast (doneIdle_broadcast (r := { r with closed := true })
      inv.doneIdle _) _)
  obtain ⟨hl₂, hs₂, hc₂⟩ := hl₁.threads hw
  refine ⟨hl₂, ?_, hc₂.trans hs.closed⟩
  rw [hs₂, shutdownsSent_of_sends hs]
  exact inv.open_shutdowns hc

/-- Ending a close after any wait sends the shutdown once, after everything sent so far, unless
an overflow stopped the feeder. -/
theorem FeedInvariant.finish_feed (inv : FeedInvariant r) (hc : r.closed = false)
    (hw : Threads r.stopping r') :
    FeedLedger r'.finishClose ∧ r'.finishClose.closed = true ∧
      ∃ F : List FeederMessage, F.countP FeederMessage.isShutdown = 0 ∧
        (r'.finishClose.feeder.running = true ∧ r'.finishClose.feed = F ++ [.shutdown] ∨
          r'.finishClose.feeder.running = false ∧ r'.finishClose.feeder.stoppedAt.isSome = true ∧
            r'.finishClose.feed = F) := by
  obtain ⟨hl, h0, hcl⟩ := inv.waited hc hw
  have hf0 := countP_shutdown_eq_zero h0
  rw [finishClose_eq]
  refine ⟨⟨hl.running_stoppedAt, fun h => ?_, fun h => ?_, hl.doneIdle⟩, hcl, r'.feed, hf0, ?_⟩
  · rw [if_pos h, List.countP_append, hl.ledger h]
    simp [FeederMessage.isSnapshot]
  · rw [if_pos h, List.countP_append, hl.queued h]
    simp [FeederMessage.isSnapshot]
  · by_cases hrun : r'.feeder.running = true
    · exact .inl ⟨hrun, by simp [hrun]⟩
    · -- no shutdown was sent, so the feeder was stopped by an overflow
      have hst : r'.feeder.stoppedAtShutdown = false := by
        unfold shutdownsSent at h0
        split at h0 <;> simp_all
      simp only [Bool.not_eq_true] at hrun
      simp only [Feeder.stoppedAtShutdown, hrun, Bool.not_false, Bool.true_and] at hst
      exact .inr ⟨hrun, by simpa [Option.isSome_iff_ne_none] using hst, by simp [hrun]⟩

theorem FeedInvariant.finish (inv : FeedInvariant r) (hc : r.closed = false)
    (hw : Threads r.stopping r') : FeedInvariant r'.finishClose := by
  obtain ⟨hl, hcl, F, hF, hcases⟩ := inv.finish_feed hc hw
  refine ⟨hl, fun h => Bool.noConfusion (hcl.symm.trans h), fun _ => ?_⟩
  rcases hcases with ⟨hrun, hfeed⟩ | ⟨hrun, hso, hfeed⟩
  · left
    simp [shutdownsSent, hfeed, hF, Feeder.stoppedAtShutdown, hrun, FeederMessage.isShutdown]
  · right
    refine ⟨?_, hso⟩
    simp [shutdownsSent, hfeed, hF, Feeder.stoppedAtShutdown, Option.isSome_iff_ne_none.1 hso]

theorem FeedInvariant.close (inv : FeedInvariant r) : FeedInvariant r.close.1 := by
  cases hc : r.closed with
  | true => rw [close_closed r hc]; exact inv
  | false =>
      obtain ⟨rcv, k, r', hw, hclose⟩ := close_waits hc
      rw [hclose]
      exact inv.finish hc hw.feeding.threads

theorem FeedInvariant.step (inv : FeedInvariant r) {new : List (Int32 × Nat)}
    (hs : Step r new r') : FeedInvariant r' := by
  cases hs with
  | tick time =>
      obtain ⟨ms, h⟩ := sends_tick r time
      exact inv.sends h (doneIdle_tick inv.doneIdle time)
  | discover =>
      have hw : ∀ wk ∈ r.discover.1.workers, wk.DoneIdle := by
        rw [discover_fst]; exact doneIdle_foldl_watch _ r inv.doneIdle
      exact inv.sends ((Sends.refl r).congr (feedView_discover r)) hw
  | close => exact inv.close
  | worker i h =>
      obtain ⟨hl, hs, hc⟩ := inv.toFeedLedger.workerStep h
      exact inv.keep hl hs hc fun hso => by
        obtain ⟨ms, w, hsend, -, -⟩ := workerStep_sends h
        rw [hsend.feeder]; exact hso
  | feeder h =>
      obtain ⟨hl, hs, hc⟩ := inv.toFeedLedger.feederStep h
      obtain ⟨-, -, hrun, -, -⟩ := feederStep_shape h
      exact inv.keep hl hs hc fun hso => by simp [inv.running_stoppedAt hrun] at hso
  | proc tree => exact inv.sends ((Sends.refl r).congr rfl) inv.doneIdle
  | release w =>
      obtain ⟨ms, h⟩ := sends_release r w
      exact inv.sends h (doneIdle_release inv.doneIdle w)

theorem FeedInvariant.threads (inv : FeedInvariant r) (h : Threads r r') : FeedInvariant r' := by
  induction h with
  | refl => exact inv
  | worker i hs _ ih => exact ih (inv.step (.worker i hs))
  | feeder hs _ ih => exact ih (inv.step (.feeder hs))

theorem FeedInvariant.delivers (inv : FeedInvariant r) {rcv : List FeederMessage}
    (h : Delivers r rcv r') : FeedInvariant r' := by
  cases h with
  | threads hf => exact inv.threads hf.threads
  | tick time => exact inv.step (.tick r time)
  | discover => exact inv.step (.discover r)
  | proc tree => exact inv.step (.proc r tree)
  | release w => exact inv.step (.release r w)
  | close hc hw => exact inv.finish hc hw.feeding.threads
  | closed => exact inv

omit [Store.Engine σ] in
theorem FeedInvariant.fresh (o : Options) (tree : FileTree) (store : Store.Handle σ) :
    FeedInvariant
      { options := o, tree := tree, workers := List.replicate (max o.workers 1) {},
        feeder := { store := store } } where
  running_stoppedAt := fun _ => rfl
  ledger := fun _ => rfl
  queued := fun _ => rfl
  doneIdle := fun wk hwk h => by
    rw [(List.mem_replicate.1 hwk).2] at h
    cases h
  open_shutdowns := fun _ => rfl
  closed_shutdowns := fun h => by cases h

omit [Store.Engine σ] in
theorem FeedInvariant.start (o : Options) (tree : FileTree) (store : Store.Handle σ) :
    FeedInvariant (start o tree store) :=
  (FeedInvariant.fresh o tree store).sends
    ((Sends.refl _).congr (feedView_foldl_watch o.pids _))
    (doneIdle_foldl_watch o.pids _ (FeedInvariant.fresh o tree store).doneIdle)

theorem Delivery.feedInvariant {r₀ : Recorder σ} {rcv : List FeederMessage}
    (h : Delivery r₀ rcv r) (h₀ : FeedInvariant r₀) : FeedInvariant r := by
  induction h with
  | refl => exact h₀
  | step _ hs ih => exact ih.delivers hs

end Invariant

/-! ## After every worker has stopped -/

/-- The recording is closed and every worker's loop has ended, none of them waiting on a pipe:
nothing can send to the feeder any more. -/
structure Quiescent (r : Recorder σ) : Prop where
  closed : r.closed = true
  stopped : ∀ wk ∈ r.workers, wk.finished = true ∧ wk.waiting = none

section Quiescent

variable {r r' : Recorder σ}

omit [Store.Engine σ] in
theorem sendWorker_of_stopped (h : ∀ wk ∈ r.workers, wk.finished = true) (i : Nat)
    (c : Command) : r.sendWorker i c = (r, false) := by
  unfold sendWorker
  split
  · rename_i w hw
    rw [if_pos (h w (List.mem_of_getElem? hw))]
  · rfl

omit [Store.Engine σ] in
theorem watch_workers_of_stopped (h : ∀ wk ∈ r.workers, wk.finished = true) (pid : Int32) :
    (r.watch pid).workers = r.workers := by
  unfold watch
  split
  · rfl
  · dsimp only
    rw [sendWorker_of_stopped (r := { r with nextWorker := r.nextWorker + 1 }) h]

omit [Store.Engine σ] in
theorem foldl_watch_workers_of_stopped (pids : List Int32) :
    ∀ r : Recorder σ, (∀ wk ∈ r.workers, wk.finished = true) →
      (pids.foldl (fun r pid => r.watch pid) r).workers = r.workers := by
  induction pids with
  | nil => exact fun _ _ => rfl
  | cons pid pids ih =>
      intro r h
      have hw := watch_workers_of_stopped h pid
      rw [List.foldl_cons, ih _ (hw ▸ h), hw]

/-- Once every worker has stopped, a move adds nothing to the feeder's channel. -/
theorem Quiescent.step (hq : Quiescent r) {new : List (Int32 × Nat)} (hs : Step r new r') :
    Quiescent r' ∧ r'.feed <:+ r.feed := by
  have hfin : ∀ wk ∈ r.workers, wk.finished = true := fun wk hwk => (hq.stopped wk hwk).1
  cases hs with
  | tick time =>
      rw [show r.tick time = r by simp [tick, hq.closed]]
      exact ⟨hq, List.suffix_refl _⟩
  | discover =>
      have hv := feedView_discover r
      simp only [feedView, Prod.mk.injEq] at hv
      have hws : r.discover.1.workers = r.workers := by
        rw [discover_fst]; exact foldl_watch_workers_of_stopped _ r hfin
      exact ⟨⟨hv.1.trans hq.closed, hws ▸ hq.stopped⟩, hv.2.2.1 ▸ List.suffix_refl _⟩
  | close =>
      rw [close_closed r hq.closed]
      exact ⟨hq, List.suffix_refl _⟩
  | worker i h =>
      obtain ⟨wk, c, wk', hw, hf, -, -⟩ := workerStep_eq_some h
      have := hfin wk (List.mem_of_getElem? hw)
      rw [hf] at this
      cases this
  | feeder h =>
      obtain ⟨m, rest, -, hfeed, rfl⟩ := feederStep_shape h
      exact ⟨⟨hq.closed, hq.stopped⟩, by rw [hfeed]; exact List.suffix_cons m rest⟩
  | proc tree => exact ⟨⟨hq.closed, hq.stopped⟩, List.suffix_refl _⟩
  | release w =>
      -- no worker waits on a pipe, so the write only changes the proc file system
      have hrel : r.release w.path w.content w.after =
          { r with tree := r.tree.write w.path.parts w.after } := by
        apply release_induction (fun r' => r' = { r with tree := r.tree.write w.path.parts w.after })
          r w.path w.content w.after rfl
        rintro r₁ i wk w' rfl hw hwait
        have := (hq.stopped wk (List.mem_of_getElem? hw)).2
        rw [hwait] at this
        cases this
      rw [hrel]
      exact ⟨⟨hq.closed, hq.stopped⟩, List.suffix_refl _⟩

theorem Quiescent.threads (hq : Quiescent r) (h : Threads r r') :
    Quiescent r' ∧ r'.feed <:+ r.feed := by
  induction h with
  | refl => exact ⟨hq, List.suffix_refl _⟩
  | worker i hs _ ih =>
      obtain ⟨hq₁, hsuf₁⟩ := hq.step (.worker i hs)
      obtain ⟨hq₂, hsuf₂⟩ := ih hq₁
      exact ⟨hq₂, hsuf₂.trans hsuf₁⟩
  | feeder hs _ ih =>
      obtain ⟨hq₁, hsuf₁⟩ := hq.step (.feeder hs)
      obtain ⟨hq₂, hsuf₂⟩ := ih hq₁
      exact ⟨hq₂, hsuf₂.trans hsuf₁⟩

theorem Quiescent.delivers (hq : Quiescent r) {rcv : List FeederMessage} (h : Delivers r rcv r') :
    Quiescent r' ∧ r'.feed <:+ r.feed := by
  cases h with
  | threads hf => exact hq.threads hf.threads
  | tick time => exact hq.step (.tick r time)
  | discover => exact hq.step (.discover r)
  | proc tree => exact hq.step (.proc r tree)
  | release w => exact hq.step (.release r w)
  | close hc _ =>
      rw [hq.closed] at hc
      cases hc
  | closed => exact ⟨hq, List.suffix_refl _⟩

theorem Delivery.quiescent {r₀ : Recorder σ} {rcv : List FeederMessage} (h : Delivery r₀ rcv r)
    (hq : Quiescent r₀) : Quiescent r ∧ r.feed <:+ r₀.feed := by
  induction h with
  | refl => exact ⟨hq, List.suffix_refl _⟩
  | step _ hs ih =>
      obtain ⟨hq₁, hsuf₁⟩ := ih
      obtain ⟨hq₂, hsuf₂⟩ := hq₁.delivers hs
      exact ⟨hq₂, hsuf₂.trans hsuf₁⟩

theorem FeedInvariant.finish_quiescent (inv : FeedInvariant r) (hc : r.closed = false)
    {rcv : List FeederMessage} {k : Nat}
    (hw : Waits r.options.maxPolls r.stopping rcv k r' true) : Quiescent r'.finishClose := by
  have hth := hw.feeding.threads
  have hdone := (inv.finish hc hth).doneIdle
  refine ⟨(inv.finish_feed hc hth).2.1, fun wk hwk => ?_⟩
  -- the wait succeeded, so every worker had stopped by its end
  have hstop : r'.allStopped = true := hw.polls.2.1.symm
  have hws : r'.finishClose.workers = r'.workers := by rw [finishClose_eq]
  have hfin : wk.finished = true := List.all_eq_true.1 hstop wk (hws ▸ hwk)
  exact ⟨hfin, hdone wk hwk hfin⟩

end Quiescent

/-! ## What the feeder has handled -/

section Handled

variable {rcv : List FeederMessage} {r r' : Recorder σ}

theorem Feeding.feeder_eq (h : Feeding r rcv r') : r'.feeder = r.feeder.feedAll rcv := by
  induction h with
  | refl => rfl
  | worker i hs _ ih =>
      obtain ⟨ms, w, hsend, -, -⟩ := workerStep_sends hs
      rw [ih, hsend.feeder]
  | feeder _ _ _ ih => exact ih

theorem Delivers.feeder_eq (h : Delivers r rcv r') : r'.feeder = r.feeder.feedAll rcv := by
  cases h with
  | threads hf => exact hf.feeder_eq
  | tick time =>
      obtain ⟨ms, hs⟩ := sends_tick r time
      exact hs.feeder
  | discover =>
      have hv := feedView_discover r
      simp only [feedView, Prod.mk.injEq] at hv
      exact hv.2.1
  | proc tree => rfl
  | release w =>
      obtain ⟨ms, hs⟩ := sends_release r w
      exact hs.feeder
  | close _ hw =>
      have hstop : r.stopping.feeder = r.feeder := by simp [stopping, broadcast_eq]
      rw [finishClose_eq]
      exact hw.feeding.feeder_eq.trans (by rw [hstop])
  | closed => rfl

/-- In a labelled run, the feeder is the one it started as after handling what it received. -/
theorem Delivery.feeder_eq {r₀ : Recorder σ} (h : Delivery r₀ rcv r) :
    r.feeder = r₀.feeder.feedAll rcv := by
  induction h with
  | refl => rfl
  | step _ hs ih => rw [hs.feeder_eq, ih, Feeder.feedAll_append]

end Handled

/-! ## After the feeder has stopped -/

def booksView (r : Recorder σ) : Feeder σ × List FeederMessage × Nat × Nat × Nat × Nat :=
  r.feedView.2

section Stopped

variable {r r' : Recorder σ}

omit [Store.Engine σ] in
theorem Sends.booksView {ms : List FeederMessage} (hs : Sends r r' ms)
    (hstop : r.feeder.running = false) : r'.booksView = r.booksView := by
  obtain rfl := hs.stopped hstop
  simp [Recorder.booksView, feedView, hs.feeder, hs.feed, hs.sent, hs.committed, hs.failed,
    hs.queued]

theorem Threads.booksView (h : Threads r r') (hstop : r.feeder.running = false) :
    r'.booksView = r.booksView := by
  induction h with
  | refl => rfl
  | worker i hs _ ih =>
      obtain ⟨ms, w, hsend, -, -⟩ := workerStep_sends hs
      rw [ih (by rw [hsend.feeder]; exact hstop), hsend.booksView hstop]
  | feeder hs _ _ =>
      obtain ⟨-, -, hrun, -, -⟩ := feederStep_shape hs
      rw [hstop] at hrun
      cases hrun

omit [Store.Engine σ] in
theorem booksView_finishClose (hstop : r.feeder.running = false) :
    r.finishClose.booksView = r.booksView := by
  rw [finishClose_eq, hstop]
  rfl

theorem finishClose_booksView (hw : Threads r.stopping r') (hstop : r.feeder.running = false) :
    r'.finishClose.booksView = r.booksView := by
  have hs : Sends { r with closed := true } r.stopping [] :=
    (Sends.refl _).congr (by simp [stopping])
  have hstop₁ : r.stopping.feeder.running = false := by
    rw [hs.feeder]
    exact hstop
  have hb : r'.booksView = r.booksView := (hw.booksView hstop₁).trans (hs.booksView hstop)
  have hstop' : r'.feeder.running = false := by
    simp only [Recorder.booksView, feedView, Prod.mk.injEq] at hb
    rw [hb.1]
    exact hstop
  exact (booksView_finishClose hstop').trans hb

/-- Once the feeder has stopped, no move of a recording changes its books: nothing reaches it any
more, and no snapshot is counted as sent, committed or failed. -/
theorem Delivers.booksView {rcv : List FeederMessage} (h : Delivers r rcv r')
    (hstop : r.feeder.running = false) : r'.booksView = r.booksView := by
  cases h with
  | threads hf => exact hf.threads.booksView hstop
  | tick time =>
      obtain ⟨ms, hs⟩ := sends_tick r time
      exact hs.booksView hstop
  | discover => exact congrArg Prod.snd (feedView_discover r)
  | proc tree => rfl
  | release w =>
      obtain ⟨ms, hs⟩ := sends_release r w
      exact hs.booksView hstop
  | close _ hw => exact finishClose_booksView hw.feeding.threads hstop
  | closed => rfl

theorem Delivery.booksView {r₀ : Recorder σ} {rcv : List FeederMessage} (h : Delivery r₀ rcv r)
    (hstop : r₀.feeder.running = false) : r.booksView = r₀.booksView := by
  induction h with
  | refl => rfl
  | @step _ _ r₁ _ _ hs ih =>
      have hstop₁ : r₁.feeder.running = false := by
        have hb := ih
        simp only [Recorder.booksView, feedView, Prod.mk.injEq] at hb
        rw [hb.1]
        exact hstop
      exact (hs.booksView hstop₁).trans ih

end Stopped

theorem eq_nil_of_shutdown_suffix {F rest : List FeederMessage}
    (hF : F.countP FeederMessage.isShutdown = 0) (h : .shutdown :: rest <:+ F ++ [.shutdown]) :
    rest = [] := by
  obtain ⟨t, ht⟩ := h
  rcases List.eq_nil_or_concat rest with hr | ⟨L, b, rfl⟩
  · exact hr
  · -- the suffix ends where the channel ends, with a second shutdown
    rw [List.concat_eq_append] at ht
    have ht' : (t ++ FeederMessage.shutdown :: L) ++ [b] = F ++ [FeederMessage.shutdown] := by
      rw [← ht]; simp
    have hb : b = .shutdown := by simpa using (List.append_inj' ht' rfl).2
    have hcount := congrArg (List.countP FeederMessage.isShutdown) ht
    simp only [List.countP_append, List.countP_cons, hF, hb, FeederMessage.isShutdown] at hcount
    simp at hcount
    omega

/-- What closing guarantees in a state `r` of a recording. -/
structure CloseContract (r : Recorder σ) : Prop where
  /-- Closing an open recording waits for the workers, in one of the ways a wait can go, and then
  ends the close. Every wait takes at most `maxPolls` polls, and reports failure exactly when
  some worker still runs once every poll is spent. -/
  polls : r.closed = false →
    (∃ rcv k r', Waits r.options.maxPolls r.stopping rcv k r' r.close.2 ∧
      r.close.1 = r'.finishClose) ∧
    ∀ rcv k r' b, Waits r.options.maxPolls r.stopping rcv k r' b →
      k ≤ r.options.maxPolls ∧ (b = false ↔ k = r.options.maxPolls ∧ r'.allStopped = false)
  open_shutdowns : r.closed = false → r.shutdownsSent = 0
  closed_shutdowns : r.closed = true →
    (r.shutdownsSent = 1 ∨ r.shutdownsSent = 0 ∧ r.feeder.stoppedAt.isSome = true) ∧
      ∀ time, r.tick time = r
  /-- After a close whose wait saw every worker stop, the shutdown ends the feeder's channel and
  nothing joins the channel any more; when the feeder comes to the shutdown it is the only
  message left, every snapshot sent was committed or failed, and none is in flight. -/
  drained : r.closed = false → ∀ rcv k r', Waits r.options.maxPolls r.stopping rcv k r' true →
    (r'.finishClose.feeder.running = true → ∃ F : List FeederMessage,
      r'.finishClose.feed = F ++ [.shutdown] ∧ ∀ m ∈ F, m.isShutdown = false) ∧
    ∀ (rcv' : List FeederMessage) (r'' : Recorder σ), Delivery r'.finishClose rcv' r'' →
      r''.feed <:+ r'.finishClose.feed ∧
      ∀ rest, r''.feeder.running = true → r''.feed = .shutdown :: rest →
        rest = [] ∧ r''.stats.snapshotsCommitted + r''.stats.snapshotsFailed = r''.stats.samplesSent ∧
          r''.queued = 0

theorem waits_polls {r r' : Recorder σ} {rcv : List FeederMessage} {k : Nat} {b : Bool}
    (hw : Waits r.options.maxPolls r.stopping rcv k r' b) :
    k ≤ r.options.maxPolls ∧ (b = false ↔ k = r.options.maxPolls ∧ r'.allStopped = false) := by
  obtain ⟨hk, hb, hfail⟩ := hw.polls
  refine ⟨hk, ⟨fun h => ⟨hfail h, hb ▸ h⟩, fun ⟨_, h⟩ => hb.trans h⟩⟩

/-- After a close whose wait saw every worker stop, the feeder handles everything sent before the
shutdown, and its books balance when it comes to the shutdown. -/
theorem FeedInvariant.drained {r r' : Recorder σ} (inv : FeedInvariant r) (hc : r.closed = false)
    {rcv : List FeederMessage} {k : Nat} (hw : Waits r.options.maxPolls r.stopping rcv k r' true) :
    (r'.finishClose.feeder.running = true → ∃ F : List FeederMessage,
      r'.finishClose.feed = F ++ [.shutdown] ∧ ∀ m ∈ F, m.isShutdown = false) ∧
    ∀ (rcv' : List FeederMessage) (r'' : Recorder σ), Delivery r'.finishClose rcv' r'' →
      r''.feed <:+ r'.finishClose.feed ∧
      ∀ rest, r''.feeder.running = true → r''.feed = .shutdown :: rest →
        rest = [] ∧ r''.stats.snapshotsCommitted + r''.stats.snapshotsFailed = r''.stats.samplesSent ∧
          r''.queued = 0 := by
  have hth := hw.feeding.threads
  obtain ⟨-, -, F, hF, hcases⟩ := inv.finish_feed hc hth
  have hnone : ∀ m ∈ F, m.isShutdown = false := fun m hm => by
    simpa using List.countP_eq_zero.1 hF m hm
  refine ⟨fun hrun => ?_, fun rcv' r'' hd => ?_⟩
  · rcases hcases with ⟨-, hfeed⟩ | ⟨hstop, -, -⟩
    · exact ⟨F, hfeed, hnone⟩
    · rw [hstop] at hrun; cases hrun
  obtain ⟨-, hsuf⟩ := hd.quiescent (inv.finish_quiescent hc hw)
  have inv' := hd.feedInvariant (inv.finish hc hth)
  refine ⟨hsuf, fun rest hrun hfeed => ?_⟩
  rw [hfeed] at hsuf
  have hrest : rest = [] := by
    rcases hcases with ⟨-, hF'⟩ | ⟨-, -, hF'⟩
    · rw [hF'] at hsuf
      exact eq_nil_of_shutdown_suffix hF hsuf
    · -- without a shutdown in the channel, no suffix of it starts with one
      rw [hF'] at hsuf
      have := hsuf.sublist.countP_le (p := FeederMessage.isShutdown)
      simp [hF, List.countP_cons, FeederMessage.isShutdown] at this
  subst hrest
  have hled := inv'.ledger hrun
  have hq := inv'.queued hrun
  rw [hfeed] at hled hq
  simp [FeederMessage.isSnapshot] at hled hq
  exact ⟨rfl, hled.symm, hq⟩

/-- In every state of a recording, whatever the threads do while a close waits: closing waits for
at most `maxPolls` polls and fails exactly when some worker still runs once they are spent; the
shutdown is sent once, at the first close, unless an overflow stopped the feeder before; and after
a close that saw every worker stop, the feeder handles every message sent before the shutdown,
with every snapshot sent committed or failed and none in flight when it comes to the shutdown. -/
theorem close_shutdown_once {o : Options} {tree : FileTree} {store : Store.Handle σ}
    {rcv : List FeederMessage} {r : Recorder σ} (h : Delivery (start o tree store) rcv r) :
    CloseContract r := by
  have inv := h.feedInvariant (FeedInvariant.start o tree store)
  exact ⟨fun hc => ⟨close_waits hc, fun _ _ _ _ hw => waits_polls hw⟩, inv.open_shutdowns,
    fun hc => ⟨inv.closed_shutdowns hc, fun time => by simp [tick, hc]⟩,
    fun hc _ _ _ hw => inv.drained hc hw⟩

def onePid : Options :=
  { root := { shown := "proc", parts := ["proc"] }, pids := [100] }

/-- At the start of a recording of one process, closing sees the worker stop, so every guarantee
of a successful close applies. -/
theorem close_shutdown_once_one_pid :
    ∃ r, Delivery (start onePid ⟨[]⟩ ({ conn := Store.Engine.fresh } : Store.Storage)) [] r ∧
      r.closed = false ∧ r.close.2 = true ∧ CloseContract r :=
  ⟨_, .refl, rfl, by decide, close_shutdown_once .refl⟩

def overflowOne : Options :=
  { root := { shown := "proc", parts := ["proc"] }, pids := [100], recordSystem := false }

/-- A proc tree in which process 100 has two mappings whose resident sizes do not fit one word
together. -/
def overflowTree : FileTree :=
  ⟨[(["proc"], .dir), (["proc", "100"], .dir),
    (["proc", "100", "smaps"], .file (Text.utf8Bytes
      ("0-1 r-xp 0 0:0 0\nRss: 18446744073709551615 kB\nZ: 0 kB\n" ++
        "1-2 r-xp 0 0:0 0\nRss: 1 kB\nZ: 0 kB\n"))),
    (["proc", "100", "statm"], .file (Text.utf8Bytes "0 0 0 0 0 0 0\n"))]⟩

def blankStore : Store.Handle Store.Reference.Conn :=
  Store.Handle.opened Store.Engine.fresh

/-- The recording of `overflowTree` once its worker has started the watcher, a tick has come at
1000 ms and the worker has sampled the process. -/
def overflowSampled : Recorder Store.Reference.Conn :=
  (((start overflowOne overflowTree blankStore).workerStep 0).bind fun r =>
    (r.tick 1000).workerStep 0).getD (start overflowOne overflowTree blankStore)

def overflowStopped : Recorder Store.Reference.Conn :=
  ((overflowSampled.stopping.workerStep 0).bind fun r => r.workerStep 0).getD overflowSampled

/-- A snapshot whose resident total leaves its word stops the feeder. When the feeder comes to
one while a close waits, the close sees its worker stop, yet sends no shutdown, and the snapshot
is lost: in every later state no shutdown was ever sent, and of the one snapshot sent none was
committed or failed. -/
theorem close_after_feeder_overflow :
    ∃ rcv r rcv' k r', Delivery (start overflowOne overflowTree blankStore) rcv r ∧
      r.closed = false ∧ Waits r.options.maxPolls r.stopping rcv' k r' true ∧
      ∀ rcv'' r'', Delivery r'.finishClose rcv'' r'' →
        r''.shutdownsSent = 0 ∧ r''.feeder.stoppedAt = some .residentTotal ∧
          r''.stats.samplesSent = 1 ∧
          r''.stats.snapshotsCommitted + r''.stats.snapshotsFailed = 0 := by
  have hd : Delivery (start overflowOne overflowTree blankStore) [] overflowSampled :=
    Delivery.step (Delivery.step (Delivery.step .refl (.threads (.worker 0 rfl (.refl _))))
      (.tick _ 1000)) (.threads (.worker 0 rfl (.refl _)))
  have hstop : Feeding overflowSampled.stopping [] overflowStopped :=
    .worker 0 rfl (.worker 0 rfl (.refl _))
  obtain ⟨s, hfeed, hsums, hlen, hall⟩ : ∃ s : Snapshot,
      overflowStopped.feed = [.announced ⟨100, 0⟩ "", .snapshot s] ∧
        s.sums = .error .residentTotal ∧ s.ranges.length = 2 ∧
        s.ranges.all (·.key.process == s.process) = true :=
    ⟨_, rfl, by with_unfolding_all rfl, by with_unfolding_all rfl, by with_unfolding_all rfl⟩
  have hown : ∀ m ∈ s.ranges, m.key.process = s.process := fun m hm => by
    simpa using List.all_eq_true.1 hall m hm
  have hf₀ : overflowStopped.feeder = { store := Store.Handle.opened Store.Engine.fresh } := by
    have hs : overflowSampled.stopping.feeder = overflowSampled.feeder := by
      simp [stopping, broadcast_eq]
    rw [hstop.feeder_eq, hs, hd.feeder_eq, start_feeder, blankStore]
    rfl
  -- the announcement is written to the blank store, whose view is a store's tables
  have hv₀ := (Store.start_eq (L := Store.Reference.documented) (t := {}) (c := Store.Engine.fresh)
    rfl (.inl ⟨rfl, rfl⟩)).2
  obtain ⟨a₁, t₁, -, rfl, hv₁⟩ := Store.exec_upsertProcess_goes Store.Reference.complete
    (h := Store.Handle.opened Store.Engine.fresh) ⟨100, 0⟩ "" (by rw [hv₀]) (by decide)
  rw [hv₀] at hv₁
  set r₁ := overflowStopped.receive (.announced ⟨100, 0⟩ "") [.snapshot s]
  have hs₁ : r₁.feeder.store =
      ((Store.Handle.opened Store.Engine.fresh).exec (Store.upsertProcess ⟨100, 0⟩ "")).1 := by
    rw [(receive_announced _ _ _ _).1, hf₀]
  have hrun₁ : r₁.feeder.running = true := by
    rw [(receive_announced _ _ _ _).2.1, hf₀]
  have hover : (r₁.feeder.store.exec (Store.insertSnapshot s)).2 =
      .error (.overflow .residentTotal) := by
    have hsize : (({} : Store.Tables).putProcess (ProcessId.row ⟨100, 0⟩ "")).size = 1 := rfl
    have hroom : (({} : Store.Tables).putProcess (ProcessId.row ⟨100, 0⟩ "")).size +
        s.ranges.length + 1 < Store.rowLimit := by
      simp only [hsize, hlen]
      decide
    rw [hs₁]
    exact (Store.exec_insertSnapshot_overflow Store.Reference.complete hv₁ hsums hown hroom).1
  obtain ⟨hrun₂, hsite₂, hstats₂⟩ := receive_overflow hover []
  set r₂ := r₁.receive (.snapshot s) []
  have hstats : r₂.stats = overflowStopped.stats := hstats₂.trans (receive_announced _ _ _ _).2.2
  refine ⟨[], overflowSampled, _, _, r₂, hd, rfl,
    .poll rfl (hstop.trans (.feeder (by rw [hf₀]) hfeed (.feeder hrun₁ rfl (.refl _))))
      (.stopped rfl), fun rcv'' r'' h => ?_⟩
  -- the feeder stopped before the close, so nothing changes its books any more
  have hb : r''.booksView = r₂.booksView :=
    (h.booksView ((congrArg Feeder.running (finishClose_feeder r₂)).trans hrun₂)).trans
      (booksView_finishClose hrun₂)
  simp only [Recorder.booksView, feedView, Prod.mk.injEq] at hb
  have hsamples : overflowStopped.stats.samplesSent = 1 ∧
      overflowStopped.stats.snapshotsCommitted + overflowStopped.stats.snapshotsFailed = 0 := by
    decide +kernel
  refine ⟨?_, ?_, ?_, ?_⟩
  · rw [shutdownsSent, hb.2.1, receive_feed, hb.1]
    simp [Feeder.stoppedAtShutdown, hrun₂, hsite₂]
  · rw [hb.1]
    exact hsite₂
  · rw [hb.2.2.1, hstats]
    exact hsamples.1
  · rw [hb.2.2.2.1, hb.2.2.2.2.1, hstats]
    exact hsamples.2

end Feeding

end Recorder

end Pipeline
end MemoryRecorder
