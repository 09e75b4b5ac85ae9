import MemoryRecorder.Proofs.Pipeline.Commands
/-!
# Runs of a recording

A recording moves when the scheduler ticks, discovers processes or closes, when a worker or the
feeder takes a step, when the proc file system changes, and when the writer of a pipe lets a
waiting worker go on. `Step` is one such move, labelled with the entries it adds to the table of
tracked processes, and `Run` is a sequence of moves, labelled with all the entries added.

Each operation of the scheduler gets an equation here that later proofs use in place of its
definition: a broadcast offers the command to every worker (`broadcast_eq`), draining the exit
reports forgets their pids (`drainExits_eq`), a watch of an untracked pid on a running worker
appends one entry (`watch_eq`), and a discovery is a sequence of watches (`discover_fst`).
-/

namespace MemoryRecorder
namespace Pipeline

variable {σ : Type}

/-- A command offered to a worker joins its channel, unless the worker's loop has ended. -/
def Worker.offer (c : Command) (wk : Worker) : Worker :=
  if wk.finished then wk else wk.push c

@[simp]
theorem Worker.offer_finished (c : Command) (wk : Worker) : (wk.offer c).finished = wk.finished := by
  unfold offer push; split <;> rfl

@[simp]
theorem Worker.offer_waiting (c : Command) (wk : Worker) : (wk.offer c).waiting = wk.waiting := by
  unfold offer push; split <;> rfl

@[simp]
theorem Worker.offer_watchers (c : Command) (wk : Worker) :
    (wk.offer c).watchers = wk.watchers := by
  unfold offer push; split <;> rfl

theorem Worker.offer_backlog (c : Command) (wk : Worker) :
    (wk.offer c).backlog = if wk.finished then wk.backlog else wk.backlog ++ [c] := by
  unfold offer; split <;> simp [backlog_push]

namespace Recorder

/-! ## The scheduler's operations -/

theorem foldl_sendWorker (r : Recorder σ) (c : Command) :
    ∀ n ≤ r.workers.length, (List.range n).foldl (fun r i => (r.sendWorker i c).1) r =
      { r with workers := (r.workers.take n).map (Worker.offer c) ++ r.workers.drop n } := by
  intro n
  induction n with
  | zero => intro _; rfl
  | succ n ih =>
      intro hn
      have hlt : n < r.workers.length := by omega
      rw [List.range_succ, List.foldl_append, ih (by omega), List.foldl_cons, List.foldl_nil]
      have hlen : ((r.workers.take n).map (Worker.offer c)).length = n := by simp; omega
      have hat : ((r.workers.take n).map (Worker.offer c) ++ r.workers.drop n)[n]? =
          some r.workers[n] := by
        rw [List.getElem?_append_right (by omega), hlen, Nat.sub_self, List.getElem?_drop,
          Nat.add_zero, List.getElem?_eq_getElem hlt]
      have hsplit : (r.workers.take (n + 1)).map (Worker.offer c) ++ r.workers.drop (n + 1) =
          (r.workers.take n).map (Worker.offer c) ++
            r.workers[n].offer c :: r.workers.drop (n + 1) := by
        rw [List.take_add_one, List.getElem?_eq_getElem hlt, Option.toList_some, List.map_append,
          List.map_singleton, List.append_assoc, List.singleton_append]
      unfold sendWorker
      rw [hat, hsplit]
      simp only
      split
      · -- the worker's loop has ended: it is left as it is
        rename_i hf
        rw [List.drop_eq_getElem_cons hlt] at *
        simp [Worker.offer, hf]
      · rename_i hf
        simp only [setWorker, Recorder.mk.injEq, and_true, true_and]
        rw [List.drop_eq_getElem_cons hlt, List.set_append_right _ _ (by omega), hlen,
          Nat.sub_self, List.set_cons_zero]
        simp [Worker.offer, hf]

theorem broadcast_eq (r : Recorder σ) (c : Command) :
    r.broadcast c = { r with workers := r.workers.map (Worker.offer c) } := by
  rw [broadcast, foldl_sendWorker r c _ (Nat.le_refl _), List.take_length, List.drop_length,
    List.append_nil]

theorem foldl_drainExits (xs : List ExitReport) :
    ∀ (r : Recorder σ) (n : Nat), (xs.foldl (fun (r, n) x =>
      if r.isTracked x.pid then ({ r with tracked := r.tracked.filter (·.1 != x.pid) }, n + 1)
      else (r, n)) (r, n)).1 =
        { r with tracked := r.tracked.filter fun e => !xs.any (·.pid == e.1) } := by
  induction xs with
  | nil =>
      intro r n
      simp only [List.foldl_nil, List.any_nil, Bool.not_false]
      rw [List.filter_eq_self.2 fun _ _ => rfl]
  | cons x xs ih =>
      intro r n
      rw [List.foldl_cons]
      by_cases ht : r.isTracked x.pid = true
      · simp only [ht, if_true, ih, List.filter_filter, List.any_cons, Bool.not_or]
        congr 2
        funext e
        rw [Bool.and_comm, bne_comm, bne]
      · -- an untracked pid has no entry to forget
        simp only [ht, if_false, Bool.false_eq_true, ih, List.any_cons, Bool.not_or]
        simp only [isTracked, List.any_eq_true, beq_iff_eq, not_exists, not_and] at ht
        congr 1
        apply List.filter_congr
        intro e he
        rw [beq_eq_false_iff_ne.2 fun h => ht e he h.symm]
        rfl

theorem drainExits_eq (r : Recorder σ) :
    r.drainExits.1 =
      { r with tracked := r.tracked.filter (fun e => !r.exits.any (·.pid == e.1)), exits := [] } := by
  rw [drainExits, foldl_drainExits]

theorem watch_of_tracked {r : Recorder σ} {pid : Int32} (h : r.isTracked pid = true) :
    r.watch pid = r := by
  simp [watch, h]

/-- A watch of an untracked pid sends it to the next worker round-robin; a running worker takes
it, and the pid is tracked on that worker. -/
theorem watch_eq {r : Recorder σ} {pid : Int32} {wk : Worker} (h : r.isTracked pid = false)
    (hw : r.workers[r.nextWorker % r.workers.length]? = some wk) (hf : wk.finished = false) :
    r.watch pid =
      { r with nextWorker := r.nextWorker + 1,
               tracked := r.tracked ++ [(pid, r.nextWorker % r.workers.length)],
               workers := r.workers.set (r.nextWorker % r.workers.length) (wk.push (.watch pid)) } := by
  simp [watch, h, sendWorker, hw, hf, setWorker]

theorem sendWorker_frame (r : Recorder σ) (i : Nat) (c : Command) :
    ∃ ws, (r.sendWorker i c).1 = { r with workers := ws } := by
  unfold sendWorker
  split
  · split
    · exact ⟨r.workers, rfl⟩
    · exact ⟨_, rfl⟩
  · exact ⟨r.workers, rfl⟩

theorem watch_frame (r : Recorder σ) (pid : Int32) :
    ∃ n t ws, r.watch pid = { r with nextWorker := n, tracked := t, workers := ws } := by
  unfold watch
  split
  · exact ⟨r.nextWorker, r.tracked, r.workers, rfl⟩
  · obtain ⟨ws, hws⟩ := sendWorker_frame { r with nextWorker := r.nextWorker + 1 }
      (r.nextWorker % r.workers.length) (.watch pid)
    simp only
    split <;> rename_i r' h <;> simp only [h] at hws <;> subst hws
    · exact ⟨_, _, _, rfl⟩
    · exact ⟨_, _, _, rfl⟩

theorem discover_fst (r : Recorder σ) :
    r.discover.1 = (collectProcEntries r.tree r.options.root).foldl (fun r pid => r.watch pid) r := by
  unfold discover
  generalize 0 = n
  generalize collectProcEntries r.tree r.options.root = pids
  induction pids generalizing r n with
  | nil => rfl
  | cons pid pids ih =>
      rw [List.foldl_cons, List.foldl_cons]
      by_cases ht : r.isTracked pid = true
      · simp only [ht, if_true]
        rw [ih, watch_of_tracked ht]
      · simp only [ht, if_false, Bool.false_eq_true]
        exact ih _ _

theorem foldl_watch_frame (pids : List Int32) :
    ∀ r : Recorder σ, ∃ n t ws,
      pids.foldl (fun r pid => r.watch pid) r = { r with nextWorker := n, tracked := t, workers := ws } := by
  induction pids with
  | nil => intro r; exact ⟨r.nextWorker, r.tracked, r.workers, rfl⟩
  | cons pid pids ih =>
      intro r
      obtain ⟨n₁, t₁, ws₁, h₁⟩ := watch_frame r pid
      obtain ⟨n₂, t₂, ws₂, h₂⟩ := ih (r.watch pid)
      rw [List.foldl_cons, h₂, h₁]
      exact ⟨n₂, t₂, ws₂, rfl⟩

theorem watch_tracked (r : Recorder σ) (pid : Int32) : r.tracked <+: (r.watch pid).tracked := by
  unfold watch
  split
  · exact List.prefix_refl _
  · obtain ⟨ws, hws⟩ := sendWorker_frame { r with nextWorker := r.nextWorker + 1 }
      (r.nextWorker % r.workers.length) (.watch pid)
    simp only
    split <;> rename_i r' h <;> simp only [h] at hws <;> subst hws
    · exact List.prefix_append _ _
    · exact List.prefix_refl _

theorem foldl_watch_tracked (pids : List Int32) :
    ∀ r : Recorder σ, r.tracked <+: (pids.foldl (fun r pid => r.watch pid) r).tracked := by
  induction pids with
  | nil => exact fun r => List.prefix_refl _
  | cons pid pids ih => exact fun r => (watch_tracked r pid).trans (ih _)

/-- A tick asks every worker to sample, after draining the exit reports and, when it watches the
whole system, discovering processes; it may then send a system snapshot to the feeder, and it
counts itself. -/
theorem tick_eq {r : Recorder σ} (time : Millis) (h : r.closed = false) :
    ∃ r₁ ms, r₁ = (if r.drainExits.1.isWholeSystem then r.drainExits.1.discover.1
        else r.drainExits.1).broadcast (.sample time) ∧ (∀ m ∈ ms, ∃ s, m = FeederMessage.system s) ∧
      r.tick time =
        { r₁ with feed := r₁.feed ++ ms, stats := r₁.stats.record (.tick r₁.tracked.length 0) } := by
  unfold tick
  rw [if_neg (show ¬r.closed = true by simp [h])]
  dsimp only
  generalize (if r.drainExits.1.isWholeSystem = true then r.drainExits.1.discover.1
    else r.drainExits.1).broadcast (.sample time) = r₁
  refine ⟨r₁, ?_⟩
  split
  · split
    · rename_i s _
      unfold sendFeeder
      split
      · exact ⟨[.system s], rfl, by simp, rfl⟩
      · exact ⟨[], rfl, by simp, by simp [record]⟩
    · exact ⟨[], rfl, by simp, by simp [record]⟩
  · exact ⟨[], rfl, by simp, by simp [record]⟩

/-- The entries a discovery adds to the table, in order. -/
def discoverAdded (r : Recorder σ) : List (Int32 × Nat) :=
  r.discover.1.tracked.drop r.tracked.length

def tickAdded (r : Recorder σ) : List (Int32 × Nat) :=
  if !r.closed && r.drainExits.1.isWholeSystem then r.drainExits.1.discoverAdded else []

/-! ## What the threads touch -/

theorem sendFeeder_shape (r : Recorder σ) (m : FeederMessage) :
    (r.sendFeeder m).1 = { r with feed := if r.feeder.running then r.feed ++ [m] else r.feed } := by
  unfold sendFeeder
  split <;> simp_all

theorem startWatcher_shape (r : Recorder σ) (seen : FileTree) (w : Watcher) :
    ∃ ex fd st, (r.startWatcher seen w).1 = { r with exits := ex, feed := fd, stats := st } ∧
      ((r.startWatcher seen w).2 = none ∧ ex = r.exits ++ [⟨w.process.pid, w.process⟩] ∨
        ∃ w', (r.startWatcher seen w).2 = some w' ∧ w'.process = w.process ∧ ex = r.exits) := by
  have hproc : (w.init seen).1.process = w.process := by
    unfold Watcher.init; split <;> rfl
  unfold startWatcher
  dsimp only
  split
  · exact ⟨_, _, _, rfl, .inl ⟨rfl, by rw [hproc]⟩⟩
  · rw [sendFeeder_shape]
    split <;> exact ⟨_, _, _, rfl, .inr ⟨_, rfl, hproc, rfl⟩⟩

theorem sampleWatcher_shape (r : Recorder σ) (w : Watcher) (time : Millis) :
    ∃ ex q fd st, (r.sampleWatcher w time).1 =
      { r with exits := ex, queued := q, feed := fd, stats := st } := by
  unfold sampleWatcher
  split
  · exact ⟨_, _, _, _, rfl⟩
  · split
    · exact ⟨_, _, _, _, rfl⟩
    · split
      · rename_i s _
        have hs := sendFeeder_shape { r with queued := r.queued + 1 } (.snapshot s)
        split <;> rename_i r' hsend <;> rw [hsend] at hs <;> subst hs
        · exact ⟨_, _, _, _, rfl⟩
        · exact ⟨_, _, _, _, rfl⟩
      · exact ⟨_, _, _, _, rfl⟩
      · exact ⟨_, _, _, _, rfl⟩
      · exact ⟨_, _, _, _, rfl⟩

theorem Sampled.shape {time : Millis} {r r' : Recorder σ} {ws kept : List Watcher}
    (h : Sampled time r ws r' kept) :
    ∃ ex q fd st, r' = { r with exits := ex, queued := q, feed := fd, stats := st } := by
  induction h with
  | nil r => exact ⟨_, _, _, _, rfl⟩
  | cons hcall _ _ ih =>
      obtain ⟨ex, q, fd, st, rfl⟩ := ih
      obtain ⟨ex₁, q₁, fd₁, st₁, h₁⟩ := sampleWatcher_shape _ _ _
      rw [hcall] at h₁
      subst h₁
      exact ⟨_, _, _, _, rfl⟩

/-! ## One step of a worker -/

section WorkerStep

variable {r r' : Recorder σ} {i : Nat} {wk wk' : Worker}

/-- The two ways a watch is handled: a pipe as mapping file leaves the worker waiting for its
writer, and otherwise the watcher starts at once. -/
theorem workerStep_watch_cases {pid : Int32} (hw : r.workers[i]? = some wk)
    (hn : wk.next? = some (.watch pid, wk')) (h : r.workerStep i = some r') :
    (r.tree.isPipe (Watcher.new r.tree r.options.root pid).smapsPath = true ∧
        r' = r.setWorker i { wk' with waiting := some (Watcher.new r.tree r.options.root pid) }) ∨
      (r.tree.isPipe (Watcher.new r.tree r.options.root pid).smapsPath = false ∧
        r' = (r.startWatcher r.tree (Watcher.new r.tree r.options.root pid)).1.setWorker i
          { wk' with watchers := wk'.watchers ++
              (r.startWatcher r.tree (Watcher.new r.tree r.options.root pid)).2.toList }) := by
  obtain ⟨wk₁, c, wk₁', hw₁, hf, hwait, -⟩ := workerStep_eq_some h
  rw [hw] at hw₁
  cases hw₁
  simp only [workerStep, hw, hf, hwait, hn, Bool.or_false, Bool.false_eq_true, if_false,
    Option.isSome_none] at h
  split at h
  · rename_i hp
    exact .inl ⟨hp, (Option.some.inj h).symm⟩
  · rename_i hp
    exact .inr ⟨by simpa using hp, (Option.some.inj h).symm⟩

theorem workerStep_workers (h : r.workerStep i = some r') :
    ∃ w, r'.workers = r.workers.set i w := by
  obtain ⟨wk, c, wk', hw, hf, hwait, hn⟩ := workerStep_eq_some h
  cases c with
  | watch pid =>
      rcases workerStep_watch_cases hw hn h with ⟨-, rfl⟩ | ⟨-, rfl⟩
      · exact ⟨_, rfl⟩
      · exact ⟨_, congrArg (List.set · i _) (startWatcher_workers _ _ _)⟩
  | sample time =>
      rcases workerStep_sample_cases hw hn h with ⟨-, rfl⟩ | ⟨-, r₁, kept, hall, rfl⟩ |
        ⟨-, r₁, site, hall, rfl⟩
      · exact ⟨_, rfl⟩
      · exact ⟨_, congrArg (List.set · i _) (sampleAll_eq_ok hall).frame.1⟩
      · obtain ⟨pre, w, post, r₀, kept, -, hpre, hcall⟩ := sampleAll_eq_error hall
        exact ⟨_, congrArg (List.set · i _) ((sampleWatcher_spec hcall).1.trans hpre.frame.1)⟩
  | dispose =>
      simp only [workerStep, hw, hf, hwait, hn, Bool.or_false, Bool.false_eq_true, if_false,
        Option.isSome_none, Option.some.injEq] at h
      exact ⟨_, by rw [← h]; rfl⟩
  | stop =>
      simp only [workerStep, hw, hf, hwait, hn, Bool.or_false, Bool.false_eq_true, if_false,
        Option.isSome_none, Option.some.injEq] at h
      exact ⟨_, by rw [← h]; rfl⟩

/-- A worker step touches only the workers, the exit reports, the count of snapshots in flight,
the feeder's channel, the statistics and the panics. -/
theorem workerStep_shape (h : r.workerStep i = some r') :
    ∃ ws ex q fd st pn, r' =
      { r with workers := ws, exits := ex, queued := q, feed := fd, stats := st, panics := pn } := by
  obtain ⟨wk, c, wk', hw, hf, hwait, hn⟩ := workerStep_eq_some h
  cases c with
  | watch pid =>
      rcases workerStep_watch_cases hw hn h with ⟨-, rfl⟩ | ⟨-, rfl⟩
      · exact ⟨_, _, _, _, _, _, rfl⟩
      · obtain ⟨ex, fd, st, hs, -⟩ := startWatcher_shape r r.tree (Watcher.new r.tree r.options.root pid)
        rw [hs]
        exact ⟨_, _, _, _, _, _, rfl⟩
  | sample time =>
      rcases workerStep_sample_cases hw hn h with ⟨-, rfl⟩ | ⟨-, r₁, kept, hall, rfl⟩ |
        ⟨-, r₁, site, hall, rfl⟩
      · exact ⟨_, _, _, _, _, _, rfl⟩
      · obtain ⟨ex, q, fd, st, rfl⟩ := (sampleAll_eq_ok hall).shape
        exact ⟨_, _, _, _, _, _, rfl⟩
      · obtain ⟨pre, w, post, r₀, kept, -, hpre, hcall⟩ := sampleAll_eq_error hall
        obtain ⟨ex, q, fd, st, rfl⟩ := hpre.shape
        obtain ⟨ex₁, q₁, fd₁, st₁, h₁⟩ :=
          sampleWatcher_shape { r with exits := ex, queued := q, feed := fd, stats := st } w time
        rw [hcall] at h₁
        subst h₁
        exact ⟨_, _, _, _, _, _, rfl⟩
  | dispose =>
      simp only [workerStep, hw, hf, hwait, hn, Bool.or_false, Bool.false_eq_true, if_false,
        Option.isSome_none, Option.some.injEq] at h
      subst h
      exact ⟨_, _, _, _, _, _, rfl⟩
  | stop =>
      simp only [workerStep, hw, hf, hwait, hn, Bool.or_false, Bool.false_eq_true, if_false,
        Option.isSome_none, Option.some.injEq] at h
      subst h
      exact ⟨_, _, _, _, _, _, rfl⟩

end WorkerStep

/-! ## A pipe's writer -/

/-- What holds after the proc file system is written and after each worker waiting on the
pipe starts its watcher holds after the writer of the pipe is done. -/
theorem release_induction (P : Recorder σ → Prop) (r : Recorder σ) (path : Location)
    (content after : List UInt8) (h₀ : P { r with tree := r.tree.write path.parts after })
    (hstep : ∀ r₁ i wk w, P r₁ → r₁.workers[i]? = some wk → wk.waiting = some w →
      P ((r₁.startWatcher (r.tree.write path.parts content) w).1.setWorker i
        { wk with waiting := none,
                  watchers := wk.watchers ++
                    (r₁.startWatcher (r.tree.write path.parts content) w).2.toList })) :
    P (r.release path content after) := by
  unfold release
  dsimp only
  generalize List.range _ = is
  generalize { r with tree := r.tree.write path.parts after } = acc at h₀ ⊢
  induction is generalizing acc with
  | nil => exact h₀
  | cons i is ih =>
      rw [List.foldl_cons]
      apply ih
      split
      · rename_i wk hw
        split
        · rename_i w hwait
          split
          · have := hstep acc i wk w h₀ hw hwait
            rcases hsw : acc.startWatcher (r.tree.write path.parts content) w with ⟨r₂, started⟩
            rw [hsw] at this
            exact this
          · exact h₀
        · exact h₀
      · exact h₀

/-- The writer of a pipe: `release path content after`. -/
structure PipeWrite where
  path : Location
  content : List UInt8
  after : List UInt8

/-! ## Ended loops stay ended -/

/-- From `r` to `r'` the workers stay as many, and a worker whose loop has ended stays at its
place with its loop ended. -/
structure KeepsFinished (r r' : Recorder σ) : Prop where
  length : r'.workers.length = r.workers.length
  finished : ∀ (j : Nat) (wk : Worker), r.workers[j]? = some wk → wk.finished = true →
    ∃ wk' : Worker, r'.workers[j]? = some wk' ∧ wk'.finished = true

namespace KeepsFinished

theorem refl (r : Recorder σ) : KeepsFinished r r := ⟨rfl, fun _ wk hw hf => ⟨wk, hw, hf⟩⟩

theorem trans {r₀ r₁ r₂ : Recorder σ} (h₁ : KeepsFinished r₀ r₁) (h₂ : KeepsFinished r₁ r₂) :
    KeepsFinished r₀ r₂ := by
  refine ⟨h₂.length.trans h₁.length, fun j wk hw hf => ?_⟩
  obtain ⟨wk₁, hw₁, hf₁⟩ := h₁.finished j wk hw hf
  exact h₂.finished j wk₁ hw₁ hf₁

theorem of_workers {r r' : Recorder σ} (h : r'.workers = r.workers) : KeepsFinished r r' :=
  ⟨by rw [h], fun _ wk hw hf => ⟨wk, h ▸ hw, hf⟩⟩

theorem of_set {r r' : Recorder σ} {i : Nat} {w : Worker} (h : r'.workers = r.workers.set i w)
    (hw : ∀ wk, r.workers[i]? = some wk → wk.finished = true → w.finished = true) :
    KeepsFinished r r' := by
  refine ⟨by simp [h], fun j wk hj hf => ?_⟩
  rw [h]
  by_cases hij : i = j
  · subst hij
    exact ⟨w, List.getElem?_set_self (List.getElem?_eq_some_iff.1 hj).1, hw wk hj hf⟩
  · exact ⟨wk, by rw [List.getElem?_set_ne hij]; exact hj, hf⟩

theorem of_map {r r' : Recorder σ} {f : Worker → Worker} (h : r'.workers = r.workers.map f)
    (hf : ∀ wk, (f wk).finished = wk.finished) : KeepsFinished r r' := by
  refine ⟨by simp [h], fun j wk hj hfin => ⟨f wk, by rw [h, List.getElem?_map, hj]; rfl, ?_⟩⟩
  rw [hf, hfin]

theorem running {r r' : Recorder σ} (h : KeepsFinished r r')
    (h' : ∀ wk ∈ r'.workers, wk.finished = false) : ∀ wk ∈ r.workers, wk.finished = false := by
  intro wk hwk
  obtain ⟨j, hj, rfl⟩ := List.getElem_of_mem hwk
  cases hf : r.workers[j].finished with
  | false => rfl
  | true =>
      obtain ⟨wk', hw', hf'⟩ := h.finished j _ (List.getElem?_eq_getElem hj) hf
      have := h' wk' (List.mem_of_getElem? hw')
      rw [hf'] at this
      cases this

theorem stopped {r r' : Recorder σ} (h : KeepsFinished r r')
    (hall : ∀ wk ∈ r.workers, wk.finished = true) : ∀ wk ∈ r'.workers, wk.finished = true := by
  intro wk' hwk'
  obtain ⟨j, hj, rfl⟩ := List.getElem_of_mem hwk'
  have hj' : j < r.workers.length := h.length ▸ hj
  obtain ⟨wk'', hw'', hf''⟩ := h.finished j _ (List.getElem?_eq_getElem hj')
    (hall _ (List.getElem_mem hj'))
  rw [List.getElem?_eq_getElem hj, Option.some.injEq] at hw''
  rw [hw'']
  exact hf''

end KeepsFinished

theorem keepsFinished_sendWorker (r : Recorder σ) (i : Nat) (c : Command) :
    KeepsFinished r (r.sendWorker i c).1 := by
  unfold sendWorker
  split
  · rename_i wk hw
    split
    · exact .refl r
    · exact .of_set rfl fun wk' hw' hf => by rw [hw] at hw'; cases hw'; exact hf
  · exact .refl r

theorem keepsFinished_broadcast (r : Recorder σ) (c : Command) : KeepsFinished r (r.broadcast c) :=
  .of_map (by rw [broadcast_eq]) (Worker.offer_finished c)

theorem keepsFinished_watch (r : Recorder σ) (pid : Int32) : KeepsFinished r (r.watch pid) := by
  unfold watch
  split
  · exact .refl r
  · have h := keepsFinished_sendWorker { r with nextWorker := r.nextWorker + 1 }
      (r.nextWorker % r.workers.length) (.watch pid)
    simp only
    -- the table and the counter are no business of the workers
    split <;> rename_i r' hs <;> rw [hs] at h <;> exact ⟨h.length, h.finished⟩

theorem keepsFinished_foldl_watch (pids : List Int32) :
    ∀ r : Recorder σ, KeepsFinished r (pids.foldl (fun r pid => r.watch pid) r) := by
  induction pids with
  | nil => exact .refl
  | cons pid pids ih => exact fun r => (keepsFinished_watch r pid).trans (ih _)

theorem keepsFinished_tick (r : Recorder σ) (time : Millis) : KeepsFinished r (r.tick time) := by
  cases hc : r.closed with
  | true => simp [tick, hc, KeepsFinished.refl]
  | false =>
      obtain ⟨r₁, ms, rfl, -, htick⟩ := tick_eq time hc
      rw [htick]
      refine (KeepsFinished.of_workers
          (show r.drainExits.1.workers = r.workers by rw [drainExits_eq])).trans
        (KeepsFinished.trans ?_ ((keepsFinished_broadcast _ _).trans (.of_workers rfl)))
      split
      · rw [discover_fst]
        exact keepsFinished_foldl_watch _ _
      · exact .refl _

theorem keepsFinished_workerStep {r r' : Recorder σ} {i : Nat} (h : r.workerStep i = some r') :
    KeepsFinished r r' := by
  obtain ⟨w, hw⟩ := workerStep_workers h
  obtain ⟨wk, -, -, hwk, hf, -⟩ := workerStep_eq_some h
  exact .of_set hw fun wk' hw' hf' => by rw [hwk] at hw'; cases hw'; simp [hf] at hf'

theorem keepsFinished_release (r : Recorder σ) (w : PipeWrite) :
    KeepsFinished r (r.release w.path w.content w.after) := by
  apply release_induction (KeepsFinished r) r w.path w.content w.after (.of_workers rfl)
  intro r₁ i wk w' h₁ hw _
  exact h₁.trans (.of_set (congrArg (List.set · i _) (startWatcher_workers _ _ _))
    fun wk' hw' hf => by rw [hw] at hw'; cases hw'; exact hf)

/-! ## Options and closing -/

/-- What a move keeps of the scheduler: the options, and a closed recording stays closed. -/
structure KeepsOptions (r r' : Recorder σ) : Prop where
  options : r'.options = r.options
  closed : r.closed = true → r'.closed = true

theorem KeepsOptions.trans {r₀ r₁ r₂ : Recorder σ} (h₁ : KeepsOptions r₀ r₁)
    (h₂ : KeepsOptions r₁ r₂) : KeepsOptions r₀ r₂ :=
  ⟨h₂.options.trans h₁.options, fun h => h₂.closed (h₁.closed h)⟩

theorem KeepsOptions.of_eq {r r' : Recorder σ} (ho : r'.options = r.options)
    (hc : r'.closed = r.closed) : KeepsOptions r r' :=
  ⟨ho, fun h => hc.trans h⟩

theorem keepsOptions_foldl_watch (pids : List Int32) (r : Recorder σ) :
    KeepsOptions r (pids.foldl (fun r pid => r.watch pid) r) := by
  obtain ⟨n, t, ws, h⟩ := foldl_watch_frame pids r
  rw [h]
  exact .of_eq rfl rfl

theorem keepsOptions_workerStep {r r' : Recorder σ} {i : Nat} (h : r.workerStep i = some r') :
    KeepsOptions r r' := by
  obtain ⟨ws, ex, q, fd, st, pn, rfl⟩ := workerStep_shape h
  exact .of_eq rfl rfl

section Threads

variable [Store.Engine σ]

/-- Closing disposes every watcher, stops every worker and waits for them, then forgets the
table and tells the feeder to finish. -/
theorem close_eq {r : Recorder σ} (h : r.closed = false) :
    r.close =
      let s := ({ r with closed := true }.broadcast .dispose).broadcast .stop
      (({ (join r.options.maxPolls s).1 with tracked := [] }.sendFeeder .shutdown).1,
        (join r.options.maxPolls s).2) := by
  unfold close
  rw [if_neg (show ¬r.closed = true by simp [h])]
  dsimp only
  -- the workers are waited for within the polls of the options, which broadcasts keep
  have hopt : ((({ r with closed := true } : Recorder σ).broadcast Command.dispose).broadcast
      Command.stop).options = r.options := by
    simp [broadcast_eq]
  rw [hopt]

theorem feederStep_shape {r r' : Recorder σ} (h : r.feederStep = some r') :
    ∃ m rest, r.feeder.running = true ∧ r.feed = m :: rest ∧ r' = r.receive m rest := by
  unfold feederStep at h
  split at h
  · cases h
  · rename_i hrun
    split at h
    · cases h
    · rename_i m rest hf
      exact ⟨m, rest, by simpa using hrun, hf, (Option.some.inj h).symm⟩

/-! ## Threads moving on their own -/

/-- The workers and the feeder take steps, while the scheduler does nothing. -/
inductive Threads : Recorder σ → Recorder σ → Prop
  | refl (r : Recorder σ) : Threads r r
  | worker {r r₁ r₂ : Recorder σ} (i : Nat) : r.workerStep i = some r₁ → Threads r₁ r₂ → Threads r r₂
  | feeder {r r₁ r₂ : Recorder σ} : r.feederStep = some r₁ → Threads r₁ r₂ → Threads r r₂

theorem Threads.trans {r₀ r₁ r₂ : Recorder σ} (h₁ : Threads r₀ r₁) (h₂ : Threads r₁ r₂) :
    Threads r₀ r₂ := by
  induction h₁ with
  | refl => exact h₂
  | worker i hs _ ih => exact .worker i hs (ih h₂)
  | feeder hs _ ih => exact .feeder hs (ih h₂)

theorem drainFeeder_go_threads : ∀ (n : Nat) (r : Recorder σ), Threads r (drainFeeder.go n r)
  | 0, r => .refl r
  | n + 1, r => by
      unfold drainFeeder.go
      split
      · rename_i r' h
        exact .feeder h (drainFeeder_go_threads n r')
      · exact .refl r

theorem drainFeeder_threads (r : Recorder σ) : Threads r r.drainFeeder :=
  drainFeeder_go_threads _ r

theorem runWorker_threads (i : Nat) : ∀ (fuel : Nat) (r : Recorder σ), Threads r (runWorker i fuel r)
  | 0, r => .refl r
  | fuel + 1, r => by
      unfold runWorker
      split
      · rename_i r' h
        exact .worker i h ((drainFeeder_threads r').trans (runWorker_threads i fuel _))
      · exact .refl r

theorem settle_threads (r : Recorder σ) : Threads r r.settle := by
  unfold settle
  refine Threads.trans ?_ (drainFeeder_threads _)
  generalize List.range r.workers.length = is
  induction is generalizing r with
  | nil => exact .refl r
  | cons i is ih => exact (runWorker_threads i _ r).trans (ih _)

theorem join_threads : ∀ (n : Nat) (r : Recorder σ), Threads r (join n r).1
  | n, r => by
      unfold join
      split
      · exact .refl r
      · split
        · exact .refl r
        · exact (settle_threads r).trans (join_threads _ _)

/-! ## Moves and runs -/

/-- One move of a recording, with the entries it adds to the table of tracked processes. -/
inductive Step : Recorder σ → List (Int32 × Nat) → Recorder σ → Prop
  | tick (r : Recorder σ) (time : Millis) : Step r r.tickAdded (r.tick time)
  | discover (r : Recorder σ) : Step r r.discoverAdded r.discover.1
  | close (r : Recorder σ) : Step r [] r.close.1
  | worker {r r' : Recorder σ} (i : Nat) : r.workerStep i = some r' → Step r [] r'
  | feeder {r r' : Recorder σ} : r.feederStep = some r' → Step r [] r'
  /-- Processes appear, vanish or change in the proc file system. -/
  | proc (r : Recorder σ) (tree : FileTree) : Step r [] { r with tree := tree }
  /-- The writer of a pipe lets the worker waiting on it go on. -/
  | release (r : Recorder σ) (w : PipeWrite) : Step r [] (r.release w.path w.content w.after)

/-- A run of a recording from `r₀` to `r`, adding the entries `added` to the table. -/
inductive Run (r₀ : Recorder σ) : List (Int32 × Nat) → Recorder σ → Prop
  | refl : Run r₀ [] r₀
  | step {added new : List (Int32 × Nat)} {r r' : Recorder σ} :
      Run r₀ added r → Step r new r' → Run r₀ (added ++ new) r'

theorem Run.single {r r' : Recorder σ} {new : List (Int32 × Nat)} (h : Step r new r') :
    Run r new r' := by
  simpa using Run.refl.step h

theorem Run.trans {r₀ r₁ r₂ : Recorder σ} {a b : List (Int32 × Nat)} (h₁ : Run r₀ a r₁)
    (h₂ : Run r₁ b r₂) : Run r₀ (a ++ b) r₂ := by
  induction h₂ with
  | refl => simpa using h₁
  | step _ hs ih => simpa [List.append_assoc] using ih.step hs

theorem feederStep_workers {r r' : Recorder σ} (h : r.feederStep = some r') :
    r'.workers = r.workers := by
  obtain ⟨m, rest, -, -, rfl⟩ := feederStep_shape h
  rfl

theorem Threads.keepsFinished {r r' : Recorder σ} (h : Threads r r') : KeepsFinished r r' := by
  induction h with
  | refl r => exact .refl r
  | worker i hs _ ih => exact (keepsFinished_workerStep hs).trans ih
  | feeder hs _ ih => exact (KeepsFinished.of_workers (feederStep_workers hs)).trans ih

theorem keepsFinished_close (r : Recorder σ) : KeepsFinished r r.close.1 := by
  cases hc : r.closed with
  | true => simp [close, hc, KeepsFinished.refl]
  | false =>
      rw [close_eq hc]
      dsimp only
      have hstop := (keepsFinished_broadcast { r with closed := true } .dispose).trans
        (keepsFinished_broadcast _ .stop)
      exact ((KeepsFinished.of_workers
          (show ({ r with closed := true } : Recorder σ).workers = r.workers from rfl)).trans
        hstop).trans ((join_threads r.options.maxPolls _).keepsFinished.trans
          (.of_workers ((sendFeeder_workers _ _).trans rfl)))

/-- No move brings back a worker whose loop has ended. -/
theorem Step.keepsFinished {r r' : Recorder σ} {new : List (Int32 × Nat)} (h : Step r new r') :
    KeepsFinished r r' := by
  cases h with
  | tick time => exact keepsFinished_tick r time
  | discover => rw [discover_fst]; exact keepsFinished_foldl_watch _ r
  | close => exact keepsFinished_close r
  | worker i hs => exact keepsFinished_workerStep hs
  | feeder hs => exact .of_workers (feederStep_workers hs)
  | proc tree => exact .of_workers rfl
  | release w => exact keepsFinished_release r w

theorem keepsOptions_feederStep {r r' : Recorder σ} (h : r.feederStep = some r') :
    KeepsOptions r r' := by
  obtain ⟨m, rest, -, -, rfl⟩ := feederStep_shape h
  exact .of_eq rfl rfl

theorem Threads.keepsOptions {r r' : Recorder σ} (h : Threads r r') : KeepsOptions r r' := by
  induction h with
  | refl r => exact .of_eq rfl rfl
  | worker i hs _ ih => exact (keepsOptions_workerStep hs).trans ih
  | feeder hs _ ih => exact (keepsOptions_feederStep hs).trans ih

theorem close_isClosed (r : Recorder σ) : r.close.1.closed = true := by
  cases hc : r.closed with
  | true => rw [close_closed r hc]; exact hc
  | false =>
      rw [close_eq hc]
      dsimp only
      rw [sendFeeder_shape]
      exact (join_threads _ _).keepsOptions.closed (by simp [broadcast_eq])

/-- No move changes the options or opens a closed recording again. -/
theorem Step.keepsOptions {r r' : Recorder σ} {new : List (Int32 × Nat)} (h : Step r new r') :
    KeepsOptions r r' := by
  cases h with
  | tick time =>
      cases hc : r.closed with
      | true =>
          have hid : r.tick time = r := by rw [Recorder.tick, if_pos hc]
          rw [hid]
          exact .of_eq rfl rfl
      | false =>
          obtain ⟨r₁, ms, rfl, -, htick⟩ := tick_eq time hc
          rw [htick]
          have hd : KeepsOptions r r.drainExits.1 := by
            rw [drainExits_eq]
            exact .of_eq rfl rfl
          have hdisc : KeepsOptions r.drainExits.1 (if r.drainExits.1.isWholeSystem then
              r.drainExits.1.discover.1 else r.drainExits.1) := by
            split
            · rw [discover_fst]
              exact keepsOptions_foldl_watch _ _
            · exact .of_eq rfl rfl
          exact hd.trans (hdisc.trans (.of_eq (by rw [broadcast_eq]) (by rw [broadcast_eq])))
  | discover => rw [discover_fst]; exact keepsOptions_foldl_watch _ r
  | close =>
      refine ⟨?_, fun _ => close_isClosed r⟩
      cases hc : r.closed with
      | true => rw [close_closed r hc]
      | false =>
          rw [close_eq hc]
          dsimp only
          rw [sendFeeder_shape]
          exact ((join_threads _ _).keepsOptions.options.trans (by simp [broadcast_eq]))
  | worker i hs => exact keepsOptions_workerStep hs
  | feeder hs => exact keepsOptions_feederStep hs
  | proc tree => exact .of_eq rfl rfl
  | release w =>
      apply release_induction (KeepsOptions r) r w.path w.content w.after (.of_eq rfl rfl)
      intro r₁ i wk w' h₁ _ _
      obtain ⟨ex, fd, st, hs, -⟩ := startWatcher_shape r₁ (r.tree.write w.path.parts w.content) w'
      rw [hs]
      exact h₁.trans (.of_eq rfl rfl)

theorem Run.keepsOptions {r₀ r : Recorder σ} {added : List (Int32 × Nat)} (h : Run r₀ added r) :
    KeepsOptions r₀ r := by
  induction h with
  | refl => exact .of_eq rfl rfl
  | step _ hs ih => exact ih.trans hs.keepsOptions

end Threads

end Recorder

end Pipeline
end MemoryRecorder
