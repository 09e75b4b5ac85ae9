import Mathlib.Data.List.Induction
import MemoryRecorder.Pipeline.Scheduler
import MemoryRecorder.Proofs.Text.Written
/-!
# The commands of a worker

A worker takes its commands from two queues: its channel, and the pending queue that a tick fills
ahead of time with everything waiting in the channel. This module follows one worker through any
run in which commands are sent to it and it handles them, one step at a time, while the rest of
the recording moves as it will (`WorkerRun`).

In every such run (`workerRun_commands`):
* the worker handles the first commands sent, in send order, and the rest wait in the two queues
  as in one queue; nothing is handled after a stop;
* a tick with a newer tick waiting behind it is skipped and counted once; any other tick samples
  the worker's watchers one by one at its time and drops exactly those whose process it reports
  gone (`Tick`), unless the page counters of a watcher overflow: that stops the worker at that
  watcher, and the watchers after it are not sampled (`workerStep_overflow_leaves_watcher`);
* a tick with no tick sent after it is not skipped, and when no tick is sent after the first
  stop, every skipped tick is followed, before that stop, by the last tick sent.
-/

namespace MemoryRecorder

def Watcher.exitReport (w : Watcher) : Pipeline.ExitReport :=
  ⟨w.process.pid, w.process⟩

theorem Watcher.sample_exited {t : FileTree} {w : Watcher} {time : Millis} {p : ProcessId}
    (h : w.sample t time = .ok (.exited p)) : p = w.process := by
  unfold Watcher.sample at h
  split at h
  · cases h; rfl
  · split at h
    · cases h; rfl
    · -- past the two exit checks the result is an error or a snapshot
      exfalso
      revert h
      cases readStatm t (w.dir.join "statm") <;> split <;> (try split) <;> simp

namespace Pipeline

variable {σ : Type}

namespace Recorder

/-! ## What sampling touches -/

section Frame

variable (r : Recorder σ)

@[simp] theorem record_workers (e : HealthEvent) : (r.record e).workers = r.workers := rfl

@[simp] theorem record_exits (e : HealthEvent) : (r.record e).exits = r.exits := rfl

@[simp] theorem record_feed (e : HealthEvent) : (r.record e).feed = r.feed := rfl

@[simp] theorem record_panics (e : HealthEvent) : (r.record e).panics = r.panics := rfl

@[simp] theorem record_stats (e : HealthEvent) : (r.record e).stats = r.stats.record e := rfl

@[simp] theorem reportExit_workers (p : ProcessId) : (r.reportExit p).workers = r.workers := rfl

@[simp] theorem reportExit_exits (p : ProcessId) :
    (r.reportExit p).exits = r.exits ++ [⟨p.pid, p⟩] := rfl

@[simp] theorem reportExit_panics (p : ProcessId) : (r.reportExit p).panics = r.panics := rfl

@[simp] theorem reportExit_staleTicksSkipped (p : ProcessId) :
    (r.reportExit p).stats.staleTicksSkipped = r.stats.staleTicksSkipped := rfl

theorem sendFeeder_workers (m : FeederMessage) : (r.sendFeeder m).1.workers = r.workers := by
  unfold sendFeeder; split <;> rfl

theorem sendFeeder_exits (m : FeederMessage) : (r.sendFeeder m).1.exits = r.exits := by
  unfold sendFeeder; split <;> rfl

theorem sendFeeder_staleTicksSkipped (m : FeederMessage) :
    (r.sendFeeder m).1.stats.staleTicksSkipped = r.stats.staleTicksSkipped := by
  unfold sendFeeder; split <;> rfl

theorem sendFeeder_panics (m : FeederMessage) : (r.sendFeeder m).1.panics = r.panics := by
  unfold sendFeeder; split <;> rfl

@[simp] theorem setWorker_stats (i : Nat) (w : Worker) : (r.setWorker i w).stats = r.stats := rfl

@[simp] theorem setWorker_exits (i : Nat) (w : Worker) : (r.setWorker i w).exits = r.exits := rfl

@[simp] theorem setWorker_feed (i : Nat) (w : Worker) : (r.setWorker i w).feed = r.feed := rfl

@[simp] theorem setWorker_panics (i : Nat) (w : Worker) : (r.setWorker i w).panics = r.panics :=
  rfl

theorem setWorker_self {i : Nat} {wk : Worker} (h : r.workers[i]? = some wk) (w : Worker) :
    (r.setWorker i w).workers[i]? = some w :=
  List.getElem?_set_self (List.getElem?_eq_some_iff.1 h).1

theorem setWorker_other {i j : Nat} (hij : i ≠ j) (w : Worker) :
    (r.setWorker i w).workers[j]? = r.workers[j]? :=
  List.getElem?_set_ne hij

end Frame

theorem sampleWatcher_spec {r r₁ : Recorder σ} {w : Watcher} {time : Millis}
    {res : Except OverflowSite Bool} (h : r.sampleWatcher w time = (r₁, res)) :
    r₁.workers = r.workers ∧ r₁.stats.staleTicksSkipped = r.stats.staleTicksSkipped ∧
      r₁.panics = r.panics ∧
      ∀ keep, res = .ok keep →
        r₁.exits = if keep then r.exits else r.exits ++ [w.exitReport] := by
  unfold sampleWatcher at h
  split at h
  · cases h
    simp [Watcher.exitReport]
  · split at h
    · cases h
      simp [HealthStats.record]
    · split at h
      · rename_i s hs
        split at h <;> rename_i r' hsend <;> cases h
        all_goals
          have hw := sendFeeder_workers { r with queued := r.queued + 1 } (.snapshot s)
          have he := sendFeeder_exits { r with queued := r.queued + 1 } (.snapshot s)
          have hk := sendFeeder_staleTicksSkipped { r with queued := r.queued + 1 } (.snapshot s)
          have hp := sendFeeder_panics { r with queued := r.queued + 1 } (.snapshot s)
          rw [hsend] at hw he hk hp
          simp_all [HealthStats.record]
      · rename_i p hp
        cases h
        simp [Watcher.sample_exited hp, Watcher.exitReport]
      · cases h
        simp
      · cases h
        simp [HealthStats.record]

/-- `Sampled time r ws r' kept`: the watchers `ws` go through one sampling call each at `time`,
in order, from `r` to `r'`; each call that drops its watcher reports the watcher's exit and no
other call does, and `kept` are the watchers not dropped. -/
inductive Sampled (time : Millis) : Recorder σ → List Watcher → Recorder σ → List Watcher → Prop
  | nil (r : Recorder σ) : Sampled time r [] r []
  | cons {r r₁ r₂ : Recorder σ} {w : Watcher} {ws kept : List Watcher} {keep : Bool} :
      r.sampleWatcher w time = (r₁, .ok keep) →
      r₁.exits = (if keep then r.exits else r.exits ++ [w.exitReport]) →
      Sampled time r₁ ws r₂ kept →
      Sampled time r (w :: ws) r₂ (if keep then w :: kept else kept)

theorem Sampled.frame {time : Millis} {r r' : Recorder σ} {ws kept : List Watcher}
    (h : Sampled time r ws r' kept) :
    r'.workers = r.workers ∧ r'.stats.staleTicksSkipped = r.stats.staleTicksSkipped ∧
      r'.panics = r.panics := by
  induction h with
  | nil => exact ⟨rfl, rfl, rfl⟩
  | cons hcall _ _ ih =>
      obtain ⟨hw, hk, hp, -⟩ := sampleWatcher_spec hcall
      exact ⟨ih.1.trans hw, ih.2.1.trans hk, ih.2.2.trans hp⟩

theorem sampleAll_eq_ok {time : Millis} {ws : List Watcher} :
    ∀ {r r' : Recorder σ} {kept : List Watcher}, sampleAll time r ws = (r', .ok kept) →
      Sampled time r ws r' kept := by
  induction ws with
  | nil =>
      intro r r' kept h
      simp only [sampleAll, Prod.mk.injEq, Except.ok.injEq] at h
      obtain ⟨rfl, rfl⟩ := h
      exact .nil r
  | cons w ws ih =>
      intro r r' kept h
      rw [sampleAll] at h
      rcases hcall : r.sampleWatcher w time with ⟨r₁, _ | keep⟩
      · simp [hcall] at h
      · rcases hrest : sampleAll time r₁ ws with ⟨r₂, _ | rest⟩
        · simp [hcall, hrest, Except.map] at h
        · simp only [hcall, hrest, Except.map, Prod.mk.injEq, Except.ok.injEq] at h
          obtain ⟨rfl, rfl⟩ := h
          exact .cons hcall ((sampleWatcher_spec hcall).2.2.2 keep rfl) (ih hrest)

theorem sampleAll_eq_error {time : Millis} {ws : List Watcher} :
    ∀ {r r' : Recorder σ} {site : OverflowSite}, sampleAll time r ws = (r', .error site) →
      ∃ pre w post r₁ kept, ws = pre ++ w :: post ∧ Sampled time r pre r₁ kept ∧
        r₁.sampleWatcher w time = (r', .error site) := by
  induction ws with
  | nil =>
      intro r r' site h
      simp [sampleAll] at h
  | cons w ws ih =>
      intro r r' site h
      rw [sampleAll] at h
      rcases hcall : r.sampleWatcher w time with ⟨r₁, site' | keep⟩
      · simp only [hcall, Prod.mk.injEq, Except.error.injEq] at h
        obtain ⟨rfl, rfl⟩ := h
        exact ⟨[], w, ws, r, [], rfl, .nil r, hcall⟩
      · rcases hrest : sampleAll time r₁ ws with ⟨r₂, site'' | rest⟩
        · simp only [hcall, hrest, Except.map, Prod.mk.injEq, Except.error.injEq] at h
          obtain ⟨rfl, rfl⟩ := h
          obtain ⟨pre, v, post, r₃, kept, rfl, hs, hv⟩ := ih hrest
          exact ⟨w :: pre, v, post, r₃, _, rfl,
            .cons hcall ((sampleWatcher_spec hcall).2.2.2 keep rfl) hs, hv⟩
        · simp [hcall, hrest, Except.map] at h

end Recorder

namespace Worker

theorem next?_fields {w w' : Worker} {c : Command} (h : w.next? = some (c, w')) :
    w'.watchers = w.watchers ∧ w'.finished = w.finished ∧ w'.waiting = w.waiting := by
  unfold next? at h
  split at h
  · cases h; exact ⟨rfl, rfl, rfl⟩
  · split at h
    · cases h; exact ⟨rfl, rfl, rfl⟩
    · cases h

end Worker

namespace Recorder

/-! ## One step of a worker -/

theorem sendWorker_eq_true {r r' : Recorder σ} {i : Nat} {c : Command}
    (h : r.sendWorker i c = (r', true)) :
    ∃ wk, r.workers[i]? = some wk ∧ wk.finished = false ∧ r' = r.setWorker i (wk.push c) := by
  unfold sendWorker at h
  split at h
  · rename_i wk hw
    split at h
    · cases h
    · rename_i hf
      cases h
      exact ⟨wk, hw, by simpa using hf, rfl⟩
  · cases h

theorem startWatcher_workers (r : Recorder σ) (seen : FileTree) (w : Watcher) :
    (r.startWatcher seen w).1.workers = r.workers := by
  unfold startWatcher
  split
  split
  · rfl
  · simp only [sendFeeder_workers, record_workers]
    split <;> rfl

theorem workerStep_eq_some {r r' : Recorder σ} {i : Nat} (h : r.workerStep i = some r') :
    ∃ wk c wk', r.workers[i]? = some wk ∧ wk.finished = false ∧ wk.waiting = none ∧
      wk.next? = some (c, wk') := by
  unfold workerStep at h
  split at h
  · cases h
  · rename_i wk hw
    split at h
    · cases h
    · rename_i hrun
      have hf : wk.finished = false := by cases hx : wk.finished <;> simp_all
      have hwait : wk.waiting = none := by cases hx : wk.waiting <;> simp_all
      cases hn : wk.next? with
      | none => simp [hn] at h
      | some p => exact ⟨wk, p.1, p.2, hw, hf, hwait, hn⟩

section Step

variable {r r' : Recorder σ} {i : Nat} {wk wk' : Worker}

/-- The three ways a tick is handled: skipped behind a newer tick, every watcher sampled, or the
round cut short by an overflow that stops the worker. -/
theorem workerStep_sample_cases {time : Millis} (hw : r.workers[i]? = some wk)
    (hn : wk.next? = some (.sample time, wk')) (h : r.workerStep i = some r') :
    (wk'.backlog.any Command.isSample = true ∧
        r' = (r.setWorker i wk'.drain).record .staleTickSkipped) ∨
      (wk'.backlog.any Command.isSample = false ∧ ∃ r₁ kept,
        sampleAll time r wk.watchers = (r₁, .ok kept) ∧
          r' = r₁.setWorker i { wk'.drain with watchers := kept }) ∨
      (wk'.backlog.any Command.isSample = false ∧ ∃ r₁ site,
        sampleAll time r wk.watchers = (r₁, .error site) ∧
          r' = { (r₁.setWorker i
                    { wk'.drain with watchers := [], pending := [], channel := [], finished := true })
                  with panics := r₁.panics ++ [⟨workerName i, site⟩] }) := by
  obtain ⟨wk₁, c, wk₁', hw₁, hf, hwait, -⟩ := workerStep_eq_some h
  rw [hw] at hw₁
  cases hw₁
  have hdw : wk'.drain.watchers = wk.watchers := (Worker.next?_fields hn).1
  have hpend : wk'.drain.pending = wk'.backlog := rfl
  simp only [workerStep, hw, hf, hwait, hn, Bool.or_false, Bool.false_eq_true, if_false,
    Option.isSome_none, hpend, hdw] at h
  by_cases hs : wk'.backlog.any Command.isSample = true
  · rw [if_pos hs] at h
    exact .inl ⟨hs, (Option.some.inj h).symm⟩
  · rw [if_neg hs] at h
    have hs' : wk'.backlog.any Command.isSample = false := by simpa using hs
    rcases hall : sampleAll time r wk.watchers with ⟨r₁, site | kept⟩
    · simp only [hall, Option.some.injEq] at h
      exact .inr (.inr ⟨hs', r₁, site, rfl, h.symm⟩)
    · simp only [hall, Option.some.injEq] at h
      exact .inr (.inl ⟨hs', r₁, kept, rfl, h.symm⟩)

/-- What handling a tick at `time` did, from `r` to `r'`, when worker `i` held the watchers `ws`
and the commands `behind` waited behind the tick. -/
inductive Tick (i : Nat) (time : Millis) (ws : List Watcher) (behind : List Command)
    (r r' : Recorder σ) : Prop
  /-- A newer tick waits behind: the tick is counted as skipped once, no watcher is sampled,
  and the worker keeps its watchers. -/
  | skipped : behind.any Command.isSample = true →
      r'.stats.staleTicksSkipped = r.stats.staleTicksSkipped + 1 →
      r'.exits = r.exits → r'.feed = r.feed →
      (r'.workers[i]?).map (·.watchers) = some ws → Tick i time ws behind r r'
  /-- No newer tick waits: every watcher is sampled at `time`, and the worker keeps those not
  found gone. -/
  | sampled {r₁ : Recorder σ} {kept : List Watcher} : behind.any Command.isSample = false →
      Sampled time r ws r₁ kept →
      r'.stats.staleTicksSkipped = r.stats.staleTicksSkipped →
      r'.exits = r₁.exits → r'.feed = r₁.feed →
      (r'.workers[i]?).map (·.watchers) = some kept → Tick i time ws behind r r'
  /-- No newer tick waits, but the page counters of the watcher `w` overflow: the watchers
  before it are sampled, and the worker stops at `w` with a panic. -/
  | overflowed {pre post kept : List Watcher} {w : Watcher} {r₁ r₂ : Recorder σ}
      {site : OverflowSite} : behind.any Command.isSample = false → ws = pre ++ w :: post →
      Sampled time r pre r₁ kept → r₁.sampleWatcher w time = (r₂, .error site) →
      r'.stats.staleTicksSkipped = r.stats.staleTicksSkipped →
      r'.panics = r₂.panics ++ [⟨workerName i, site⟩] →
      r'.exits = r₂.exits → r'.feed = r₂.feed →
      (r'.workers[i]?).map (·.finished) = some true → Tick i time ws behind r r'

theorem tick_of_workerStep {time : Millis} (hw : r.workers[i]? = some wk)
    (hn : wk.next? = some (.sample time, wk')) (h : r.workerStep i = some r') :
    Tick i time wk.watchers wk'.backlog r r' := by
  have hi := (List.getElem?_eq_some_iff.1 hw).1
  rcases workerStep_sample_cases hw hn h with ⟨hs, rfl⟩ | ⟨hs, r₁, kept, hall, rfl⟩ |
    ⟨hs, r₂, site, hall, rfl⟩
  · refine .skipped hs (by simp [HealthStats.record]) rfl rfl ?_
    simp [setWorker_self _ hw, Worker.drain, (Worker.next?_fields hn).1]
  · have hsampled := sampleAll_eq_ok hall
    obtain ⟨hw₁, hk₁, -⟩ := hsampled.frame
    refine .sampled hs hsampled (by simp [hk₁]) rfl rfl ?_
    simp [setWorker, hw₁, hi]
  · obtain ⟨pre, w, post, r₁, kept, hsplit, hpre, hcall⟩ := sampleAll_eq_error hall
    obtain ⟨hw₁, hk₁, -⟩ := hpre.frame
    obtain ⟨hw₂, hk₂, -, -⟩ := sampleWatcher_spec hcall
    refine .overflowed hs hsplit hpre hcall (by simp [hk₂, hk₁]) rfl rfl rfl ?_
    simp [setWorker, hw₂, hw₁, hi]

theorem workerStep_worker {c : Command} (hw : r.workers[i]? = some wk)
    (hn : wk.next? = some (c, wk')) (h : r.workerStep i = some r') :
    ∃ wk'', r'.workers[i]? = some wk'' ∧ (wk''.finished = false → wk''.backlog = wk'.backlog) ∧
      (c = .stop → wk''.finished = true) := by
  obtain ⟨wk₁, c₁, wk₁', hw₁, hf, hwait, -⟩ := workerStep_eq_some h
  rw [hw] at hw₁
  cases hw₁
  cases c with
  | watch pid =>
      simp only [workerStep, hw, hf, hwait, hn, Bool.or_false, Bool.false_eq_true, if_false,
        Option.isSome_none] at h
      split at h
      · cases h
        exact ⟨_, setWorker_self _ hw _, fun _ => rfl, by simp⟩
      · cases h
        exact ⟨_, setWorker_self _ (by rw [startWatcher_workers]; exact hw) _, fun _ => rfl,
          by simp⟩
  | sample time =>
      rcases workerStep_sample_cases hw hn h with ⟨-, rfl⟩ | ⟨-, r₁, kept, hall, rfl⟩ |
        ⟨-, r₁, site, hall, rfl⟩
      · exact ⟨_, setWorker_self _ hw _, fun _ => Worker.backlog_drain wk', by simp⟩
      · have hw₁ := (sampleAll_eq_ok hall).frame.1
        exact ⟨_, setWorker_self _ (hw₁ ▸ hw) _, fun _ => Worker.backlog_drain wk', by simp⟩
      · obtain ⟨pre, w, post, r₀, kept, -, hpre, hcall⟩ := sampleAll_eq_error hall
        have hw₁ := (sampleWatcher_spec hcall).1.trans hpre.frame.1
        exact ⟨_, setWorker_self _ (hw₁ ▸ hw) _, fun h => by simp at h, by simp⟩
  | dispose =>
      simp only [workerStep, hw, hf, hwait, hn, Bool.or_false, Bool.false_eq_true, if_false,
        Option.isSome_none, Option.some.injEq] at h
      subst h
      exact ⟨_, setWorker_self _ hw _, fun _ => rfl, by simp⟩
  | stop =>
      simp only [workerStep, hw, hf, hwait, hn, Bool.or_false, Bool.false_eq_true, if_false,
        Option.isSome_none, Option.some.injEq] at h
      subst h
      exact ⟨_, setWorker_self _ hw _, fun h => by simp at h, fun _ => rfl⟩

end Step

/-! ## Runs of a worker -/

/-- A command that worker `i` handled: the recording just before and just after the step, the
command, and the commands that waited behind it. -/
structure Handled (σ : Type) where
  before : Recorder σ
  command : Command
  behind : List Command
  after : Recorder σ

/-- A run of worker `i` from `r₀`. `sent` are the commands that reached the worker's channel, in
order, and `handled` the steps in which it handled one, in order. Between these moves the rest
of the recording moves as it will, leaving the worker as it is: other threads step, processes
come and go, sends to a worker that has stopped are refused. -/
inductive WorkerRun (i : Nat) (r₀ : Recorder σ) : List Command → List (Handled σ) → Recorder σ → Prop
  | start : WorkerRun i r₀ [] [] r₀
  | send {sent : List Command} {handled : List (Handled σ)} {r r' : Recorder σ} {c : Command} :
      WorkerRun i r₀ sent handled r → r.sendWorker i c = (r', true) →
      WorkerRun i r₀ (sent ++ [c]) handled r'
  | step {sent : List Command} {handled : List (Handled σ)} {r r' : Recorder σ} {wk wk' : Worker}
      {c : Command} : WorkerRun i r₀ sent handled r → r.workers[i]? = some wk →
      wk.next? = some (c, wk') → r.workerStep i = some r' →
      WorkerRun i r₀ sent (handled ++ [⟨r, c, wk'.backlog, r'⟩]) r'
  | other {sent : List Command} {handled : List (Handled σ)} {r r' : Recorder σ} :
      WorkerRun i r₀ sent handled r → r'.workers[i]? = r.workers[i]? →
      WorkerRun i r₀ sent handled r'

/-- What every run of a worker that starts with nothing to do keeps. -/
structure RunInvariant (i : Nat) (sent : List Command) (handled : List (Handled σ)) (r : Recorder σ) :
    Prop where
  worker : ∃ wk, r.workers[i]? = some wk ∧
    (wk.finished = false → sent = handled.map (·.command) ++ wk.backlog) ∧
    (Command.stop ∈ handled.map (·.command) → wk.finished = true)
  in_order : handled.map (·.command) <+: sent
  behind : ∀ k (hk : k < handled.length), handled[k].behind <+: sent.drop (k + 1)
  stop_last : ∀ k (hk : k < handled.length), handled[k].command = .stop → k + 1 = handled.length
  ticks : ∀ h ∈ handled, ∀ wk time, h.before.workers[i]? = some wk → h.command = .sample time →
    Tick i time wk.watchers h.behind h.before h.after

section Run

variable {i : Nat} {sent : List Command} {handled : List (Handled σ)} {r r' : Recorder σ}

theorem RunInvariant.send (inv : RunInvariant i sent handled r) {c : Command}
    (h : r.sendWorker i c = (r', true)) : RunInvariant i (sent ++ [c]) handled r' := by
  obtain ⟨w, hw, hf, rfl⟩ := sendWorker_eq_true h
  obtain ⟨wk, hwk, hfifo, hstop⟩ := inv.worker
  rw [hw] at hwk
  cases hwk
  have hlen : handled.length ≤ sent.length := by simpa using inv.in_order.length_le
  refine ⟨⟨w.push c, setWorker_self _ hw _, fun _ => ?_, fun hs => by simp [hstop hs] at hf⟩,
    inv.in_order.trans (List.prefix_append _ _), fun k hk => ?_, inv.stop_last, inv.ticks⟩
  · rw [Worker.backlog_push, hfifo hf, List.append_assoc]
  · rw [List.drop_append_of_le_length (by omega)]
    exact (inv.behind k hk).trans (List.prefix_append _ _)

theorem RunInvariant.step (inv : RunInvariant i sent handled r) {wk wk' : Worker} {c : Command}
    (hw : r.workers[i]? = some wk) (hn : wk.next? = some (c, wk'))
    (h : r.workerStep i = some r') :
    RunInvariant i sent (handled ++ [⟨r, c, wk'.backlog, r'⟩]) r' := by
  obtain ⟨wk₁, c₁, wk₁', hw₁, hf, -, -⟩ := workerStep_eq_some h
  rw [hw] at hw₁
  cases hw₁
  obtain ⟨wk₂, hwk, hfifo, hstop⟩ := inv.worker
  rw [hw] at hwk
  cases hwk
  have hsent : sent = handled.map (·.command) ++ c :: wk'.backlog := by
    rw [hfifo hf, Worker.backlog_of_next hn]
  have hnostop : Command.stop ∉ handled.map (·.command) := fun hs => by simp [hstop hs] at hf
  obtain ⟨wk'', hw'', hback, hfin⟩ := workerStep_worker hw hn h
  refine ⟨⟨wk'', hw'', fun hf'' => ?_, fun hs => ?_⟩, ?_, fun k hk => ?_, fun k hk hks => ?_,
    fun x hx => ?_⟩
  · rw [hsent, hback hf'']
    simp
  · simp only [List.map_append, List.map_cons, List.map_nil, List.mem_append,
      List.mem_singleton] at hs
    rcases hs with hs | hs
    · exact absurd hs hnostop
    · exact hfin hs.symm
  · rw [hsent]
    simp
  · rw [List.getElem_append]
    split
    · exact inv.behind k _
    · have hk' : k = handled.length := by simp at hk; omega
      subst hk'
      have hdrop : (handled.map (·.command) ++ c :: wk'.backlog).drop (handled.length + 1) =
          wk'.backlog := by
        rw [List.drop_append, List.drop_eq_nil_of_le (by simp)]
        simp
      rw [hsent, hdrop]
      simp
  · rw [List.getElem_append] at hks
    split at hks
    · rename_i hlt
      exact absurd (List.mem_map.2 ⟨_, List.getElem_mem hlt, hks⟩) hnostop
    · simp at hk ⊢
      omega
  · rcases List.mem_append.1 hx with hx | hx
    · exact inv.ticks x hx
    · rw [List.mem_singleton] at hx
      subst hx
      intro wk₃ time hw₃ hc
      rw [hw] at hw₃
      cases hw₃
      cases hc
      exact tick_of_workerStep hw hn h

theorem RunInvariant.other (inv : RunInvariant i sent handled r)
    (h : r'.workers[i]? = r.workers[i]?) : RunInvariant i sent handled r' := by
  obtain ⟨wk, hwk, hfifo, hstop⟩ := inv.worker
  exact ⟨⟨wk, h.trans hwk, hfifo, hstop⟩, inv.in_order, inv.behind, inv.stop_last, inv.ticks⟩

theorem WorkerRun.invariant {r₀ : Recorder σ} (hrun : WorkerRun i r₀ sent handled r)
    {wk₀ : Worker} (h₀ : r₀.workers[i]? = some wk₀) (hb₀ : wk₀.backlog = []) :
    RunInvariant i sent handled r := by
  induction hrun with
  | start =>
      exact ⟨⟨wk₀, h₀, fun _ => by simp [hb₀], by simp⟩, List.prefix_refl _, by simp, by simp,
        by simp⟩
  | send _ hsend ih => exact ih.send hsend
  | step _ hw hn hstep ih => exact ih.step hw hn hstep
  | other _ hsame ih => exact ih.other hsame

end Run

theorem exists_last_of_mem_drop {α : Type} {p : α → Bool} {l : List α} {k : Nat} {a : α}
    (ha : a ∈ l.drop (k + 1)) (hp : p a = true) :
    ∃ m, ∃ hm : m < l.length, k < m ∧ p l[m] = true ∧ ∀ b ∈ l.drop (m + 1), p b = false := by
  induction l using List.reverseRecOn with
  | nil => simp at ha
  | append_singleton l x ih =>
      have hk : k < l.length := by
        have := List.length_pos_of_mem ha
        simp at this
        omega
      cases hx : p x with
      | true =>
          refine ⟨l.length, by simp, hk, by simpa using hx, ?_⟩
          simp
      | false =>
          rw [List.drop_append, List.mem_append] at ha
          rcases ha with ha | ha
          · obtain ⟨m, hm, hkm, hpm, hrest⟩ := ih ha
            refine ⟨m, by simp; omega, hkm, by rwa [List.getElem_append_left hm], ?_⟩
            intro b hb
            rw [List.drop_append_of_le_length (by omega), List.mem_append,
              List.mem_singleton] at hb
            rcases hb with hb | rfl
            · exact hrest b hb
            · exact hx
          · have : a = x := by simpa using List.mem_of_mem_drop ha
            subst this
            simp [hx] at hp

/-- What a run of a worker that starts with nothing to do guarantees about the commands sent to
it. -/
structure CommandOrder (i : Nat) (sent : List Command) (handled : List (Handled σ)) (r : Recorder σ) :
    Prop extends RunInvariant i sent handled r where
  last_tick : ∀ k (hk : k < handled.length), (∀ c ∈ sent.drop (k + 1), c.isSample = false) →
    handled[k].behind.any Command.isSample = false
  /-- When no tick is sent after the first stop, a skipped tick is followed, before that stop, by
  a tick with no tick sent after it. -/
  followed : (∀ (j m : Nat) (c : Command), sent[j]? = some .stop → j < m → sent[m]? = some c →
      c.isSample = false) →
    ∀ k (hk : k < handled.length), handled[k].behind.any Command.isSample = true →
      ∃ m, ∃ hm : m < sent.length, k < m ∧ sent[m].isSample = true ∧
        Command.stop ∉ sent.take m ∧ ∀ c ∈ sent.drop (m + 1), c.isSample = false

/-- Commands sent to a worker are handled once each, in send order, with nothing after a stop; a
tick is skipped, counted once, only behind a newer tick sent before it was handled, and otherwise
samples every watcher at its time, dropping exactly those it reports gone, unless a watcher's
counters overflow and stop the worker; the last tick sent is never skipped. -/
theorem workerRun_commands {i : Nat} {r₀ r : Recorder σ} {sent : List Command}
    {handled : List (Handled σ)} (hrun : WorkerRun i r₀ sent handled r) {wk₀ : Worker}
    (h₀ : r₀.workers[i]? = some wk₀) (hb₀ : wk₀.backlog = []) :
    CommandOrder i sent handled r := by
  have inv := hrun.invariant h₀ hb₀
  have hlast : ∀ k (hk : k < handled.length), (∀ c ∈ sent.drop (k + 1), c.isSample = false) →
      handled[k].behind.any Command.isSample = false := fun k hk hno =>
    List.any_eq_false.2 fun c hc => by simp [hno c ((inv.behind k hk).subset hc)]
  refine ⟨inv, hlast, fun hno k hk hskip => ?_⟩
  obtain ⟨c, hc, hcs⟩ := List.any_eq_true.1 hskip
  obtain ⟨m, hm, hkm, hms, hrest⟩ := exists_last_of_mem_drop ((inv.behind k hk).subset hc) hcs
  refine ⟨m, hm, hkm, hms, fun hstop => ?_, hrest⟩
  -- a stop before the last tick would make that tick one sent after a stop
  obtain ⟨j, hj, hjs⟩ := List.mem_take_iff_getElem.1 hstop
  have hjm : j < m := by omega
  have hjl : j < sent.length := by omega
  have := hno j m sent[m] (by rw [List.getElem?_eq_getElem hjl, hjs]) hjm
    (List.getElem?_eq_getElem hm)
  simp [this] at hms

def idleRecorder : Recorder Store.Sql.Link :=
  { options := { root := { shown := "proc", parts := ["proc"] } }, tree := {}, workers := [{}],
    feeder := { store := { conn := Store.Engine.fresh } } }

theorem workerRun_commands_two_ticks :
    ∃ handled r, WorkerRun 0 idleRecorder [.sample 1, .sample 2, .stop] handled r ∧
      idleRecorder.workers[0]? = some { channel := [] } ∧
      handled.map (·.command) = [.sample 1, .sample 2, .stop] ∧
      CommandOrder 0 [.sample 1, .sample 2, .stop] handled r := by
  have run := ((((((@WorkerRun.start _ 0 idleRecorder).send (c := .sample 1) rfl).send
    (c := .sample 2) rfl).send (c := .stop) rfl).step rfl rfl rfl).step rfl rfl rfl).step rfl rfl rfl
  exact ⟨_, _, run, rfl, rfl, workerRun_commands run rfl rfl⟩

/-- Two watched processes on one worker, the page counters of the first too large to turn into
KiB, and a tick waiting in the worker's channel. -/
def overflowRecorder : Recorder Store.Sql.Link :=
  { options := { root := { shown := "proc", parts := ["proc"] } },
    tree := ⟨[(["100"], .dir), (["100", "smaps"], .file []),
      (["100", "statm"], .file (Text.utf8Bytes "4611686018427387904 1 1 1 0 1 0\n")),
      (["200"], .dir), (["200", "smaps"], .file []),
      (["200", "statm"], .file (Text.utf8Bytes "1000 1 1 1 0 1 0\n"))]⟩,
    workers :=
      [{ channel := [.sample 1000],
         watchers := [{ process := ⟨100, 0⟩, dir := { shown := "100", parts := ["100"] } },
           { process := ⟨200, 0⟩, dir := { shown := "200", parts := ["200"] } }] }],
    feeder := { store := { conn := Store.Engine.fresh } } }

/-- Handling the tick stops the worker at its first watcher: the second watcher, whose sample
would send a snapshot, is never sampled, and nothing reaches the feeder. -/
theorem workerStep_overflow_leaves_watcher :
    ∃ r', overflowRecorder.workerStep 0 = some r' ∧ r'.feed = [] ∧
      r'.panics = [⟨workerName 0, .pageCount⟩] ∧
      ∃ s, Watcher.sample overflowRecorder.tree
        { process := ⟨200, 0⟩, dir := { shown := "200", parts := ["200"] } } 1000 =
          .ok (.snapshot s) :=
  ⟨_, rfl, rfl, rfl, _, rfl⟩

end Recorder

end Pipeline
end MemoryRecorder
