import Mathlib.Data.List.Nodup
import MemoryRecorder.Proofs.Pipeline.Run
/-!
# Where a tracked process is

The scheduler keeps a table of the processes it tracks, each with the worker that owns it. A
tracked process is in exactly one place of the recording: a watch for it waits in its worker's
queues, its worker is starting its watcher or samples it, or its exit report waits for the
scheduler. An untracked process is nowhere. So no two watchers of one process exist at once, and a
process whose exit was reported has no watcher left to sample it. Pids go to the workers
round-robin in the order they enter the table.

This holds in every state of a run from the start of a recording before it closes, while every
worker's loop runs (`tracked_incarnations`, from the invariant `TableInvariant` that every move
keeps). A worker whose page counters overflow ends its loop, and the processes it held stay in the
table with no place left (`tracked_without_place`).
-/

namespace MemoryRecorder
namespace Pipeline

variable {σ : Type}

def Command.watched : Command → Option Int32
  | .watch pid => some pid
  | _ => none

namespace Worker

/-- The pids a worker answers for: each watch waiting in its queues, the watcher it is starting,
and the watchers it samples. -/
def holds (wk : Worker) : List Int32 :=
  wk.backlog.filterMap Command.watched ++ (wk.waiting.toList ++ wk.watchers).map (·.process.pid)

/-- Neither a dispose nor a stop waits in the worker's queues. -/
def Open (wk : Worker) : Prop :=
  ∀ c ∈ wk.backlog, c ≠ .dispose ∧ c ≠ .stop

theorem count_holds (wk : Worker) (pid : Int32) :
    wk.holds.count pid = (wk.backlog.filterMap Command.watched).count pid +
      (wk.waiting.toList.map (·.process.pid)).count pid +
        (wk.watchers.map (·.process.pid)).count pid := by
  simp [holds, List.count_append, Nat.add_assoc]

theorem count_holds_push (wk : Worker) (c : Command) (pid : Int32) :
    (wk.push c).holds.count pid = wk.holds.count pid + c.watched.toList.count pid := by
  simp only [count_holds, backlog_push, List.filterMap_append, List.count_append]
  cases c <;> simp [Command.watched, push, List.filterMap]
  omega

theorem count_holds_push_watch (wk : Worker) (pid q : Int32) :
    (wk.push (.watch pid)).holds.count q = wk.holds.count q + if q = pid then 1 else 0 := by
  rw [count_holds_push]
  by_cases hq : q = pid
  · subst hq
    simp [Command.watched]
  · simp [Command.watched, hq, Ne.symm hq]

theorem holds_offer_sample (wk : Worker) (time : Millis) :
    (wk.offer (.sample time)).holds = wk.holds := by
  unfold offer
  split
  · rfl
  · simp [holds, push, backlog, Command.watched, List.filterMap_append, List.filterMap]

theorem Open.push {wk : Worker} (h : wk.Open) {c : Command} (hc : c ≠ .dispose ∧ c ≠ .stop) :
    (wk.push c).Open := by
  intro d hd
  rw [backlog_push, List.mem_append, List.mem_singleton] at hd
  rcases hd with hd | rfl
  · exact h d hd
  · exact hc

end Worker

namespace Recorder

def exitsOf (r : Recorder σ) (pid : Int32) : Nat :=
  (r.exits.map (·.pid)).count pid

def heldBy (r : Recorder σ) (j : Nat) (pid : Int32) : Nat :=
  ((r.workers[j]?).map fun wk => wk.holds.count pid).getD 0

/-- The places of a pid in the recording: its exit reports waiting for the scheduler, and the
watches and watchers of it that the workers hold. -/
def incarnations (r : Recorder σ) (pid : Int32) : Nat :=
  r.exitsOf pid + (r.workers.flatMap Worker.holds).count pid

theorem isTracked_iff {r : Recorder σ} {pid : Int32} :
    r.isTracked pid = true ↔ ∃ j, (pid, j) ∈ r.tracked := by
  simp only [isTracked, List.any_eq_true, beq_iff_eq]
  constructor
  · rintro ⟨⟨p, j⟩, hm, rfl⟩
    exact ⟨j, hm⟩
  · rintro ⟨j, hm⟩
    exact ⟨(pid, j), hm, rfl⟩

theorem heldBy_of {r : Recorder σ} {j : Nat} {wk : Worker} (hw : r.workers[j]? = some wk)
    (pid : Int32) : r.heldBy j pid = wk.holds.count pid := by
  simp [heldBy, hw]

theorem heldBy_ne_zero {r : Recorder σ} {j : Nat} {wk : Worker} (hw : r.workers[j]? = some wk)
    {pid : Int32} (hm : pid ∈ wk.holds) : r.heldBy j pid ≠ 0 := by
  rw [heldBy_of hw]
  exact Nat.pos_iff_ne_zero.1 (List.count_pos_iff.2 hm)

theorem heldBy_set {r r' : Recorder σ} {i : Nat} {wk wk' : Worker} (hw : r.workers[i]? = some wk)
    (hws : r'.workers = r.workers.set i wk') (j : Nat) (pid : Int32) :
    r'.heldBy j pid = if j = i then wk'.holds.count pid else r.heldBy j pid := by
  unfold heldBy
  rw [hws]
  split
  · rename_i hji
    subst hji
    rw [List.getElem?_set_self (List.getElem?_eq_some_iff.1 hw).1]
    rfl
  · rename_i hji
    rw [List.getElem?_set_ne (Ne.symm hji)]

theorem owner_unique {l : List (Int32 × Nat)} (h : (l.map Prod.fst).Nodup) {pid : Int32}
    {a b : Nat} (ha : (pid, a) ∈ l) (hb : (pid, b) ∈ l) : a = b := by
  have := List.inj_on_of_nodup_map h ha hb rfl
  simpa using this

theorem exitsOf_eq_zero {r : Recorder σ} {pid : Int32} :
    r.exitsOf pid = 0 ↔ r.exits.any (·.pid == pid) = false := by
  simp [exitsOf, List.count_eq_zero]

/-! ## The invariant -/

/-- The table of tracked processes and the places of each process agree; `log` is the list of
entries the table has received, in order. -/
structure TableInvariant (log : List (Int32 × Nat)) (r : Recorder σ) : Prop where
  nodup : (r.tracked.map Prod.fst).Nodup
  tracked_once : ∀ pid j, (pid, j) ∈ r.tracked → r.exitsOf pid + r.heldBy j pid = 1
  held_tracked : ∀ pid j, r.heldBy j pid ≠ 0 → (pid, j) ∈ r.tracked
  exit_tracked : ∀ pid, r.exitsOf pid ≠ 0 → r.isTracked pid = true
  open_queues : ∀ wk ∈ r.workers, wk.Open
  sublist : r.tracked.Sublist log
  counter : r.nextWorker = log.length
  round_robin : ∀ k (hk : k < log.length), log[k].2 = k % r.workers.length
  width : r.workers.length = max r.options.workers 1

section Invariant

variable {log : List (Int32 × Nat)} {r r' : Recorder σ}

theorem TableInvariant.congr (inv : TableInvariant log r) (ht : r'.tracked = r.tracked)
    (hn : r'.nextWorker = r.nextWorker) (he : r'.exits = r.exits)
    (hws : r'.workers = r.workers) (ho : r'.options = r.options) : TableInvariant log r' := by
  have hheld : ∀ j pid, r'.heldBy j pid = r.heldBy j pid := by simp [heldBy, hws]
  have hexit : ∀ pid, r'.exitsOf pid = r.exitsOf pid := by simp [exitsOf, he]
  have htr : ∀ pid, r'.isTracked pid = r.isTracked pid := by simp [isTracked, ht]
  refine ⟨ht ▸ inv.nodup, fun pid j hm => ?_, fun pid j hne => ?_, fun pid hne => ?_,
    hws ▸ inv.open_queues, ht ▸ inv.sublist, hn ▸ inv.counter, hws ▸ inv.round_robin,
    by rw [hws, ho]; exact inv.width⟩
  · rw [hexit, hheld]
    exact inv.tracked_once pid j (ht ▸ hm)
  · rw [ht]
    exact inv.held_tracked pid j (hheld j pid ▸ hne)
  · rw [htr]
    exact inv.exit_tracked pid (hexit pid ▸ hne)

/-- A worker that moves pids between its places and new exit reports, and takes no dispose and
no stop, keeps the invariant. -/
theorem TableInvariant.update {i : Nat} {wk wk' : Worker}
    (inv : TableInvariant log r) (gone : List Int32) (hw : r.workers[i]? = some wk)
    (hws : r'.workers = r.workers.set i wk') (ht : r'.tracked = r.tracked)
    (hn : r'.nextWorker = r.nextWorker) (ho : r'.options = r.options)
    (he : r'.exits.map (·.pid) = r.exits.map (·.pid) ++ gone)
    (hkeep : ∀ pid, wk'.holds.count pid + gone.count pid = wk.holds.count pid)
    (hopen : wk'.Open) : TableInvariant log r' := by
  have hheld := heldBy_set hw hws
  have hheld_i := heldBy_of hw
  have hexit : ∀ pid, r'.exitsOf pid = r.exitsOf pid + gone.count pid := by
    intro pid
    simp [exitsOf, he, List.count_append]
  have htr : ∀ pid, r'.isTracked pid = r.isTracked pid := by simp [isTracked, ht]
  have hgone : ∀ pid, gone.count pid ≠ 0 → (pid, i) ∈ r.tracked := fun pid hg =>
    inv.held_tracked pid i (by rw [hheld_i]; have := hkeep pid; omega)
  refine ⟨ht ▸ inv.nodup, fun pid j hm => ?_, fun pid j hne => ?_, fun pid hne => ?_,
    fun w hw' => ?_, ht ▸ inv.sublist, hn ▸ inv.counter, ?_, ?_⟩
  · rw [ht] at hm
    rw [hexit, hheld]
    have hone := inv.tracked_once pid j hm
    split
    · rename_i hji
      subst hji
      rw [hheld_i] at hone
      have := hkeep pid
      omega
    · rename_i hji
      have : gone.count pid = 0 := by
        by_contra hg
        exact hji (owner_unique inv.nodup hm (hgone pid hg))
      omega
  · rw [ht]
    rw [hheld] at hne
    split at hne
    · rename_i hji
      subst hji
      exact inv.held_tracked pid j (by rw [hheld_i]; have := hkeep pid; omega)
    · exact inv.held_tracked pid j hne
  · rw [htr]
    rw [hexit] at hne
    by_cases hg : gone.count pid = 0
    · exact inv.exit_tracked pid (by omega)
    · exact isTracked_iff.2 ⟨i, hgone pid hg⟩
  · rw [hws] at hw'
    rcases List.mem_or_eq_of_mem_set hw' with hw' | rfl
    · exact inv.open_queues w hw'
    · exact hopen
  · rw [hws, List.length_set]
    exact inv.round_robin
  · rw [hws, List.length_set, ho]
    exact inv.width

theorem TableInvariant.drainExits (inv : TableInvariant log r) :
    TableInvariant log r.drainExits.1 := by
  rw [drainExits_eq]
  have hheld_noexit : ∀ pid j, r.heldBy j pid ≠ 0 → r.exits.any (·.pid == pid) = false := by
    intro pid j hne
    have := inv.tracked_once pid j (inv.held_tracked pid j hne)
    exact exitsOf_eq_zero.1 (by omega)
  refine ⟨(List.filter_sublist.map Prod.fst).nodup inv.nodup, fun pid j hm => ?_,
    fun pid j hne => ?_, fun pid hne => ?_, inv.open_queues,
    List.filter_sublist.trans inv.sublist, inv.counter, inv.round_robin, inv.width⟩
  · obtain ⟨hm, hno⟩ := List.mem_filter.1 hm
    have hone := inv.tracked_once pid j hm
    have h0 : r.exitsOf pid = 0 := exitsOf_eq_zero.2 (by simpa using hno)
    simp only [exitsOf, heldBy] at hone h0 ⊢
    simp only [List.map_nil, List.count_nil, Nat.zero_add]
    omega
  · exact List.mem_filter.2 ⟨inv.held_tracked pid j hne, by simpa using hheld_noexit pid j hne⟩
  · simp [exitsOf] at hne

theorem TableInvariant.broadcast_sample (inv : TableInvariant log r) (time : Millis) :
    TableInvariant log (r.broadcast (.sample time)) := by
  rw [broadcast_eq]
  have hheld : ∀ j pid, ({ r with workers := r.workers.map (Worker.offer (.sample time)) } :
      Recorder σ).heldBy j pid = r.heldBy j pid := by
    intro j pid
    simp only [heldBy, List.getElem?_map]
    cases r.workers[j]? <;> simp [Worker.holds_offer_sample]
  refine ⟨inv.nodup, fun pid j hm => ?_, fun pid j hne => ?_, inv.exit_tracked,
    fun w hw => ?_, inv.sublist, inv.counter, by simpa using inv.round_robin,
    by simpa using inv.width⟩
  · rw [hheld]
    exact inv.tracked_once pid j hm
  · exact inv.held_tracked pid j (hheld j pid ▸ hne)
  · obtain ⟨wk, hwk, rfl⟩ := List.mem_map.1 hw
    unfold Worker.offer
    split
    · exact inv.open_queues wk hwk
    · exact (inv.open_queues wk hwk).push (by simp)

theorem drop_length_of_prefix {α : Type} {a b c : List α} (hab : a <+: b) (hbc : b <+: c) :
    b.drop a.length ++ c.drop b.length = c.drop a.length := by
  obtain ⟨u, rfl⟩ := hab
  obtain ⟨v, rfl⟩ := hbc
  simp

theorem TableInvariant.untracked (inv : TableInvariant log r) {pid : Int32}
    (ht : r.isTracked pid = false) :
    (∀ j, (pid, j) ∉ r.tracked) ∧ r.exitsOf pid = 0 ∧ ∀ j, r.heldBy j pid = 0 := by
  have hnot : ∀ j, (pid, j) ∉ r.tracked := fun j hm => by
    rw [isTracked_iff.2 ⟨j, hm⟩] at ht
    cases ht
  refine ⟨hnot, ?_, fun j => ?_⟩
  · by_contra hne
    rw [inv.exit_tracked pid hne] at ht
    cases ht
  · by_contra hne
    exact hnot j (inv.held_tracked pid j hne)

/-- The watch of an untracked pid queued on the worker the counter points at, with the pid's
entry added to the table, keeps the invariant. -/
theorem TableInvariant.insert (inv : TableInvariant log r) {pid : Int32} {i : Nat} {wk : Worker}
    (ht : r.isTracked pid = false) (hw : r.workers[i]? = some wk)
    (hi : r.nextWorker % r.workers.length = i) :
    TableInvariant (log ++ [(pid, i)])
      { r with nextWorker := r.nextWorker + 1, tracked := r.tracked ++ [(pid, i)],
               workers := r.workers.set i (wk.push (.watch pid)) } := by
  obtain ⟨hnot, hexit0, hheld0⟩ := inv.untracked ht
  have hheld := heldBy_set hw
    (show ({ r with nextWorker := r.nextWorker + 1, tracked := r.tracked ++ [(pid, i)],
                    workers := r.workers.set i (wk.push (.watch pid)) } : Recorder σ).workers =
      r.workers.set i (wk.push (.watch pid)) from rfl)
  have hheld_i := heldBy_of hw
  refine ⟨?_, fun q j hm => ?_, fun q j hne => ?_, fun q hne => ?_, fun w hw' => ?_,
    inv.sublist.append (List.Sublist.refl _), by simp [inv.counter], fun k hk => ?_,
    by simpa using inv.width⟩
  · rw [List.map_append, List.nodup_append]
    refine ⟨inv.nodup, List.nodup_singleton _, fun a ha b hb => ?_⟩
    rw [List.map_singleton, List.mem_singleton] at hb
    subst hb
    rintro rfl
    obtain ⟨⟨p, j⟩, hm, rfl⟩ := List.mem_map.1 ha
    exact hnot j hm
  · change r.exitsOf q + _ = 1
    rw [hheld]
    rcases List.mem_append.1 hm with hm | hm
    · have hq : q ≠ pid := fun h => hnot j (h ▸ hm)
      have hone := inv.tracked_once q j hm
      split
      · rename_i hji
        subst hji
        rw [Worker.count_holds_push_watch, if_neg hq, ← hheld_i]
        exact hone
      · exact hone
    · obtain ⟨rfl, rfl⟩ := Prod.mk.inj (List.mem_singleton.1 hm)
      rw [if_pos rfl, Worker.count_holds_push_watch, if_pos rfl, ← hheld_i, hexit0, hheld0]
  · change (q, j) ∈ r.tracked ++ [(pid, i)]
    rw [hheld] at hne
    split at hne
    · rename_i hji
      subst hji
      rw [Worker.count_holds_push_watch] at hne
      by_cases hq : q = pid
      · subst hq
        exact List.mem_append_right _ (List.mem_singleton_self _)
      · rw [if_neg hq, Nat.add_zero, ← hheld_i] at hne
        exact List.mem_append_left _ (inv.held_tracked q j hne)
    · exact List.mem_append_left _ (inv.held_tracked q j hne)
  · obtain ⟨j, hm⟩ := isTracked_iff.1 (inv.exit_tracked q hne)
    exact isTracked_iff.2 ⟨j, List.mem_append_left _ hm⟩
  · rcases List.mem_or_eq_of_mem_set hw' with hw' | rfl
    · exact inv.open_queues w hw'
    · exact (inv.open_queues wk (List.mem_of_getElem? hw)).push (by simp)
  · change (log ++ [(pid, i)])[k].2 = k % (r.workers.set i _).length
    rw [List.length_set]
    rw [List.length_append, List.length_singleton] at hk
    rw [List.getElem_append]
    split
    · exact inv.round_robin k _
    · rename_i hlt
      have hk' : k = log.length := by omega
      subst hk'
      simp [← hi, inv.counter]

theorem TableInvariant.watch (inv : TableInvariant log r)
    (hrun : ∀ wk ∈ r.workers, wk.finished = false) (pid : Int32) :
    TableInvariant (log ++ (r.watch pid).tracked.drop r.tracked.length) (r.watch pid) ∧
      ∀ wk ∈ (r.watch pid).workers, wk.finished = false := by
  cases ht : r.isTracked pid with
  | true =>
      rw [watch_of_tracked ht, List.drop_length, List.append_nil]
      exact ⟨inv, hrun⟩
  | false =>
      have hpos : 0 < r.workers.length := by rw [inv.width]; omega
      obtain ⟨i, hi, hilt⟩ : ∃ i, r.nextWorker % r.workers.length = i ∧ i < r.workers.length :=
        ⟨_, rfl, Nat.mod_lt _ hpos⟩
      obtain ⟨wk, hw⟩ : ∃ wk, r.workers[i]? = some wk := ⟨_, List.getElem?_eq_getElem hilt⟩
      have hf : wk.finished = false := hrun wk (List.mem_of_getElem? hw)
      rw [watch_eq ht (hi ▸ hw) hf, List.drop_left, hi]
      refine ⟨inv.insert ht hw hi, fun w hw' => ?_⟩
      rcases List.mem_or_eq_of_mem_set hw' with hw' | rfl
      · exact hrun w hw'
      · exact hf

theorem TableInvariant.foldl_watch (pids : List Int32) :
    ∀ {log : List (Int32 × Nat)} {r : Recorder σ}, TableInvariant log r →
      (∀ wk ∈ r.workers, wk.finished = false) →
      TableInvariant (log ++ (pids.foldl (fun r pid => r.watch pid) r).tracked.drop r.tracked.length)
          (pids.foldl (fun r pid => r.watch pid) r) ∧
        ∀ wk ∈ (pids.foldl (fun r pid => r.watch pid) r).workers, wk.finished = false := by
  induction pids with
  | nil =>
      intro log r inv hrun
      simpa using ⟨inv, hrun⟩
  | cons pid pids ih =>
      intro log r inv hrun
      obtain ⟨inv₁, hrun₁⟩ := inv.watch hrun pid
      obtain ⟨inv₂, hrun₂⟩ := ih inv₁ hrun₁
      rw [List.foldl_cons]
      refine ⟨?_, hrun₂⟩
      rwa [List.append_assoc, drop_length_of_prefix (watch_tracked r pid)
        (foldl_watch_tracked pids _)] at inv₂

theorem TableInvariant.discover (inv : TableInvariant log r)
    (hrun : ∀ wk ∈ r.workers, wk.finished = false) :
    TableInvariant (log ++ r.discoverAdded) r.discover.1 ∧
      ∀ wk ∈ r.discover.1.workers, wk.finished = false := by
  unfold discoverAdded
  rw [discover_fst]
  exact inv.foldl_watch _ hrun

theorem TableInvariant.tick (inv : TableInvariant log r)
    (hrun : ∀ wk ∈ r.workers, wk.finished = false) (hc : r.closed = false) (time : Millis) :
    TableInvariant (log ++ r.tickAdded) (r.tick time) := by
  obtain ⟨r₁, ms, rfl, -, htick⟩ := tick_eq time hc
  rw [htick]
  have hd := inv.drainExits
  have hrund : ∀ wk ∈ r.drainExits.1.workers, wk.finished = false := by
    rw [drainExits_eq]
    exact hrun
  have hmid : TableInvariant (log ++ r.tickAdded) (if r.drainExits.1.isWholeSystem then
      r.drainExits.1.discover.1 else r.drainExits.1) := by
    unfold tickAdded
    by_cases hw : r.drainExits.1.isWholeSystem = true
    · simp only [hc, hw, Bool.not_false, Bool.and_self, if_true]
      exact (hd.discover hrund).1
    · simp only [hc, hw, Bool.not_false, Bool.true_and, Bool.false_eq_true, if_false,
        List.append_nil]
      exact hd
  exact (hmid.broadcast_sample time).congr rfl rfl rfl rfl rfl

end Invariant

/-- A round of sampling reports exactly the watchers it drops. -/
theorem Sampled.exits {time : Millis} {r r' : Recorder σ} {ws kept : List Watcher}
    (h : Sampled time r ws r' kept) :
    ∃ gone : List Int32, r'.exits.map (·.pid) = r.exits.map (·.pid) ++ gone ∧
      ∀ pid, (kept.map (·.process.pid)).count pid + gone.count pid =
        (ws.map (·.process.pid)).count pid := by
  induction h with
  | nil r => exact ⟨[], by simp, by simp⟩
  | @cons r r₁ r₂ w ws kept keep hcall hexits _ ih =>
      obtain ⟨gone, he, hc⟩ := ih
      refine ⟨(if keep then [] else [w.process.pid]) ++ gone, ?_, fun pid => ?_⟩
      · rw [he, hexits]
        cases keep <;> simp [Watcher.exitReport]
      · have := hc pid
        cases keep <;> simp [List.count_cons] at this ⊢ <;> omega

section Invariant

variable {log : List (Int32 × Nat)} {r r' : Recorder σ}

theorem Watcher.new_pid (t : FileTree) (root : Location) (pid : Int32) :
    (Watcher.new t root pid).process.pid = pid := by
  unfold Watcher.new ProcessId.read
  split <;> rfl

theorem TableInvariant.workerStep (inv : TableInvariant log r) {i : Nat}
    (h : r.workerStep i = some r') (hrun' : ∀ wk ∈ r'.workers, wk.finished = false) :
    TableInvariant log r' := by
  obtain ⟨wk, c, wk', hw, hf, hwait, hn⟩ := workerStep_eq_some h
  have hback := Worker.backlog_of_next hn
  obtain ⟨hwatchers, -, hwaiting⟩ := Worker.next?_fields hn
  have hopen := inv.open_queues wk (List.mem_of_getElem? hw)
  have hopen' : ∀ w : Worker, w.backlog = wk'.backlog → w.Open := fun w hb d hd =>
    hopen d (by rw [hback, ← hb]; exact List.mem_cons_of_mem _ hd)
  have hcount : ∀ q, wk.holds.count q = (c.watched.toList.count q) +
      ((wk'.backlog.filterMap Command.watched).count q + (wk.watchers.map (·.process.pid)).count q) := by
    intro q
    rw [Worker.count_holds, hback, hwait]
    cases c <;> simp [Command.watched, List.filterMap_cons, List.count_cons]
    omega
  cases c with
  | watch pid =>
      rcases workerStep_watch_cases hw hn h with ⟨-, rfl⟩ | ⟨-, rfl⟩
      · -- the worker waits on the pipe with the watcher it is starting
        refine inv.update [] hw rfl rfl rfl rfl (by simp) (fun q => ?_) (hopen' _ rfl)
        rw [hcount, Worker.count_holds]
        simp [Worker.backlog, hwatchers, Watcher.new_pid, Command.watched, List.count_cons]
        omega
      · obtain ⟨ex, fd, st, hs, hcases⟩ := startWatcher_shape r r.tree
          (Watcher.new r.tree r.options.root pid)
        generalize r.startWatcher r.tree (Watcher.new r.tree r.options.root pid) = S at hs hcases ⊢
        obtain ⟨r₁, started⟩ := S
        simp only at hs hcases ⊢
        subst hs
        rcases hcases with ⟨rfl, rfl⟩ | ⟨w', rfl, hp, rfl⟩
        · -- the process was gone: its exit is reported
          refine inv.update [pid] hw rfl rfl rfl rfl (by simp [Watcher.new_pid])
            (fun q => ?_) (hopen' _ rfl)
          rw [hcount, Worker.count_holds]
          simp [Worker.backlog, hwatchers, hwaiting, hwait, Command.watched, List.count_cons]
          omega
        · refine inv.update [] hw rfl rfl rfl rfl (by simp) (fun q => ?_) (hopen' _ rfl)
          rw [hcount, Worker.count_holds]
          simp [Worker.backlog, hwatchers, hwaiting, hwait, hp, Watcher.new_pid, Command.watched,
            List.count_cons, List.count_append]
          omega
  | sample time =>
      rcases workerStep_sample_cases hw hn h with ⟨-, rfl⟩ | ⟨-, r₁, kept, hall, rfl⟩ |
        ⟨-, r₁, site, hall, rfl⟩
      · refine inv.update [] hw rfl rfl rfl rfl (by simp) (fun q => ?_)
          (hopen' _ (Worker.backlog_drain wk'))
        rw [hcount, Worker.count_holds, Worker.backlog_drain]
        simp [Worker.drain, hwatchers, hwaiting, hwait, Command.watched]
      · have hs := sampleAll_eq_ok hall
        obtain ⟨gone, he, hc⟩ := hs.exits
        obtain ⟨ex, q, fd, st, rfl⟩ := hs.shape
        refine inv.update gone hw rfl rfl rfl rfl he (fun p => ?_) ?_
        · rw [hcount, Worker.count_holds, ← hc p]
          simp [Worker.drain, Worker.backlog, hwaiting, hwait, Command.watched]
          simp only [Worker.backlog] at hback
          omega
        · exact hopen' _ (Worker.backlog_drain wk')
      · -- the overflow stops the worker, which the run does not allow
        exfalso
        have hilt := (List.getElem?_eq_some_iff.1 hw).1
        obtain ⟨pre, w, post, r₀, kept, -, hpre, hcall⟩ := sampleAll_eq_error hall
        have hw₁ : r₁.workers = r.workers := (sampleWatcher_spec hcall).1.trans hpre.frame.1
        have := hrun' _ (List.mem_of_getElem? (i := i) (by
          simp only [setWorker, hw₁]
          exact List.getElem?_set_self hilt))
        simp at this
  | dispose => exact absurd rfl (hopen .dispose (hback ▸ List.mem_cons_self)).1
  | stop => exact absurd rfl (hopen .stop (hback ▸ List.mem_cons_self)).2

theorem TableInvariant.release (inv : TableInvariant log r) (w : PipeWrite) :
    TableInvariant log (r.release w.path w.content w.after) := by
  apply release_induction (TableInvariant log) r w.path w.content w.after
    (inv.congr rfl rfl rfl rfl rfl)
  intro r₁ i wk W inv₁ hw hwait
  have hopen := inv₁.open_queues wk (List.mem_of_getElem? hw)
  obtain ⟨ex, fd, st, hs, hcases⟩ := startWatcher_shape r₁ (r.tree.write w.path.parts w.content) W
  generalize r₁.startWatcher (r.tree.write w.path.parts w.content) W = S at hs hcases ⊢
  obtain ⟨r₂, started⟩ := S
  simp only at hs hcases ⊢
  subst hs
  rcases hcases with ⟨rfl, rfl⟩ | ⟨W', rfl, hp, rfl⟩
  · refine inv₁.update [W.process.pid] hw rfl rfl rfl rfl (by simp) (fun q => ?_) hopen
    rw [Worker.count_holds, Worker.count_holds, hwait]
    simp [Worker.backlog, List.count_cons]
    omega
  · refine inv₁.update [] hw rfl rfl rfl rfl (by simp) (fun q => ?_) hopen
    rw [Worker.count_holds, Worker.count_holds, hwait]
    simp [Worker.backlog, hp, List.count_cons, List.count_append]
    omega

variable [Store.Engine σ]

/-- Every move before closing keeps the invariant while every worker's loop runs. -/
theorem TableInvariant.step (inv : TableInvariant log r) {new : List (Int32 × Nat)}
    (hs : Step r new r') (hc : r.closed = false) (hc' : r'.closed = false)
    (hrun : ∀ wk ∈ r.workers, wk.finished = false)
    (hrun' : ∀ wk ∈ r'.workers, wk.finished = false) : TableInvariant (log ++ new) r' := by
  cases hs with
  | tick time => exact inv.tick hrun hc time
  | discover => exact (inv.discover hrun).1
  | close =>
      rw [close_isClosed] at hc'
      cases hc'
  | worker i h =>
      rw [List.append_nil]
      exact inv.workerStep h hrun'
  | feeder h =>
      obtain ⟨m, rest, -, -, rfl⟩ := feederStep_shape h
      rw [List.append_nil]
      exact inv.congr rfl rfl rfl rfl rfl
  | proc tree =>
      rw [List.append_nil]
      exact inv.congr rfl rfl rfl rfl rfl
  | release w =>
      rw [List.append_nil]
      exact inv.release w

end Invariant

theorem TableInvariant.fresh (o : Options) (tree : FileTree) (store : Store.Handle σ) :
    TableInvariant []
      { options := o, tree := tree, workers := List.replicate (max o.workers 1) {},
        feeder := { store := store } } := by
  refine ⟨List.nodup_nil, by simp, fun pid j hne => ?_, by simp [exitsOf], fun wk hwk => ?_,
    List.Sublist.refl _, rfl, by simp, by simp⟩
  · exfalso
    apply hne
    unfold heldBy
    cases h : (List.replicate (max o.workers 1) ({} : Worker))[j]? with
    | none => rfl
    | some wk =>
        rw [(List.mem_replicate.1 (List.mem_of_getElem? h)).2]
        rfl
  · rw [(List.mem_replicate.1 hwk).2]
    intro c hc
    simp [Worker.backlog] at hc

theorem TableInvariant.start (o : Options) (tree : FileTree) (store : Store.Handle σ) :
    TableInvariant (start o tree store).tracked (start o tree store) ∧
      ∀ wk ∈ (start o tree store).workers, wk.finished = false := by
  have h := (TableInvariant.fresh o tree store).foldl_watch o.pids (fun wk hwk => by
    rw [(List.mem_replicate.1 hwk).2])
  simpa [Recorder.start] using h

/-! ## Runs -/

section Runs

variable [Store.Engine σ]

/-- A run keeps the invariant as long as the recording is open and every worker's loop runs. -/
theorem Run.tableInvariant {r₀ r : Recorder σ} {added : List (Int32 × Nat)} (hrun : Run r₀ added r)
    {log₀ : List (Int32 × Nat)} (h₀ : TableInvariant log₀ r₀) (hc : r.closed = false)
    (hwork : ∀ wk ∈ r.workers, wk.finished = false) : TableInvariant (log₀ ++ added) r := by
  induction hrun with
  | refl => simpa using h₀
  | @step added new r₁ r' _ hs ih =>
      -- the state before the move was open and its workers ran, since neither comes back
      have hc₁ : r₁.closed = false := by
        cases h : r₁.closed with
        | false => rfl
        | true => rw [hs.keepsOptions.closed h] at hc; cases hc
      have hwork₁ := hs.keepsFinished.running hwork
      rw [← List.append_assoc]
      exact (ih hc₁ hwork₁).step hs hc₁ hc hwork₁ hwork

end Runs

/-! ## Where each pid is -/

theorem count_flatMap_holds (ws : List Worker) (pid : Int32) :
    ∀ j : Nat, (∀ (j' : Nat) (wk : Worker), ws[j']? = some wk → j' ≠ j → wk.holds.count pid = 0) →
      (ws.flatMap Worker.holds).count pid = ((ws[j]?).map fun wk => wk.holds.count pid).getD 0 := by
  induction ws with
  | nil => simp
  | cons w ws ih =>
      intro j h
      rw [List.flatMap_cons, List.count_append]
      cases j with
      | zero =>
          have htail := ih ws.length fun j' wk hw _ => h (j' + 1) wk (by simpa using hw) (by omega)
          simp [htail]
      | succ j =>
          have hhead := h 0 w rfl (by omega)
          rw [hhead, ih j fun j' wk hw hne => h (j' + 1) wk (by simpa using hw) (by omega)]
          simp

theorem watcherPids_sublist (ws : List Worker) :
    ((ws.flatMap fun wk => wk.waiting.toList ++ wk.watchers).map (·.process.pid)).Sublist
      (ws.flatMap Worker.holds) := by
  induction ws with
  | nil => simp
  | cons w ws ih =>
      rw [List.flatMap_cons, List.map_append, List.flatMap_cons]
      exact (List.suffix_append _ _).sublist.append ih

section Places

variable {log : List (Int32 × Nat)} {r : Recorder σ}

theorem TableInvariant.heldBy_other (inv : TableInvariant log r) {pid : Int32} {j j' : Nat}
    (hm : (pid, j) ∈ r.tracked) (hne : j' ≠ j) : r.heldBy j' pid = 0 := by
  by_contra hh
  exact hne (owner_unique inv.nodup (inv.held_tracked pid j' hh) hm)

/-- The invariant counts the places of a pid: one when it is tracked, none otherwise. -/
theorem TableInvariant.incarnations (inv : TableInvariant log r) (pid : Int32) :
    r.incarnations pid = if r.isTracked pid then 1 else 0 := by
  -- when the workers other than `j` answer for nothing of the pid, all its places there are `j`'s
  have hcount : ∀ j, (∀ j', j' ≠ j → r.heldBy j' pid = 0) →
      (r.workers.flatMap Worker.holds).count pid = r.heldBy j pid := fun j h =>
    count_flatMap_holds r.workers pid j fun j' wk hw hne => by
      rw [← heldBy_of hw]
      exact h j' hne
  unfold Recorder.incarnations
  cases ht : r.isTracked pid with
  | true =>
      obtain ⟨j, hm⟩ := isTracked_iff.1 ht
      rw [hcount j fun j' hne => inv.heldBy_other hm hne]
      exact inv.tracked_once pid j hm
  | false =>
      obtain ⟨-, he, hnone⟩ := inv.untracked ht
      rw [hcount r.workers.length fun j' _ => hnone j', he]
      simp [heldBy]

theorem TableInvariant.not_held_of_exit (inv : TableInvariant log r) {pid : Int32}
    (hex : r.exitsOf pid ≠ 0) {wk : Worker} (hwk : wk ∈ r.workers) : pid ∉ wk.holds := by
  intro hm
  obtain ⟨j, hmj⟩ := isTracked_iff.1 (inv.exit_tracked pid hex)
  obtain ⟨j', hj', rfl⟩ := List.getElem_of_mem hwk
  have hheld := heldBy_ne_zero (List.getElem?_eq_getElem hj') hm
  have hjj : j' = j := owner_unique inv.nodup (inv.held_tracked _ j' hheld) hmj
  subst hjj
  have := inv.tracked_once pid j' hmj
  omega

end Places

/-- What the table of tracked processes tells about a recording of options `o`, with
`inserted` the entries the table received, in order. -/
structure TrackedPlaces (o : Options) (inserted : List (Int32 × Nat)) (r : Recorder σ) : Prop where
  once : ∀ pid, r.incarnations pid = if r.isTracked pid then 1 else 0
  owner : ∀ pid j wk, r.workers[j]? = some wk → pid ∈ wk.holds → (pid, j) ∈ r.tracked
  table_nodup : (r.tracked.map Prod.fst).Nodup
  watchers_nodup :
    ((r.workers.flatMap fun wk => wk.waiting.toList ++ wk.watchers).map (·.process.pid)).Nodup
  exited : ∀ x ∈ r.exits, ∀ wk ∈ r.workers, x.pid ∉ wk.holds
  inserted_order : r.tracked.Sublist inserted
  round_robin : ∀ k (hk : k < inserted.length), inserted[k].2 = k % max o.workers 1

/-- In every state of a recording before it closes, while every worker's loop runs, a tracked
process is in exactly one place, on the worker the table names, an untracked one nowhere, and the
pids went to the workers round-robin in the order they were tracked. -/
theorem tracked_incarnations [Store.Engine σ] {o : Options} {tree : FileTree} {store : Store.Handle σ}
    {added : List (Int32 × Nat)} {r : Recorder σ} (hrun : Run (start o tree store) added r)
    (hopen : r.closed = false) (hwork : ∀ wk ∈ r.workers, wk.finished = false) :
    TrackedPlaces o ((start o tree store).tracked ++ added) r := by
  have inv := hrun.tableInvariant (TableInvariant.start o tree store).1 hopen hwork
  have hopt : r.options = o := by
    rw [hrun.keepsOptions.options]
    simpa [Recorder.start] using (keepsOptions_foldl_watch o.pids _).options
  refine ⟨inv.incarnations, fun pid j wk hw hm => inv.held_tracked pid j (heldBy_ne_zero hw hm),
    inv.nodup, ?_, fun x hx wk hwk => inv.not_held_of_exit ?_ hwk, inv.sublist, fun k hk => ?_⟩
  · -- the watchers are among the places, which a pid has at most one of
    refine List.nodup_iff_count_le_one.2 fun pid => ?_
    have h₁ := (watcherPids_sublist r.workers).count_le pid
    have h₂ := inv.incarnations pid
    unfold incarnations at h₂
    split at h₂ <;> omega
  · exact Nat.pos_iff_ne_zero.1 (List.count_pos_iff.2 (List.mem_map_of_mem hx))
  · rw [inv.round_robin k hk, inv.width, hopt]

def twoPids : Options :=
  { root := { shown := "proc", parts := ["proc"] }, pids := [100, 200], workers := 2 }

/-- The first worker handles its watch and finds the process gone: its exit report is then the
pid's one place. -/
theorem tracked_incarnations_first_watch :
    ∃ r, Run (start twoPids ⟨[]⟩ ({ conn := Store.Engine.fresh } : Store.Storage)) [] r ∧ r.exits.length = 1 ∧
      TrackedPlaces twoPids ((start twoPids ⟨[]⟩ ({ conn := Store.Engine.fresh } : Store.Storage)).tracked ++ []) r := by
  have run := Run.refl.step (Step.worker (r := start twoPids ⟨[]⟩ ({ conn := Store.Engine.fresh } : Store.Storage)) 0 rfl)
  exact ⟨_, run, rfl, tracked_incarnations run rfl (by decide)⟩

def statmOverflowPids : Options :=
  { root := { shown := "proc", parts := ["proc"] }, pids := [100, 200], recordSystem := false }

/-- Process 100's page counters overflow once turned into KiB; process 200's do not. -/
def statmOverflowTree : FileTree :=
  ⟨[(["proc"], .dir), (["proc", "100"], .dir), (["proc", "100", "smaps"], .file []),
    (["proc", "100", "statm"], .file (Text.utf8Bytes "4611686018427387904 1 1 1 0 1 0\n")),
    (["proc", "200"], .dir), (["proc", "200", "smaps"], .file []),
    (["proc", "200", "statm"], .file (Text.utf8Bytes "1000 1 1 1 0 1 0\n"))]⟩

/-- The worker starts both watchers, and at the first tick sampling process 100 ends its loop: its
watchers are gone, and process 200 is tracked with no place in the recording, before any close. -/
theorem tracked_without_place :
    ∃ added r, Run (start statmOverflowPids statmOverflowTree
        ({ conn := Store.Engine.fresh } : Store.Storage)) added r ∧
      r.closed = false ∧ r.isTracked 200 = true ∧ r.incarnations 200 = 0 := by
  have run := (((Run.refl.step (Step.worker (r := start statmOverflowPids statmOverflowTree
    ({ conn := Store.Engine.fresh } : Store.Storage)) 0 rfl)).step (Step.worker 0 rfl)).step
      (Step.tick _ 1000)).step (Step.worker 0 rfl)
  exact ⟨_, _, run, rfl, rfl, rfl⟩

end Recorder

end Pipeline
end MemoryRecorder
