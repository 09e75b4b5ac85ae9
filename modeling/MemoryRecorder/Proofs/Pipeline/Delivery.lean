import MemoryRecorder.Proofs.Pipeline.Run
/-!
# Runs labelled with what the feeder receives

What the feeder received is no part of a recording's state. `Delivery` is a run of a recording
labelled with the messages the feeder receives, in which the threads' own moves are taken one at
a time (`Feeding`).

Closing waits for the workers. It checks whether every worker's loop has ended and, while one
runs and polls are left, lets the threads move on their own for one poll, in any interleaving
(`Waits`). The schedule that `close` runs, in which the threads catch up once per poll, is one
such wait (`close_waits`), so every run is a labelled one (`Run.delivery`). A wait checks at most
once per poll and reports failure exactly when some worker still runs once every poll is spent
(`Waits.polls`).
-/

namespace MemoryRecorder
namespace Pipeline

variable {σ : Type}

namespace Recorder

/-- What closing does before it waits: the recording is marked closed, every watcher disposed and
every worker asked to stop. -/
def stopping (r : Recorder σ) : Recorder σ :=
  ({ r with closed := true }.broadcast .dispose).broadcast .stop

/-- What closing does after the wait: the table of tracked processes is forgotten and the feeder
told to finish. -/
def finishClose (r : Recorder σ) : Recorder σ :=
  ({ r with tracked := [] }.sendFeeder .shutdown).1

theorem finishClose_eq (r : Recorder σ) : r.finishClose =
    { r with tracked := [], feed := if r.feeder.running then r.feed ++ [.shutdown] else r.feed } :=
  sendFeeder_shape _ _

theorem finishClose_feeder (r : Recorder σ) : r.finishClose.feeder = r.feeder := by
  rw [finishClose_eq]

section Delivery

variable [Store.Engine σ] {n k : Nat} {rcv rcv' : List FeederMessage} {b : Bool}
  {r r₀ r₁ r₂ r' : Recorder σ}

theorem close_stopping (h : r.closed = false) :
    r.close = ((join r.options.maxPolls r.stopping).1.finishClose,
      (join r.options.maxPolls r.stopping).2) :=
  close_eq h

/-! ## The threads on their own -/

/-- The threads move on their own from `r` to `r'`, and the feeder receives `rcv`, in order. -/
inductive Feeding : Recorder σ → List FeederMessage → Recorder σ → Prop
  | refl (r : Recorder σ) : Feeding r [] r
  | worker {r r₁ r₂ : Recorder σ} {rcv : List FeederMessage} (i : Nat) :
      r.workerStep i = some r₁ → Feeding r₁ rcv r₂ → Feeding r rcv r₂
  | feeder {r r₂ : Recorder σ} {m : FeederMessage} {rest rcv : List FeederMessage} :
      r.feeder.running = true → r.feed = m :: rest → Feeding (r.receive m rest) rcv r₂ →
      Feeding r (m :: rcv) r₂

theorem Feeding.trans (h₁ : Feeding r₀ rcv r₁) (h₂ : Feeding r₁ rcv' r₂) :
    Feeding r₀ (rcv ++ rcv') r₂ := by
  induction h₁ with
  | refl => exact h₂
  | worker i hs _ ih => exact .worker i hs (ih h₂)
  | feeder hrun hfeed _ ih => exact .feeder hrun hfeed (ih h₂)

theorem Feeding.threads (h : Feeding r rcv r') : Threads r r' := by
  induction h with
  | refl r => exact .refl r
  | worker i hs _ ih => exact .worker i hs ih
  | @feeder r _ m rest _ hrun hfeed _ ih =>
      have hs : r.feederStep = some (r.receive m rest) := by
        simp [feederStep, hrun, hfeed]
      exact .feeder hs ih

theorem Threads.feeding (h : Threads r r') : ∃ rcv, Feeding r rcv r' := by
  induction h with
  | refl r => exact ⟨[], .refl r⟩
  | worker i hs _ ih =>
      obtain ⟨rcv, hf⟩ := ih
      exact ⟨rcv, .worker i hs hf⟩
  | feeder hs _ ih =>
      obtain ⟨rcv, hf⟩ := ih
      obtain ⟨m, rest, hrun, hfeed, rfl⟩ := feederStep_shape hs
      exact ⟨m :: rcv, .feeder hrun hfeed hf⟩

/-! ## The wait -/

/-- Waiting for the workers with `n` polls left, from `r`: the feeder receives `rcv`, the wait
takes `k` polls and ends at `r'`, reporting `b`. It ends with success once every worker has
stopped and with failure once no poll is left; otherwise the threads move on their own for one
poll. -/
inductive Waits : Nat → Recorder σ → List FeederMessage → Nat → Recorder σ → Bool → Prop
  | stopped {n : Nat} {r : Recorder σ} : r.allStopped = true → Waits n r [] 0 r true
  | timeout {r : Recorder σ} : r.allStopped = false → Waits 0 r [] 0 r false
  | poll {n k : Nat} {r r₁ r₂ : Recorder σ} {rcv rcv' : List FeederMessage} {b : Bool} :
      r.allStopped = false → Feeding r rcv r₁ → Waits n r₁ rcv' k r₂ b →
      Waits (n + 1) r (rcv ++ rcv') (k + 1) r₂ b

theorem Waits.polls (h : Waits n r rcv k r' b) : k ≤ n ∧ b = r'.allStopped ∧ (b = false → k = n) := by
  induction h with
  | stopped hs => exact ⟨Nat.zero_le _, hs.symm, fun h => Bool.noConfusion h⟩
  | timeout hs => exact ⟨Nat.le_refl 0, hs.symm, fun _ => rfl⟩
  | poll _ _ _ ih =>
      obtain ⟨hk, hb, hfail⟩ := ih
      exact ⟨Nat.succ_le_succ hk, hb, fun h => by rw [hfail h]⟩

theorem Waits.feeding (h : Waits n r rcv k r' b) : Feeding r rcv r' := by
  induction h with
  | stopped => exact .refl _
  | timeout => exact .refl _
  | poll _ hf _ ih => exact hf.trans ih

theorem join_waits : ∀ (n : Nat) (r : Recorder σ), ∃ rcv k, Waits n r rcv k (join n r).1 (join n r).2
  | n, r => by
      unfold join
      by_cases hs : r.allStopped = true
      · rw [if_pos hs]
        exact ⟨[], 0, .stopped hs⟩
      · rw [if_neg hs]
        have hs' : r.allStopped = false := by simpa using hs
        cases n with
        | zero => exact ⟨[], 0, .timeout hs'⟩
        | succ n =>
            obtain ⟨rcv, hf⟩ := Threads.feeding (settle_threads r)
            obtain ⟨rcv', k, hw⟩ := join_waits n r.settle
            exact ⟨rcv ++ rcv', k + 1, .poll hs' hf hw⟩

theorem close_waits (h : r.closed = false) : ∃ rcv k r',
    Waits r.options.maxPolls r.stopping rcv k r' r.close.2 ∧ r.close.1 = r'.finishClose := by
  obtain ⟨rcv, k, hw⟩ := join_waits r.options.maxPolls r.stopping
  rw [close_stopping h]
  exact ⟨rcv, k, _, hw, rfl⟩

/-! ## Labelled runs -/

/-- One move of a recording, in which the feeder receives `rcv`, in order: moves of the threads on
their own, a move of the scheduler or of the proc file system, or a close, during whose wait the
threads move. -/
inductive Delivers : Recorder σ → List FeederMessage → Recorder σ → Prop
  | threads {r r' : Recorder σ} {rcv : List FeederMessage} : Feeding r rcv r' → Delivers r rcv r'
  | tick (r : Recorder σ) (time : Millis) : Delivers r [] (r.tick time)
  | discover (r : Recorder σ) : Delivers r [] r.discover.1
  | proc (r : Recorder σ) (tree : FileTree) : Delivers r [] { r with tree := tree }
  | release (r : Recorder σ) (w : PipeWrite) : Delivers r [] (r.release w.path w.content w.after)
  | close {r r' : Recorder σ} {rcv : List FeederMessage} {k : Nat} {b : Bool} : r.closed = false →
      Waits r.options.maxPolls r.stopping rcv k r' b → Delivers r rcv r'.finishClose
  | closed {r : Recorder σ} : r.closed = true → Delivers r [] r

/-- A run of a recording from `r₀` to `r`, in which the feeder receives `rcv`, in order. -/
inductive Delivery (r₀ : Recorder σ) : List FeederMessage → Recorder σ → Prop
  | refl : Delivery r₀ [] r₀
  | step {rcv rcv' : List FeederMessage} {r r' : Recorder σ} :
      Delivery r₀ rcv r → Delivers r rcv' r' → Delivery r₀ (rcv ++ rcv') r'

theorem Step.delivers {new : List (Int32 × Nat)} (h : Step r new r') : ∃ rcv, Delivers r rcv r' := by
  cases h with
  | tick time => exact ⟨[], .tick r time⟩
  | discover => exact ⟨[], .discover r⟩
  | close =>
      cases hc : r.closed with
      | true =>
          rw [close_closed r hc]
          exact ⟨[], .closed hc⟩
      | false =>
          obtain ⟨rcv, k, r', hw, hclose⟩ := close_waits hc
          rw [hclose]
          exact ⟨rcv, .close hc hw⟩
  | worker i hs => exact ⟨[], .threads (.worker i hs (.refl _))⟩
  | feeder hs =>
      obtain ⟨m, rest, hrun, hfeed, rfl⟩ := feederStep_shape hs
      exact ⟨[m], .threads (.feeder hrun hfeed (.refl _))⟩
  | proc tree => exact ⟨[], .proc r tree⟩
  | release w => exact ⟨[], .release r w⟩

theorem Run.delivery {added : List (Int32 × Nat)} (h : Run r₀ added r) : ∃ rcv, Delivery r₀ rcv r := by
  induction h with
  | refl => exact ⟨[], .refl⟩
  | step _ hs ih =>
      obtain ⟨rcv, hd⟩ := ih
      obtain ⟨rcv', hs'⟩ := Step.delivers hs
      exact ⟨rcv ++ rcv', hd.step hs'⟩

end Delivery

end Recorder

end Pipeline
end MemoryRecorder
