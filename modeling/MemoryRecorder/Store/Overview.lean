import MemoryRecorder.Store.Read
/-!
# A store at a glance

An overview of a store gathers what a reader looks at first: how many measurements, processes
and system samples it holds; its processes, by pid and then as a look-up by pid lists them;
the measurements of each of those processes in time order, with their mappings; and the system
sample with the least memory available by the kernel's estimate.

The pids of an overview come in ascending order (`sortedDistinct_sorted`).
-/

namespace MemoryRecorder
namespace Store

/-- What a store holds, at a glance. -/
structure Overview where
  measurementCount : Nat
  processCount : Nat
  systemSnapshotCount : Nat
  processes : List ProcessInfo
  measurements : List Measurement
  systemPeak : Option SystemSnapshot

def dropRepeats : List Int → List Int
  | x :: y :: rest => if x = y then dropRepeats (y :: rest) else x :: dropRepeats (y :: rest)
  | l => l

def sortedDistinct (xs : List Int) : List Int :=
  dropRepeats (xs.mergeSort (· ≤ ·))

theorem mem_dropRepeats {z : Int} : ∀ {l : List Int}, z ∈ dropRepeats l → z ∈ l
  | x :: y :: rest, h => by
      unfold dropRepeats at h
      split at h
      · exact List.mem_cons_of_mem _ (mem_dropRepeats h)
      · rcases List.mem_cons.mp h with h | h
        · exact h ▸ List.mem_cons_self
        · exact List.mem_cons_of_mem _ (mem_dropRepeats h)
  | [], h => h
  | [_], h => h

theorem dropRepeats_pairwise : ∀ {l : List Int}, l.Pairwise (· ≤ ·) →
    (dropRepeats l).Pairwise (· ≤ ·)
  | x :: y :: rest, h => by
      unfold dropRepeats
      have h' := List.pairwise_cons.mp h
      split
      · exact dropRepeats_pairwise h'.2
      · exact List.pairwise_cons.mpr ⟨fun z hz => h'.1 z (mem_dropRepeats hz),
          dropRepeats_pairwise h'.2⟩
  | [], _ => List.Pairwise.nil
  | [_], h => h

theorem sortedDistinct_sorted (xs : List Int) : (sortedDistinct xs).Pairwise (· ≤ ·) := by
  unfold sortedDistinct
  apply dropRepeats_pairwise
  have hs := @List.pairwise_mergeSort _ (fun a b : Int => decide (a ≤ b))
    (fun a b c hab hbc => by simp at *; omega) (fun a b => by simp; omega) xs
  simpa using hs


def storedPids : StoreM (List Int32) := do
  let (names, rows) ← query "SELECT pid FROM process" []
  let pids ← allRows names rows fun n r => readI32 n r 0
  return (sortedDistinct (pids.map (·.toInt))).map Int32.ofInt

/-- The measurements of a process in time order, with their mappings. -/
def measurementsOf (p : ProcessId) : StoreM (List Measurement) := do
  let times ← getMeasurementTimes (some p)
  times.foldlM (fun acc t => do
    match ← getMeasurementAt p t false with
    | some m => return acc ++ [m]
    | none => return acc) []

def overview : StoreM Overview := do
  let measurementCount ← measurementCount
  let processCount ← processCount
  let systemSnapshotCount ← systemSnapshotCount
  let pids ← storedPids
  let processes ← pids.foldlM (fun acc pid => do return acc ++ (← lookupPid pid)) []
  let measurements ← processes.foldlM
    (fun acc info => do return acc ++ (← measurementsOf info.process)) []
  let systemPeak ← getSystemMemoryPeak .kernel
  pure { measurementCount, processCount, systemSnapshotCount, processes, measurements, systemPeak }

end Store
end MemoryRecorder
