import MemoryRecorder.Pipeline.Recorder
/-!
# The scheduler

The scheduler runs on the control side of a recording. Every tick it forgets the processes whose
exit was reported since the last tick, discovers new processes when it watches the whole system,
asks every worker to sample at the tick time and samples the system memory itself. A new process
goes to the next worker round-robin and stays there until it exits. Closing disposes every
watcher, stops the workers and waits for them within a number of polls, then tells the feeder to
finish; it happens once.

The threads run on their own; `settle` is the schedule in which they catch up after each call of
the scheduler: each worker handles everything it can, and the feeder keeps up with every step.

Closing again changes nothing and reports success (`close_closed`).
-/

namespace MemoryRecorder
namespace Pipeline

namespace Recorder

variable {σ : Type}

def isWholeSystem (r : Recorder σ) : Bool :=
  r.options.pids.isEmpty

def isTracked (r : Recorder σ) (pid : Int32) : Bool :=
  r.tracked.any (·.1 == pid)

def trackedPids (r : Recorder σ) : List Int32 :=
  (r.tracked.map (·.1)).mergeSort fun a b => a.toInt ≤ b.toInt

/-- Watches a pid that is not tracked yet on the next worker round-robin; it is tracked once that
worker accepts the command. -/
def watch (r : Recorder σ) (pid : Int32) : Recorder σ :=
  if r.isTracked pid then r
  else
    let i := r.nextWorker % r.workers.length
    let r := { r with nextWorker := r.nextWorker + 1 }
    match r.sendWorker i (.watch pid) with
    | (r, true) => { r with tracked := r.tracked ++ [(pid, i)] }
    | (r, false) => r

/-- Forgets every process whose exit was reported, and counts those that were tracked. -/
def drainExits (r : Recorder σ) : Recorder σ × Nat :=
  r.exits.foldl (fun (r, n) x =>
    if r.isTracked x.pid then ({ r with tracked := r.tracked.filter (·.1 != x.pid) }, n + 1)
    else (r, n)) ({ r with exits := [] }, 0)

def discover (r : Recorder σ) : Recorder σ × Nat :=
  (collectProcEntries r.tree r.options.root).foldl (fun (r, n) pid =>
    if r.isTracked pid then (r, n) else (r.watch pid, n + 1)) (r, 0)

/-- One sampling round stamped with `time`; nothing once closed. The model has no clock, so a
tick takes no time. -/
def tick (r : Recorder σ) (time : Millis) : Recorder σ :=
  if r.closed then r
  else
    let r := r.drainExits.1
    let r := if r.isWholeSystem then r.discover.1 else r
    let r := r.broadcast (.sample time)
    let r :=
      if r.options.recordSystem then
        match sampleSystem r.tree r.options.root time with
        | some s => (r.sendFeeder (.system s)).1
        | none => r
      else r
    r.record (.tick r.tracked.length 0)

/-- A new recording: the workers and the feeder start, and each listed pid is watched in turn. -/
def start (o : Options) (tree : FileTree) (store : Store.Handle σ) : Recorder σ :=
  o.pids.foldl (fun r pid => r.watch pid)
    { options := o, tree := tree, workers := List.replicate (max o.workers 1) {},
      feeder := { store := store } }

section Threads

variable [Store.Engine σ]

def drainFeeder (r : Recorder σ) : Recorder σ :=
  go r.feed.length r
where
  go : Nat → Recorder σ → Recorder σ
    | 0, r => r
    | n + 1, r =>
        match r.feederStep with
        | some r' => go n r'
        | none => r

def runWorker (i : Nat) : Nat → Recorder σ → Recorder σ
  | 0, r => r
  | fuel + 1, r =>
      match r.workerStep i with
      | some r' => runWorker i fuel r'.drainFeeder
      | none => r

/-- The threads catch up: every worker in turn handles all it can, with the feeder keeping up. A
worker's step takes one command of its backlog, so one step per command is enough. -/
def settle (r : Recorder σ) : Recorder σ :=
  ((List.range r.workers.length).foldl (fun r i =>
    runWorker i (((r.workers[i]?).map (·.backlog.length)).getD 0 + 1) r) r).drainFeeder

def allStopped (r : Recorder σ) : Bool :=
  r.workers.all (·.finished)

/-- Waits for the workers to stop: checks, and while some worker runs, lets the threads move for
one poll interval, at most `polls` times. -/
def join : Nat → Recorder σ → Recorder σ × Bool
  | polls, r =>
      if r.allStopped then (r, true)
      else
        match polls with
        | 0 => (r, false)
        | n + 1 => join n r.settle

/-- Disposes every watcher, stops the workers and waits for them, forgets every tracked process
and tells the feeder to finish. False when some worker did not stop in time; closing again does
nothing and reports success. -/
def close (r : Recorder σ) : Recorder σ × Bool :=
  if r.closed then (r, true)
  else
    let r := ({ r with closed := true }.broadcast .dispose).broadcast .stop
    let (r, stopped) := join r.options.maxPolls r
    let r := { r with tracked := [] }
    ((r.sendFeeder .shutdown).1, stopped)

theorem close_closed (r : Recorder σ) (h : r.closed = true) : r.close = (r, true) := by
  simp [close, h]

end Threads

end Recorder

end Pipeline
end MemoryRecorder
