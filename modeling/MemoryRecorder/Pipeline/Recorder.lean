import MemoryRecorder.Pipeline.Worker
import MemoryRecorder.Pipeline.Feeder
/-!
# The recorder and its threads

A `Recorder` is a whole recording: the scheduler's table of tracked processes, the workers with
their channels, the channel of exit reports back to the scheduler, the feeder with its channel and
its store on an engine `σ`, the number of snapshots in flight, the health statistics, and the
proc file system all of them read.

Each thread moves by its own step. `workerStep` handles one command of one worker and
`feederStep` persists one message; a step is `none` when its thread cannot move, because its
channel is empty, its loop has ended, or it waits on a pipe. Messages join the back of a channel
and leave from the front, so every channel keeps send order. `release` is the writer of a pipe,
which lets a worker waiting on it go on. A worker whose page counters overflow, or a feeder whose
snapshot totals overflow, stops at once; the recorder keeps the panic and the thread's channel is
closed from then on. The feeder takes the head of its channel (`feederStep_feed`).
-/

namespace MemoryRecorder
namespace Pipeline

/-- How a recording runs. -/
structure Options where
  root : Location
  /-- Processes to watch; none means every process of the system. -/
  pids : List Int32 := []
  workers : Nat := 1
  maxQueued : Nat := 10000
  recordSystem : Bool := true
  maxPolls : Nat := 100

/-- A recording: the scheduler, the workers and the feeder, and the channels between them. -/
structure Recorder (σ : Type) where
  options : Options
  tree : FileTree
  workers : List Worker
  /-- Tracked pids with the worker owning each, in the order they were added. -/
  tracked : List (Int32 × Nat) := []
  nextWorker : Nat := 0
  closed : Bool := false
  exits : List ExitReport := []
  feed : List FeederMessage := []
  /-- Snapshots sent to the feeder and not yet received by it. -/
  queued : Nat := 0
  feeder : Feeder σ
  stats : HealthStats := {}
  /-- The threads stopped by an overflow, in the order they stopped. -/
  panics : List Panic := []

namespace Recorder

variable {σ : Type}

def record (r : Recorder σ) (e : HealthEvent) : Recorder σ :=
  { r with stats := r.stats.record e }

def setWorker (r : Recorder σ) (i : Nat) (w : Worker) : Recorder σ :=
  { r with workers := r.workers.set i w }

/-- Sends a command to worker `i`; false when there is no such worker or its loop has ended. -/
def sendWorker (r : Recorder σ) (i : Nat) (c : Command) : Recorder σ × Bool :=
  match r.workers[i]? with
  | some w => if w.finished then (r, false) else (r.setWorker i (w.push c), true)
  | none => (r, false)

def broadcast (r : Recorder σ) (c : Command) : Recorder σ :=
  (List.range r.workers.length).foldl (fun r i => (r.sendWorker i c).1) r

/-- Sends a message to the feeder; false once the feeder has stopped and its channel is closed. -/
def sendFeeder (r : Recorder σ) (m : FeederMessage) : Recorder σ × Bool :=
  if r.feeder.running then ({ r with feed := r.feed ++ [m] }, true) else (r, false)

def reportExit (r : Recorder σ) (p : ProcessId) : Recorder σ :=
  { r.record .processExited with exits := r.exits ++ [⟨p.pid, p⟩] }

/-- Starts a watcher whose files read as in `seen`. A gone process is reported; a live one is
counted, flagged when its mappings cannot be read, and announced to the feeder by name. -/
def startWatcher (r : Recorder σ) (seen : FileTree) (w : Watcher) : Recorder σ × Option Watcher :=
  let (w, name) := w.init seen
  if !w.isAlive seen then (r.reportExit w.process, none)
  else
    let r := if w.accessible then r else r.record .processInaccessible
    let r := r.record .processStarted
    ((r.sendFeeder (.announced w.process (name.getD ""))).1, some w)

/-- Samples one watcher at a tick, and tells whether the worker keeps it: a gone process is
reported and dropped, a sample is skipped while too many snapshots are in flight, and a failed
read is counted. Page counters that overflow stop the worker. -/
def sampleWatcher (r : Recorder σ) (w : Watcher) (time : Millis) :
    Recorder σ × Except OverflowSite Bool :=
  if !w.isAlive r.tree then (r.reportExit w.process, .ok false)
  else if r.options.maxQueued ≤ r.queued then (r.record .sampleThrottled, .ok true)
  else
    match w.sample r.tree time with
    | .ok (.snapshot s) =>
        match ({ r with queued := r.queued + 1 }).sendFeeder (.snapshot s) with
        | (r', true) => (r'.record .sampleSent, .ok true)
        | (r', false) => ({ r' with queued := r'.queued - 1 }, .ok true)
    | .ok (.exited p) => (r.reportExit p, .ok false)
    | .error (.overflow _) => (r, .error .pageCount)
    | .error (.source _) => (r.record .sampleDropped, .ok true)

def sampleAll (time : Millis) : Recorder σ → List Watcher → Recorder σ × Except OverflowSite (List Watcher)
  | r, [] => (r, .ok [])
  | r, w :: ws =>
      match r.sampleWatcher w time with
      | (r, .error site) => (r, .error site)
      | (r, .ok keep) =>
          let (r, rest) := sampleAll time r ws
          (r, rest.map fun rest => if keep then w :: rest else rest)

def workerName (i : Nat) : String :=
  "mw-worker-" ++ toString i

/-- Worker `i` handles its next command; `none` when it cannot move. A watch whose mapping file is
a pipe leaves the worker waiting for the pipe's writer. -/
def workerStep (r : Recorder σ) (i : Nat) : Option (Recorder σ) :=
  match r.workers[i]? with
  | none => none
  | some wk =>
      if wk.finished || wk.waiting.isSome then none
      else
        match wk.next? with
        | none => none
        | some (.watch pid, wk) =>
            let w := Watcher.new r.tree r.options.root pid
            if r.tree.isPipe w.smapsPath then some (r.setWorker i { wk with waiting := some w })
            else
              let (r, started) := r.startWatcher r.tree w
              some (r.setWorker i { wk with watchers := wk.watchers ++ started.toList })
        | some (.sample time, wk) =>
            let wk := wk.drain
            if wk.pending.any Command.isSample then
              some ((r.setWorker i wk).record .staleTickSkipped)
            else
              match sampleAll time r wk.watchers with
              | (r, .ok kept) => some (r.setWorker i { wk with watchers := kept })
              | (r, .error site) =>
                  let stopped := { wk with watchers := [], pending := [], channel := [], finished := true }
                  some { r.setWorker i stopped with panics := r.panics ++ [⟨workerName i, site⟩] }
        | some (.dispose, wk) => some (r.setWorker i { wk with watchers := [] })
        | some (.stop, wk) => some (r.setWorker i { wk with finished := true })

/-- The writer of the pipe at `path`: the pipe is replaced by a regular file holding `after`, then
`content` is written into the pipe and the pipe is closed. A worker waiting to read that pipe
finishes starting its watcher, reading `content` as the mapping file. -/
def release (r : Recorder σ) (path : Location) (content after : List UInt8) : Recorder σ :=
  let seen := r.tree.write path.parts content
  let r := { r with tree := r.tree.write path.parts after }
  (List.range r.workers.length).foldl (fun r i =>
    match r.workers[i]? with
    | some wk =>
        match wk.waiting with
        | some w =>
            if w.smapsPath.parts == path.parts then
              let (r, started) := r.startWatcher seen w
              r.setWorker i { wk with waiting := none, watchers := wk.watchers ++ started.toList }
            else r
        | none => r
    | none => r) r

section Feeding

variable [Store.Engine σ]

/-- The feeder has received `m`, with `rest` left in its channel, and handles it; a snapshot whose
totals overflow stops the feeder. -/
def receive (r : Recorder σ) (m : FeederMessage) (rest : List FeederMessage) : Recorder σ :=
  let handled := r.feeder.handle m
  let panics := match handled.1.stoppedAt, r.feeder.stoppedAt with
    | some site, none => r.panics ++ [⟨"mw-feeder", site⟩]
    | _, _ => r.panics
  { r with feed := rest, queued := if m.isSnapshot then r.queued - 1 else r.queued,
           feeder := handled.1, panics,
           stats := match handled.2 with
             | some e => r.stats.record e
             | none => r.stats }

def feederStep (r : Recorder σ) : Option (Recorder σ) :=
  if !r.feeder.running then none
  else
    match r.feed with
    | [] => none
    | m :: rest => some (r.receive m rest)

theorem feederStep_feed {r r' : Recorder σ} (h : r.feederStep = some r') :
    ∃ m, r.feed = m :: r'.feed := by
  unfold feederStep at h
  split at h
  · cases h
  · split at h
    · cases h
    · rename_i m rest hf
      cases h
      exact ⟨m, hf⟩

end Feeding

end Recorder

end Pipeline
end MemoryRecorder
