import MemoryRecorder.Clock
import MemoryRecorder.Process.Smaps
import MemoryRecorder.Process.Counters
import MemoryRecorder.Process.Scan
import MemoryRecorder.Panic
/-!
# Watching a process

A watcher follows one process: it learns the terminator of the mapping file once, and then
takes a snapshot per tick. A process whose mapping file cannot be read stays tracked through
its page counters alone. A process is gone when its mapping file is gone, or when its pid now
belongs to a process started at another time.
-/

namespace MemoryRecorder

structure Snapshot where
  time : Millis
  process : ProcessId
  ranges : List Mapping := []
  statm : Statm := {}
  oom : OomScore := {}
  deriving Repr

namespace Snapshot

/-- The sums of the resident and proportional sizes of the mappings, added mapping by mapping,
the resident size first; a failure names the total that left its word. -/
def sums (s : Snapshot) : Except OverflowSite (UInt64 × UInt64) :=
  s.ranges.foldlM (fun (acc : UInt64 × UInt64) m =>
    match Word.addChecked acc.1 m.rss with
    | .error _ => .error .residentTotal
    | .ok r =>
        match Word.addChecked acc.2 m.pss with
        | .error _ => .error .proportionalTotal
        | .ok p => .ok (r, p)) (0, 0)

end Snapshot

inductive SampleOutcome where
  | snapshot (s : Snapshot)
  | exited (p : ProcessId)
  deriving Repr

structure Watcher where
  process : ProcessId
  dir : Location
  terminator : Option String := none
  accessible : Bool := false
  deriving Repr

namespace Watcher

def new (t : FileTree) (root : Location) (pid : Int32) : Watcher :=
  { process := ProcessId.read t root pid, dir := root.join (toString pid.toInt) }

def smapsPath (w : Watcher) : Location :=
  w.dir.join "smaps"

/-- Learns the terminator and reads the display name. A failure to learn it leaves the
watcher inaccessible and keeps a terminator learned before. -/
def init (t : FileTree) (w : Watcher) : Watcher × Option String :=
  let w' :=
    match discoverTerminator t w.smapsPath with
    | .ok key => { w with terminator := some key, accessible := true }
    | .error _ => { w with accessible := false }
  (w', readProcessName t w.dir)

def isAlive (t : FileTree) (w : Watcher) : Bool :=
  t.exists w.smapsPath

/-- Whether the pid now belongs to another process; an unknown start time on either side never
counts. -/
def isReused (t : FileTree) (w : Watcher) : Bool :=
  if w.process.startTime = 0 then false
  else
    match readStartTime t w.dir with
    | .ok v => v != w.process.startTime
    | .error _ => false

/-- Takes one snapshot stamped with `time`. The page counters are required; the mappings are
read only when the watcher is accessible. -/
def sample (t : FileTree) (w : Watcher) (time : Millis) : Except ReadFault SampleOutcome :=
  if !w.isAlive t then .ok (.exited w.process)
  else if w.isReused t then .ok (.exited w.process)
  else
    let ranges : Except ReadFault (List Mapping) :=
      match w.terminator, w.accessible with
      | some key, true =>
          match parseSmaps t w.smapsPath w.process key with
          | .ok ms => .ok ms
          | .error e => .error (.source e)
      | _, _ => .ok []
    match ranges with
    | .error e => .error e
    | .ok ms =>
        match readStatm t (w.dir.join "statm") with
        | .error e => .error e
        | .ok statm =>
            .ok (.snapshot
              { time := time, process := w.process, ranges := ms, statm := statm,
                oom := readOomScore t w.dir })

end Watcher

/-- A snapshot of `pid` built from a saved mapping file: start time, counters and OOM values
stay zero. -/
def loadSmapsSnapshot (t : FileTree) (pid : Int32) (path : Location) (time : Millis) :
    Except ProcError Snapshot :=
  let p : ProcessId := ⟨pid, 0⟩
  match discoverTerminator t path with
  | .error e => .error e
  | .ok key =>
      match parseSmaps t path p key with
      | .error e => .error e
      | .ok ms => .ok { time := time, process := p, ranges := ms }

end MemoryRecorder
