import MemoryRecorder.Clock
import MemoryRecorder.Process.Error
import MemoryRecorder.Text.Blank
import MemoryRecorder.Text.Numeral
import MemoryRecorder.Word
/-!
# System memory

The system's memory counters come from `meminfo`, one `Key: value kB` line per counter, in KiB.
Twelve keys are read; others are ignored, a later line wins over an earlier one, and a line of
another shape counts as zero.

Available memory has two estimates: the kernel's own, and free memory plus buffers, page
cache, swap cache and reclaimable slab, less shared memory. The second fails when its sum leaves
the word, and stops at zero below.
-/

namespace MemoryRecorder

structure MemInfo where
  memTotal : UInt64 := 0
  memFree : UInt64 := 0
  memAvailable : UInt64 := 0
  buffers : UInt64 := 0
  cached : UInt64 := 0
  swapCache : UInt64 := 0
  swapTotal : UInt64 := 0
  swapFree : UInt64 := 0
  anonPages : UInt64 := 0
  mapped : UInt64 := 0
  shmem : UInt64 := 0
  sReclaimable : UInt64 := 0
  deriving DecidableEq, Repr

inductive Estimator where
  | kernel
  | computed
  deriving DecidableEq, Repr

namespace MemInfo

def available (m : MemInfo) : Estimator → Except Overflow UInt64
  | .kernel => .ok m.memAvailable
  | .computed =>
      match Word.sumChecked [m.memFree, m.buffers, m.cached, m.swapCache, m.sReclaimable] with
      | .ok s => .ok (Word.subSaturating s m.shmem)
      | .error o => .error o

/-- The value of a `Key: value kB` line: exactly three words, the last `kB`. -/
def lineValue (line : String) : UInt64 :=
  match Text.words line with
  | [_, v, "kB"] => (Text.u64? v).getD 0
  | _ => 0

/-- Stores the value of a line under its key, if the key is one of the twelve. -/
def setKey (m : MemInfo) (key : String) (v : UInt64) : MemInfo :=
  match key with
  | "MemTotal" => { m with memTotal := v }
  | "MemFree" => { m with memFree := v }
  | "MemAvailable" => { m with memAvailable := v }
  | "Buffers" => { m with buffers := v }
  | "Cached" => { m with cached := v }
  | "SwapCached" => { m with swapCache := v }
  | "SwapTotal" => { m with swapTotal := v }
  | "SwapFree" => { m with swapFree := v }
  | "AnonPages" => { m with anonPages := v }
  | "Mapped" => { m with mapped := v }
  | "Shmem" => { m with shmem := v }
  | "SReclaimable" => { m with sReclaimable := v }
  | _ => m

def parse (content : String) : MemInfo :=
  (Text.lines content).foldl (fun m line =>
    match Text.splitOnce ':' line with
    | some (key, _) => m.setKey key (lineValue line)
    | none => m) {}

def read (t : FileTree) (path : Location) : Except ProcError MemInfo :=
  match t.readText path with
  | .ok s => .ok (parse s)
  | .error e => .error (.io path.shown e)

end MemInfo

structure SystemSnapshot where
  time : Millis
  memInfo : MemInfo
  deriving DecidableEq, Repr

/-- Samples `meminfo` below a proc root: nothing when it is missing or unreadable. -/
def sampleSystem (t : FileTree) (root : Location) (time : Millis) : Option SystemSnapshot :=
  let path := root.join "meminfo"
  if !t.exists path then none
  else
    match MemInfo.read t path with
    | .ok m => some ⟨time, m⟩
    | .error _ => none

end MemoryRecorder
