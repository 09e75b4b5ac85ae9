import MemoryRecorder.Process.Identity
import MemoryRecorder.Word
/-!
# Page counters and OOM values

`statm` holds seven page counters on one line, read here in KiB at four KiB a page. The OOM
killer's values are three small signed integers in files of their own, each zero when missing
or unreadable.
-/

namespace MemoryRecorder

def pageKiB : UInt64 := 4

structure Statm where
  size : UInt64 := 0
  resident : UInt64 := 0
  shared : UInt64 := 0
  text : UInt64 := 0
  lib : UInt64 := 0
  data : UInt64 := 0
  dt : UInt64 := 0
  deriving DecidableEq, Repr

structure OomScore where
  adj : Int32 := 0
  score : Int32 := 0
  scoreAdj : Int32 := 0
  deriving DecidableEq, Repr

/-- The KiB of each leading page counter, up to the first word that is no counter (then
`none`); a product that leaves the word fails. -/
def kibOfPages : List String → Except Overflow (Option (List UInt64))
  | [] => .ok (some [])
  | w :: ws =>
      match Text.u64? w with
      | none => .ok none
      | some n =>
          match Word.mulChecked n pageKiB with
          | .error o => .error o
          | .ok kib =>
              match kibOfPages ws with
              | .error o => .error o
              | .ok rest => .ok (rest.map (kib :: ·))

/-- The counters of a `statm` line: every word must be a counter, and there must be at least
seven. -/
def Statm.ofLine? (line : String) : Except Overflow (Option Statm) :=
  match kibOfPages (Text.words line) with
  | .error o => .error o
  | .ok none => .ok none
  | .ok (some (a :: b :: c :: d :: e :: f :: g :: _)) => .ok (some ⟨a, b, c, d, e, f, g⟩)
  | .ok (some _) => .ok none

inductive ReadFault where
  | source (e : ProcError)
  | overflow (o : Overflow)
  deriving DecidableEq, Repr

def readStatm (t : FileTree) (path : Location) : Except ReadFault Statm :=
  match t.readText path with
  | .error e => .error (.source (.io path.shown e))
  | .ok content =>
      match Statm.ofLine? (((Text.lines content).head?).getD "") with
      | .error o => .error (.overflow o)
      | .ok none => .error (.source (.malformed path.shown "expected 7 page counters"))
      | .ok (some s) => .ok s

/-- Reads one of the small integer files: its trimmed text as a signed 32-bit word, zero when
the file is missing, unreadable or holds anything else. -/
def readIntOrZero (t : FileTree) (path : Location) : Int32 :=
  match t.readText path with
  | .error _ => 0
  | .ok content => (Text.i32? (Text.trimBlank content)).getD 0

def readOomScore (t : FileTree) (dir : Location) : OomScore :=
  { adj := readIntOrZero t (dir.join "oom_adj")
    score := readIntOrZero t (dir.join "oom_score")
    scoreAdj := readIntOrZero t (dir.join "oom_score_adj") }

end MemoryRecorder
