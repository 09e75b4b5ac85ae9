import MemoryRecorder.Hash
import MemoryRecorder.Text.Blank
import MemoryRecorder.Text.Numeral
import MemoryRecorder.Process.Error
/-!
# Process identity

A pid alone does not identify a process, because the kernel hands pids out again. A pid
together with the start time of its process, in clock ticks since boot, does. The start time is
field 22 of the process' `stat` line; the command name in field 2 may hold blanks and
parentheses, so the fields are counted after the last closing parenthesis.
-/

namespace MemoryRecorder

/-- A process: its pid and the start time that tells apart processes sharing that pid. -/
structure ProcessId where
  pid : Int32
  startTime : UInt64
  deriving DecidableEq, Repr

namespace ProcessId

def hash (p : ProcessId) : UInt64 :=
  (ContentHash.i64 {} p.pid.toInt64 |>.u64 p.startTime).finish

def display (p : ProcessId) : String :=
  s!"{p.pid.toInt} (started at {p.startTime.toNat})"

end ProcessId

inductive StatFault where
  | noCommand
  | tooFewFields
  | badStartTime
  deriving DecidableEq, Repr

namespace StatFault

def reason : StatFault → String
  | noCommand => "missing command name"
  | tooFewFields => "too few fields"
  | badStartTime => "invalid starttime field"

end StatFault

def afterLast (c : Char) (cs : List Char) : Option (List Char) :=
  if c ∈ cs then some (cs.reverse.takeWhile (· ≠ c)).reverse else none

/-- The start time in the first line of a `stat` file: the twentieth field after the command
name. -/
def startTimeOfStat (content : String) : Except StatFault UInt64 :=
  let line := ((Text.lines content).head?).getD ""
  match afterLast ')' line.toList with
  | none => .error .noCommand
  | some rest =>
      let fields := Text.words (String.ofList rest)
      match fields[19]? with
      | none => .error .tooFewFields
      | some f =>
          match Text.u64? f with
          | some v => .ok v
          | none => .error .badStartTime

def readStartTime (t : FileTree) (dir : Location) : Except ProcError UInt64 :=
  let path := dir.join "stat"
  match t.readText path with
  | .error e => .error (.io path.shown e)
  | .ok content =>
      match startTimeOfStat content with
      | .ok v => .ok v
      | .error f => .error (.malformed path.shown f.reason)

namespace ProcessId

/-- The identity of `pid` below a proc root; an unreadable start time counts as zero, so the
process is still tracked under its pid alone. -/
def read (t : FileTree) (root : Location) (pid : Int32) : ProcessId :=
  match readStartTime t (root.join (toString pid.toInt)) with
  | .ok v => ⟨pid, v⟩
  | .error _ => ⟨pid, 0⟩

end ProcessId

end MemoryRecorder
