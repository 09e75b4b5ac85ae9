import MemoryRecorder.Word
/-!
# Threads stopped by an overflow

An arithmetic overflow is not wrapped: it stops the thread that meets it. The thread leaves a
report on the standard error, naming the thread, the place in the program where a size left its
word, and the step that failed. The first report of a run also says how to get a backtrace.

Sizes leave their word in two places: when the sizes of a snapshot's mappings are added up, one
total after the other for each mapping, and when a page count is turned into KiB.
-/

namespace MemoryRecorder

/-- The places where a size can leave its word. -/
inductive OverflowSite where
  | residentTotal
  | proportionalTotal
  | pageCount
  deriving DecidableEq, Repr

namespace OverflowSite

def overflow : OverflowSite → Overflow
  | residentTotal => .add
  | proportionalTotal => .add
  | pageCount => .mul

/-- The position in the program's source that a report names for a place. -/
def position : OverflowSite → String
  | residentTotal => "src/process/watcher.rs:34:44"
  | proportionalTotal => "src/process/watcher.rs:34:57"
  | pageCount => "src/process/memory.rs:235:47"

end OverflowSite

structure Panic where
  thread : String
  site : OverflowSite
  deriving DecidableEq, Repr

namespace Panic

def backtraceHint : String :=
  "note: run with `RUST_BACKTRACE=1` environment variable to display a backtrace"

/-- The lines a stopped thread writes; the first report of a run adds the hint. -/
def lines (p : Panic) (first : Bool) : List String :=
  ["", "thread '" ++ p.thread ++ "' panicked at " ++ p.site.position ++ ":",
    p.site.overflow.message] ++ (if first then [backtraceHint] else [])

/-- The text of the reports of the threads a run lost, in the order they stopped. -/
def reports (ps : List Panic) : String :=
  String.join ((ps.zipIdx.flatMap fun (p, i) => p.lines (i == 0)).map (· ++ "\n"))

end Panic

end MemoryRecorder
