import MemoryRecorder.FileTree
/-!
# Failures of the process sources

Reading a per-process source fails in two ways: the file could not be read, or what it holds
does not have the expected shape. Both name the path they concern.
-/

namespace MemoryRecorder

inductive ProcError where
  | io (path : String) (fault : IoFault)
  | malformed (path : String) (reason : String)
  deriving DecidableEq, Repr

namespace ProcError

def message : ProcError → String
  | io path fault => s!"cannot read {path}: {fault.message}"
  | malformed path reason => s!"cannot parse {path}: {reason}"

/-- What caused the failure, outermost first: the system's report for a read that failed. -/
def causes : ProcError → List String
  | io _ fault => [fault.message]
  | malformed _ _ => []

end ProcError

end MemoryRecorder
