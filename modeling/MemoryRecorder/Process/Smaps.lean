import MemoryRecorder.Process.Mapping
import MemoryRecorder.Text.Quoted
/-!
# Mapping blocks

A process' mapping list is a text of blocks, one per mapping: a header line, then size lines,
then a line that starts with the terminator key (`VmFlags` on current kernels). The terminator
is learned from the file itself: it is the key of the last line.

The text is read line by line, each line decoded on its own with bad bytes replaced, its
trailing line feeds and carriage returns dropped, and reading stops at the first empty line.
-/

namespace MemoryRecorder

namespace Smaps

/-- The byte chunks between line feeds; the last chunk is dropped when empty. -/
def chunks : List UInt8 → List (List UInt8)
  | [] => []
  | b :: bs =>
      match chunks bs with
      | [] => if b = 10 then [[]] else [[b]]
      | c :: cs => if b = 10 then [] :: c :: cs else (b :: c) :: cs

def stripEnd (s : String) : String :=
  String.ofList (s.toList.reverse.dropWhile (fun c => c = '\r' ∨ c = '\n')).reverse

/-- The lines read from a text: decoded, stripped, up to the first empty one. -/
def readLines (bs : List UInt8) : List String :=
  ((chunks bs).map fun c => stripEnd (Text.Utf8.decodeLossy c)).takeWhile (· ≠ "")

inductive TerminatorFault where
  | empty
  | lastLineMalformed
  deriving DecidableEq, Repr

namespace TerminatorFault

def reason : TerminatorFault → String
  | empty => "file is empty"
  | lastLineMalformed => "last line is malformed"

end TerminatorFault

/-- The key of the last line read: the last line must split at colons into exactly two
non-empty parts, and the key is the first. -/
def terminatorOf (ls : List String) : Except TerminatorFault String :=
  match ls.getLast? with
  | none => .error .empty
  | some last =>
      match (last.toList.splitOn ':').filter (· ≠ []) with
      | [key, _] => .ok (String.ofList key)
      | _ => .error .lastLineMalformed

/-- The state of the block scan: whether a header is due, the mapping of the open block (if
its header parsed) and the mappings of the closed blocks, last first. -/
structure Scan where
  headerDue : Bool := true
  current : Option Mapping := none
  closed : List Mapping := []

def Scan.step (p : ProcessId) (terminator : String) (s : Scan) (line : String) : Scan :=
  if s.headerDue then
    { s with headerDue := false,
             current := (RangeKey.ofHeader? line p).map fun k => ⟨k, 0, 0⟩ }
  else if line.startsWith terminator then
    { headerDue := true, current := none,
      closed := match s.current with
        | some m => m :: s.closed
        | none => s.closed }
  else
    match s.current with
    | some m =>
        if line.startsWith "Rss:" then { s with current := some { m with rss := kbValue line } }
        else if line.startsWith "Pss:" then { s with current := some { m with pss := kbValue line } }
        else s
    | none => s

def blocks (p : ProcessId) (terminator : String) (ls : List String) : List Mapping :=
  (ls.foldl (Scan.step p terminator) {}).closed.reverse

/-- A line of a mapping file that does not read as expected; it is passed over. -/
inductive Complaint where
  | badHeader (line : String)
  | badSize (line : String)
  deriving DecidableEq, Repr

def Complaint.message (path : String) : Complaint → String
  | .badHeader line => "Can't parse range " ++ debugQuote line ++ " in " ++ path
  | .badSize line => "Can't parse memory line " ++ debugQuote line

/-- The lines passed over while reading the blocks, in order: the headers that do not parse,
and the size lines of parsed blocks whose value does not parse. -/
def complaints (p : ProcessId) (terminator : String) (ls : List String) : List Complaint :=
  let step (acc : Bool × Bool × List Complaint) (line : String) : Bool × Bool × List Complaint :=
    let (headerDue, open_, out) := acc
    if headerDue then
      match RangeKey.ofHeader? line p with
      | some _ => (false, true, out)
      | none => (false, false, .badHeader line :: out)
    else if line.startsWith terminator then (true, false, out)
    else if open_ && (line.startsWith "Rss:" || line.startsWith "Pss:") && (kbValue? line).isNone then
      (headerDue, open_, .badSize line :: out)
    else acc
  (ls.foldl step (true, false, [])).2.2.reverse

end Smaps

def discoverTerminator (t : FileTree) (path : Location) : Except ProcError String :=
  match t.readBytes path with
  | .error e => .error (.io path.shown e)
  | .ok bs =>
      match Smaps.terminatorOf (Smaps.readLines bs) with
      | .ok key => .ok key
      | .error f => .error (.malformed path.shown f.reason)

def parseSmaps (t : FileTree) (path : Location) (p : ProcessId) (terminator : String) :
    Except ProcError (List Mapping) :=
  match t.readBytes path with
  | .error e => .error (.io path.shown e)
  | .ok bs => .ok (Smaps.blocks p terminator (Smaps.readLines bs))

end MemoryRecorder
