import MemoryRecorder.Process.Identity
/-!
# Finding processes

A proc root lists one directory per process, named by its pid in decimal. A directory counts
when its name is all ASCII digits, it holds a mapping file, and the name is a signed 32-bit
word. A process' display name is the `Name:` line of its `status` file, or else its `comm`.
-/

namespace MemoryRecorder

/-- The pids of the process directories below a root, ascending; none when the root cannot be
listed. -/
def collectProcEntries (t : FileTree) (root : Location) : List Int32 :=
  match t.listDir root with
  | .error _ => []
  | .ok names =>
      let pids := names.filterMap fun n =>
        if n.toList.all Char.isDigit && t.exists ((root.join n).join "smaps") then Text.i32? n
        else none
      pids.mergeSort fun a b => a.toInt ≤ b.toInt

def statusName? : List String → Option String
  | [] => none
  | l :: ls =>
      if l.startsWith "Name:" then
        let v := Text.trimBlank (String.ofList (l.toList.drop 5))
        if v.isEmpty then none else some v
      else statusName? ls

/-- The display name of a process directory: from `status`, else from `comm`. -/
def readProcessName (t : FileTree) (dir : Location) : Option String :=
  let fromStatus :=
    match t.readText (dir.join "status") with
    | .ok s => statusName? (Text.lines s)
    | .error _ => none
  match fromStatus with
  | some n => some n
  | none =>
      match t.readText (dir.join "comm") with
      | .ok s =>
          let v := Text.trimBlank s
          if v.isEmpty then none else some v
      | .error _ => none

end MemoryRecorder
