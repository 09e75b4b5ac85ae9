import MemoryRecorder.Word
import MemoryRecorder.Process.Identity
/-!
# Mappings

A mapping is one range of a process' address space, `[lo, hi)`, with its permission and the
first word of its path, together with its resident and proportional sizes in KiB. Its key is
everything but the sizes; identical keys share one row of the store.

A mapping header line reads `lo-hi perm offset dev inode [path]` with `lo` and `hi` in
hexadecimal. A size line reads `Key: value kB`.
-/

namespace MemoryRecorder

/-- What identifies a mapping: its process, address range, permission and name. -/
structure RangeKey where
  process : ProcessId
  lo : UInt64
  hi : UInt64
  permission : String
  name : String
  deriving DecidableEq, Repr

namespace RangeKey

def hash (k : RangeKey) : UInt64 :=
  (ContentHash.u64 {} k.process.hash |>.u64 k.lo |>.u64 k.hi |>.str k.permission
    |>.str k.name).finish

def sizeBytes (k : RangeKey) : Except Overflow UInt64 :=
  Word.subChecked k.hi k.lo

/-- The key of a mapping header line, if it has one: at least five words, a range of two
hexadecimal words joined by the first `-` with the end above the start, and the sixth word, if
there is one, as the name. -/
def ofHeader? (line : String) (p : ProcessId) : Option RangeKey :=
  let parts := Text.words line
  if parts.length < 5 then none
  else
    match parts with
    | span :: perm :: _ =>
        match Text.splitOnce '-' span with
        | none => none
        | some (a, b) =>
            match Text.hexU64? a, Text.hexU64? b with
            | some lo, some hi =>
                if hi ≤ lo then none
                else some ⟨p, lo, hi, perm, (parts[5]?).getD ""⟩
            | _, _ => none
    | _ => none

end RangeKey

structure Mapping where
  key : RangeKey
  rss : UInt64
  pss : UInt64
  deriving DecidableEq, Repr

/-- The value of a `Key: value kB` line: exactly three words, the second a decimal word. -/
def kbValue? (line : String) : Option UInt64 :=
  match Text.words line with
  | [_, v, _] => Text.u64? v
  | _ => none

/-- The value of a size line; a line that does not parse counts as zero. -/
def kbValue (line : String) : UInt64 :=
  (kbValue? line).getD 0

end MemoryRecorder
