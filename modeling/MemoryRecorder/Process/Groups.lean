import MemoryRecorder.Process.Mapping
import MemoryRecorder.Process.Counters
/-!
# Grouping mappings

The kernel lists one mapping per change of protection, so one shared object shows up as
several ranges: code (`r-xp`), read-only data (`r--p`), data (`rw-p`), and an anonymous `rw-p`
range right behind them for `.bss`. Grouping folds those pieces back under the object's name,
and sorts the rest into thread stacks, heap, sockets and anonymous memory.

The scan keeps an anchor: the name of the last code segment and where the segments behind it
end. A private data segment of the same name extends it; an anonymous `rw-p` range that starts
where it ends is the object's `.bss` and uses the anchor up; any other named range drops it.
-/

namespace MemoryRecorder

/-- Which per-process memory figure a query or grouping uses. -/
inductive MemoryType where
  | rss
  | pss
  | statm
  deriving DecidableEq, Repr

namespace MemoryType

def name : MemoryType → String
  | rss => "rss"
  | pss => "pss"
  | statm => "statm"

def ofName? (s : String) : Except String MemoryType :=
  if s = "rss" then .ok .rss
  else if s = "pss" then .ok .pss
  else if s = "statm" then .ok .statm
  else .error s!"Invalid memory type '{s}', expected 'rss', 'pss' or 'statm'"

def rangeValue (t : MemoryType) (m : Mapping) : UInt64 :=
  match t with
  | pss => m.pss
  | rss => m.rss
  | statm => m.rss

end MemoryType

structure MappingSize where
  name : String
  size : UInt64
  deriving DecidableEq, Repr

/-- The grouping of one measurement, in KiB. The named groups are kept in the order their
names first appeared. -/
structure Groups where
  threadStacks : UInt64 := 0
  heap : UInt64 := 0
  anonymous : UInt64 := 0
  sockets : UInt64 := 0
  sum : UInt64 := 0
  statm : Statm := {}
  mappings : List MappingSize := []
  deriving DecidableEq, Repr

namespace Groups

def addTo (gs : List MappingSize) (name : String) (v : UInt64) : List MappingSize :=
  if gs.any (·.name == name) then
    gs.map fun g => if g.name == name then { g with size := g.size + v } else g
  else gs ++ [⟨name, v⟩]

/-- Whether one named group goes before another: larger first, then by name. -/
def before (a b : MappingSize) : Bool :=
  b.size < a.size || (a.size == b.size && a.name < b.name)

def sortedMappings (g : Groups) : List MappingSize :=
  g.mappings.mergeSort before

def mappingsTotal (g : Groups) : Except Overflow UInt64 :=
  Word.sumChecked (g.mappings.map (·.size))

end Groups

/-- The code segment the scan last saw and where its segments end. -/
structure Anchor where
  name : String
  hi : UInt64

structure GroupScan where
  groups : Groups
  anchor : Option Anchor := none

/-- The bucket of one named or special range, and the anchor after it. -/
def GroupScan.place (s : GroupScan) (groupSockets : Bool) (k : RangeKey) (v : UInt64) :
    GroupScan :=
  let g := s.groups
  if k.name.startsWith "[stack" then { s with groups := { g with threadStacks := g.threadStacks + v } }
  else if groupSockets && k.name.startsWith "socket:" then
    { s with groups := { g with sockets := g.sockets + v } }
  else if k.name == "[heap]" then { s with groups := { g with heap := g.heap + v } }
  else if k.name.isEmpty then
    match s.anchor with
    | some a =>
        if a.hi == k.lo && k.permission == "rw-p" then
          { groups := { g with mappings := Groups.addTo g.mappings a.name v }, anchor := none }
        else { s with groups := { g with anonymous := g.anonymous + v } }
    | none => { s with groups := { g with anonymous := g.anonymous + v } }
  else
    let anchor :=
      if k.permission == "r-xp" then some ⟨k.name, k.hi⟩
      else if (k.permission == "r--p" || k.permission == "rw-p") &&
          (s.anchor.map (·.name == k.name)).getD false then
        s.anchor.map fun a => { a with hi := k.hi }
      else none
    { groups := { g with mappings := Groups.addTo g.mappings k.name v }, anchor := anchor }

/-- Reads one mapping into the scan: a zero value is skipped, and the sum must stay a word. -/
def GroupScan.step (t : MemoryType) (groupSockets : Bool) (s : GroupScan) (m : Mapping) :
    Except Overflow GroupScan :=
  let v := t.rangeValue m
  if v = 0 then .ok s
  else
    match Word.addChecked s.groups.sum v with
    | .error o => .error o
    | .ok total => .ok (({ s with groups := { s.groups with sum := total } }).place groupSockets m.key v)

def group (ms : List Mapping) (statm : Statm) (t : MemoryType) (groupSockets : Bool) :
    Except Overflow Groups :=
  match ms.foldlM (GroupScan.step t groupSockets) { groups := { statm := statm } } with
  | .error o => .error o
  | .ok s => .ok s.groups

end MemoryRecorder
