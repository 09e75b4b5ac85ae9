import MemoryRecorder.Text.Quoted
/-!
# Settings of a recording

A `Config` holds every setting a recording reads, each one optional: a file may set any of them,
the command line overrides some, and a setting left unset takes its default where it is used.
The defaults themselves form the `Config` used when no file is read.

Reading a setting from a document is typed: a setting expects a kind of value, and a document
offers something (`Found`). A mismatch is reported in the words every document reader of the
program uses: "invalid type: string \"x\", expected u64" when the offered thing has the wrong
shape, "invalid value: integer `-1`, expected u64" when it has the right shape but is out of range.

The defaults pass validation (`validate_defaults`).
-/

namespace MemoryRecorder

structure Config where
  periodMs : Option UInt64 := none
  procRoot : Option String := none
  pids : Option (List Int32) := none
  workers : Option UInt64 := none
  maxQueuedSnapshots : Option UInt64 := none
  recordSystemMemory : Option Bool := none
  databaseFile : Option String := none
  closePollIntervalMs : Option UInt64 := none
  closeMaxPolls : Option UInt32 := none
  logLevel : Option String := none
  deriving DecidableEq, Repr

namespace Config

def defaults : Config :=
  { periodMs := some 1000, procRoot := some "/proc", maxQueuedSnapshots := some 10000,
    recordSystemMemory := some true, closePollIntervalMs := some 100, closeMaxPolls := some 100,
    logLevel := some "info" }

/-- The store to record into: the configured file, else one named after the single watched
pid, else `measurement.db`. -/
def effectiveDatabaseFile (c : Config) : String :=
  match c.databaseFile, c.pids with
  | some p, _ => p
  | none, some [pid] => "measurement." ++ toString pid.toInt ++ ".db"
  | none, _ => "measurement.db"

def levelNames : List String :=
  ["off", "error", "warn", "info", "debug", "trace"]

/-- Checks the settings that must be positive or well formed, in a fixed order; the first
failure is the answer. -/
def validate (c : Config) : Except String Unit :=
  if c.periodMs = some 0 then .error "period_ms must be greater than 0"
  else if c.closeMaxPolls = some 0 then .error "close_max_polls must be greater than 0"
  else if c.maxQueuedSnapshots = some 0 then .error "max_queued_snapshots must be greater than 0"
  else if c.procRoot = some "" then .error "proc_root must not be empty"
  else
    match (c.pids.getD []).find? (fun p => p.toInt ≤ 0) with
    | some p => .error ("Invalid pid " ++ toString p.toInt)
    | none =>
        match c.logLevel with
        | some l =>
            if levelNames.contains l then .ok ()
            else .error ("Invalid log_level '" ++ l ++ "', expected off/error/warn/info/debug/trace")
        | none => .ok ()

theorem validate_defaults : defaults.validate = .ok () := by
  rfl

end Config

inductive Setting where
  | periodMs | procRoot | pids | workers | maxQueuedSnapshots | recordSystemMemory
  | databaseFile | closePollIntervalMs | closeMaxPolls | logLevel
  deriving DecidableEq, Repr

namespace Setting

def all : List Setting :=
  [periodMs, procRoot, pids, workers, maxQueuedSnapshots, recordSystemMemory, databaseFile,
   closePollIntervalMs, closeMaxPolls, logLevel]

def key : Setting → String
  | periodMs => "period_ms"
  | procRoot => "proc_root"
  | pids => "pids"
  | workers => "workers"
  | maxQueuedSnapshots => "max_queued_snapshots"
  | recordSystemMemory => "record_system_memory"
  | databaseFile => "database_file"
  | closePollIntervalMs => "close_poll_interval_ms"
  | closeMaxPolls => "close_max_polls"
  | logLevel => "log_level"

def ofKey? (k : String) : Option Setting :=
  all.find? (·.key == k)

def isSet (c : Config) : Setting → Bool
  | periodMs => c.periodMs.isSome
  | procRoot => c.procRoot.isSome
  | pids => c.pids.isSome
  | workers => c.workers.isSome
  | maxQueuedSnapshots => c.maxQueuedSnapshots.isSome
  | recordSystemMemory => c.recordSystemMemory.isSome
  | databaseFile => c.databaseFile.isSome
  | closePollIntervalMs => c.closePollIntervalMs.isSome
  | closeMaxPolls => c.closeMaxPolls.isSome
  | logLevel => c.logLevel.isSome

end Setting

/-- The kind of value a setting, or an element of one, expects. -/
inductive Expect where
  | u64 | usize | u32 | i32 | boolean | text | path | sequence | config | fieldName
  deriving DecidableEq, Repr

def Expect.describe : Expect → String
  | .u64 => "u64"
  | .usize => "usize"
  | .u32 => "u32"
  | .i32 => "i32"
  | .boolean => "a boolean"
  | .text => "a string"
  | .path => "path string"
  | .sequence => "a sequence"
  | .config => "struct Config"
  | .fieldName => "field identifier"

/-- What a document offers where a value is expected. -/
inductive Found where
  | unit
  | bool (b : Bool)
  | unsigned (n : Nat)
  | signed (n : Int)
  | float (shown : String)
  | str (s : String)
  | seq
  | map
  deriving DecidableEq, Repr

/-- How an error names what was found. Integers past the 64-bit words are named with the wider
word they were read as. -/
def Found.describe : Found → String
  | .unit => "unit value"
  | .bool b => "boolean `" ++ toString b ++ "`"
  | .unsigned n => "integer `" ++ toString n ++ "`" ++ (if n < UInt64.size then "" else " as u128")
  | .signed n => "integer `" ++ toString n ++ "`" ++ (if -Int.pow 2 63 ≤ n then "" else " as i128")
  | .float s => "floating point `" ++ s ++ "`"
  | .str s => "string " ++ debugQuote s
  | .seq => "sequence"
  | .map => "map"

def invalidType (f : Found) (e : Expect) : String :=
  "invalid type: " ++ f.describe ++ ", expected " ++ e.describe

def invalidValue (f : Found) (e : Expect) : String :=
  "invalid value: " ++ f.describe ++ ", expected " ++ e.describe

inductive Accepted where
  | nat (n : Nat)
  | int (n : Int)
  | bool (b : Bool)
  | text (s : String)
  deriving DecidableEq, Repr

/-- Accepts a scalar for a kind, or says why not. -/
def Expect.accept (e : Expect) (f : Found) : Except String Accepted :=
  let word (bound : Nat) : Except String Accepted :=
    match f with
    | .unsigned n => if n < bound then .ok (.nat n) else .error (invalidValue f e)
    | .signed _ => .error (invalidValue f e)
    | _ => .error (invalidType f e)
  match e with
  | .u64 | .usize => word UInt64.size
  | .u32 => word UInt32.size
  | .i32 =>
      match f with
      | .unsigned n => if n < Nat.pow 2 31 then .ok (.int n) else .error (invalidValue f e)
      | .signed n => if -Int.pow 2 31 ≤ n then .ok (.int n) else .error (invalidValue f e)
      | _ => .error (invalidType f e)
  | .boolean =>
      match f with
      | .bool b => .ok (.bool b)
      | _ => .error (invalidType f e)
  | .text | .path =>
      match f with
      | .str s => .ok (.text s)
      | _ => .error (invalidType f e)
  | _ => .error (invalidType f e)

def Setting.expect : Setting → Expect
  | .periodMs | .closePollIntervalMs => .u64
  | .workers | .maxQueuedSnapshots => .usize
  | .closeMaxPolls => .u32
  | .recordSystemMemory => .boolean
  | .procRoot | .databaseFile => .path
  | .logLevel => .text
  | .pids => .sequence

def Config.setScalar (c : Config) (s : Setting) (v : Accepted) : Config :=
  match s, v with
  | .periodMs, .nat n => { c with periodMs := some n.toUInt64 }
  | .closePollIntervalMs, .nat n => { c with closePollIntervalMs := some n.toUInt64 }
  | .workers, .nat n => { c with workers := some n.toUInt64 }
  | .maxQueuedSnapshots, .nat n => { c with maxQueuedSnapshots := some n.toUInt64 }
  | .closeMaxPolls, .nat n => { c with closeMaxPolls := some n.toUInt32 }
  | .recordSystemMemory, .bool b => { c with recordSystemMemory := some b }
  | .procRoot, .text s => { c with procRoot := some s }
  | .databaseFile, .text s => { c with databaseFile := some s }
  | .logLevel, .text s => { c with logLevel := some s }
  | _, _ => c

def duplicateField (s : Setting) : String :=
  "duplicate field `" ++ s.key ++ "`"

end MemoryRecorder
