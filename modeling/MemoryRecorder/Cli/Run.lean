import MemoryRecorder.Cli.Help
import MemoryRecorder.Cli.World
import MemoryRecorder.Config.Show
import MemoryRecorder.Log
import MemoryRecorder.Process.Watcher
import MemoryRecorder.Store.Write
import MemoryRecorder.Pipeline.Scheduler
/-!
# A run of the program

The program reads its arguments and settings, and then does one of four things: it checks the
settings, prints them, stores a saved mapping file as one measurement, or records until it is
told to stop by a signal. A recording here takes the first tick, which comes at once, and then
the signal; stopping flushes that tick completely.

What the program says goes to two streams. Help, version, the settings and log records go to
the standard output; errors go to the standard error. Records are only written once logging is
set up, after the settings are valid, and then only at the levels the settings let through.

An error that ends the run is reported as `Error: ` and the error, followed by the chain of
what caused it: one cause is indented, several are numbered from zero.

A run that opens a named pipe nobody writes waits there; the signal then ends it, before the
handlers that would stop it gracefully are installed, so it leaves no exit status.

An overflow stops the thread that meets it, and its report goes to the standard error. When
that thread is the main one, the run ends with status 101; a recording goes on without a
stopped worker or feeder.
-/

namespace MemoryRecorder
namespace Cli

def report (top : String) (causes : List String) : String :=
  let number (i : Nat) : String :=
    let s := toString i
    "".pushn ' ' (5 - s.length) ++ s ++ ": "
  let rec numbered (i : Nat) : List String → String
    | [] => ""
    | c :: cs => "\n" ++ number i ++ c ++ numbered (i + 1) cs
  match causes with
  | [] => top
  | [c] => top ++ "\n\nCaused by:\n    " ++ c
  | cs => top ++ "\n\nCaused by:" ++ numbered 0 cs

def mainTarget : String := "memory_watcher"

def storageTarget : String := "memory_watcher::storage"

def watcherTarget : String := "memory_watcher::process::watcher"

def memoryTarget : String := "memory_watcher::process::memory"

def checksTarget : String := "memory_watcher::startup_checks"

/-- A run in progress: the world, the log filter, what was written, and whether the run
waited for a signal to stop it. -/
structure Session where
  world : World
  filter : Log.Filter := ⟨none⟩
  stdout : String := ""
  stderr : String := ""
  waited : Bool := false

/-- Why a run ended before its last step: an exit status, or a read that never returns. -/
inductive Halt where
  | exit (code : Nat)
  | blocked

abbrev RunM := EStateM Halt Session

def exitWith {α : Type} (code : Nat) : RunM α :=
  throw (.exit code)

/-- Opens a named pipe that nobody writes: the run waits until the signal ends it. -/
def blockOnRead {α : Type} : RunM α := do
  modify fun s => { s with waited := true }
  throw .blocked

def say (text : String) : RunM Unit :=
  modify fun s => { s with stdout := s.stdout ++ text }

def complain (text : String) : RunM Unit :=
  modify fun s => { s with stderr := s.stderr ++ text }

def log (level : Log.Level) (target message : String) : RunM Unit := do
  if (← get).filter.allows level then
    say ((Log.Record.mk level target message).line ++ "\n")

def fail {α : Type} (text : String) : RunM α := do
  complain ("Error: " ++ text ++ "\n")
  exitWith 1

def invalidConfig {α : Type} (reason : String) : RunM α := do
  complain ("❌ Configuration invalid: " ++ reason ++ "\n")
  exitWith 1

def world : RunM World := do
  pure (← get).world

def openStore (path : String) : RunM Store.Storage := do
  match (← world).openStore path with
  | .ok st =>
      log .info storageTarget ("Opened measurement store " ++ path)
      pure st
  | .error e => fail (report ("cannot open store " ++ path) (e.message :: e.causes))

def keepStore (path : String) (db : Store.Sql.Database) : RunM Unit :=
  modify fun s => { s with world := s.world.keepStore path db }

def setupLogging (cfg : Config) : RunM Unit := do
  let f := Log.Filter.ofName (cfg.logLevel.getD "info")
  modify fun s => { s with filter := f }
  log .info mainTarget ("Logging initialized with level: " ++ f.name)

def complaintsOf (t : FileTree) (pid : Int32) (path : Location) : List Smaps.Complaint :=
  match discoverTerminator t path, t.readBytes path with
  | .ok key, .ok bs => Smaps.complaints ⟨pid, 0⟩ key (Smaps.readLines bs)
  | _, _ => []

/-- Stores a saved mapping file as one measurement of the single configured pid. -/
def loadSaved (cfg : Config) (file : String) : RunM Unit := do
  let pid ← match cfg.pids with
    | some [p] => pure p
    | _ => fail "--load-smaps needs exactly one pid"
  let w ← world
  let loc := Location.ofPath file
  if w.tree.isPipe loc then blockOnRead
  let snapshot ← match loadSmapsSnapshot w.tree pid loc w.now with
    | .ok s => pure s
    | .error e => fail (report ("cannot load " ++ file) (e.message :: e.causes))
  for c in complaintsOf w.tree pid loc do
    log .warn memoryTarget (c.message file)
  log .debug watcherTarget ("Loaded " ++ toString snapshot.ranges.length ++ " ranges of pid " ++
    toString pid.toInt ++ " from " ++ file)
  let path := cfg.effectiveDatabaseFile
  let st ← openStore path
  let name := (fileName? file).getD (toString pid.toInt)
  let st ← match st.exec (Store.upsertProcess snapshot.process name) with
    | (st, .ok ()) => pure st
    | (st, .error e) => do
        keepStore path st.db
        fail (report e.message e.causes)
  if st.conn.1.session.changes > 0 then
    log .debug storageTarget ("Stored process " ++ snapshot.process.display ++ " (" ++
      debugQuote name ++ ")")
  let (st, id) ← match st.exec (Store.insertSnapshot snapshot) with
    | (st, .ok id) => pure (st, id)
    | (st, .error (.overflow site)) => do
        keepStore path st.db
        complain (Panic.reports [⟨"main", site⟩])
        exitWith 101
    | (st, .error e) => do
        keepStore path st.db
        log .error storageTarget ("Failed to store snapshot of process " ++
          snapshot.process.display ++ ": " ++ e.message)
        fail (report e.message e.causes)
  keepStore path st.db
  log .info mainTarget ("Stored " ++ toString snapshot.ranges.length ++ " ranges of pid " ++
    toString pid.toInt ++ " as measurement " ++ toString id.toInt ++ " in " ++ path)

/-- Checks that the proc file system can be read before recording. -/
def startupChecks (root : String) : RunM Unit := do
  log .info checksTarget "🔍 Validating runtime requirements..."
  let w ← world
  if w.privileged then log .info checksTarget "✅ Running as root (uid=0)"
  else
    log .warn checksTarget
      "⚠️  Not running as root - smaps of other users' processes will be inaccessible"
    log .warn checksTarget "   Those processes are recorded from statm only"
  let loc := Location.ofPath root
  match w.tree.resolve loc with
  | .ok .dir => log .debug checksTarget ("proc root " ++ root ++ " found")
  | .ok _ =>
      log .error checksTarget ("❌ " ++ root ++ " is not a directory")
      fail ("proc filesystem not found at " ++ root)
  | .error f =>
      log .error checksTarget ("❌ Cannot access " ++ root ++ ": " ++ f.message)
      fail ("proc filesystem not found at " ++ root)
  let probe := (loc.join "1").join "smaps"
  match w.tree.resolve probe with
  | .ok .pipe => blockOnRead
  | .ok _ => log .info checksTarget ("✅ " ++ probe.shown ++ " readable: all processes can be sampled")
  | .error f => log .debug checksTarget ("Could not test-read " ++ probe.shown ++ ": " ++ f.message)
  log .info checksTarget "✅ All runtime requirements validated"

def recordingOptions (cfg : Config) (parallelism : Nat) : Pipeline.Options :=
  { root := Location.ofPath (cfg.procRoot.getD "/proc")
    pids := cfg.pids.getD []
    workers := match cfg.workers with
      | some n => if n = 0 then parallelism else n.toNat
      | none => parallelism
    maxQueued := (cfg.maxQueuedSnapshots.getD 10000).toNat
    recordSystem := cfg.recordSystemMemory.getD true
    maxPolls := (cfg.closeMaxPolls.getD 100).toNat }

/-- Records the first tick, then stops on the signal and flushes it. -/
def record (cfg : Config) (signal : String) : RunM Unit := do
  let opts := recordingOptions cfg (← world).parallelism
  startupChecks (cfg.procRoot.getD "/proc")
  let path := cfg.effectiveDatabaseFile
  let db ← openStore path
  let w ← world
  let r := (Pipeline.Recorder.start opts w.tree db).settle
  let r := (r.tick w.now).settle
  modify fun s => { s with waited := true }
  log .info mainTarget ("Received " ++ signal ++ ", shutting down gracefully...")
  let (r, stopped) := r.close
  if !stopped then log .warn mainTarget "Some workers did not stop in time, exiting anyway"
  let r := r.drainFeeder
  keepStore path r.feeder.store.db
  complain (Panic.reports r.panics)
  if r.feeder.stoppedAt.isSome then log .error mainTarget "Feeder thread panicked"
  else
    match (r.feeder.store.exec Store.measurementCount).2 with
    | .ok n => log .info mainTarget ("Recorded " ++ toString n ++ " measurements into " ++ path)
    | .error e => log .warn mainTarget ("Cannot count measurements: " ++ e.message)
  log .info mainTarget "memory-watcher stopped gracefully"

def shownConfig (cfg : Config) : ConfigFormat → String
  | .yaml => cfg.toYaml
  | .json => cfg.toJson
  | .toml => cfg.toToml

def program (args : List String) (signal : String) : RunM Unit := do
  let a ← match parse args with
    | .ok a => pure a
    | .error (.help long) => do say (if long then longHelp else shortHelp); exitWith 0
    | .error .version => do say versionText; exitWith 0
    | .error (.error e) => do complain e.render; exitWith 2
  let w ← world
  if !a.noConfig then
    if let some path := w.configPath? a.config then
      if w.tree.isPipe (Location.ofPath path) then blockOnRead
  let loaded := if a.noConfig then .ok Config.defaults else w.loadConfig a.config
  let cfg ← match loaded with
    | .ok c => pure (Config.withArgs c a)
    | .error m => fail m
  if a.checkConfig then
    match cfg.validate with
    | .ok () => do say "✅ Configuration is valid\n"; exitWith 0
    | .error m => invalidConfig m
  if a.showConfig then
    say (shownConfig cfg a.configFormat ++ "\n")
    exitWith 0
  match cfg.validate with
  | .ok () => pure ()
  | .error m => invalidConfig m
  setupLogging cfg
  log .info mainTarget ("Starting memory-watcher 0.1.0 (built " ++ w.buildStamp ++ ")")
  match a.loadSmaps with
  | some file => loadSaved cfg file
  | none => record cfg signal

structure Outcome where
  /-- The exit status; `none` when the signal ended a run blocked on a read. -/
  exitCode : Option Nat
  stdout : String
  stderr : String
  waited : Bool

/-- Runs the program on its arguments in a world; a recording is stopped by the named signal. -/
def run (w : World) (args : List String) (signal : String) : Outcome × World :=
  let outcome (code : Option Nat) (s : Session) : Outcome × World :=
    ({ exitCode := code, stdout := s.stdout, stderr := s.stderr, waited := s.waited }, s.world)
  match (program args signal).run { world := w } with
  | .ok () s => outcome (some 0) s
  | .error (.exit code) s => outcome (some code) s
  | .error .blocked s => outcome none s

end Cli
end MemoryRecorder
