import MemoryRecorder.Cli.Run
/-!
# The command line

The entry point gathers the files a run may read from the working directory, reads the clock,
runs the program on them, and writes the two streams and the exit status. The files gathered
are the settings files, the saved mapping file, and the files of the proc root that a run
reads for the configured pids and the system. Stores live in memory for the length of the run.
-/

open MemoryRecorder

namespace MemoryRecorder
namespace Cli

def processFiles : List String :=
  ["smaps", "statm", "stat", "status", "oom_adj", "oom_score", "oom_score_adj"]

/-- The paths a run with these arguments may read before its settings are known. -/
def settingsPaths (a : Args) : List String :=
  (a.config.toList ++ defaultConfigFiles) ++ a.loadSmaps.toList

def procPaths (cfg : Config) : List String :=
  let root := cfg.procRoot.getD "/proc"
  let pidFiles := (cfg.pids.getD [1]).flatMap fun pid =>
    processFiles.map fun f => root ++ "/" ++ toString pid.toInt ++ "/" ++ f
  (root ++ "/meminfo") :: pidFiles

end Cli
end MemoryRecorder

/-- Adds the files that can be read to a tree; paths outside the working directory are left
out, as the program names nothing there. -/
def gather (tree : FileTree) (paths : List String) : IO FileTree :=
  paths.foldlM (fun t p => do
    let loc := Location.ofPath p
    let names := Location.lexical loc.parts
    if loc.outside || names.isEmpty then return t
    try
      let bytes ← IO.FS.readBinFile p
      return t.write names bytes.toList
    catch _ => return t) tree

def main (args : List String) : IO UInt32 := do
  let start ← gather {} (match Cli.parse args with
    | .ok a => Cli.settingsPaths a
    | .error _ => [])
  let settings := match Cli.parse args with
    | .ok a =>
        let w : Cli.World := { tree := start, now := 0, buildStamp := "" }
        let loaded := if a.noConfig then .ok Config.defaults else w.loadConfig a.config
        (loaded.toOption.map (Cli.Config.withArgs · a)).getD Config.defaults
    | .error _ => Config.defaults
  let tree ← gather start (Cli.procPaths settings)
  let now ← IO.monoMsNow
  let world : Cli.World :=
    { tree, now := Int64.ofNat now, parallelism := 1, buildStamp := "unknown" }
  let (outcome, _) := Cli.run world args "SIGINT"
  IO.print outcome.stdout
  IO.eprint outcome.stderr
  return (outcome.exitCode.getD 1).toUInt32
