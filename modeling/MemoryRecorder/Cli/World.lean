import MemoryRecorder.Cli.Args
import MemoryRecorder.Config.ReadYaml
import MemoryRecorder.Config.ReadJson
import MemoryRecorder.Config.ReadToml
import MemoryRecorder.Store.Overview
/-!
# What a run works on

A run of the program works in a directory: the files under it, the stores kept in some of them,
the clock, and a few facts about the machine. Paths given to the program are taken relative to
that directory; an absolute path names nothing in it.

* A settings file is the one given, or else the first of the default files that exists. A file
  ending in `.json` is read as JSON, one ending in `.toml` as TOML, any other as YAML. A path
  that names nothing gives the default settings.
* A named pipe that nobody writes is never read to its end: a run that opens one to read it
  waits until a signal ends it.
* A store is opened at a path: the store kept there, a new store where the path names no file
  but its directory exists, a new store for an empty file; a file with other content is not a
  store, and a path whose directory is missing cannot be opened. A path into the host's tree
  opens a scratch store that is not kept.
-/

namespace MemoryRecorder
namespace Cli

/-- What a run sees and changes. -/
structure World where
  tree : FileTree
  stores : List (List String × Store.Sql.Database) := []
  parallelism : Nat := 1
  /-- Whether the program runs with the privileges to read every process. -/
  privileged : Bool := true
  /-- The clock: the time of a saved mapping file and of the recording's tick. -/
  now : Millis
  buildStamp : String

def fileName? (path : String) : Option String :=
  match (Location.namesOf path).getLast? with
  | some ".." => none
  | n => n

def extension? (path : String) : Option String :=
  match fileName? path with
  | none => none
  | some name =>
      let cs := name.toList
      let after := cs.reverse.takeWhile (· ≠ '.')
      if after.length + 1 < cs.length then some (String.ofList after.reverse) else none

def defaultConfigFiles : List String :=
  ["/etc/memory-watcher/config.yaml", "./memory-watcher.yaml", "./memory-watcher.json"]

namespace World

def pathExists (w : World) (path : String) : Bool :=
  w.tree.exists (Location.ofPath path)

/-- The settings file a run reads: the one given, or else the first default file that exists;
`none` when that path names nothing, and the defaults apply. -/
def configPath? (w : World) (given : Option String) : Option String :=
  let path := match given with
    | some p => p
    | none => (defaultConfigFiles.find? w.pathExists).getD ""
  if path.isEmpty || !w.pathExists path then none else some path

def loadConfig (w : World) (given : Option String) : Except String Config :=
  match w.configPath? given with
  | none => .ok Config.defaults
  | some path =>
      match w.tree.readText (Location.ofPath path) with
      | .error f => .error f.message
      | .ok text =>
          match extension? path with
          | some "json" => Config.ofJson text
          | some "toml" => Config.ofToml text
          | _ => Config.ofYaml text

/-- The store found at a path before it is opened. A path that ends in a slash or names a
directory cannot be opened, nor one whose directory is missing; a path in the host's tree
opens a scratch store. -/
def storeFound (w : World) (path : String) : Except StoreError Store.Sql.Database :=
  let loc := Location.ofPath path
  if path.isEmpty then .ok {}
  else if loc.dirOnly then .error (.sqlite (.cannotOpen path))
  else
    match w.tree.locate loc with
    | .error _ => .error (.sqlite (.cannotOpen path))
    | .ok (.host _) => .ok {}
    | .ok (.tree p) =>
        match w.stores.find? (·.1 == p) with
        | some (_, db) => .ok db
        | none =>
            match w.tree.find? p with
            | some (.file []) => .ok {}
            | some (.file _) => .error (.sqlite .notADatabase)
            | some _ => .error (.sqlite (.cannotOpen path))
            | none => .ok {}

def openStore (w : World) (path : String) : Except StoreError Store.Storage :=
  match w.storeFound path with
  | .error e => .error e
  | .ok db => (Store.Storage.init db).2

/-- Keeps a store at a path, with its file; a scratch store is not kept. -/
def keepStore (w : World) (path : String) (db : Store.Sql.Database) : World :=
  match w.tree.locate (Location.ofPath path) with
  | .ok (.tree p) =>
      if path.isEmpty || p.isEmpty then w
      else
        { w with tree := w.tree.write p [],
                 stores := (w.stores.filter (·.1 != p)) ++ [(p, db)] }
  | _ => w

end World

/-- The settings with the command line's choices put over them. -/
def Config.withArgs (c : Config) (a : Args) : Config :=
  let c := if a.pids.isEmpty then c else { c with pids := some a.pids }
  let c := match a.periodMs with
    | some v => { c with periodMs := some v }
    | none => c
  let c := match a.databaseFile with
    | some v => { c with databaseFile := some v }
    | none => c
  let c := match a.procRoot with
    | some v => { c with procRoot := some v }
    | none => c
  let c := match a.workers with
    | some v => { c with workers := some v }
    | none => c
  let c := if a.noSystemMemory then { c with recordSystemMemory := some false } else c
  match a.logLevel with
  | some v => { c with logLevel := some v }
  | none => c

end Cli
end MemoryRecorder
