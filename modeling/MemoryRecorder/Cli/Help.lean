import MemoryRecorder.Cli.Args
/-!
# Help and version text

`-h` prints a summary: one line an option, its description in a column that starts two spaces
after the widest option. `--help` prints the long form: the longer description of the program,
and every option on its own line with its description indented below it, the default and the
choices in paragraphs of their own. Neither wraps long lines.
-/

namespace MemoryRecorder
namespace Cli

def versionText : String := "memory-watcher 0.1.0\n"

def about : String :=
  "Records per-process memory maps and system memory into an SQLite time series"

def longAbout : String :=
  "Records per-process memory maps and system memory into an SQLite time series.\n\n" ++
  "Samples /proc/<pid>/smaps, statm and the OOM scores of the selected processes (or of every " ++
  "process) once per period, plus /proc/meminfo, and stores them for later peak analysis and replay."

namespace Opt

/-- The description of an option; help describes itself differently in the two forms. -/
def description (long : Bool) : Opt → String
  | logLevel => "Log level [default: info]"
  | config => "Config file (YAML/JSON/TOML)"
  | noConfig => "Disable all config file loading"
  | showConfig => "Print effective merged config and exit"
  | configFormat => "Output format for --show-config"
  | checkConfig => "Validate config and exit (return code 1 on error)"
  | pids => "Processes to watch (comma-separated); default is every process"
  | periodMs => "Sampling period in milliseconds"
  | databaseFile => "SQLite file to record into"
  | procRoot => "Root of the proc filesystem"
  | workers => "Worker threads (0 = available parallelism)"
  | noSystemMemory => "Do not record /proc/meminfo"
  | loadSmaps =>
      "Store a saved smaps file as one measurement of the single --pids process, then exit"
  | help => if long then "Print help (see a summary with '-h')" else "Print help (see more with '--help')"
  | version => "Print version"

/-- The default and the choices of an option, as help shows them. -/
def specs : Opt → List String
  | configFormat => ["[default: yaml]", "[possible values: " ++ String.intercalate ", " formatChoices ++ "]"]
  | logLevel => ["[possible values: " ++ String.intercalate ", " levelChoices ++ "]"]
  | _ => []

def heading (o : Opt) : String :=
  "  " ++ (match o.short with | some c => "-" ++ c.toString ++ ", " | none => "    ") ++ o.display

end Opt

def shortHelp : String :=
  let widest := Opt.all.foldl (fun w o => max w o.display.length) 2
  let line (o : Opt) : String :=
    let text := String.intercalate " " (o.description false :: o.specs)
    o.heading ++ "".pushn ' ' (widest + 2 - o.display.length) ++ text
  about ++ "\n\n" ++ usage ++ "\n\nOptions:\n" ++ String.intercalate "\n" (Opt.all.map line) ++ "\n"

def longHelp : String :=
  let indent := "          "
  let entry (o : Opt) : String :=
    let body := match o.specs with
      | [] => o.description true
      | specs => o.description true ++ "\n\n" ++ String.intercalate "\n" specs
    o.heading ++ "\n" ++ indent ++ body.replace "\n" ("\n" ++ indent)
  longAbout ++ "\n\n" ++ usage ++ "\n\nOptions:\n" ++ String.intercalate "\n\n" (Opt.all.map entry) ++ "\n"

end Cli
end MemoryRecorder
