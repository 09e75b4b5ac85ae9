import MemoryRecorder.Cli.Suggest
/-!
# Command-line arguments

The recorder takes options only, no positional arguments. Every option has a long name, some a
one-letter short name, and either is a flag or takes one value: the next argument, the text after
`=` in `--name=value`, or, for a short name, the rest of the argument (`-p1,2`, `-p=1,2`). Flags
may be clustered behind one dash (`-hV`).

The parser reads left to right and holds at most one option waiting for its value. An option's
value is checked when the option is complete: when the next option starts, or at the end. So an
error shows up at the first point where it is certain, and `--help` or `--version` act as soon as
they are read, unless an earlier option is still incomplete.

Errors are `ArgError`s; `ArgError.render` writes the message the user sees, with a usage line
where the mistake is one of spelling rather than of a value. That line names the options started
before the mistake. The recorder's own options also form one group, started with any of them:
a value attached to a flag shows the whole group in place of its members, while an unknown
option shows the members one by one, with the option it is close to.
-/

namespace MemoryRecorder
namespace Cli

inductive ConfigFormat where
  | yaml | json | toml
  deriving DecidableEq, Repr

structure Args where
  logLevel : Option String := none
  config : Option String := none
  noConfig : Bool := false
  showConfig : Bool := false
  configFormat : ConfigFormat := .yaml
  checkConfig : Bool := false
  pids : List Int32 := []
  periodMs : Option UInt64 := none
  databaseFile : Option String := none
  procRoot : Option String := none
  workers : Option UInt64 := none
  noSystemMemory : Bool := false
  loadSmaps : Option String := none
  deriving Repr

/-- The options, in the order help lists them. -/
inductive Opt where
  | logLevel | config | noConfig | showConfig | configFormat | checkConfig | pids | periodMs
  | databaseFile | procRoot | workers | noSystemMemory | loadSmaps | help | version
  deriving DecidableEq, Repr

/-- How an option's value is read. -/
inductive ValueKind where
  | choice (names : List String)
  | path
  | int32List
  | word
  deriving DecidableEq, Repr

def levelChoices : List String := ["off", "error", "warn", "info", "debug", "trace"]

def formatChoices : List String := ["yaml", "json", "toml"]

namespace Opt

def all : List Opt :=
  [logLevel, config, noConfig, showConfig, configFormat, checkConfig, pids, periodMs,
   databaseFile, procRoot, workers, noSystemMemory, loadSmaps, help, version]

def long : Opt → String
  | logLevel => "log-level"
  | config => "config"
  | noConfig => "no-config"
  | showConfig => "show-config"
  | configFormat => "config-format"
  | checkConfig => "check-config"
  | pids => "pids"
  | periodMs => "period-ms"
  | databaseFile => "database-file"
  | procRoot => "proc-root"
  | workers => "workers"
  | noSystemMemory => "no-system-memory"
  | loadSmaps => "load-smaps"
  | help => "help"
  | version => "version"

def short : Opt → Option Char
  | config => some 'c'
  | pids => some 'p'
  | databaseFile => some 'o'
  | workers => some 'w'
  | help => some 'h'
  | version => some 'V'
  | _ => none

def value? : Opt → Option ValueKind
  | logLevel => some (.choice levelChoices)
  | config => some .path
  | configFormat => some (.choice formatChoices)
  | pids => some .int32List
  | periodMs => some .word
  | databaseFile => some .path
  | procRoot => some .path
  | workers => some .word
  | loadSmaps => some .path
  | _ => none

def valueName : Opt → String
  | loadSmaps => "FILE"
  | o => (o.long.map fun c => if c == '-' then '_' else c.toUpper)

def display (o : Opt) : String :=
  match o.value? with
  | some _ => "--" ++ o.long ++ " <" ++ o.valueName ++ ">"
  | none => "--" ++ o.long

def ofLong? (s : String) : Option Opt :=
  all.find? (·.long == s)

def ofShort? (c : Char) : Option Opt :=
  all.find? (·.short == some c)

/-- Whether the option may be given more than once, its values accumulating. -/
def repeats : Opt → Bool
  | pids => true
  | _ => false

/-- Whether the option is one of the recorder's own, and so a member of their group; help and
version are not. -/
def inGroup : Opt → Bool
  | help => false
  | version => false
  | _ => true

end Opt

def usage : String := "Usage: memory-watcher [OPTIONS]"

/-- What a usage line names: options in the order they started, and whether the group of the
recorder's options stands in for its members. -/
structure UsageContext where
  opts : List Opt := []
  grouped : Bool := false
  deriving DecidableEq, Repr

/-- The usage line: the general one when nothing has started, otherwise the options that have,
the group written as its members' alternatives. -/
def UsageContext.line (u : UsageContext) : String :=
  if u.opts.isEmpty && !u.grouped then usage
  else
    let shown := if u.grouped then u.opts.filter (!·.inGroup) else u.opts
    let group :=
      if u.grouped then
        " <" ++ String.intercalate "|" ((Opt.all.filter Opt.inGroup).map Opt.display) ++ ">"
      else ""
    "Usage: memory-watcher" ++ String.join (shown.map (" " ++ ·.display)) ++ group

/-- A mistake on the command line. -/
inductive ArgError where
  | unknown (arg : String) (similar : Option String) (context : UsageContext)
  | unexpectedValue (value : String) (opt : Opt) (context : UsageContext)
  | missingValue (opt : Opt)
  | notAChoice (opt : Opt) (value : String) (similar : Option String)
  | badValue (opt : Opt) (value : String) (reason : String)
  | repeated (opt : Opt)
  deriving DecidableEq, Repr

inductive Stop where
  | help (long : Bool)
  | version
  | error (e : ArgError)
  deriving DecidableEq, Repr

def choicesLine (o : Opt) : String :=
  match o.value? with
  | some (.choice names) => "\n  [possible values: " ++ String.intercalate ", " names ++ "]"
  | _ => ""

def ArgError.render : ArgError → String
  | .unknown arg similar ctx =>
      let tip := match similar with
        | some s => "\n\n  tip: a similar argument exists: '--" ++ s ++ "'"
        | none => ""
      "error: unexpected argument '" ++ arg ++ "' found" ++ tip ++ "\n\n" ++ ctx.line ++
        "\n\nFor more information, try '--help'.\n"
  | .unexpectedValue value o ctx =>
      "error: unexpected value '" ++ value ++ "' for '" ++ o.display ++
        "' found; no more were expected\n\n" ++ ctx.line ++ "\n\nFor more information, try '--help'.\n"
  | .missingValue o =>
      "error: a value is required for '" ++ o.display ++ "' but none was supplied" ++
        choicesLine o ++ "\n\nFor more information, try '--help'.\n"
  | .notAChoice o value similar =>
      let head :=
        if value.isEmpty then "error: a value is required for '" ++ o.display ++ "' but none was supplied"
        else "error: invalid value '" ++ value ++ "' for '" ++ o.display ++ "'"
      let tip := match similar with
        | some s => "\n\n  tip: a similar value exists: '" ++ s ++ "'"
        | none => ""
      head ++ choicesLine o ++ tip ++ "\n\nFor more information, try '--help'.\n"
  | .badValue o value reason =>
      "error: invalid value '" ++ value ++ "' for '" ++ o.display ++ "': " ++ reason ++
        "\n\nFor more information, try '--help'.\n"
  | .repeated o =>
      "error: the argument '" ++ o.display ++ "' cannot be used multiple times\n\n" ++ usage ++
        "\n\nFor more information, try '--help'.\n"

/-- Why a decimal integer does not read, or its value: an optional sign (a minus only when
`signed`), then at least one digit; the value must lie in `[-low, high]`. -/
def readInteger (signed : Bool) (low high : Nat) (s : String) : Except String Int :=
  let cs := s.toList
  if cs.isEmpty then .error "cannot parse integer from empty string"
  else
    let (negative, digits) := match cs with
      | '+' :: rest => (false, rest)
      | '-' :: rest => if signed then (true, rest) else (false, cs)
      | _ => (false, cs)
    if digits.isEmpty then .error "invalid digit found in string"
    else
      let step (acc : Except String Nat) (c : Char) : Except String Nat :=
        match acc with
        | .error e => .error e
        | .ok n =>
            if !c.isDigit then .error "invalid digit found in string"
            else
              let n' := n * 10 + (c.toNat - '0'.toNat)
              if negative then
                if low < n' then .error "number too small to fit in target type" else .ok n'
              else if high < n' then .error "number too large to fit in target type"
              else .ok n'
      match digits.foldl step (.ok 0) with
      | .error e => .error e
      | .ok n => .ok (if negative then -(n : Int) else n)

def Args.setValue (a : Args) (o : Opt) (v : String) : Except ArgError Args :=
  match o.value? with
  | some (.choice names) =>
      if names.contains v then
        match o with
        | .configFormat =>
            .ok { a with configFormat :=
              if v == "json" then .json else if v == "toml" then .toml else .yaml }
        | _ => .ok { a with logLevel := some v }
      else .error (.notAChoice o v (suggest v names))
  | some .path =>
      if v.isEmpty then .error (.missingValue o)
      else
        match o with
        | .config => .ok { a with config := some v }
        | .databaseFile => .ok { a with databaseFile := some v }
        | .procRoot => .ok { a with procRoot := some v }
        | _ => .ok { a with loadSmaps := some v }
  | some .int32List =>
      match readInteger true (Nat.pow 2 63) (Nat.pow 2 63 - 1) v with
      | .error reason => .error (.badValue o v reason)
      | .ok n =>
          if n < -Int.pow 2 31 || Int.pow 2 31 - 1 < n then
            .error (.badValue o (toString n) (toString n ++ " is not in -2147483648..=2147483647"))
          else .ok { a with pids := a.pids ++ [Int32.ofInt n] }
  | some .word =>
      match readInteger false 0 (UInt64.size - 1) v with
      | .error reason => .error (.badValue o v reason)
      | .ok n =>
          match o with
          | .periodMs => .ok { a with periodMs := some n.toNat.toUInt64 }
          | _ => .ok { a with workers := some n.toNat.toUInt64 }
  | none => .ok a

def Args.setFlag (a : Args) : Opt → Args
  | .noConfig => { a with noConfig := true }
  | .showConfig => { a with showConfig := true }
  | .checkConfig => { a with checkConfig := true }
  | .noSystemMemory => { a with noSystemMemory := true }
  | _ => a

/-- The parser between arguments: what is set so far, the options started in order, whether
their group has started, and the option waiting for its value. -/
structure Parser where
  args : Args := {}
  started : List Opt := []
  grouped : Bool := false
  pending : Option (Opt × List String) := none

def Parser.begin (p : Parser) (o : Opt) : Parser :=
  { p with started := if p.started.contains o then p.started else p.started ++ [o],
           grouped := true }

def Parser.startedWith (p : Parser) (o : Opt) : List Opt :=
  if p.started.contains o then p.started else p.started ++ [o]

def splitValues (o : Opt) (vals : List String) : List String :=
  if o.repeats then vals.flatMap fun v => v.splitOn "," else vals

/-- Completes an option with its values, as far as it gets: it must have one, must not be given
twice unless it repeats, and each value must read. A flag completes with no value. Returns the
parser afterwards and the stop that ends parsing, if any: an option given twice is no longer
started, and one whose value does not read has started nonetheless. -/
def Parser.react (p : Parser) (o : Opt) (long : Bool) (vals : List String) :
    Parser × Option Stop :=
  match o with
  | .help => (p, some (.help long))
  | .version => (p, some .version)
  | _ =>
      match o.value? with
      | none =>
          if p.started.contains o then
            ({ p with started := p.started.erase o }, some (.error (.repeated o)))
          else ({ p with args := p.args.setFlag o }.begin o, none)
      | some _ =>
          if vals.isEmpty then (p, some (.error (.missingValue o)))
          else if p.started.contains o && !o.repeats then
            ({ p with started := p.started.erase o }, some (.error (.repeated o)))
          else
            let p := p.begin o
            let read := (splitValues o vals).foldl (fun (acc : Except ArgError Args) v =>
              match acc with
              | .ok a => a.setValue o v
              | .error e => .error e) (.ok p.args)
            match read with
            | .ok a => ({ p with args := a, pending := none }, none)
            | .error e => (p, some (.error e))

def Parser.complete (p : Parser) (o : Opt) (long : Bool) (vals : List String) :
    Except Stop Parser :=
  match p.react o long vals with
  | (p', none) => .ok p'
  | (_, some stop) => .error stop

def Parser.resolve (p : Parser) : Except Stop Parser :=
  match p.pending with
  | some (o, vals) => { p with pending := none }.complete o false vals
  | none => .ok p

/-- An option read from the command line: completes the waiting one first, then either
completes this one or, when it needs a value that has not come yet, leaves it waiting. -/
def Parser.start (p : Parser) (o : Opt) (long : Bool) (attached : Option String) :
    Except Stop Parser := do
  let p ← p.resolve
  match o.value?, attached with
  | some _, some v => p.complete o long [v]
  | some _, none => .ok { p with pending := some (o, []) }
  | none, _ => p.complete o long []

def Parser.settle (p : Parser) : Parser :=
  match p.pending with
  | some (o, vals) => ({ p with pending := none }.react o false vals).1
  | none => p

/-- A long name that names no option ends parsing with an error. The waiting option is settled
first; the usage line names the options started, then the similar option, if there is one. -/
def Parser.unknownLong (p : Parser) (name : String) : Stop :=
  let p := p.settle
  let similar := suggest name (Opt.all.map Opt.long)
  let opts := match similar.bind Opt.ofLong? with
    | some o => p.startedWith o
    | none => p.started
  .error (.unknown ("--" ++ name) similar { opts })

/-- Reads a cluster of short flags, the dash already removed. -/
def Parser.shorts (p : Parser) : List Char → Except Stop Parser
  | [] => .ok p
  | c :: rest =>
      match Opt.ofShort? c with
      | none => .error (.error (.unknown ("-" ++ c.toString) none {}))
      | some o =>
          match o.value? with
          | none => do
              let p ← p.start o false none
              p.shorts rest
          | some _ =>
              if rest.isEmpty then p.start o false none
              else
                let v := match rest with
                  | '=' :: v => v
                  | v => v
                p.start o false (some (String.ofList v))

def Parser.step (p : Parser) (arg : String) : Except Stop Parser :=
  let cs := arg.toList
  match cs with
  | '-' :: '-' :: name@(_ :: _) =>
      let (long, value) := match name.findIdx? (· == '=') with
        | some i => (String.ofList (name.take i), some (String.ofList (name.drop (i + 1))))
        | none => (String.ofList name, none)
      match Opt.ofLong? long with
      | none => .error (p.unknownLong long)
      | some o =>
          match o.value?, value with
          | none, some v =>
              .error (.error (.unexpectedValue v o { opts := p.startedWith o, grouped := p.grouped }))
          | _, _ => p.start o true value
  | '-' :: flags@(_ :: _) => p.shorts flags
  | _ =>
      match p.pending with
      | some (o, vals) =>
          if vals.isEmpty then .ok { p with pending := some (o, [arg]) }
          else .error (.error (.unknown arg none {}))
      | none => .error (.error (.unknown arg none {}))

def parseFrom (p : Parser) : List String → Except Stop Args
  | [] => do
      let p ← p.resolve
      .ok p.args
  | a :: rest =>
      -- after a double dash every argument is positional, and none is expected
      if a == "--" then
        match rest with
        | [] => p.resolve.map Parser.args
        | stray :: _ => .error (.error (.unknown stray none {}))
      else do
        let p ← p.step a
        parseFrom p rest

def parse (args : List String) : Except Stop Args :=
  parseFrom {} args

end Cli
end MemoryRecorder
