import MemoryRecorder.Yaml.Scalar
import MemoryRecorder.Yaml.Chars
/-!
# Printing the settings

`--show-config` prints the settings in one of three document formats. Every printer walks the
settings in declaration order and writes each one as a key and a value:

* YAML writes every setting, an unset one as `null`, a list as a block sequence, and a string
  plain when it reads back as the same string, else quoted, or as a literal block when it has
  a line feed; lines are never folded, however long;
* JSON writes every setting with two spaces of indentation per level, an unset one as `null`;
* TOML leaves unset settings out, writes strings as literal strings where it can, and a list of
  two or more items one item a line with a trailing comma.

A string that would read back as something else is never written plain
(`styleOf_of_needsQuotes`).
-/

namespace MemoryRecorder

inductive ShownValue where
  | unset
  | nat (n : Nat)
  | bool (b : Bool)
  | text (s : String)
  | ints (xs : List Int)
  deriving DecidableEq, Repr

namespace Config

def shownFields (c : Config) : List (String × ShownValue) :=
  let nat (x : Option Nat) : ShownValue := match x with | some n => .nat n | none => .unset
  let text (x : Option String) : ShownValue := match x with | some s => .text s | none => .unset
  [("period_ms", nat (c.periodMs.map UInt64.toNat)),
   ("proc_root", text c.procRoot),
   ("pids", match c.pids with | some ps => .ints (ps.map Int32.toInt) | none => .unset),
   ("workers", nat (c.workers.map UInt64.toNat)),
   ("max_queued_snapshots", nat (c.maxQueuedSnapshots.map UInt64.toNat)),
   ("record_system_memory", match c.recordSystemMemory with | some b => .bool b | none => .unset),
   ("database_file", text c.databaseFile),
   ("close_poll_interval_ms", nat (c.closePollIntervalMs.map UInt64.toNat)),
   ("close_max_polls", nat (c.closeMaxPolls.map UInt32.toNat)),
   ("log_level", text c.logLevel)]

end Config

namespace Yaml

def isBlankOrEnd : Option Char → Bool
  | none => true
  | some c => isBlankZ c

/-- What a writer needs to know about a string to choose its style. -/
structure ScalarTraits where
  blockIndicator : Bool := false
  lineBreak : Bool := false
  special : Bool := false
  leadingSpace : Bool := false
  leadingBreak : Bool := false
  trailingSpace : Bool := false
  trailingBreak : Bool := false
  breakSpace : Bool := false
  spaceBreak : Bool := false
  deriving Repr

def traitsFrom (t : ScalarTraits) (i : Nat) (prev : Option Char) (prevSpace prevBreak : Bool) :
    List Char → ScalarTraits
  | [] => t
  | c :: rest =>
      let next := rest.head?
      let followed := isBlankOrEnd next
      let preceded := i == 0 || isBlankOrEnd prev
      let indicator :=
        if i == 0 then
          "#,[]\x7b\x7d&*!|>'\"%@`".contains c || ((c == '?' || c == ':') && followed) ||
            (c == '-' && followed)
        else (c == ':' && followed) || (c == '#' && preceded)
      let last := rest.isEmpty
      let t := { t with
        blockIndicator := t.blockIndicator || indicator,
        special := t.special || !isPrintable c,
        lineBreak := t.lineBreak || isBreak c }
      if c == ' ' then
        let t := { t with
          leadingSpace := t.leadingSpace || i == 0,
          trailingSpace := t.trailingSpace || last,
          breakSpace := t.breakSpace || prevBreak }
        traitsFrom t (i + 1) (some c) true false rest
      else if isBreak c then
        let t := { t with
          leadingBreak := t.leadingBreak || i == 0,
          trailingBreak := t.trailingBreak || last,
          spaceBreak := t.spaceBreak || prevSpace }
        traitsFrom t (i + 1) (some c) false true rest
      else traitsFrom t (i + 1) (some c) false false rest

/-- The traits of a string. A string opening with three dashes or three dots, the document
markers, cannot stand plain either. -/
def traits (s : String) : ScalarTraits :=
  let t := traitsFrom {} 0 none false false s.toList
  if s.startsWith "---" || s.startsWith "..." then { t with blockIndicator := true } else t

inductive ScalarStyle where
  | plain | singleQuoted | doubleQuoted | literal
  deriving DecidableEq, Repr

def ScalarTraits.plainAllowed (t : ScalarTraits) : Bool :=
  !(t.leadingSpace || t.leadingBreak || t.trailingSpace || t.trailingBreak || t.breakSpace ||
    t.spaceBreak || t.special || t.lineBreak || t.blockIndicator)

def ScalarTraits.singleAllowed (t : ScalarTraits) : Bool :=
  !(t.breakSpace || t.spaceBreak || t.special)

def ScalarTraits.blockAllowed (t : ScalarTraits) : Bool :=
  !(t.trailingSpace || t.spaceBreak || t.special)

/-- The style of a string as a mapping value: a literal block when it has a line feed, quotes
when it would read back as something else or cannot stand plain, plain otherwise. -/
def styleOf (s : String) : ScalarStyle :=
  let t := traits s
  if s.contains '\n' then
    if t.blockAllowed then .literal else .doubleQuoted
  else if s.isEmpty || needsQuotes s || !t.plainAllowed then
    if t.singleAllowed then .singleQuoted else .doubleQuoted
  else .plain

def hexUpper (width n : Nat) : String :=
  let ds := (Nat.toDigits 16 n).map Char.toUpper
  String.ofList (List.replicate (width - ds.length) '0' ++ ds)

def doubleQuotedChar (c : Char) : String :=
  let n := c.toNat
  if isPrintable c && !isBreak c && c != '"' && c != '\\' then c.toString
  else
    match n with
    | 0x00 => "\\0"
    | 0x07 => "\\a"
    | 0x08 => "\\b"
    | 0x09 => "\\t"
    | 0x0A => "\\n"
    | 0x0B => "\\v"
    | 0x0C => "\\f"
    | 0x0D => "\\r"
    | 0x1B => "\\e"
    | 0x22 => "\\\""
    | 0x5C => "\\\\"
    | 0x85 => "\\N"
    | 0xA0 => "\\_"
    | 0x2028 => "\\L"
    | 0x2029 => "\\P"
    | _ =>
        if n ≤ 0xFF then "\\x" ++ hexUpper 2 n
        else if n ≤ 0xFFFF then "\\u" ++ hexUpper 4 n
        else "\\U" ++ hexUpper 8 n

/-- Where a YAML writer stands: the text so far, its column, whether the line holds nothing but
indentation yet, and whether the last thing written was whitespace. -/
structure Pen where
  text : String := ""
  column : Nat := 0
  indention : Bool := true
  whitespace : Bool := true
  deriving Repr

namespace Pen

def put (p : Pen) (c : Char) : Pen :=
  { p with text := p.text.push c, column := p.column + 1 }

def putAll (p : Pen) (s : String) : Pen :=
  s.foldl put p

def newline (p : Pen) : Pen :=
  { p with text := p.text.push '\n', column := 0 }

def lineBreak (p : Pen) (c : Char) : Pen :=
  if c == '\n' then p.newline else { p with text := p.text.push c, column := 0 }

def indentTo (p : Pen) (indent : Nat) : Pen :=
  let p := if !p.indention || p.column > indent || (p.column == indent && !p.whitespace) then
    p.newline else p
  let p := p.putAll (String.ofList (List.replicate (indent - p.column) ' '))
  { p with whitespace := true, indention := true }

def indicator (p : Pen) (s : String) (needSpace isSpace isIndention : Bool) : Pen :=
  let p := if needSpace && !p.whitespace then p.put ' ' else p
  let p := p.putAll s
  { p with whitespace := isSpace, indention := p.indention && isIndention }

end Pen

/-- The characters of a plain scalar: breaks as written, a line feed after a first break of a
run doubled, and indentation before the text that follows breaks. Lines are never folded. -/
def plainChars (indent : Nat) : Pen → Bool → List Char → Pen
  | p, _, [] => p
  | p, breaks, c :: rest =>
      if c == ' ' then plainChars indent (p.put c) breaks rest
      else if isBreak c then
        let p := if !breaks && c == '\n' then p.newline else p
        plainChars indent { p.lineBreak c with indention := true } true rest
      else
        let p := if breaks then p.indentTo indent else p
        plainChars indent { p.put c with indention := false } false rest

def writePlain (indent : Nat) (p : Pen) (s : String) : Pen :=
  let p := if !p.whitespace && !s.isEmpty then p.put ' ' else p
  let p := plainChars indent p false s.toList
  { p with whitespace := false, indention := false }

/-- The characters of a single-quoted scalar: quotes doubled, a line feed written as an empty
line, and any break followed by indentation. -/
def singleQuotedChars (indent : Nat) : Pen → Bool → List Char → Pen
  | p, breaks, [] => if breaks then p.indentTo indent else p
  | p, breaks, c :: rest =>
      if c == ' ' then singleQuotedChars indent (p.put c) breaks rest
      else if isBreak c then
        let p := if !breaks && c == '\n' then p.newline else p
        singleQuotedChars indent { p.lineBreak c with indention := true } true rest
      else
        let p := if breaks then p.indentTo indent else p
        let p := if c == '\'' then p.put '\'' else p
        singleQuotedChars indent { p.put c with indention := false } false rest

def writeSingleQuoted (indent : Nat) (p : Pen) (s : String) : Pen :=
  let p := p.indicator "'" true false false
  let p := singleQuotedChars indent p false s.toList
  let p := p.indicator "'" false false false
  { p with whitespace := false, indention := false }

def writeDoubleQuoted (p : Pen) (s : String) : Pen :=
  let p := p.indicator "\"" true false false
  let p := s.foldl (fun p c =>
    if !isPrintable c || c.toNat == 0xFEFF || isBreak c || c == '"' || c == '\\' then
      p.putAll (doubleQuotedChar c)
    else p.put c) p
  let p := p.indicator "\"" false false false
  { p with whitespace := false, indention := false }

def literalChars (indent : Nat) : Pen → Bool → List Char → Pen
  | p, _, [] => p
  | p, breaks, c :: rest =>
      if isBreak c then literalChars indent { p.lineBreak c with indention := true } true rest
      else
        let p := if breaks then p.indentTo indent else p
        literalChars indent { p.put c with indention := false } false rest

/-- The chomping indicator of a literal block: `-` when the text does not end in a break, `+`
when it ends in two or is a single break, none when it ends in exactly one. -/
def chompHint (s : String) : String :=
  match s.toList.reverse with
  | [] => "-"
  | [c] => if isBreak c then "+" else "-"
  | c :: d :: _ => if !isBreak c then "-" else if isBreak d then "+" else ""

/-- A literal block scalar: `|`, an indentation indicator when the text opens with a space or a
break, its chomping indicator, then its lines. -/
def writeLiteral (indent : Nat) (p : Pen) (s : String) : Pen :=
  let p := p.indicator "|" true false false
  let p := match s.toList.head? with
    | some c => if c == ' ' || isBreak c then p.indicator "2" false false false else p
    | none => p
  let p := p.indicator (chompHint s) false false false
  let p := { p.newline with indention := true, whitespace := true }
  literalChars indent p true s.toList

def writeString (indent : Nat) (p : Pen) (s : String) : Pen :=
  match styleOf s with
  | .plain => writePlain indent p s
  | .singleQuoted => writeSingleQuoted indent p s
  | .doubleQuoted => writeDoubleQuoted p s
  | .literal => writeLiteral indent p s

theorem styleOf_of_needsQuotes (s : String) (h : needsQuotes s = true) :
    styleOf s ≠ .plain := by
  unfold styleOf
  simp only [h, Bool.or_true, Bool.true_or, ite_true]
  split
  · split <;> simp
  · split <;> simp

end Yaml

namespace Config

/-- The settings as a YAML document: a block mapping at the margin whose values are indented by
two spaces, each key on a line of its own unless a block scalar ended the last line with a break
of its own. -/
def toYaml (c : Config) : String :=
  let entry (p : Yaml.Pen) (kv : String × ShownValue) : Yaml.Pen :=
    let (k, v) := kv
    let p := Yaml.writePlain 0 (p.indentTo 0) k
    let p := p.indicator ":" false false false
    match v with
    | .unset => Yaml.writePlain 2 p "null"
    | .nat n => Yaml.writePlain 2 p (toString n)
    | .bool b => Yaml.writePlain 2 p (toString b)
    | .text s => Yaml.writeString 2 p s
    | .ints [] =>
        let p := p.indicator "[" true true false
        p.indicator "]" false false false
    | .ints xs => xs.foldl (fun p x =>
        Yaml.writePlain 2 ((p.indentTo 0).indicator "-" true false true) (toString x)) p
  ((c.shownFields.foldl entry {}).indentTo 0).text

def jsonString (s : String) : String :=
  let esc (c : Char) : String :=
    match c with
    | '"' => "\\\""
    | '\\' => "\\\\"
    | '\n' => "\\n"
    | '\r' => "\\r"
    | '\t' => "\\t"
    | _ =>
        if c.toNat == 8 then "\\b"
        else if c.toNat == 12 then "\\f"
        else if c.toNat < 32 then
          let ds := Nat.toDigits 16 c.toNat
          "\\u" ++ String.ofList (List.replicate (4 - ds.length) '0' ++ ds)
        else c.toString
  "\"" ++ String.join (s.toList.map esc) ++ "\""

def toJson (c : Config) : String :=
  let value : ShownValue → String
    | .unset => "null"
    | .nat n => toString n
    | .bool b => toString b
    | .text s => jsonString s
    | .ints [] => "[]"
    | .ints xs => "[\n" ++ String.intercalate ",\n" (xs.map fun x => "    " ++ toString x) ++ "\n  ]"
  "\x7b\n" ++ String.intercalate ",\n"
    (c.shownFields.map fun (k, v) => "  " ++ jsonString k ++ ": " ++ value v) ++ "\n\x7d"

/-- A string as a TOML value: a literal string when no quote, control character or run of
three apostrophes stands in the way, else a basic string with escapes. -/
def tomlString (s : String) : String :=
  let cs := s.toList
  let control (c : Char) : Bool := c != '\t' && c != '\n' && (c.toNat ≤ 0x1F || c.toNat == 0x7F)
  let runs := (cs.foldl (fun (acc : Nat × Nat) c =>
    if c == '\'' then (acc.1, acc.2 + 1) else (max acc.1 acc.2, 0)) (0, 0))
  let longest := max runs.1 runs.2
  let multiline := cs.contains '\n'
  let literal := !cs.any control && longest < 3 && !(runs.2 > 0)
  if literal then
    if multiline then "'''\n" ++ s ++ "'''"
    else if longest ≥ 1 then "'''" ++ s ++ "'''"
    else "'" ++ s ++ "'"
  else
    let esc (c : Char) : String :=
      match c with
      | '\t' => "\\t"
      | '\n' => if multiline then "\n" else "\\n"
      | '\r' => "\\r"
      | '"' => "\\\""
      | '\\' => "\\\\"
      | _ =>
          if c.toNat == 8 then "\\b"
          else if c.toNat == 12 then "\\f"
          else if control c then "\\u" ++ Yaml.hexUpper 4 c.toNat
          else c.toString
    let body := String.join (cs.map esc)
    if multiline then "\"\"\"\n" ++ body ++ "\"\"\"" else "\"" ++ body ++ "\""

def toToml (c : Config) : String :=
  let value : ShownValue → Option String
    | .unset => none
    | .nat n => some (toString n)
    | .bool b => some (toString b)
    | .text s => some (tomlString s)
    | .ints [] => some "[]"
    | .ints [x] => some ("[" ++ toString x ++ "]")
    | .ints xs => some ("[\n" ++ String.join (xs.map fun x => "    " ++ toString x ++ ",\n") ++ "]")
  String.join (c.shownFields.filterMap fun (k, v) => (value v).map fun t => k ++ " = " ++ t ++ "\n")

end Config

end MemoryRecorder
