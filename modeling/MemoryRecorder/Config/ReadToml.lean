import MemoryRecorder.Config.Basic
import MemoryRecorder.Toml.Document
/-!
# Settings from a TOML document

A TOML settings document is read whole first (`Toml.parseTables`), so a syntax error anywhere
wins over any error of a setting. Then the keys of the top level are visited in order: the keys
before the first header, then, for each later table in order, the first part of its header,
once for all the tables that share it.

Every TOML value is present, so a setting given in the document is always set. A value of the
wrong kind is reported for its key and placed where the value starts (for an element of the pid
list, where the element starts). An array of the wrong kind, a setting given twice, and a
setting given by a table header have no place of their own to point at: such an error is placed
at the last table header of the document, or at its start when it has none.
-/

namespace MemoryRecorder
namespace Toml

/-- What a TOML value offers to a setting: integers are signed 64-bit numbers, and a date is
offered as a map. -/
def Value.found : Value → Found
  | .integer n => if 0 ≤ n then .unsigned n.toNat else .signed n
  | .float x => .float (Text.showWithPoint x)
  | .boolean b => .bool b
  | .string s => .str s
  | .datetime _ => .map
  | .array _ => .seq
  | .table _ _ => .map

def keyError (key : String) (at_ : Nat) (text : String) : Error :=
  { text := text, keys := [key], offset := some at_ }

/-- Where an error about a value that starts at `at_` is placed: there, except for an array,
whose errors carry no place of their own and fall to the last table header. -/
def Value.errorAt (v : Value) (at_ lastHeader : Nat) : Nat :=
  match v with
  | .array _ => lastHeader
  | _ => at_

def readPidItems (key : String) (lastHeader : Nat) :
    List (Nat × Value) → Except Error (List Int32)
  | [] => .ok []
  | (at_, v) :: rest =>
      match Expect.i32.accept v.found with
      | .ok (.int n) =>
          match readPidItems key lastHeader rest with
          | .ok ps => .ok (Int32.ofInt n :: ps)
          | .error e => .error e
      | .ok _ => readPidItems key lastHeader rest
      | .error m => .error (keyError key (v.errorAt at_ lastHeader) m)

def readSetting (cfg : Config) (s : Setting) (at_ lastHeader : Nat) (v : Value) :
    Except Error Config :=
  match s, v with
  | .pids, .array items =>
      match readPidItems s.key lastHeader items with
      | .ok ps => .ok { cfg with pids := some ps }
      | .error e => .error e
  | .pids, v => .error (keyError s.key at_ (invalidType v.found .sequence))
  | s, v =>
      match s.expect.accept v.found with
      | .ok a => .ok (cfg.setScalar s a)
      | .error m => .error (keyError s.key (v.errorAt at_ lastHeader) m)

/-- A top-level key as visited: an entry of the first table, or the first part of a table
header standing for all the tables it opens. -/
inductive TopKey where
  | entry (key : String) (at_ : Nat) (value : Value)
  /-- A key opened by table headers; `sequence` when the first of them is an element of an
  array of tables named by the key alone. -/
  | tables (key : String) (sequence : Bool)

def topKeys (tables : List Table) : List TopKey :=
  let (rootEntries, rest) := match tables with
    | t :: ts => if t.header.isEmpty then (t.entries.getD [], ts) else ([], tables)
    | [] => ([], [])
  let entries := rootEntries.map fun (k, at_, v) => TopKey.entry k at_ v
  let rec heads (seen : List String) : List Table → List TopKey
    | [] => []
    | t :: ts =>
        match t.header with
        | k :: more =>
            if seen.contains k then heads seen ts
            else TopKey.tables k (t.array && more.isEmpty) :: heads (k :: seen) ts
        | [] => heads seen ts
  entries ++ heads [] rest

def repeatedHeader (tables : List Table) (key : String) : Option Table :=
  let group := tables.filter fun t => t.header.head? = some key && !t.array
  let rec go (seen : List (List String)) : List Table → Option Table
    | [] => none
    | t :: ts => if seen.contains t.header then some t else go (t.header :: seen) ts
  go [] group

/-- Visits the top-level keys into settings; `seen` holds the settings given so far. -/
def readKeys (tables : List Table) (lastHeader : Nat) :
    Config → List Setting → List TopKey → Except Error Config
  | cfg, _, [] => .ok cfg
  | cfg, seen, key :: rest =>
      let name := match key with
        | .entry k _ _ => k
        | .tables k _ => k
      match Setting.ofKey? name with
      | some s =>
          if seen.contains s then .error { text := duplicateField s, offset := some lastHeader }
          else
            match key with
            | .entry _ at_ v =>
                match readSetting cfg s at_ lastHeader v with
                | .ok cfg => readKeys tables lastHeader cfg (s :: seen) rest
                | .error e => .error e
            | .tables _ sequence =>
                let found := if sequence then Found.seq else Found.map
                let text := match s with
                  | .pids => if sequence then invalidType .map .i32 else invalidType found .sequence
                  | s => invalidType found s.expect
                .error (keyError name lastHeader text)
      | none =>
          match key with
          | .tables k _ =>
              match repeatedHeader tables k with
              | some t =>
                  .error { text := "redefinition of table `" ++ ".".intercalate t.header ++ "`",
                           keys := t.header, offset := some t.offset }
              | none => readKeys tables lastHeader cfg seen rest
          | .entry .. => readKeys tables lastHeader cfg seen rest

end Toml

def Config.ofToml (text : String) : Except String Config :=
  match Toml.parseTables text with
  | .error e => .error (e.message text)
  | .ok tables =>
      let lastHeader := (tables.getLast?.map (·.offset)).getD 0
      match Toml.readKeys tables lastHeader {} [] (Toml.topKeys tables) with
      | .ok c => .ok c
      | .error e => .error (e.message text)

end MemoryRecorder
