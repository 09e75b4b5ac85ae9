import MemoryRecorder.Config.Basic
import MemoryRecorder.Yaml.Event
import MemoryRecorder.Yaml.Scalar
/-!
# Reading settings from YAML

A settings document is read from the events of its first document, node by node, each setting
by the kind it expects:

* a number setting takes a plain scalar that reads as an unsigned (or, for pids, signed)
  integer, whatever its tag, and checks its range;
* a flag takes whatever an untyped reader reads as one: a plain `true` or `false`, or any
  scalar tagged `!!bool` that is one;
* a string or path takes any scalar, quoted or not;
* an optional setting is unset by a plain null: `~`, `null` or nothing at all when untagged,
  `~` or `null` when tagged `!!null`; any other plain scalar tagged `!!null`, even an empty
  one, is an error;
* `pids` takes a sequence.

Anything else is a type error that names what the node is, read the way an untyped reader
would read it (honouring its tag), and where it is: the path of keys and indexes down to it and
the mark of its first event. Unknown keys are skipped. A syntax error later in the document is reported only
when reading got that far, or when reading succeeded; and a second document is an error.
-/

namespace MemoryRecorder
namespace Yaml

/-- Where a node sits in a document: the keys and indexes leading to it. -/
inductive NodePath where
  | root
  | seq (parent : NodePath) (index : Nat)
  | map (parent : NodePath) (key : String)
  | unknown (parent : NodePath)
  | aliasNode (parent : NodePath)
  deriving DecidableEq, Repr

namespace NodePath

def describe : NodePath → String
  | root => "."
  | seq p i => describe p ++ "[" ++ toString i ++ "]"
  | map p k => parentPrefix p ++ k
  | unknown p => parentPrefix p ++ "?"
  | aliasNode p => describe p
where
  parentPrefix : NodePath → String
    | root => ""
    | p => describe p ++ "."

end NodePath

inductive ReadError where
  | load (e : LoadError)
  | message (text : String) (at? : Option (Mark × NodePath))
  | endOfStream
  | moreThanOneDocument
  | repetitionLimit
  deriving DecidableEq, Repr

namespace ReadError

def fixMark (m : Mark) (p : NodePath) : ReadError → ReadError
  | .message t none => .message t (some (m, p))
  | e => e

def describe : ReadError → String
  | .load (.malformed e) => e.message
  | .load (.unknownAnchor m) =>
      "unknown anchor" ++ (if m.atOrigin then "" else " at " ++ m.describe)
  | .message t none => t
  | .message t (some (m, p)) =>
      (if p == .root then "" else p.describe ++ ": ") ++ t ++
        (if m.atOrigin then "" else " at " ++ m.describe)
  | .endOfStream => "EOF while parsing a value"
  | .moreThanOneDocument =>
      "deserializing from YAML containing more than one document is not supported"
  | .repetitionLimit => "repetition limit exceeded"

end ReadError

/-- A reading position in a loaded document, with the number of alias jumps made so far. -/
structure Cursor where
  doc : Document
  pos : Nat := 0
  jumps : Nat := 0

namespace Cursor

def peek (c : Cursor) : Except ReadError (NodeEvent × Mark) :=
  match c.doc.events[c.pos]? with
  | some e => .ok e
  | none =>
      match c.doc.error with
      | some e => .error (.load e)
      | none => .error .endOfStream

def next (c : Cursor) : Except ReadError (NodeEvent × Mark × Cursor) :=
  match c.peek with
  | .ok (e, m) => .ok (e, m, { c with pos := c.pos + 1 })
  | .error e => .error e

def jump (c : Cursor) (target : Nat) : Except ReadError Cursor :=
  let jumps := c.jumps + 1
  if jumps > c.doc.events.size * 100 then .error .repetitionLimit
  else
    match c.doc.anchors.find? (·.1 == target) with
    | some (_, pos) => .ok { c with pos := pos, jumps := jumps }
    | none => .error .endOfStream

def skipNode : Nat → Nat → Cursor → Except ReadError Cursor
  | 0, _, c => .ok c
  | fuel + 1, depth, c =>
      match c.next with
      | .error e => .error e
      | .ok (e, _, c) =>
          let depth := match e with
            | .sequenceStart _ | .mappingStart _ => depth + 1
            | .sequenceEnd | .mappingEnd => depth - 1
            | _ => depth
          if depth == 0 then .ok c else skipNode fuel depth c

end Cursor

/-- The type error for a node event: what an untyped reader makes of it, with a scalar's tag;
a scalar that is not of its tag's type fails on that instead. -/
def typeError (e : NodeEvent) (x : Expect) : ReadError :=
  match e with
  | .scalar tag text style =>
      match taggedFound tag text (style == .plain) with
      | .ok f => .message (invalidType f x) none
      | .error m => .message m none
  | .sequenceStart _ => .message (invalidType .seq x) none
  | .mappingStart _ => .message (invalidType .map x) none
  | _ => .endOfStream

/-- A signed integer scalar within 64 bits: an optional sign, then decimal digits or a radix
prefix. -/
def signedIntOf? (s : String) : Option Int :=
  let bound := Nat.pow 2 63
  let cs := s.toList
  let un? : Option (List Char) := match cs with
    | '+' :: rest =>
        match rest with
        | '+' :: _ | '-' :: _ => none
        | _ => some rest
    | _ => some cs
  match un? with
  | none => none
  | some un =>
      let prefixed (tag : Char) (radix : Nat) : Option Int :=
        let pos : Option Int := match un with
          | '0' :: t :: rest =>
              if t == tag then
                match rest with
                | '+' :: _ | '-' :: _ => none
                | _ => (radixValue? radix bound rest).map (fun n => (n : Int))
              else none
          | _ => none
        match pos with
        | some n => some n
        | none =>
            match cs with
            | '-' :: '0' :: t :: rest =>
                if t == tag then
                  match rest with
                  | '+' :: _ | '-' :: _ => none
                  | _ => signedRadixValue? radix bound ('-' :: rest)
                else none
            | _ => none
      match prefixed 'x' 16 with
      | some n => some n
      | none =>
          match prefixed 'o' 8 with
          | some n => some n
          | none =>
              match prefixed 'b' 2 with
              | some n => some n
              | none => if digitsButNotNumber s then none else signedRadixValue? 10 bound un

/-- Reads a node with `read`, following an alias first. -/
def withNode {α : Type} (fuel : Nat) (c : Cursor) (path : NodePath)
    (read : NodeEvent → Mark → Cursor → NodePath → Except ReadError (α × Cursor)) :
    Except ReadError (α × Cursor) :=
  match fuel with
  | 0 => .error .endOfStream
  | fuel + 1 =>
      match c.next with
      | .error e => .error e
      | .ok (.aliasNode target, _, c) =>
          match c.jump target with
          | .error e => .error e
          | .ok inner =>
              match withNode fuel inner (.aliasNode path) read with
              | .ok (v, inner) => .ok (v, { c with jumps := inner.jumps })
              | .error e => .error e
      | .ok (e, m, c) => (read e m c path).mapError (ReadError.fixMark m path)

def readScalar (x : Expect) (fuel : Nat) (c : Cursor) (path : NodePath) :
    Except ReadError (Accepted × Cursor) :=
  withNode fuel c path fun e _ c _ =>
    let typeErr := Except.error (typeError e x)
    match e, x with
    | .scalar _ text style, .u64 | .scalar _ text style, .usize | .scalar _ text style, .u32 =>
        if style != .plain then typeErr
        else
          match unsignedOf? UInt64.size text with
          | some n =>
              let bound := if x == .u32 then UInt32.size else UInt64.size
              if n < bound then .ok (.nat n, c)
              else .error (.message (invalidValue (.unsigned n) x) none)
          | none => typeErr
    | .scalar _ text style, .i32 =>
        if style != .plain then typeErr
        else
          match signedIntOf? text with
          | some n =>
              if -Int.pow 2 31 ≤ n && n < Int.pow 2 31 then .ok (.int n, c)
              else .error (.message (invalidValue (if n < 0 then .signed n else .unsigned n.toNat) x) none)
          | none => typeErr
    | .scalar tag text style, .boolean =>
        match taggedFound tag text (style == .plain) with
        | .ok (.bool b) => .ok (.bool b, c)
        | _ => typeErr
    | .scalar _ text _, .text | .scalar _ text _, .path | .scalar _ text _, .fieldName =>
        .ok (.text text, c)
    | _, _ => typeErr

def readNull (fuel : Nat) (c : Cursor) : Except ReadError (Bool × Cursor) :=
  match fuel with
  | 0 => .ok (false, c)
  | fuel + 1 =>
      match c.peek with
      | .error e => .error e
      | .ok (.aliasNode target, _) =>
          match c.jump target with
          | .error e => .error e
          | .ok inner =>
              match readNull fuel inner with
              | .ok (true, _) => .ok (true, { c with pos := c.pos + 1, jumps := inner.jumps })
              | .ok (false, _) => .ok (false, c)
              | .error e => .error e
      | .ok (.scalar none text .plain, _) =>
          if text.isEmpty || isNull text then .ok (true, { c with pos := c.pos + 1 }) else .ok (false, c)
      | .ok (.scalar (some t) text .plain, _) =>
          if t != nullTag then .ok (false, c)
          else if isNull text then .ok (true, { c with pos := c.pos + 1 })
          else .error (.message (notOfTag text "null") none)
      | .ok (.void, _) => .ok (true, { c with pos := c.pos + 1 })
      | .ok _ => .ok (false, c)

def readPidElements (fuel : Nat) (path : NodePath) : Nat → Cursor → List Int32 →
    Except ReadError (List Int32 × Cursor)
  | 0, c, acc => .ok (acc, c)
  | n + 1, c, acc =>
      match c.peek with
      | .error e => .error e
      | .ok (.sequenceEnd, _) => .ok (acc, { c with pos := c.pos + 1 })
      | .ok (.void, _) => .ok (acc, { c with pos := c.pos + 1 })
      | .ok _ =>
          match readScalar .i32 fuel c (.seq path acc.length) with
          | .error e => .error e
          | .ok (.int v, c) => readPidElements fuel path n c (acc ++ [Int32.ofInt v])
          | .ok (_, c) => readPidElements fuel path n c acc

def readPids (fuel : Nat) (c : Cursor) (path : NodePath) : Except ReadError (List Int32 × Cursor) :=
  withNode fuel c path fun e _ c path =>
    match e with
    | .sequenceStart _ => readPidElements fuel path fuel c []
    | .scalar _ "" .plain => .ok ([], c)
    | .void => .ok ([], c)
    | e => .error (typeError e .sequence)

def readSetting (fuel : Nat) (c : Cursor) (path : NodePath) (cfg : Config) (s : Setting) :
    Except ReadError (Config × Cursor) :=
  match readNull fuel c with
  | .error e => .error e
  | .ok (true, c) => .ok (cfg, c)
  | .ok (false, c) =>
      match s with
      | .pids =>
          match readPids fuel c path with
          | .ok (ps, c) => .ok ({ cfg with pids := some ps }, c)
          | .error e => .error e
      | s =>
          match readScalar s.expect fuel c path with
          | .ok (v, c) => .ok (cfg.setScalar s v, c)
          | .error e => .error e

/-- Reads the entries of the settings mapping up to its end. A setting given twice is an
error; unknown keys are skipped with their values. -/
def readEntries (fuel : Nat) (path : NodePath) : Nat → Cursor → Config → List Setting →
    Except ReadError (Config × Cursor)
  | 0, c, cfg, _ => .ok (cfg, c)
  | n + 1, c, cfg, seen =>
      match c.peek with
      | .error e => .error e
      | .ok (.mappingEnd, _) => .ok (cfg, { c with pos := c.pos + 1 })
      | .ok (e, _) =>
          let keyText := match e with
            | .scalar _ t _ => some t
            | _ => none
          match readScalar .fieldName fuel c path with
          | .error e => .error e
          | .ok (key, c) =>
              let name := match key with
                | .text t => t
                | _ => ""
              let valuePath := match keyText with
                | some k => NodePath.map path k
                | none => NodePath.unknown path
              match Setting.ofKey? name with
              | some s =>
                  if seen.contains s then .error (.message (duplicateField s) none)
                  else
                    match readSetting fuel c valuePath cfg s with
                    | .ok (cfg, c) => readEntries fuel path n c cfg (s :: seen)
                    | .error e => .error e
              | none =>
                  match c.skipNode fuel 0 with
                  | .ok c => readEntries fuel path n c cfg seen
                  | .error e => .error e

/-- Reads the settings mapping; an empty document or empty plain scalar sets nothing. -/
def readConfig (fuel : Nat) (c : Cursor) : Except ReadError (Config × Cursor) :=
  withNode fuel c .root fun e _ c path =>
    match e with
    | .mappingStart _ => readEntries fuel path fuel c {} []
    | .scalar _ "" .plain => .ok ({}, c)
    | .void => .ok ({}, c)
    | e => .error (typeError e .config)

end Yaml

namespace Config

def ofYaml (text : String) : Except String Config :=
  let (doc, more) := Yaml.Loader.firstDocument text
  let fuel := 4 * (doc.events.size + 4)
  match Yaml.readConfig fuel { doc := doc } with
  | .error e => .error e.describe
  | .ok (cfg, _) =>
      match doc.error with
      | some e => .error (Yaml.ReadError.load e).describe
      | none => if more then .error Yaml.ReadError.moreThanOneDocument.describe else .ok cfg

end Config

end MemoryRecorder
