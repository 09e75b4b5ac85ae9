import MemoryRecorder.Config.Basic
import MemoryRecorder.Json.Reader
/-!
# Settings from a JSON document

A JSON settings document is an object whose keys name settings; a key that names none is
skipped, a key given twice is an error, and `null` leaves a setting unset. An array is also
read, positionally, as the settings in declaration order. Every setting reads a value of one
kind, and what a value may start with decides whether it is read at all: a value that starts
otherwise is a value of the wrong type, reported after it is taken.

The reading is one pass over the bytes (`Json.Reader`). Errors found by the settings rather
than by the syntax, such as a wrong type or a duplicate key, are placed where the reading
stands when they reach the value that holds them; the closing bracket of that value is looked
at first, so a duplicate key is placed after the white space that follows it.
-/

namespace MemoryRecorder
namespace Json

/-- What a number offers to a setting. A float is named by its shortest round-trip text, which
switches to an exponent outside sixteen integer digits or four leading fraction zeros. -/
def Number.found : Number → Found
  | .unsigned n => .unsigned n
  | .negative n => .signed n
  | .float x => .float (Text.showShortest x)

def reject {α : Type} (msg : String) : ReadM α :=
  throw { text := msg }

def acceptAs (e : Expect) (f : Found) : ReadM Accepted :=
  match e.accept f with
  | .ok v => pure v
  | .error m => reject m

/-- Fails on a value a kind cannot start with: a scalar is taken first, so the error stands
after it, while a container is only looked at. -/
def invalidHere {α : Type} (e : Expect) : ReadM α := do
  let found : Option Found ← match ← peekOrNull with
    | 110 => do eat; expectWord [117, 108, 108]; pure (some .unit)
    | 116 => do eat; expectWord [114, 117, 101]; pure (some (.bool true))
    | 102 => do eat; expectWord [97, 108, 115, 101]; pure (some (.bool false))
    | 45 => do eat; pure (some (← readInteger false).found)
    | 34 => do eat; pure (some (.str (← readString)))
    | 91 => pure (some .seq)
    | 123 => pure (some .map)
    | b => if isDigit b then do pure (some (← readInteger true).found) else pure none
  match found with
  | some f => throw (← place { text := invalidType f e })
  | none => failAhead .expectedValue

/-- Reads a value of a kind: `start` says which first bytes the kind reads and how. An error
without a position is placed where the reading stands when it comes back here. -/
def readTyped {α : Type} (e : Expect) (start : UInt8 → Option (ReadM α)) : ReadM α := do
  match ← skipWhite with
  | none => failAhead .eofInValue
  | some b =>
      match start b with
      | some act =>
          try act catch err => throw (← place err)
      | none => invalidHere e

/-- Reads a container's inside, then takes its closing bracket even if the inside failed; an
error of the inside wins over one of the closing. -/
def withClosing {α : Type} (inside : ReadM α) (closing : ReadM Unit) : ReadM α := do
  let r ← try (Except.ok <$> inside) catch err => pure (Except.error err)
  let c ← try (closing *> pure none) catch err => pure (some err)
  match r, c with
  | .error err, _ => throw err
  | .ok _, some err => throw err
  | .ok v, none => pure v

def closeList : ReadM Unit := do
  match ← skipWhite with
  | some 93 => eat
  | some 44 =>
      eat
      match ← skipWhite with
      | some 93 => failAhead .trailingComma
      | _ => failAhead .trailingCharacters
  | some _ => failAhead .trailingCharacters
  | none => failAhead .eofInList

def closeObject : ReadM Unit := do
  match ← skipWhite with
  | some 125 => eat
  | some 44 => failAhead .trailingComma
  | some _ => failAhead .trailingCharacters
  | none => failAhead .eofInObject

def hasElement (first : Bool) : ReadM Bool := do
  match ← skipWhite with
  | some 93 => pure false
  | none => failAhead .eofInList
  | some b =>
      let peek ←
        if b = 44 && !first then do eat; skipWhite
        else if first then pure (some b)
        else failAhead .expectedListCommaOrEnd
      match peek with
      | some 93 => failAhead .trailingComma
      | some _ => pure true
      | none => failAhead .eofInValue

def hasKey (first : Bool) : ReadM Bool := do
  match ← skipWhite with
  | none => failAhead .eofInObject
  | some 125 => pure false
  | some b =>
      if first then
        if b = 34 then pure true else failAhead .keyMustBeAString
      else if b = 44 then
        eat
        match ← skipWhite with
        | some 34 => pure true
        | some 125 => failAhead .trailingComma
        | some _ => failAhead .keyMustBeAString
        | none => failAhead .eofInValue
      else failAhead .expectedObjectCommaOrEnd

def takeColon : ReadM Unit := do
  match ← skipWhite with
  | some 58 => eat
  | some _ => failAhead .expectedColon
  | none => failAhead .eofInObject

/-! ## Values of settings -/

def readNumberFor (e : Expect) : ReadM Accepted :=
  readTyped e fun b =>
    if b = 45 then some do eat; acceptAs e (← readInteger false).found
    else if isDigit b then some do acceptAs e (← readInteger true).found
    else none

def readBool : ReadM Accepted :=
  readTyped .boolean fun b =>
    if b = 116 then some do eat; expectWord [114, 117, 101]; pure (.bool true)
    else if b = 102 then some do eat; expectWord [97, 108, 115, 101]; pure (.bool false)
    else none

def readText (e : Expect) : ReadM Accepted :=
  readTyped e fun b =>
    if b = 34 then some do eat; pure (.text (← readString)) else none

def readScalarFor (e : Expect) : ReadM Accepted :=
  match e with
  | .boolean => readBool
  | .text | .path => readText e
  | _ => readNumberFor e

def readPidElements (acc : Array Int32) (first : Bool) : Nat → ReadM (List Int32)
  | 0 => pure acc.toList
  | fuel + 1 => do
      if ← hasElement first then
        match ← readNumberFor .i32 with
        | .int n => readPidElements (acc.push (Int32.ofInt n)) false fuel
        | _ => readPidElements acc false fuel
      else pure acc.toList

def readPids : ReadM (List Int32) :=
  readTyped .sequence fun b =>
    if b = 91 then some do
      eat
      let fuel ← remaining
      withClosing (readPidElements #[] true fuel) closeList
    else none

def readOptional {α : Type} (read : ReadM α) : ReadM (Option α) := do
  match ← skipWhite with
  | some 110 => do eat; expectWord [117, 108, 108]; pure none
  | _ => some <$> read

def readSetting (s : Setting) (cfg : Config) : ReadM Config :=
  match s with
  | .pids => do
      let v ← readOptional readPids
      pure { cfg with pids := v }
  | _ => do
      match ← readOptional (readScalarFor s.expect) with
      | some a => pure (cfg.setScalar s a)
      | none => pure cfg

/-- Reads the entries of a settings object after its brace; `seen` holds the settings given so
far, whether or not their value was `null`. -/
def readEntries (cfg : Config) (seen : List Setting) (first : Bool) : Nat → ReadM Config
  | 0 => pure cfg
  | fuel + 1 => do
      if !(← hasKey first) then return cfg
      eat
      let key ← readString
      match Setting.ofKey? key with
      | some s =>
          if seen.contains s then reject (duplicateField s)
          else
            takeColon
            let cfg ← readSetting s cfg
            readEntries cfg (s :: seen) false fuel
      | none =>
          takeColon
          skipValue
          readEntries cfg seen false fuel

/-- Reads the settings positionally from the elements of an array after its bracket. -/
def readPositional (cfg : Config) (index : Nat) : List Setting → ReadM Config
  | [] => pure cfg
  | s :: rest => do
      if ← hasElement (index = 0) then
        let cfg ← readSetting s cfg
        readPositional cfg (index + 1) rest
      else
        reject ("invalid length " ++ toString index ++ ", expected struct Config with " ++
          toString Setting.all.length ++ " elements")

/-- Reads a settings document: an object, or an array of the settings in order. -/
def readConfig : ReadM Config :=
  readTyped .config fun b =>
    if b = 123 then some do
      eat
      let fuel ← remaining
      withClosing (readEntries {} [] true fuel) closeObject
    else if b = 91 then some do
      eat
      withClosing (readPositional {} 0 Setting.all) closeList
    else none

def readDocument : ReadM Config := do
  let c ← readConfig
  match ← skipWhite with
  | some _ => failAhead .trailingCharacters
  | none => pure c

end Json

def Config.ofJson (text : String) : Except String Config :=
  match Json.readDocument.run { bytes := text.toUTF8.data } with
  | .ok c _ => .ok c
  | .error e _ => .error e.message

end MemoryRecorder
