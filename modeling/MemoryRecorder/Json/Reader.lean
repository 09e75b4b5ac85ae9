import MemoryRecorder.Text.Decimal
import MemoryRecorder.Text.Utf8
/-!
# Reading JSON text a byte at a time

A settings file in JSON is read as a stream: values are taken one after the other from the
front of the bytes, and a fault is reported where the reading stands when it is found. A
position is a line and a column, and the column counts bytes from the start of the line:

* a fault found in a byte already taken is placed at that byte, counting from one;
* a fault found by looking at the next byte is placed at that byte, counting from one;
* a value of the wrong type is placed where the reading stands after the value was taken,
  so that the column is the number of bytes of the line read so far.

This module holds the reader and the parts of the grammar that do not depend on what is read:
white space, the literal words, numbers, strings and skipping a whole value. Numbers keep
their kind: a non-negative integer that fits 64 bits, a negative one that fits 64 bits, or a
float, which is also what a longer integer and `-0` become.

No two faults share their text (`Fault.text_injective`).
-/

namespace MemoryRecorder
namespace Json

inductive Fault where
  | eofInList | eofInObject | eofInString | eofInValue
  | expectedColon | expectedListCommaOrEnd | expectedObjectCommaOrEnd
  | expectedIdent | expectedValue
  | invalidEscape | invalidNumber | numberOutOfRange | controlCharacter
  | keyMustBeAString | loneLeadingSurrogate | trailingComma | trailingCharacters
  | unexpectedEndOfHexEscape
  deriving DecidableEq, Repr

def Fault.text : Fault → String
  | .eofInList => "EOF while parsing a list"
  | .eofInObject => "EOF while parsing an object"
  | .eofInString => "EOF while parsing a string"
  | .eofInValue => "EOF while parsing a value"
  | .expectedColon => "expected `:`"
  | .expectedListCommaOrEnd => "expected `,` or `]`"
  | .expectedObjectCommaOrEnd => "expected `,` or `\x7d`"
  | .expectedIdent => "expected ident"
  | .expectedValue => "expected value"
  | .invalidEscape => "invalid escape"
  | .invalidNumber => "invalid number"
  | .numberOutOfRange => "number out of range"
  | .controlCharacter => "control character (\\u0000-\\u001F) found while parsing a string"
  | .keyMustBeAString => "key must be a string"
  | .loneLeadingSurrogate => "lone leading surrogate in hex escape"
  | .trailingComma => "trailing comma"
  | .trailingCharacters => "trailing characters"
  | .unexpectedEndOfHexEscape => "unexpected end of hex escape"

theorem Fault.text_injective (a b : Fault) (h : a.text = b.text) : a = b := by
  cases a <;> cases b <;> first | rfl | (simp [Fault.text] at h)

/-- An error of reading, with its position once it has one; line zero means not yet placed. -/
structure Error where
  text : String
  line : Nat := 0
  column : Nat := 0
  deriving DecidableEq, Repr

def Error.message (e : Error) : String :=
  if e.line = 0 then e.text
  else e.text ++ " at line " ++ toString e.line ++ " column " ++ toString e.column

structure Reader where
  bytes : Array UInt8
  index : Nat := 0

/-- Reading that may fail; the reader's state is kept at the point of failure, so that the
position of a late error can still be taken. -/
abbrev ReadM := EStateM Error Reader

/-- The line and column of a byte offset: lines count from one, columns count the bytes since
the last line feed. -/
def positionAt (bytes : Array UInt8) (i : Nat) : Nat × Nat :=
  (bytes.toList.take i).foldl
    (fun (p : Nat × Nat) (b : UInt8) => if b = 10 then (p.1 + 1, 0) else (p.1, p.2 + 1)) (1, 0)

/-! ## Looking and taking -/

def peek? : ReadM (Option UInt8) := do
  let r ← get
  pure r.bytes[r.index]?

def peekOrNull : ReadM UInt8 := do
  pure ((← peek?).getD 0)

def eat : ReadM Unit :=
  modify fun r => { r with index := r.index + 1 }

def next? : ReadM (Option UInt8) := do
  let b ← peek?
  if b.isSome then eat
  pure b

/-- How many bytes are left: a bound on every loop of the reader. -/
def remaining : ReadM Nat := do
  let r ← get
  pure (r.bytes.size - r.index + 1)

def fail {α : Type} (f : Fault) : ReadM α := do
  let r ← get
  let (l, c) := positionAt r.bytes r.index
  throw { text := f.text, line := l, column := c }

def failAhead {α : Type} (f : Fault) : ReadM α := do
  let r ← get
  let (l, c) := positionAt r.bytes (min r.bytes.size (r.index + 1))
  throw { text := f.text, line := l, column := c }

/-- Gives an error without a position the position of the last byte taken. -/
def place (e : Error) : ReadM Error := do
  if e.line = 0 then
    let r ← get
    let (l, c) := positionAt r.bytes r.index
    pure { e with line := l, column := c }
  else pure e

def isWhite (b : UInt8) : Bool :=
  b = 32 || b = 10 || b = 9 || b = 13

def isDigit (b : UInt8) : Bool :=
  48 ≤ b && b ≤ 57

def skipWhite : ReadM (Option UInt8) := do
  let rec go : Nat → ReadM (Option UInt8)
    | 0 => peek?
    | fuel + 1 => do
        match ← peek? with
        | some b => if isWhite b then do eat; go fuel else pure (some b)
        | none => pure none
  go (← remaining)

def expectWord : List UInt8 → ReadM Unit
  | [] => pure ()
  | b :: bs => do
      match ← next? with
      | none => fail .eofInValue
      | some c => if c = b then expectWord bs else fail .expectedIdent

def skipDigits : ReadM Unit := do
  let rec go : Nat → ReadM Unit
    | 0 => pure ()
    | fuel + 1 => do
        if isDigit (← peekOrNull) then do eat; go fuel else pure ()
  go (← remaining)

/-! ## Numbers -/

/-- A number as read: its kind is part of the value. -/
inductive Number where
  | unsigned (n : Nat)
  | negative (n : Int)
  | float (x : Float)

def wordMax : Nat := UInt64.size - 1

def exponentMax : Int := Int.pow 2 31 - 1

def powerOfTen (k : Nat) : Float :=
  Text.ofDecimal false (Nat.pow 10 k) 0

/-- The float of a significand and a decimal exponent: the significand rounded to a double,
then multiplied or divided by one rounded power of ten. Exponents beyond the table are first
brought in by steps of `10 ^ 308` downwards; a product that overflows is out of range. -/
def ofParts (positive : Bool) (significand : Nat) (exponent : Int) : ReadM Float := do
  let rec go (f : Float) (e : Int) : Nat → ReadM Float
    | 0 => pure f
    | fuel + 1 =>
        if e.natAbs ≤ 308 then
          if 0 ≤ e then
            let g := f * powerOfTen e.natAbs
            if g.isInf then fail .numberOutOfRange else pure g
          else pure (f / powerOfTen e.natAbs)
        else if f == 0 then pure f
        else if 0 ≤ e then fail .numberOutOfRange
        else go (f / powerOfTen 308) (e + 308) fuel
  let f ← go (Text.ofDecimal false significand 0) exponent (exponent.natAbs / 308 + 2)
  pure (if positive then f else -f)

/-- Reads an exponent after its `e`, with a sign and at least one digit; an exponent too long
for a word gives zero, or an error if the number grows. -/
def readExponent (positive : Bool) (significand : Nat) (start : Int) : ReadM Float := do
  eat
  let up ← match ← peekOrNull with
    | 43 => do eat; pure true
    | 45 => do eat; pure false
    | _ => pure true
  match ← next? with
  | none => fail .eofInValue
  | some c =>
      if !isDigit c then fail .invalidNumber
      else
        let rec go (e : Nat) : Nat → ReadM (Option Nat)
          | 0 => pure (some e)
          | fuel + 1 => do
              let d ← peekOrNull
              if isDigit d then
                eat
                let e' := e * 10 + (d - 48).toNat
                if exponentMax < e' then pure none else go e' fuel
              else pure (some e)
        match ← go (c - 48).toNat (← remaining) with
        | none =>
            if significand ≠ 0 && up then fail .numberOutOfRange
            else
              skipDigits
              pure (if positive then 0 else -0.0)
        | some e =>
            let final := if up then min (start + e) exponentMax else max (start - e) (-exponentMax - 1)
            ofParts positive significand final

/-- Reads fraction digits after the point; at least one must follow it. Digits past a word are
dropped. -/
def readFraction (positive : Bool) (significand : Nat) (before : Int) : ReadM Float := do
  eat
  let rec go (m : Nat) (after : Int) : Nat → ReadM (Nat × Int × Bool)
    | 0 => pure (m, after, false)
    | fuel + 1 => do
        let d ← peekOrNull
        if isDigit d then
          let m' := m * 10 + (d - 48).toNat
          if wordMax < m' then pure (m, after, true)
          else do eat; go m' (after - 1) fuel
        else pure (m, after, false)
  let (m, after, overflowed) ← go significand 0 (← remaining)
  if overflowed then
    skipDigits
    match ← peekOrNull with
    | 101 | 69 => readExponent positive m (before + after)
    | _ => ofParts positive m (before + after)
  else if after = 0 then
    match ← peek? with
    | some _ => failAhead .invalidNumber
    | none => failAhead .eofInValue
  else
    match ← peekOrNull with
    | 101 | 69 => readExponent positive m (before + after)
    | _ => ofParts positive m (before + after)

def readNumberEnd (positive : Bool) (significand : Nat) : ReadM Number := do
  match ← peekOrNull with
  | 46 => .float <$> readFraction positive significand 0
  | 101 | 69 => .float <$> readExponent positive significand 0
  | _ =>
      if positive then pure (.unsigned significand)
      else if significand = 0 || Nat.pow 2 63 < significand then
        pure (.float (-(Text.ofDecimal false significand 0)))
      else pure (.negative (-(significand : Int)))

def readLongInteger (positive : Bool) (significand : Nat) : ReadM Float := do
  let rec go (extra : Nat) : Nat → ReadM Float
    | 0 => ofParts positive significand extra
    | fuel + 1 => do
        match ← peekOrNull with
        | 46 => readFraction positive significand extra
        | 101 | 69 => readExponent positive significand extra
        | d => if isDigit d then do eat; go (extra + 1) fuel else ofParts positive significand extra
  go 0 (← remaining)

/-- Reads a number, its sign already taken; only one leading zero is allowed. -/
def readInteger (positive : Bool) : ReadM Number := do
  match ← next? with
  | none => fail .eofInValue
  | some 48 =>
      if isDigit (← peekOrNull) then failAhead .invalidNumber
      else readNumberEnd positive 0
  | some c =>
      if !isDigit c then fail .invalidNumber
      else
        let rec go (m : Nat) : Nat → ReadM Number
          | 0 => readNumberEnd positive m
          | fuel + 1 => do
              let d ← peekOrNull
              if isDigit d then
                let m' := m * 10 + (d - 48).toNat
                if wordMax < m' then .float <$> readLongInteger positive m
                else do eat; go m' fuel
              else readNumberEnd positive m
        go (c - 48).toNat (← remaining)

/-! ## Strings -/

def hexDigit? (b : UInt8) : Option Nat :=
  if isDigit b then some (b - 48).toNat
  else if 97 ≤ b && b ≤ 102 then some (b - 87).toNat
  else if 65 ≤ b && b ≤ 70 then some (b - 55).toNat
  else none

def readHexEscape : ReadM Nat := do
  let r ← get
  if r.index + 4 ≤ r.bytes.size then
    let ds := (r.bytes.extract r.index (r.index + 4)).toList.map hexDigit?
    set { r with index := r.index + 4 }
    match ds with
    | [some a, some b, some c, some d] => pure (((a * 16 + b) * 16 + c) * 16 + d)
    | _ => fail .invalidEscape
  else
    set { r with index := r.bytes.size }
    fail .eofInString

def utf8Of (n : Nat) : List UInt8 :=
  (Char.ofNat n).toString.toUTF8.toList

/-- Reads a `\u` escape after its `u`: a code point outside the surrogates, or a leading
surrogate followed by an escaped trailing one. -/
def readUnicodeEscape : ReadM (List UInt8) := do
  let n ← readHexEscape
  if 0xDC00 ≤ n && n ≤ 0xDFFF then fail .loneLeadingSurrogate
  else if n < 0xD800 || 0xDBFF < n then pure (utf8Of n)
  else
    let expectByte (b : UInt8) : ReadM Unit := do
      match ← peek? with
      | none => fail .eofInString
      | some c => eat; if c = b then pure () else fail .unexpectedEndOfHexEscape
    expectByte 92
    expectByte 117
    let m ← readHexEscape
    if m < 0xDC00 || 0xDFFF < m then fail .loneLeadingSurrogate
    else pure (utf8Of (((n - 0xD800) * 1024 + (m - 0xDC00)) + 0x10000))

def readEscape : ReadM (List UInt8) := do
  match ← next? with
  | none => fail .eofInString
  | some 34 => pure [34]
  | some 92 => pure [92]
  | some 47 => pure [47]
  | some 98 => pure [8]
  | some 102 => pure [12]
  | some 110 => pure [10]
  | some 114 => pure [13]
  | some 116 => pure [9]
  | some 117 => readUnicodeEscape
  | some _ => fail .invalidEscape

def endsRun (b : UInt8) : Bool :=
  b = 34 || b = 92 || b < 32

def readString : ReadM String := do
  let rec go (acc : Array UInt8) : Nat → ReadM (Array UInt8)
    | 0 => pure acc
    | fuel + 1 => do
        match ← peek? with
        | none => fail .eofInString
        | some 34 => do eat; pure acc
        | some 92 => do eat; let bs ← readEscape; go (acc ++ bs.toArray) fuel
        | some b =>
            if b < 32 then do eat; fail .controlCharacter
            else do eat; go (acc.push b) fuel
  let bytes ← go #[] (← remaining)
  pure (Text.Utf8.decodeLossy bytes.toList)

def skipString : ReadM Unit := do
  let rec go : Nat → ReadM Unit
    | 0 => pure ()
    | fuel + 1 => do
        match ← peek? with
        | none => fail .eofInString
        | some 34 => eat
        | some 92 => do
            eat
            match ← next? with
            | none => fail .eofInString
            | some c =>
                if c = 117 then do let _ ← readHexEscape; go fuel
                else if [34, 92, 47, 98, 102, 110, 114, 116].contains c then go fuel
                else fail .invalidEscape
        | some b => if b < 32 then fail .controlCharacter else do eat; go fuel
  go (← remaining)

/-! ## Skipping a value -/

def skipNumber : ReadM Unit := do
  let c ← (·.getD 0) <$> next?
  if c = 48 then
    if isDigit (← peekOrNull) then failAhead .invalidNumber
  else if isDigit c then skipDigits
  else fail .invalidNumber
  let exponent : ReadM Unit := do
    eat
    let s ← peekOrNull
    if s = 43 || s = 45 then eat
    let d ← (·.getD 0) <$> next?
    if !isDigit d then fail .invalidNumber
    skipDigits
  match ← peekOrNull with
  | 46 =>
      eat
      if !isDigit (← peekOrNull) then failAhead .invalidNumber
      skipDigits
      match ← peekOrNull with
      | 101 | 69 => exponent
      | _ => pure ()
  | 101 | 69 => exponent
  | _ => pure ()

/-- Closes finished containers after a value: takes their closing brackets and, where a comma
follows, the comma. Returns the container to go on in with the stack of those around it, or
none once the outermost one is closed. -/
def closeFrames (frame : UInt8) (outer : List UInt8) (comma : Bool) :
    Nat → ReadM (Option (UInt8 × List UInt8))
  | 0 => pure none
  | fuel + 1 => do
      let peek ← skipWhite
      if (peek = some 93 && frame = 91) || (peek = some 125 && frame = 123) then
        eat
        match outer with
        | [] => pure none
        | f :: rest => closeFrames f rest true fuel
      else
        match peek with
        | some 44 =>
            if comma then eat
            pure (some (frame, outer))
        | some _ =>
            if comma then
              failAhead (if frame = 91 then .expectedListCommaOrEnd else .expectedObjectCommaOrEnd)
            else pure (some (frame, outer))
        | none => failAhead (if frame = 91 then .eofInList else .eofInObject)

def skipKey : ReadM Unit := do
  match ← skipWhite with
  | some 34 => eat
  | some _ => failAhead .keyMustBeAString
  | none => failAhead .eofInObject
  skipString
  match ← skipWhite with
  | some 58 => eat
  | some _ => failAhead .expectedColon
  | none => failAhead .eofInObject

def skipScalarOrOpen : ReadM (Option UInt8) := do
  match ← skipWhite with
  | none => failAhead .eofInValue
  | some 110 => do eat; expectWord [117, 108, 108]; pure none
  | some 116 => do eat; expectWord [114, 117, 101]; pure none
  | some 102 => do eat; expectWord [97, 108, 115, 101]; pure none
  | some 45 => do eat; skipNumber; pure none
  | some 34 => do eat; skipString; pure none
  | some b =>
      if isDigit b then do skipNumber; pure none
      else if b = 91 || b = 123 then do eat; pure (some b)
      else failAhead .expectedValue

/-- Skips one whole value, checking its syntax, without recursion: the containers around the
current one are kept on a stack of their opening brackets. -/
def skipValue : ReadM Unit := do
  let rec go (enclosing : Option UInt8) (outer : List UInt8) : Nat → ReadM Unit
    | 0 => pure ()
    | fuel + 1 => do
        let opened ← skipScalarOrOpen
        let left ← remaining
        let next ← match opened, enclosing, outer with
          | some f, some e, _ => closeFrames f (e :: outer) false left
          | some f, none, _ => closeFrames f outer false left
          | none, some e, _ => closeFrames e outer true left
          | none, none, f :: rest => closeFrames f rest true left
          | none, none, [] => pure none
        match next with
        | none => pure ()
        | some (frame, rest) =>
            if frame = 123 then skipKey
            go (some frame) rest fuel
  go none [] (← remaining)

end Json
end MemoryRecorder
