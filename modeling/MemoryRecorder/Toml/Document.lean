import MemoryRecorder.Text.Decimal
import MemoryRecorder.Toml.Token
/-!
# TOML documents

A TOML document is read whole before any of it is used: it is a list of tables, each opened
by a header (`[a.b]`, or `[[a]]` for an element of an array of tables) and holding its keys and
values in order. Keys before the first header form a table with an empty header. A value keeps
the byte offset where it starts, since errors about it are placed there.

Values are read by the first token: a string, `true`, `false`, a number or date (a run of key
characters beginning with a digit or `-`, or `inf` and `nan`), a `+` and a number, an inline
table or an array. Any other run of key characters is an unquoted string and refused. A date is
kept as its text; numbers are read as 64-bit integers or as floats.
-/

namespace MemoryRecorder
namespace Toml

inductive Value where
  | integer (n : Int)
  | float (x : Float)
  | boolean (b : Bool)
  | string (s : String)
  | datetime (text : String)
  | array (items : List (Nat × Value))
  /-- A table of keys, each value with the offset where it starts; `dotted` marks a table made
  by a dotted key, which later dotted keys may extend. -/
  | table (dotted : Bool) (entries : List (String × Nat × Value))
  deriving Repr

/-- A table of a document: the offset of its header, the parts of its header, its entries
(none for a table that only names a prefix), and whether it is an element of an array of
tables. -/
structure Table where
  offset : Nat
  header : List String
  entries : Option (List (String × Nat × Value))
  array : Bool
  deriving Repr

def invalidNumber {α : Type} (at_ : Nat) : LexM α :=
  failAt at_ "invalid number"

def isRadixDigit (radix : Nat) (c : Char) : Bool :=
  match radix with
  | 16 => c.isDigit || ('a' ≤ c && c ≤ 'f') || ('A' ≤ c && c ≤ 'F')
  | r => c.isDigit && c.toNat - 48 < r

/-- Splits a run of key characters into its leading integer and the rest. An integer may have
a sign when `allowSign`, has single underscores between digits, and a leading zero only when
`allowLeadingZeros`; `start` is the offset of the run, for errors. -/
def splitInteger (s : List Char) (start : Nat) (allowSign allowLeadingZeros : Bool) (radix : Nat) :
    Except Error (List Char × List Char) :=
  let err (at_ : Nat) : Error := { text := "invalid number", offset := some at_ }
  let rec go (i : Nat) (first firstZero underscore : Bool) :
      List Char → Except Error (Nat × Bool × Bool)
    | [] => .ok (i, first, underscore)
    | c :: cs =>
        if i = 0 && (c = '+' || c = '-') && allowSign then go (i + 1) first firstZero underscore cs
        else if c = '0' && first then go (i + 1) false true underscore cs
        else if isRadixDigit radix c then
          if !first && firstZero && !allowLeadingZeros then .error (err (i + start))
          else go (i + 1) false firstZero false cs
        else if c = '_' && first then .error (err (i + start))
        else if c = '_' && !underscore then go (i + 1) false firstZero true cs
        else .ok (i, first, underscore)
  match go 0 true false false s with
  | .error e => .error e
  | .ok (stop, first, underscore) =>
      if first || underscore then .error (err start) else .ok (s.take stop, s.drop stop)

def liftSplit {α : Type} : Except Error α → LexM α
  | .ok v => pure v
  | .error e => throw e

def integerValue (digits : List Char) (radix : Nat) : Option Int :=
  let (negative, ds) := match digits with
    | '-' :: rest => (true, rest)
    | '+' :: rest => (false, rest)
    | ds => (false, ds)
  if ds.isEmpty then none
  else
    let n := ds.foldl (fun acc c =>
      acc * radix + (if c.isDigit then c.toNat - 48 else c.toLower.toNat - 87)) 0
    let v : Int := if negative then -(n : Int) else n
    if -Int.pow 2 63 ≤ v && v < Int.pow 2 63 then some v else none

def readInteger (s : List Char) (start radix : Nat) : LexM Int := do
  let (pre, post) ← liftSplit (splitInteger s start (radix == 10) (radix != 10) radix)
  if !post.isEmpty then invalidNumber start
  else
    match integerValue (pre.filter (· ≠ '_')) radix with
    | some v => pure v
    | none => invalidNumber start

def decimalValue (integral fraction exponent : List Char) : Float :=
  let clean (cs : List Char) := cs.filter (· ≠ '_')
  let (negative, whole) := match clean integral with
    | '-' :: rest => (true, rest)
    | '+' :: rest => (false, rest)
    | ds => (false, ds)
  let frac := clean fraction
  let (expNegative, expDigits) := match clean exponent with
    | '-' :: rest => (true, rest)
    | '+' :: rest => (false, rest)
    | ds => (false, ds)
  let digits := (whole ++ frac).foldl (fun acc c => acc * 10 + (c.toNat - 48)) 0
  let e : Nat := expDigits.foldl (fun acc c => acc * 10 + (c.toNat - 48)) 0
  let k : Int := (if expNegative then -(e : Int) else e) - frac.length
  Text.ofScientific negative digits k

/-- Reads a float from its integral run at `start` and, after a point, its fraction run; an
exponent may follow, with its sign in the run or as a separate `+`. -/
def readFloat (s : List Char) (start : Nat) (after : Option (List Char × Nat)) : LexM Float := do
  let (integral, suffix₀) ← liftSplit (splitInteger s start true false 10)
  -- the rest after the digits, with the run it was cut from and that run's offset
  let (fraction, suffix, base, baseStart) ← match after with
    | some (a, aStart) =>
        if !suffix₀.isEmpty then invalidNumber start
        else do
          let (f, rest) ← liftSplit (splitInteger a aStart false true 10)
          pure (f, rest, a, aStart)
    | none => pure ([], suffix₀, s, start)
  let exponent ← match suffix with
    | 'e' :: rest | 'E' :: rest =>
        if rest.isEmpty then do
          let _ ← eat .plus
          match ← next with
          | some ⟨.keylike k, kStart, _⟩ =>
              let (a, b) ← liftSplit (splitInteger k.toList kStart false true 10)
              if b.isEmpty then pure a else invalidNumber start
          | _ => invalidNumber start
        else do
          let restStart := baseStart + (base.length - rest.length)
          let (a, b) ← liftSplit (splitInteger rest restStart true true 10)
          if b.isEmpty then pure a else invalidNumber start
    | [] => pure []
    | _ => invalidNumber start
  let x := decimalValue integral fraction exponent
  if x.isFinite then pure x else invalidNumber start

/-- Reads a number from a run of key characters at `textStart`; the value is placed at
`valueStart`, except a float with a point, which is placed at its fraction. -/
def readNumber (s : String) (textStart valueStart : Nat) : LexM (Nat × Value) := do
  let cs := s.toList
  match cs with
  | '0' :: 'x' :: rest => (fun n => (valueStart, .integer n)) <$> readInteger rest (textStart + 2) 16
  | '0' :: 'o' :: rest => (fun n => (valueStart, .integer n)) <$> readInteger rest (textStart + 2) 8
  | '0' :: 'b' :: rest => (fun n => (valueStart, .integer n)) <$> readInteger rest (textStart + 2) 2
  | _ =>
      if cs.contains 'e' || cs.contains 'E' then
        (fun x => (valueStart, .float x)) <$> readFloat cs textStart none
      else if ← eat .period then
        let at_ ← current
        match ← next with
        | some ⟨.keylike after, aStart, _⟩ =>
            (fun x => (aStart, .float x)) <$> readFloat cs textStart (some (after.toList, aStart))
        | _ => invalidNumber at_
      else if s = "inf" then pure (valueStart, .float (1e308 * 10))
      else if s = "-inf" then pure (valueStart, .float (-(1e308 * 10)))
      else if s = "nan" || s = "-nan" then pure (valueStart, .float (0 / 0))
      else (fun n => (valueStart, .integer n)) <$> readInteger cs textStart 10

def hasPair (a b : Char) : List Char → Bool
  | x :: y :: rest => (x = a && y = b) || hasPair a b (y :: rest)
  | _ => false

/-- Reads the rest of a date and time whose first run, at `start`, has been taken: a time
after a single space, and minutes, seconds, fraction and offset after colons. Only the shape
of the tokens is checked; the text is kept. -/
def readDatetime (start : Nat) (colonTaken : Bool) : LexM String := do
  let saved ← get
  let first ← try next catch _ => pure none
  let second ← try next catch _ => pure none
  set saved
  match first, second with
  | some ⟨.whitespace " ", _, _⟩, some ⟨.keylike _, _, _⟩ =>
      let _ ← next
      let _ ← next
  | _, _ => pure ()
  let keylike : LexM Unit := do
    match ← next with
    | some ⟨.keylike _, _, _⟩ => pure ()
    | _ => failAt start "invalid date"
  if colonTaken || (← eat .colon) then
    keylike
    let _ ← expect .colon
    keylike
    if ← eat .period then keylike
    if ← eat .plus then keylike
    if ← eat .colon then keylike
  let stop ← current
  let l ← get
  pure (String.ofList ((l.chars.toList.filter fun (o, _) => start ≤ o && o < stop).map (·.2)))

def readNumberOrDate (s : String) (textStart valueStart : Nat) : LexM (Nat × Value) := do
  let cs := s.toList
  let datelike := cs.contains 'T' || cs.contains 't' ||
    (1 < cs.length && (cs.drop 1).contains '-' &&
      !hasPair 'e' '-' cs && !hasPair 'E' '-' cs)
  if datelike then
    (fun d => (valueStart, .datetime d)) <$> readDatetime textStart false
  else if ← eat .colon then
    (fun d => (valueStart, .datetime d)) <$> readDatetime textStart true
  else readNumber s textStart valueStart

/-- Adds a value under a dotted key to entries: the last part names the value, the parts before
it name tables made by dotted keys, which are created or extended. -/
def addDotted (value : Nat × Value) :
    List String → List (String × Nat × Value) → Except Error (List (String × Nat × Value))
  | [], entries => .ok entries
  | [k], entries => .ok (entries ++ [(k, value)])
  | k :: rest, entries =>
      match entries.find? (·.1 = k) with
      | some (_, at_, .table true inner) =>
          match addDotted value rest inner with
          | .ok inner' =>
              let (before, after) := entries.span (·.1 ≠ k)
              .ok (before ++ (k, at_, .table true inner') :: after.drop 1)
          | .error e => .error e
      | some (_, at_, _) =>
          .error { text := "dotted key attempted to extend non-table type", offset := some at_ }
      | none =>
          match addDotted value rest [] with
          | .ok inner => .ok (entries ++ [(k, value.1, .table true inner)])
          | .error e => .error e

def dottedKey : LexM (List String) := do
  let first ← tableKey
  eatWhitespace
  let rec go (acc : Array String) : Nat → LexM (List String)
    | 0 => pure acc.toList
    | fuel + 1 => do
        if ← eat .period then
          eatWhitespace
          let k ← tableKey
          eatWhitespace
          go (acc.push k) fuel
        else pure acc.toList
  go #[first] (← remaining)

def skipBetween : LexM Unit := do
  let rec go : Nat → LexM Unit
    | 0 => pure ()
    | fuel + 1 => do
        eatWhitespace
        if (← eat .newline) || (← eatComment) then go fuel else pure ()
  go (← remaining)

mutual

def readValue : Nat → LexM (Nat × Value)
  | 0 => do failAt (← current) "unexpected eof encountered"
  | fuel + 1 => do
      let at_ ← current
      match ← next with
      | some ⟨.string v _ _, start, _⟩ => pure (start, .string v)
      | some ⟨.keylike "true", start, _⟩ => pure (start, .boolean true)
      | some ⟨.keylike "false", start, _⟩ => pure (start, .boolean false)
      | some ⟨.keylike k, start, _⟩ =>
          if k = "inf" || k = "nan" then readNumberOrDate k start start
          else
            match k.toList with
            | c :: _ =>
                if c = '-' || c.isDigit then readNumberOrDate k start start
                else failAt at_ "invalid TOML value, did you mean to use a quoted string?"
            | [] => failAt at_ "invalid TOML value, did you mean to use a quoted string?"
      | some ⟨.plus, start, _⟩ =>
          let tokenStart ← current
          match ← next with
          | some ⟨.keylike s, sStart, _⟩ => readNumber s sStart start
          | _ => invalidNumber tokenStart
      | some ⟨.leftBrace, start, _⟩ =>
          eatWhitespace
          if ← eat .rightBrace then return (start, .table false [])
          (fun t => (start, .table false t)) <$> readEntries [] fuel
      | some ⟨.leftBracket, start, _⟩ => (fun a => (start, .array a)) <$> readElements #[] fuel
      | some s => failAt at_ ("expected a value, found " ++ s.token.describe)
      | none =>
          let l ← get
          failAt l.size "unexpected eof encountered"

def readElements (acc : Array (Nat × Value)) : Nat → LexM (List (Nat × Value))
  | 0 => pure acc.toList
  | fuel + 1 => do
      skipBetween
      if ← eat .rightBracket then return acc.toList
      let v ← readValue fuel
      skipBetween
      if ← eat .comma then readElements (acc.push v) fuel
      else
        skipBetween
        let _ ← expect .rightBracket
        pure (acc.push v).toList

def readEntries (acc : List (String × Nat × Value)) : Nat → LexM (List (String × Nat × Value))
  | 0 => pure acc
  | fuel + 1 => do
      let key ← dottedKey
      eatWhitespace
      let _ ← expect .equals
      eatWhitespace
      let v ← readValue fuel
      let acc ← liftSplit (addDotted v key acc)
      eatWhitespace
      if ← eat .rightBrace then return acc
      let _ ← expect .comma
      eatWhitespace
      readEntries acc fuel

end

inductive Line where
  | header (offset : Nat) (parts : List String) (array : Bool)
  | entry (key : List String) (value : Nat × Value)

def headerParts (array : Bool) : LexM (List String) := do
  let rec go (acc : Array String) (first : Bool) : Nat → LexM (List String)
    | 0 => pure acc.toList
    | fuel + 1 => do
        eatWhitespace
        if first || (← eat .period) then
          eatWhitespace
          let k ← tableKey
          go (acc.push k) false fuel
        else
          let _ ← expect .rightBracket
          if array then
            let _ ← expect .rightBracket
          eatWhitespace
          if !(← eatComment) then eatNewlineOrEof
          pure acc.toList
  go #[] true (← remaining)

/-- Reads the next line that holds a header or an entry, past blank lines and comments. The
parts of a header are read as the header is reached, before the lines after it. -/
def readLine : LexM (Option Line) := do
  let rec skip : Nat → LexM Unit
    | 0 => pure ()
    | fuel + 1 => do
        eatWhitespace
        if (← eatComment) || (← eat .newline) then skip fuel else pure ()
  skip (← remaining)
  match ← peek with
  | some ⟨.leftBracket, _, _⟩ =>
      let start ← current
      let _ ← expect .leftBracket
      let array ← eat .leftBracket
      let afterBrackets ← get
      skipToNewline
      let resume ← get
      set afterBrackets
      let parts ← headerParts array
      set resume
      pure (some (.header start parts array))
  | some _ =>
      let key ← dottedKey
      eatWhitespace
      let _ ← expect .equals
      eatWhitespace
      let v ← readValue (← remaining)
      eatWhitespace
      if !(← eatComment) then eatNewlineOrEof
      pure (some (.entry key v))
  | none => pure none

def readTables : LexM (List Table) := do
  let rec go (acc : Array Table) (cur : Table) : Nat → LexM (List Table)
    | 0 => pure acc.toList
    | fuel + 1 => do
        let flush (acc : Array Table) : Array Table :=
          if !cur.header.isEmpty || cur.entries.isSome then acc.push cur else acc
        match ← readLine with
        | none => pure (flush acc).toList
        | some (.header offset parts array) =>
            go (flush acc) { offset, header := parts, entries := some [], array } fuel
        | some (.entry key v) =>
            let entries ← liftSplit (addDotted v key (cur.entries.getD []))
            go acc { cur with entries := some entries } fuel
  go #[] { offset := 0, header := [], entries := none, array := false } (← remaining)

/-- The tables of a TOML text, or the first error in it. -/
def parseTables (text : String) : Except Error (List Table) :=
  match readTables.run (Lexer.ofString text) with
  | .ok ts _ => .ok ts
  | .error e _ => .error e

end Toml
end MemoryRecorder
