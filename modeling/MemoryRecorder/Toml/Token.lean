/-!
# Tokens of TOML text

TOML text is cut into tokens one character at a time: white space, line ends, comments,
punctuation, runs of key characters (letters, digits, `-` and `_`, which also carry numbers and
dates) and strings, whose escapes are decoded as they are read. A carriage return before a line
feed is read together with it as one line end.

Every error is placed at a byte offset of the text, and shown as a line and a column counted
from one. Errors in strings are placed at the character at fault, or at the opening quote when
the text ends inside the string.
-/

namespace MemoryRecorder
namespace Toml

/-- An error of reading a TOML document: its text, the keys of the setting it concerns, and the
byte offset it is placed at, once known. -/
structure Error where
  text : String
  keys : List String := []
  offset : Option Nat := none
  deriving DecidableEq, Repr

def lines (input : String) : List String :=
  let pieces := input.splitOn "\n"
  if pieces.getLast? = some "" then pieces.dropLast else pieces

/-- The line and column of a byte offset, both from zero; an offset past the last line is the
start of the line after it. -/
def lineColumn (input : String) (offset : Nat) : Nat × Nat :=
  let ls := lines input
  let rec go (i cur : Nat) : List String → Nat × Nat
    | [] => (ls.length, 0)
    | l :: rest =>
        if offset < cur + l.utf8ByteSize + 1 then (i, offset - cur)
        else go (i + 1) (cur + l.utf8ByteSize + 1) rest
  go 0 0 ls

def Error.message (input : String) (e : Error) : String :=
  let keys := if e.keys.isEmpty then "" else " for key `" ++ ".".intercalate e.keys ++ "`"
  let place := match e.offset with
    | some o =>
        let (l, c) := lineColumn input o
        " at line " ++ toString (l + 1) ++ " column " ++ toString (c + 1)
    | none => ""
  e.text ++ keys ++ place

/-- A character as an error shows it: printable ASCII as itself, the usual escapes, and any
other character as its code point in hex. -/
def escapeChar (c : Char) : String :=
  match c with
  | '\t' => "\\t"
  | '\r' => "\\r"
  | '\n' => "\\n"
  | '\\' => "\\\\"
  | '\'' => "\\'"
  | '"' => "\\\""
  | c =>
      if 0x20 ≤ c.toNat && c.toNat ≤ 0x7e then c.toString
      else "\\u" ++ "\x7b" ++ String.ofList (Nat.toDigits 16 c.toNat) ++ "\x7d"

inductive Token where
  | whitespace (text : String)
  | newline
  | comment
  | equals | period | comma | colon | plus
  | leftBrace | rightBrace | leftBracket | rightBracket
  | keylike (text : String)
  | string (value : String) (multiline : Bool) (start : Nat)
  deriving DecidableEq, Repr

def Token.describe : Token → String
  | .keylike _ => "an identifier"
  | .equals => "an equals"
  | .period => "a period"
  | .comment => "a comment"
  | .newline => "a newline"
  | .whitespace _ => "whitespace"
  | .comma => "a comma"
  | .rightBrace => "a right brace"
  | .leftBrace => "a left brace"
  | .rightBracket => "a right bracket"
  | .leftBracket => "a left bracket"
  | .string _ multiline _ => if multiline then "a multiline string" else "a string"
  | .colon => "a colon"
  | .plus => "a plus"

/-- A token with the offsets where it starts and where the next one starts. -/
structure Spanned where
  token : Token
  start : Nat
  stop : Nat
  deriving Repr

def isKeylike (c : Char) : Bool :=
  ('A' ≤ c && c ≤ 'Z') || ('a' ≤ c && c ≤ 'z') || ('0' ≤ c && c ≤ '9') || c = '-' || c = '_'

def isStringChar (c : Char) : Bool :=
  c = '\t' || (0x20 ≤ c.toNat && c.toNat ≠ 0x7f)

/-- The characters of a text with their byte offsets, a carriage return before a line feed
being read as that line feed at the offset of the return. -/
def offsets (s : String) : Array (Nat × Char) :=
  let rec go (i : Nat) (acc : Array (Nat × Char)) : List Char → Array (Nat × Char)
    | [] => acc
    | '\r' :: '\n' :: rest => go (i + 2) (acc.push (i, '\n')) rest
    | c :: rest => go (i + c.utf8Size) (acc.push (i, c)) rest
  go 0 #[] s.toList

structure Lexer where
  chars : Array (Nat × Char)
  pos : Nat := 0
  size : Nat

def Lexer.ofString (s : String) : Lexer :=
  let cs := offsets s
  { chars := cs, size := s.utf8ByteSize,
    pos := if (cs[0]?.map (·.2)) = some '\uFEFF' then 1 else 0 }

/-- Reading TOML text; errors carry their own position. -/
abbrev LexM := EStateM Error Lexer

def failAt {α : Type} (at_ : Nat) (text : String) : LexM α :=
  throw { text := text, offset := some at_ }

def peekChar? : LexM (Option (Nat × Char)) := do
  let l ← get
  pure l.chars[l.pos]?

def takeChar? : LexM (Option (Nat × Char)) := do
  let l ← get
  match l.chars[l.pos]? with
  | some p => set { l with pos := l.pos + 1 }; pure (some p)
  | none => pure none

def current : LexM Nat := do
  let l ← get
  pure ((l.chars[l.pos]?.map (·.1)).getD l.size)

def remaining : LexM Nat := do
  let l ← get
  pure (l.chars.size - l.pos + 1)

def eatChar (c : Char) : LexM Bool := do
  match ← peekChar? with
  | some (_, d) => if c = d then do let _ ← takeChar?; pure true else pure false
  | none => pure false

def takeWhile (p : Char → Bool) : LexM String := do
  let rec go (acc : String) : Nat → LexM String
    | 0 => pure acc
    | fuel + 1 => do
        match ← peekChar? with
        | some (_, c) => if p c then do let _ ← takeChar?; go (acc.push c) fuel else pure acc
        | none => pure acc
  go "" (← remaining)

/-! ## Strings -/

def hexEscape (start at_ len : Nat) : LexM Char := do
  let rec go (v : Nat) : Nat → LexM Nat
    | 0 => pure v
    | n + 1 => do
        match ← takeChar? with
        | some (j, c) =>
            if c.toNat ≤ 0x7f && c.isHexDigit then
              let d := if c.isDigit then c.toNat - 48 else (c.toLower.toNat - 87)
              go (v * 16 + d) n
            else failAt j ("invalid hex escape character in string: `" ++ escapeChar c ++ "`")
        | none => failAt start "unterminated string"
  let v ← go 0 len
  if v < 0xD800 || (0xE000 ≤ v && v ≤ 0x10FFFF) then pure (Char.ofNat v)
  else failAt at_ ("invalid escape value: `" ++ toString v ++ "`")

/-- Takes the white space after a backslash that ends a line of a multi-line string: blanks up
to the line end, then every blank and line end after it. -/
def skipLineEnding (at_ : Nat) (c : Char) : LexM Unit := do
  if c ≠ '\n' then
    let rec toEnd : Nat → LexM Unit
      | 0 => pure ()
      | fuel + 1 => do
          match ← peekChar? with
          | some (_, ' ') | some (_, '\t') => do let _ ← takeChar?; toEnd fuel
          | some (_, '\n') => do let _ ← takeChar?; pure ()
          | some _ => failAt at_ ("invalid escape character in string: `" ++ escapeChar c ++ "`")
          | none => pure ()
    toEnd (← remaining)
  let _ ← takeWhile fun d => d = ' ' || d = '\t' || d = '\n'

def escape (start : Nat) (multiline : Bool) : LexM String := do
  match ← takeChar? with
  | some (_, '"') => pure "\""
  | some (_, '\\') => pure "\\"
  | some (_, 'b') => pure "\x08"
  | some (_, 'f') => pure "\x0c"
  | some (_, 'n') => pure "\n"
  | some (_, 'r') => pure "\r"
  | some (_, 't') => pure "\t"
  | some (i, 'u') => (·.toString) <$> hexEscape start i 4
  | some (i, 'U') => (·.toString) <$> hexEscape start i 8
  | some (i, c) =>
      if multiline && (c = ' ' || c = '\t' || c = '\n') then do skipLineEnding i c; pure ""
      else failAt i ("invalid escape character in string: `" ++ escapeChar c ++ "`")
  | none => failAt start "unterminated string"

/-- Reads a string after its opening quote `delim`; basic strings decode escapes, literal ones
do not. Three quotes open a multi-line string, whose first line end is dropped and which may
end in up to two extra quotes. -/
def readString (delim : Char) (basic : Bool) (start : Nat) : LexM Token := do
  let multiline ← eatChar delim
  if multiline then
    if !(← eatChar delim) then return .string "" false start
  let rec go (acc : String) (first : Bool) : Nat → LexM Token
    | 0 => pure (.string acc multiline start)
    | fuel + 1 => do
        match ← takeChar? with
        | none => failAt start "unterminated string"
        | some (i, '\n') =>
            if multiline then go (if first then acc else acc.push '\n') false fuel
            else failAt i "newline in string found"
        | some (i, c) =>
            if c = delim then
              if !multiline then pure (.string acc false start)
              else if !(← eatChar delim) then go (acc.push delim) false fuel
              else if !(← eatChar delim) then go ((acc.push delim).push delim) false fuel
              else do
                let acc := if ← eatChar delim then acc.push delim else acc
                let acc := if ← eatChar delim then acc.push delim else acc
                pure (.string acc true start)
            else if basic && c = '\\' then do
              let s ← escape start multiline
              go (acc ++ s) false fuel
            else if isStringChar c then go (acc.push c) false fuel
            else failAt i ("invalid character in string: `" ++ escapeChar c ++ "`")
  go "" true (← remaining)

/-! ## Tokens -/

def skipComment : LexM Unit := do
  let _ ← takeWhile fun c => c = '\t' || 0x20 ≤ c.toNat
  pure ()

/-- Reads the next token, if any. -/
def next : LexM (Option Spanned) := do
  match ← takeChar? with
  | none => pure none
  | some (start, c) =>
      let token ← match c with
        | '\n' => pure Token.newline
        | ' ' | '\t' => do
            let rest ← takeWhile fun d => d = ' ' || d = '\t'
            pure (Token.whitespace (c.toString ++ rest))
        | '#' => do skipComment; pure Token.comment
        | '=' => pure Token.equals
        | '.' => pure Token.period
        | ',' => pure Token.comma
        | ':' => pure Token.colon
        | '+' => pure Token.plus
        | '{' => pure Token.leftBrace
        | '}' => pure Token.rightBrace
        | '[' => pure Token.leftBracket
        | ']' => pure Token.rightBracket
        | '\'' => readString '\'' false start
        | '"' => readString '"' true start
        | c =>
            if isKeylike c then do
              let rest ← takeWhile isKeylike
              pure (Token.keylike (c.toString ++ rest))
            else failAt start ("unexpected character found: `" ++ escapeChar c ++ "`")
      pure (some ⟨token, start, ← current⟩)

def peek : LexM (Option Spanned) := do
  let saved ← get
  let t ← next
  set saved
  pure t

def eatSpanned (t : Token) : LexM (Option Spanned) := do
  match ← peek with
  | some s => if s.token = t then do let _ ← next; pure (some s) else pure none
  | none => pure none

def eat (t : Token) : LexM Bool :=
  Option.isSome <$> eatSpanned t

def expect (t : Token) : LexM Spanned := do
  let at_ ← current
  match ← next with
  | some s =>
      if s.token = t then pure s
      else failAt at_ ("expected " ++ t.describe ++ ", found " ++ s.token.describe)
  | none =>
      let l ← get
      failAt l.size ("expected " ++ t.describe ++ ", found eof")

def tableKey : LexM String := do
  let at_ ← current
  match ← next with
  | some ⟨.keylike k, _, _⟩ => pure k
  | some ⟨.string v multiline start, _, _⟩ =>
      if multiline then failAt start "multiline strings are not allowed for key" else pure v
  | some s => failAt at_ ("expected a table key, found " ++ s.token.describe)
  | none =>
      let l ← get
      failAt l.size "expected a table key, found eof"

def eatWhitespace : LexM Unit := do
  let _ ← takeWhile fun c => c = ' ' || c = '\t'
  pure ()

def eatNewlineOrEof : LexM Unit := do
  let at_ ← current
  match ← next with
  | none => pure ()
  | some ⟨.newline, _, _⟩ => pure ()
  | some s => failAt at_ ("expected newline, found " ++ s.token.describe)

def eatComment : LexM Bool := do
  if !(← eatChar '#') then return false
  skipComment
  eatNewlineOrEof
  pure true

def skipToNewline : LexM Unit := do
  let _ ← takeWhile (· ≠ '\n')
  let _ ← takeChar?
  pure ()

end Toml
end MemoryRecorder
