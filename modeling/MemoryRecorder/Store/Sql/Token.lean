import MemoryRecorder.Store.Value
/-!
# Tokens of statement texts

A statement text splits into tokens the way the engine splits it, character class by character
class:

* names: a run of letters, digits, `_`, `$` and characters beyond ASCII that does not start
  with a digit or `$`, or a name in double quotes, back quotes or square brackets (a doubled quote
  stands for one). A bare run of letters and `_` that spells a reserved word is that word;
* string literals in single quotes; blob literals `X'…'` of an even number of hex digits;
* numbers: decimal digits with an optional fraction and exponent, or `0x` and hex digits; `_`
  may separate digits, which marks the number for a later check;
* variables: `?` and digits, or `:`, `@`, `#` or `$` followed by name characters;
* operators and punctuation; spaces (space, tab, line feed, form feed, carriage return) and
  comments (`--` to the end of the line, `/*` to `*/` or to the end of the text) separate them.

A character that starts no token, an unterminated quote or bracket, a malformed blob literal, and a
number run into name characters are *illegal* tokens; the reader of statements reports one when
it reaches it, so the statements before it still run. A zero character ends the text.

Every token keeps its byte offset in the text, which error messages quote.
-/

namespace MemoryRecorder
namespace Store
namespace Sql

def keywords : List String :=
  ["ABORT", "ACTION", "ADD", "AFTER", "ALL", "ALTER", "ALWAYS", "ANALYZE", "AND", "AS", "ASC",
    "ATTACH", "AUTOINCREMENT", "BEFORE", "BEGIN", "BETWEEN", "BY", "CASCADE", "CASE", "CAST",
    "CHECK", "COLLATE", "COLUMN", "COMMIT", "CONFLICT", "CONSTRAINT", "CREATE", "CROSS",
    "CURRENT", "CURRENT_DATE", "CURRENT_TIME", "CURRENT_TIMESTAMP", "DATABASE", "DEFAULT",
    "DEFERRABLE", "DEFERRED", "DELETE", "DESC", "DETACH", "DISTINCT", "DO", "DROP", "EACH",
    "ELSE", "END", "ESCAPE", "EXCEPT", "EXCLUDE", "EXCLUSIVE", "EXISTS", "EXPLAIN", "FAIL",
    "FILTER", "FIRST", "FOLLOWING", "FOR", "FOREIGN", "FROM", "FULL", "GENERATED", "GLOB", "GROUP",
    "GROUPS", "HAVING", "IF", "IGNORE", "IMMEDIATE", "IN", "INDEX", "INDEXED", "INITIALLY",
    "INNER", "INSERT", "INSTEAD", "INTERSECT", "INTO", "IS", "ISNULL", "JOIN", "KEY", "LAST",
    "LEFT", "LIKE", "LIMIT", "MATCH", "MATERIALIZED", "NATURAL", "NO", "NOT", "NOTHING",
    "NOTNULL", "NULL", "NULLS", "OF", "OFFSET", "ON", "OR", "ORDER", "OTHERS", "OUTER", "OVER",
    "PARTITION", "PLAN", "PRAGMA", "PRECEDING", "PRIMARY", "QUERY", "RAISE", "RANGE",
    "RECURSIVE", "REFERENCES", "REGEXP", "REINDEX", "RELEASE", "RENAME", "REPLACE", "RESTRICT",
    "RETURNING", "RIGHT", "ROLLBACK", "ROW", "ROWS", "SAVEPOINT", "SELECT", "SET", "TABLE",
    "TEMP", "TEMPORARY", "THEN", "TIES", "TO", "TRANSACTION", "TRIGGER", "UNBOUNDED", "UNION",
    "UNIQUE", "UPDATE", "USING", "VACUUM", "VALUES", "VIEW", "VIRTUAL", "WHEN", "WHERE", "WINDOW",
    "WITH", "WITHOUT"]

inductive TokenKind where
  | name
  | string
  | integer
  | float
  | separated
  | blob
  | variable
  | keyword (word : String)
  | symbol (s : String)
  | illegal
  | stop
  deriving DecidableEq, Repr

structure Token where
  kind : TokenKind
  start : Nat
  text : String
  deriving Repr

def isIdChar (c : Char) : Bool :=
  c.isAlphanum || c == '_' || c == '$' || 0x80 ≤ c.toNat

def isBlank (c : Char) : Bool :=
  c == ' ' || c == '\t' || c == '\n' || c == '\x0c' || c == '\r'

def isHexDigit (c : Char) : Bool :=
  c.isDigit || ('a' ≤ c && c ≤ 'f') || ('A' ≤ c && c ≤ 'F')

def hexValue (c : Char) : Nat :=
  if c.isDigit then c.toNat - '0'.toNat
  else if 'a' ≤ c && c ≤ 'f' then c.toNat - 'a'.toNat + 10
  else c.toNat - 'A'.toNat + 10

def spanLength (p : Char → Bool) (cs : List Char) : Nat :=
  (cs.takeWhile p).length

/-- What the head of a text is: a token of some kind and length in characters, text to skip,
or the end. -/
inductive Lexeme where
  | token (kind : TokenKind) (length : Nat)
  | skip (length : Nat)
  | finish
  deriving Repr

/-- The length of a quoted body after its opening quote, closing quote included, a doubled quote
standing for one; none when the text ends first. -/
def quotedLength (close : Char) : List Char → Option Nat
  | [] => none
  | c :: rest =>
      if c == '\x00' then none
      else if c == close then
        match rest with
        | d :: more => if d == close then (quotedLength close more).map (· + 2) else some 1
        | [] => some 1
      else (quotedLength close rest).map (· + 1)

/-- The length of a block comment's body after its `/*`: through the first `*/` that begins at
its second character or later, or to the end of the text. -/
def commentLength (body : List Char) : Nat :=
  let rec go (n : Nat) : List Char → Nat
    | '*' :: '/' :: _ => n + 2
    | c :: rest => if c == '\x00' then n else go (n + 1) rest
    | [] => n
  match body with
  | c :: rest => if c == '\x00' then 0 else go 1 rest
  | [] => 0

def untilEnd (cs : List Char) : Nat :=
  spanLength (· != '\x00') cs

def digitRun (digit : Char → Bool) (cs : List Char) : Nat × Bool :=
  let n := spanLength (fun c => digit c || c == '_') cs
  (n, (cs.take n).contains '_')

/-- The number at the head of a text: its length and kind. A number run into name characters is
illegal through them. -/
def numberLexeme (cs : List Char) : Lexeme :=
  let hex := match cs with
    | '0' :: x :: h :: _ => (x == 'x' || x == 'X') && isHexDigit h
    | _ => false
  let (n, kind) :=
    if hex then
      let (k, sep) := digitRun isHexDigit (cs.drop 2)
      (2 + k, if sep then TokenKind.separated else .integer)
    else
      let (k, sep) := digitRun Char.isDigit cs
      let (k, sep, isFloat) := match cs.drop k with
        | '.' :: more =>
            let (f, s) := digitRun Char.isDigit more
            (k + 1 + f, sep || s, true)
        | _ => (k, sep, false)
      let (k, sep, isFloat) := match cs.drop k with
        | e :: more =>
            if e == 'e' || e == 'E' then
              match more with
              | d :: _ =>
                  if d.isDigit then
                    let (x, s) := digitRun Char.isDigit more
                    (k + 1 + x, sep || s, true)
                  else if d == '+' || d == '-' then
                    match more.drop 1 with
                    | d' :: _ =>
                        if d'.isDigit then
                          let (x, s) := digitRun Char.isDigit (more.drop 1)
                          (k + 2 + x, sep || s, true)
                        else (k, sep, isFloat)
                    | [] => (k, sep, isFloat)
                  else (k, sep, isFloat)
              | [] => (k, sep, isFloat)
            else (k, sep, isFloat)
        | [] => (k, sep, isFloat)
      (k, if sep then TokenKind.separated else if isFloat then .float else .integer)
  let tail := spanLength isIdChar (cs.drop n)
  if tail == 0 then .token kind n else .token .illegal (n + tail)

/-- The variable at the head of a text that starts with `:`, `@`, `#` or `$`: the sigil, then
name characters, `::` pairs, or a parenthesised suffix after at least one name character. -/
def namedVariableLexeme (rest : List Char) : Lexeme :=
  let rec go (n named : Nat) : List Char → Lexeme
    | c :: more =>
        if isIdChar c then go (n + 1) (named + 1) more
        else if c == '(' && 0 < named then
          let body := spanLength (fun d => d != '\x00' && !isBlank d && d != ')') more
          match more.drop body with
          | ')' :: _ => .token .variable (n + 2 + body)
          | _ => .token .illegal (n + 1 + body)
        else
          match c, more with
          | ':', ':' :: after => go (n + 2) named after
          | _, _ => if named == 0 then .token .illegal n else .token .variable n
    | [] => if named == 0 then .token .illegal n else .token .variable n
  go 1 0 rest

def symbolLexeme (s : String) : Lexeme :=
  .token (.symbol s) s.length

/-- Reads the head of a nonempty text. -/
def lexeme : List Char → Lexeme
  | [] => .finish
  | c :: rest =>
      if c == '\x00' then .finish
      else if isBlank c then .skip (1 + spanLength isBlank rest)
      else if c.isDigit || (c == '.' && (rest.head?.map Char.isDigit).getD false) then
        numberLexeme (c :: rest)
      else if c == '\'' || c == '"' || c == '`' then
        match quotedLength c rest with
        | some n => .token (if c == '\'' then .string else .name) (n + 1)
        | none => .token .illegal (1 + untilEnd rest)
      else if c == '[' then
        match rest.findIdx? (· == ']') with
        | some i =>
            if (rest.take i).contains '\x00' then .token .illegal (1 + untilEnd rest)
            else .token .name (i + 2)
        | none => .token .illegal (1 + untilEnd rest)
      else if (c == 'x' || c == 'X') && rest.head? == some '\'' then
        let digits := spanLength isHexDigit (rest.drop 1)
        match rest.drop (1 + digits) with
        | '\'' :: _ =>
            if digits % 2 == 0 then .token .blob (digits + 3) else .token .illegal (digits + 3)
        | more =>
            let upto := spanLength (fun d => d != '\x00' && d != '\'') more
            let closed := match more.drop upto with
              | '\'' :: _ => 1
              | _ => 0
            .token .illegal (2 + digits + upto + closed)
      else if isIdChar c && c != '$' then
        let n := 1 + spanLength isIdChar rest
        let word := String.ofList ((c :: rest).take n)
        if (word.toList.all fun d => d.isAlpha || d == '_') && keywords.contains word.toUpper then
          .token (.keyword word.toUpper) n
        else .token .name n
      else if c == '?' then .token .variable (1 + spanLength Char.isDigit rest)
      else if c == ':' || c == '@' || c == '#' || c == '$' then namedVariableLexeme rest
      else
        match c, rest with
        | '-', '-' :: more => .skip (2 + spanLength (fun d => d != '\n' && d != '\x00') more)
        | '-', '>' :: '>' :: _ => symbolLexeme "->>"
        | '-', '>' :: _ => symbolLexeme "->"
        | '/', '*' :: more => .skip (2 + commentLength more)
        | '=', '=' :: _ => .token (.symbol "=") 2
        | '<', '=' :: _ => symbolLexeme "<="
        | '<', '>' :: _ => .token (.symbol "!=") 2
        | '<', '<' :: _ => symbolLexeme "<<"
        | '>', '=' :: _ => symbolLexeme ">="
        | '>', '>' :: _ => symbolLexeme ">>"
        | '!', '=' :: _ => symbolLexeme "!="
        | '|', '|' :: _ => symbolLexeme "||"
        | _, _ =>
            if "-()/;+*%=<>,&|~.".toList.contains c then .token (.symbol (String.singleton c)) 1
            else .token .illegal 1

/-- The tokens of a text from a byte offset on, with the stop token last; reading ends after an
illegal token, whose report is all the reader needs. -/
def tokensFrom : Nat → Nat → List Char → List Token
  | 0, at_, _ => [⟨.stop, at_, ""⟩]
  | fuel + 1, at_, cs =>
      let bytes (n : Nat) : Nat := ((cs.take n).map Char.utf8Size).foldl (· + ·) 0
      match lexeme cs with
      | .finish => [⟨.stop, at_, ""⟩]
      | .skip n => tokensFrom fuel (at_ + bytes n) (cs.drop (max n 1))
      | .token kind n =>
          let t : Token := ⟨kind, at_, String.ofList (cs.take n)⟩
          if kind == .illegal then [t, ⟨.stop, at_ + bytes n, ""⟩]
          else t :: tokensFrom fuel (at_ + bytes n) (cs.drop (max n 1))

def tokenize (s : String) : Array Token :=
  (tokensFrom (s.length + 1) 0 s.toList).toArray

namespace Token

def isWord (t : Token) (w : String) : Bool :=
  t.kind == .keyword w

def isSymbol (t : Token) (s : String) : Bool :=
  t.kind == .symbol s

/-- The name a name or string token stands for: its text without the quotes, a doubled quote
read as one; a bracketed name is its text between the brackets. -/
def value (t : Token) : String :=
  match t.text.toList with
  | '[' :: rest => String.ofList (rest.take (rest.length - 1))
  | q :: rest =>
      if q == '"' || q == '\'' || q == '`' then
        let rec undouble : List Char → List Char
          | a :: b :: more => if a == q && b == q then q :: undouble more else a :: undouble (b :: more)
          | l => l
        String.ofList (undouble (rest.take (rest.length - 1)))
      else t.text
  | [] => t.text

def isDoubleQuoted (t : Token) : Bool :=
  t.text.front == '"'

end Token

def blobBytes (text : String) : List UInt8 :=
  let rec pairs : List Char → List UInt8
    | a :: b :: rest => UInt8.ofNat (hexValue a * 16 + hexValue b) :: pairs rest
    | _ => []
  pairs ((text.toList.drop 2).take (text.length - 3))

end Sql
end Store
end MemoryRecorder
