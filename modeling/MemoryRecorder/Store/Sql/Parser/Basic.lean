import MemoryRecorder.Store.Sql.Token
import MemoryRecorder.Store.Sql.Ast
/-!
# Reading statements: the reader and its tokens

A statement is read by recursive descent over its tokens. The reader keeps its position in the
token array as state and fails with the engine's report at the first token that cannot continue
the statement read so far:

* `near "X": syntax error` at an unexpected token, pointing at its offset;
* `incomplete input` when the text ends first;
* `unrecognized token: "X"` at an illegal token, pointing at its offset.

Many reserved words also serve as names where the grammar has no use for them as words (`KEY`,
`REPLACE`, `LIKE`, …); the join words (`LEFT`, `CROSS`, …) serve as names of tables and columns
but not as aliases. The tests below say which tokens a place that takes a name accepts.
-/

namespace MemoryRecorder
namespace Store
namespace Sql

/-- The tokens of a statement text with the text's bytes, which spans of the text are cut from. -/
structure Reading where
  toks : Array Token
  bytes : ByteArray

/-- A reader: its state is the position in the token array. -/
abbrev Parse := StateT Nat (Except SqlError)

namespace Token

def finish (t : Token) : Nat :=
  t.start + t.text.utf8ByteSize

end Token

namespace Reading

def ofText (s : String) : Reading :=
  ⟨tokenize s, s.toUTF8⟩

def tokenAt (r : Reading) (i : Nat) : Token :=
  r.toks.getD i (r.toks.back?.getD ⟨.stop, r.bytes.size, ""⟩)

def span (r : Reading) (a b : Nat) : String :=
  (String.fromUTF8? (r.bytes.extract a b)).getD ""

end Reading

def isTrimSpace (c : Char) : Bool :=
  c == ' ' || c == '\t' || c == '\n' || c == '\x0b' || c == '\x0c' || c == '\r'

def trimSpaces (s : String) : String :=
  String.ofList (((s.toList.dropWhile isTrimSpace).reverse.dropWhile isTrimSpace).reverse)

def syntaxError (t : Token) : SqlError :=
  match t.kind with
  | .stop => .plain "incomplete input"
  | .illegal => .at_ ("unrecognized token: \"" ++ t.text ++ "\"") t.start
  | _ => .at_ ("near \"" ++ t.text ++ "\": syntax error") t.start

/-- Reserved words that serve as names where no rule uses them as words. -/
def fallbackWords : List String :=
  ["ABORT", "ACTION", "AFTER", "ANALYZE", "ASC", "ATTACH", "BEFORE", "BEGIN", "BY", "CASCADE",
    "CAST", "COLUMN", "CONFLICT", "DATABASE", "DEFERRED", "DESC", "DETACH", "DO", "EACH", "END",
    "EXCLUSIVE", "EXPLAIN", "FAIL", "FOR", "IGNORE", "IMMEDIATE", "INITIALLY", "INSTEAD", "LIKE",
    "GLOB", "REGEXP", "MATCH", "NO", "PLAN", "QUERY", "KEY", "OF", "OFFSET", "PRAGMA", "RAISE",
    "RECURSIVE", "RELEASE", "REPLACE", "RESTRICT", "ROW", "ROWS", "ROLLBACK", "SAVEPOINT", "TEMP",
    "TEMPORARY", "TRIGGER", "VACUUM", "VIEW", "VIRTUAL", "WITH", "WITHOUT", "NULLS", "FIRST",
    "LAST", "CURRENT", "FOLLOWING", "PARTITION", "PRECEDING", "RANGE", "UNBOUNDED", "EXCLUDE",
    "GROUPS", "OTHERS", "TIES", "GENERATED", "ALWAYS", "MATERIALIZED", "REINDEX", "RENAME",
    "CURRENT_DATE", "CURRENT_TIME", "CURRENT_TIMESTAMP", "IF", "WINDOW", "OVER", "FILTER"]

def joinWords : List String :=
  ["CROSS", "FULL", "INNER", "LEFT", "NATURAL", "OUTER", "RIGHT"]

def likeWords : List String :=
  ["LIKE", "GLOB", "REGEXP"]

def timeWords : List String :=
  ["CURRENT_DATE", "CURRENT_TIME", "CURRENT_TIMESTAMP"]

namespace Token

/-- Whether the token is a reserved word that falls back to a name. -/
def fallsBack (t : Token) : Bool :=
  match t.kind with
  | .keyword w => fallbackWords.contains w
  | _ => false

def isJoinWord (t : Token) : Bool :=
  match t.kind with
  | .keyword w => joinWords.contains w
  | _ => false

def isId (t : Token) : Bool :=
  t.kind == .name || t.isWord "INDEXED" || t.fallsBack

def isIds (t : Token) : Bool :=
  t.kind == .name || t.kind == .string || t.fallsBack

def isIdj (t : Token) : Bool :=
  t.isId || t.isJoinWord

/-- A name of a table, column or other object: an identifier, a join word, or a string. -/
def isNm (t : Token) : Bool :=
  t.isIdj || t.kind == .string

def startsQuery (t : Token) : Bool :=
  t.isWord "SELECT" || t.isWord "VALUES" || t.isWord "WITH"

end Token

section Reader

variable (r : Reading)

def peek : Parse Token := do
  return r.tokenAt (← get)

def peekNext : Parse Token := do
  return r.tokenAt ((← get) + 1)

def peekAfterNext : Parse Token := do
  return r.tokenAt ((← get) + 2)

def bump : Parse Token := do
  let i ← get
  set (i + 1)
  return r.tokenAt i

def previous : Parse Token := do
  return r.tokenAt ((← get) - 1)

def failAt {α : Type} (t : Token) : Parse α :=
  throw (syntaxError t)

def failHere {α : Type} : Parse α := do
  failAt (← peek r)

def expectSymbol (s : String) : Parse Token := do
  let t ← peek r
  if t.isSymbol s then bump r else failAt t

def expectWord (w : String) : Parse Token := do
  let t ← peek r
  if t.isWord w then bump r else failAt t

def acceptSymbol (s : String) : Parse Bool := do
  if (← peek r).isSymbol s then
    let _ ← bump r
    return true
  else return false

def acceptWord (w : String) : Parse Bool := do
  if (← peek r).isWord w then
    let _ ← bump r
    return true
  else return false

def expectToken (test : Token → Bool) : Parse Token := do
  let t ← peek r
  if test t then bump r else failAt t

def name : Parse String := do
  return (← expectToken r Token.isNm).value

def qualifiedName : Parse (Option String × String × Token) := do
  let first ← expectToken r Token.isNm
  if (← peek r).isSymbol "." then
    let _ ← bump r
    let second ← expectToken r Token.isNm
    return (some first.value, second.value, second)
  else return (none, first.value, first)

def nameListRest : Nat → Parse (List String)
  | 0 => failHere r
  | fuel + 1 => do
      let n ← name r
      if ← acceptSymbol r "," then return n :: (← nameListRest fuel)
      else
        let _ ← expectSymbol r ")"
        return [n]

def nameList : Parse (List String) := do
  let _ ← expectSymbol r "("
  nameListRest r (r.toks.size + 1)

end Reader

/-- A number written with digit separators, as a literal: each `_` must stand between two digits
(hex digits after `0x`); the number is then read without them. -/
def separatedNumber (t : Token) : Except SqlError Expr :=
  let cs := t.text.toList
  let hex := match cs with
    | '0' :: x :: _ => x == 'x' || x == 'X'
    | _ => false
  let digit (c : Char) : Bool := if hex then isHexDigit c else c.isDigit
  let rec valid : List Char → List Char → Bool
    | before, '_' :: rest =>
        (match before.head?, rest.head? with
          | some b, some a => digit b && digit a
          | _, _ => false) && valid ('_' :: before) rest
    | before, c :: rest => valid (c :: before) rest
    | _, [] => true
  if valid [] cs then
    let clean := String.ofList (cs.filter (· != '_'))
    if !hex && clean.toList.any (fun c => c == '.' || c == 'e' || c == 'E') then .ok (.real clean)
    else .ok (.integer clean t.start)
  else .error (.plain ("unrecognized token: \"" ++ t.text ++ "\""))

end Sql
end Store
end MemoryRecorder
