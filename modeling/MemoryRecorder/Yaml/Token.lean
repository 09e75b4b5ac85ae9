import MemoryRecorder.Yaml.Chars
/-!
# Tokens of a YAML document

The scanner cuts a document into tokens: indicators, scalars with their style, anchors, aliases
and tags, and the structure tokens that indentation implies (the start and end of block
collections). Every token carries the marks where it starts and ends.

Indentation is tracked as a stack of columns: a block collection opens when a line starts
further right than the current column, and closes (one block end each) when a later line starts
further left.

Whether a plain or quoted scalar is a mapping key is only known when a `:` follows it on the same
line. The scanner therefore remembers, per flow level, one *possible simple key*: the position
and queue number of a token that may turn out to be a key. A `:` turns it into a key token,
inserted before it in the queue, and hands out no token before the question is settled. A
possible key that reaches a new line without its `:` lapses; where the indentation demands a
key there, that is an error ("could not find expected ':'").

Errors are `SyntaxError`s naming a problem, its mark and, for most scanner errors, what the
scanner was doing when it met the problem and where that began.
-/

namespace MemoryRecorder
namespace Yaml

/-- A position in a document: characters from the start, line and column, all from zero. -/
structure Mark where
  index : Nat := 0
  line : Nat := 0
  column : Nat := 0
  deriving DecidableEq, Repr, Inhabited

namespace Mark

def atOrigin (m : Mark) : Bool :=
  m.line == 0 && m.column == 0

def describe (m : Mark) : String :=
  if m.atOrigin then "position " ++ toString m.index
  else "line " ++ toString (m.line + 1) ++ " column " ++ toString (m.column + 1)

end Mark

/-- A malformed document: the problem and where it was found, and optionally what was being
read and where that started. A problem found before scanning began has a byte offset instead
of a mark. -/
structure SyntaxError where
  problem : String
  mark : Mark := {}
  offset : Nat := 0
  context : Option (String × Mark) := none
  deriving DecidableEq, Repr

def SyntaxError.message (e : SyntaxError) : String :=
  let head :=
    if !e.mark.atOrigin then e.problem ++ " at " ++ e.mark.describe
    else if e.offset != 0 then e.problem ++ " at position " ++ toString e.offset
    else e.problem
  match e.context with
  | none => head
  | some (c, m) =>
      head ++ ", " ++ c ++
        (if !m.atOrigin && (m.line != e.mark.line || m.column != e.mark.column) then
          " at " ++ m.describe
         else "")

inductive Style where
  | plain | singleQuoted | doubleQuoted | literal | folded
  deriving DecidableEq, Repr

inductive TokenKind where
  | streamStart
  | streamEnd
  | versionDirective (major minor : Nat)
  | tagDirective (handle pfx : String)
  | documentStart
  | documentEnd
  | blockSequenceStart
  | blockMappingStart
  | blockEnd
  | flowSequenceStart
  | flowSequenceEnd
  | flowMappingStart
  | flowMappingEnd
  | blockEntry
  | flowEntry
  | key
  | value
  | aliasNode (name : String)
  | anchor (name : String)
  | tag (handle suffix : String)
  | scalar (text : String) (style : Style)
  deriving DecidableEq, Repr

structure Token where
  kind : TokenKind
  start : Mark
  stop : Mark
  deriving DecidableEq, Repr

/-- A position that may start a mapping key, pending the `:` that would make it one. -/
structure SimpleKey where
  possible : Bool := false
  /-- The indentation demands a key here: losing it is an error. -/
  required : Bool := false
  number : Nat := 0
  mark : Mark := {}
  deriving Repr

/-- The scanner between tokens. -/
structure Scanner where
  input : Array Char
  mark : Mark := {}
  queue : List Token := []
  taken : Nat := 0
  started : Bool := false
  ended : Bool := false
  indent : Int := -1
  indents : List Int := []
  keyAllowed : Bool := false
  /-- The possible simple key of each flow level, innermost first. -/
  keys : List SimpleKey := []
  flowLevel : Nat := 0
  deriving Repr

namespace Scanner

def peek (s : Scanner) (k : Nat) : Char :=
  s.input.getD (s.mark.index + k) '\x00'

def cur (s : Scanner) : Char :=
  s.peek 0

def fuel (s : Scanner) : Nat :=
  s.input.size - s.mark.index + 2

def skip (s : Scanner) : Scanner :=
  { s with mark := { index := s.mark.index + 1, line := s.mark.line, column := s.mark.column + 1 } }

/-- Moves past a line break; a carriage return and line feed count as one break. -/
def skipLine (s : Scanner) : Scanner :=
  if s.cur == '\r' && s.peek 1 == '\n' then
    { s with mark := { index := s.mark.index + 2, line := s.mark.line + 1, column := 0 } }
  else if isBreak s.cur then
    { s with mark := { index := s.mark.index + 1, line := s.mark.line + 1, column := 0 } }
  else s

/-- Moves past a line break and returns what it contributes to a scalar: a line feed, or the
line or paragraph separator itself. -/
def readLine (s : Scanner) : Scanner × String :=
  let c := s.cur
  if c.toNat == 0x2028 || c.toNat == 0x2029 then (s.skipLine, c.toString)
  else if isBreak c then (s.skipLine, "\n")
  else (s, "")

def takeWhile (p : Char → Bool) : Nat → Scanner → String → Scanner × String
  | 0, s, acc => (s, acc)
  | n + 1, s, acc =>
      if !isEnd s.cur && p s.cur then takeWhile p n s.skip (acc.push s.cur) else (s, acc)

def skipWhile (p : Char → Bool) (s : Scanner) : Scanner :=
  (takeWhile p s.fuel s "").1

def atDocumentMarker (s : Scanner) (c : Char) : Bool :=
  s.mark.column == 0 && s.peek 0 == c && s.peek 1 == c && s.peek 2 == c && isBlankZ (s.peek 3)

def enqueue (s : Scanner) (k : TokenKind) (start stop : Mark) : Scanner :=
  { s with queue := s.queue ++ [⟨k, start, stop⟩] }

def fail (s : Scanner) (context : Option (String × Mark)) (problem : String) : SyntaxError :=
  { problem := problem, mark := s.mark, context := context }

def removeKey (s : Scanner) : Except SyntaxError Scanner :=
  match s.keys with
  | k :: rest =>
      if k.possible && k.required then
        .error (s.fail (some ("while scanning a simple key", k.mark)) "could not find expected ':'")
      else .ok { s with keys := { k with possible := false } :: rest }
  | [] => .ok s

def saveKey (s : Scanner) : Except SyntaxError Scanner :=
  if s.keyAllowed then
    let k : SimpleKey :=
      { possible := true,
        required := s.flowLevel == 0 && s.indent == (s.mark.column : Int),
        number := s.taken + s.queue.length,
        mark := s.mark }
    match s.removeKey with
    | .ok s => .ok { s with keys := k :: s.keys.drop 1 }
    | .error e => .error e
  else .ok s

/-- Lapses the possible keys left on an earlier line or more than 1024 characters back. -/
def staleKeys (s : Scanner) : Except SyntaxError Scanner :=
  let stale (k : SimpleKey) : Bool :=
    k.possible && (k.mark.line < s.mark.line || k.mark.index + 1024 < s.mark.index)
  match s.keys.reverse.find? (fun k => stale k && k.required) with
  | some k =>
      .error (s.fail (some ("while scanning a simple key", k.mark)) "could not find expected ':'")
  | none =>
      .ok { s with keys := s.keys.map fun k => if stale k then { k with possible := false } else k }

/-- Opens a block collection when `column` lies right of the current indentation; the start
token goes at queue number `number`, or to the end. Flow collections ignore indentation. -/
def rollIndent (s : Scanner) (column : Int) (number : Option Nat) (k : TokenKind) (m : Mark) :
    Scanner :=
  if s.flowLevel == 0 && s.indent < column then
    let t : Token := ⟨k, m, m⟩
    { s with
      indents := s.indent :: s.indents,
      indent := column,
      queue := match number with
        | some n => s.queue.insertIdx (n - s.taken) t
        | none => s.queue ++ [t] }
  else s

/-- Closes every block collection indented right of `column`, one block end each. -/
def unrollIndent (s : Scanner) (column : Int) : Scanner :=
  if s.flowLevel == 0 then go s.indents.length s else s
where
  go : Nat → Scanner → Scanner
    | 0, s => s
    | n + 1, s =>
        if s.indent > column then
          match s.indents with
          | i :: rest => go n { (s.enqueue .blockEnd s.mark s.mark) with indent := i, indents := rest }
          | [] => s
        else s

/-- Skips blanks, comments and line breaks up to the next token. Tabs are skipped only inside
flow collections or where no simple key may start. -/
def toNextToken : Nat → Scanner → Scanner
  | 0, s => s
  | n + 1, s =>
      let s := if s.mark.column == 0 && s.cur.toNat == 0xFEFF then s.skip else s
      let s := s.skipWhile fun c => c == ' ' || ((s.flowLevel > 0 || !s.keyAllowed) && c == '\t')
      let s := if s.cur == '#' then s.skipWhile (fun c => !isBreak c) else s
      if isBreak s.cur then
        let s := s.skipLine
        toNextToken n (if s.flowLevel == 0 then { s with keyAllowed := true } else s)
      else s

def fetchStreamStart (s : Scanner) : Scanner :=
  { (s.enqueue .streamStart s.mark s.mark) with
    indent := -1, keys := [{}], keyAllowed := true, started := true }

def fetchStreamEnd (s : Scanner) : Except SyntaxError Scanner :=
  let s := if s.mark.column != 0 then
      { s with mark := { s.mark with column := 0, line := s.mark.line + 1 } }
    else s
  let s := s.unrollIndent (-1)
  match s.removeKey with
  | .error e => .error e
  | .ok s => .ok { (s.enqueue .streamEnd s.mark s.mark) with keyAllowed := false, ended := true }

def fetchDocumentIndicator (s : Scanner) (k : TokenKind) : Except SyntaxError Scanner := do
  let s := s.unrollIndent (-1)
  let s ← s.removeKey
  let start := s.mark
  let s := s.skip.skip.skip
  return { (s.enqueue k start s.mark) with keyAllowed := false }

def fetchFlowStart (s : Scanner) (k : TokenKind) : Except SyntaxError Scanner := do
  let s ← s.saveKey
  let s := { s with keys := {} :: s.keys, flowLevel := s.flowLevel + 1 }
  let start := s.mark
  let s := s.skip
  return { (s.enqueue k start s.mark) with keyAllowed := true }

def fetchFlowEnd (s : Scanner) (k : TokenKind) : Except SyntaxError Scanner := do
  let s ← s.removeKey
  let s := if s.flowLevel > 0 then { s with flowLevel := s.flowLevel - 1, keys := s.keys.drop 1 } else s
  let start := s.mark
  let s := s.skip
  return { (s.enqueue k start s.mark) with keyAllowed := false }

def fetchFlowEntry (s : Scanner) : Except SyntaxError Scanner := do
  let s ← s.removeKey
  let start := s.mark
  let s := s.skip
  return { (s.enqueue .flowEntry start s.mark) with keyAllowed := true }

def fetchBlockEntry (s : Scanner) : Except SyntaxError Scanner := do
  let s ←
    if s.flowLevel == 0 then
      if !s.keyAllowed then
        .error (s.fail none "block sequence entries are not allowed in this context")
      else .ok (s.rollIndent s.mark.column none .blockSequenceStart s.mark)
    else .ok s
  let s ← s.removeKey
  let start := s.mark
  let s := s.skip
  return { (s.enqueue .blockEntry start s.mark) with keyAllowed := true }

def fetchKey (s : Scanner) : Except SyntaxError Scanner := do
  let s ←
    if s.flowLevel == 0 then
      if !s.keyAllowed then .error (s.fail none "mapping keys are not allowed in this context")
      else .ok (s.rollIndent s.mark.column none .blockMappingStart s.mark)
    else .ok s
  let s ← s.removeKey
  let start := s.mark
  let s := s.skip
  return { (s.enqueue .key start s.mark) with keyAllowed := s.flowLevel == 0 }

/-- `:`: a mapping value. When a possible simple key is pending, it becomes a key token inserted
before it (and, in block context, opens a mapping at its column). -/
def fetchValue (s : Scanner) : Except SyntaxError Scanner := do
  let s ←
    match s.keys with
    | k :: rest =>
        if k.possible then
          let keyToken : Token := ⟨.key, k.mark, k.mark⟩
          let s := { s with queue := s.queue.insertIdx (k.number - s.taken) keyToken }
          let s := s.rollIndent k.mark.column (some k.number) .blockMappingStart k.mark
          .ok { s with keys := { k with possible := false } :: rest, keyAllowed := false }
        else if s.flowLevel == 0 then
          if !s.keyAllowed then .error (s.fail none "mapping values are not allowed in this context")
          else
            let s := s.rollIndent s.mark.column none .blockMappingStart s.mark
            .ok { s with keyAllowed := true }
        else .ok { s with keyAllowed := false }
    | [] => .ok s
  let start := s.mark
  let s := s.skip
  return s.enqueue .value start s.mark

def fetchAnchor (s : Scanner) (isAlias : Bool) : Except SyntaxError Scanner := do
  let s ← s.saveKey
  let s := { s with keyAllowed := false }
  let start := s.mark
  let (s, name) := takeWhile isWordChar s.fuel s.skip ""
  let ends := isBlankZ s.cur || "?:,]\x7d%@`".contains s.cur
  if name.isEmpty || !ends then
    .error (s.fail (some (if isAlias then "while scanning an alias" else "while scanning an anchor", start))
      "did not find expected alphabetic or numeric character")
  else
    return s.enqueue (if isAlias then .aliasNode name else .anchor name) start s.mark

def isUriChar (verbatim : Bool) (c : Char) : Bool :=
  isWordChar c || ";/?:@&=+$.%!~*'()".contains c || (verbatim && ",[]".contains c)

def scanTagHandle (s : Scanner) (context : String) (start : Mark) (directive : Bool) :
    Except SyntaxError (Scanner × String) :=
  if s.cur != '!' then .error (s.fail (some (context, start)) "did not find expected '!'")
  else
    let (s, word) := takeWhile isWordChar s.fuel s.skip "!"
    if s.cur == '!' then .ok (s.skip, word.push '!')
    else if directive && word != "!" then
      .error (s.fail (some ("while parsing a tag directive", start)) "did not find expected '!'")
    else .ok (s, word)

/-- The character of a UTF-8 sequence given its leading octet's payload, its trailing octets and
its width; a sequence that is too long for its value, or names a surrogate or no character at
all, stands for U+FFFD, so that it never equals a tag written out plainly. -/
def utf8Char (lead : Nat) (trailing : List Nat) (width : Nat) : Char :=
  let v := trailing.foldl (fun acc t => acc * 64 + t % 64) lead
  let least := if width == 1 then 0 else if width == 2 then 0x80 else if width == 3 then 0x800 else 0x10000
  if least ≤ v && v ≤ 0x10FFFF && !(0xD800 ≤ v && v ≤ 0xDFFF) then Char.ofNat v else '\uFFFD'

/-- One character of a tag written as URI escapes `%hh`: a leading octet, then as many trailing
octets as its UTF-8 form needs. -/
def scanUriEscape (s : Scanner) (context : String) (start : Mark) :
    Except SyntaxError (Scanner × Char) := do
  let octetAt (s : Scanner) : Except SyntaxError Nat :=
    if s.cur == '%' && isHexDigit (s.peek 1) && isHexDigit (s.peek 2) then
      .ok (hexValue (s.peek 1) * 16 + hexValue (s.peek 2))
    else .error (s.fail (some (context, start)) "did not find URI escaped octet")
  let lead ← octetAt s
  let (width, payload) :=
    if lead < 0x80 then (1, lead)
    else if lead / 32 == 6 then (2, lead % 32)
    else if lead / 16 == 14 then (3, lead % 16)
    else if lead / 8 == 30 then (4, lead % 8)
    else (0, 0)
  if width == 0 then throw (s.fail (some (context, start)) "found an incorrect leading UTF-8 octet")
  let next (sa : Scanner × List Nat) (_ : Nat) : Except SyntaxError (Scanner × List Nat) := do
    let o ← octetAt sa.1
    if o / 64 != 2 then
      throw (sa.1.fail (some (context, start)) "found an incorrect trailing UTF-8 octet")
    pure (sa.1.skip.skip.skip, sa.2 ++ [o])
  let (s, trailing) ← List.foldlM next (s.skip.skip.skip, []) (List.range (width - 1))
  pure (s, utf8Char payload trailing width)

def uriChars (verbatim : Bool) (context : String) (start : Mark) :
    Nat → Scanner → String → Except SyntaxError (Scanner × String)
  | 0, s, out => .ok (s, out)
  | n + 1, s, out =>
      if !isUriChar verbatim s.cur then .ok (s, out)
      else if s.cur == '%' then
        match scanUriEscape s context start with
        | .ok (s, c) => uriChars verbatim context start n s (out.push c)
        | .error e => .error e
      else uriChars verbatim context start n s.skip (out.push s.cur)

def scanTagUri (s : Scanner) (verbatim : Bool) (head : String) (context : String) (start : Mark) :
    Except SyntaxError (Scanner × String) := do
  let (s, uri) ← uriChars verbatim context start s.fuel s ""
  if head.length + uri.length == 0 then
    .error (s.fail (some (context, start)) "did not find expected tag URI")
  else .ok (s, (head.drop 1).toString ++ uri)

def fetchTag (s : Scanner) : Except SyntaxError Scanner := do
  let s ← s.saveKey
  let s := { s with keyAllowed := false }
  let start := s.mark
  let (s, handle, suffix) ←
    if s.peek 1 == '<' then do
      let (s, uri) ← scanTagUri s.skip.skip true "" "while parsing a tag" start
      if s.cur != '>' then
        throw (s.fail (some ("while scanning a tag", start)) "did not find the expected '>'")
      pure (s.skip, "", uri)
    else do
      let (s, h) ← scanTagHandle s "while scanning a tag" start false
      if h.length > 1 && h.startsWith "!" && h.endsWith "!" then
        let (s, uri) ← scanTagUri s false "" "while parsing a tag" start
        pure (s, h, uri)
      else
        let (s, uri) ← scanTagUri s false h "while parsing a tag" start
        if uri.isEmpty then pure (s, "", "!") else pure (s, "!", uri)
  if !isBlankZ s.cur && !(s.flowLevel > 0 && s.cur == ',') then
    throw (s.fail (some ("while scanning a tag", start)) "did not find expected whitespace or line break")
  return s.enqueue (.tag handle suffix) start s.mark

def scanVersionNumber (s : Scanner) (start : Mark) : Except SyntaxError (Scanner × Nat) :=
  let (s', ds) := takeWhile Char.isDigit s.fuel s ""
  if ds.length > 9 then
    .error ((s.skipWhile Char.isDigit).fail (some ("while scanning a %YAML directive", start))
      "found extremely long version number")
  else if ds.isEmpty then
    .error (s.fail (some ("while scanning a %YAML directive", start)) "did not find expected version number")
  else .ok (s', ds.foldl (fun n c => 10 * n + (c.toNat - '0'.toNat)) 0)

def fetchDirective (s : Scanner) : Except SyntaxError Scanner := do
  let s := s.unrollIndent (-1)
  let s ← s.removeKey
  let s := { s with keyAllowed := false }
  let start := s.mark
  let (s, name) := takeWhile isWordChar s.fuel s.skip ""
  if name.isEmpty then
    throw (s.fail (some ("while scanning a directive", start)) "could not find expected directive name")
  if !isBlankZ s.cur then
    throw (s.fail (some ("while scanning a directive", start)) "found unexpected non-alphabetical character")
  let (s, kind) ←
    if name == "YAML" then do
      let s := s.skipWhile isBlank
      let (s, major) ← scanVersionNumber s start
      if s.cur != '.' then
        throw (s.fail (some ("while scanning a %YAML directive", start))
          "did not find expected digit or '.' character")
      let (s, minor) ← scanVersionNumber s.skip start
      pure (s, TokenKind.versionDirective major minor)
    else if name == "TAG" then do
      let s := s.skipWhile isBlank
      let (s, handle) ← scanTagHandle s "while scanning a %TAG directive" start true
      if !isBlank s.cur then
        throw (s.fail (some ("while scanning a %TAG directive", start)) "did not find expected whitespace")
      let s := s.skipWhile isBlank
      let (s, pfx) ← scanTagUri s true "" "while parsing a %TAG directive" start
      if !isBlankZ s.cur then
        throw (s.fail (some ("while scanning a %TAG directive", start))
          "did not find expected whitespace or line break")
      pure (s, TokenKind.tagDirective handle pfx)
    else throw (s.fail (some ("while scanning a directive", start)) "found unknown directive name")
  let stop := s.mark
  let s := s.skipWhile isBlank
  let s := if s.cur == '#' then s.skipWhile (fun c => !isBreak c) else s
  if !isBreakZ s.cur then
    throw (s.fail (some ("while scanning a directive", start)) "did not find expected comment or line break")
  return (s.skipLine.enqueue kind start stop)

/-- The whitespace pending between two pieces of a scalar: blanks on the same line, or the
first line break and the breaks of the empty lines after it. -/
structure Folding where
  whitespace : String := ""
  leadingBreak : String := ""
  trailingBreaks : String := ""
  leadingBlanks : Bool := false
  deriving Repr

/-- Appends pending whitespace to a scalar: blanks as they are; a single line feed folds into a
space, and a line feed followed by empty lines into their line feeds. -/
def Folding.join (f : Folding) (out : String) : String :=
  if f.leadingBlanks then
    if f.leadingBreak.startsWith "\n" then
      if f.trailingBreaks.isEmpty then out ++ " " else out ++ f.trailingBreaks
    else out ++ f.leadingBreak ++ f.trailingBreaks
  else out ++ f.whitespace

/-- Reads blanks and breaks into the pending whitespace. Blanks after a break are indentation
and dropped; `tabCheck` reports a tab used as indentation left of a minimum column. -/
def scanBlanks (tabCheck : Scanner → Folding → Option SyntaxError) :
    Nat → Scanner → Folding → Except SyntaxError (Scanner × Folding)
  | 0, s, f => .ok (s, f)
  | n + 1, s, f =>
      let c := s.cur
      if isBlank c then
        match tabCheck s f with
        | some e => .error e
        | none =>
            if f.leadingBlanks then scanBlanks tabCheck n s.skip f
            else scanBlanks tabCheck n s.skip { f with whitespace := f.whitespace.push c }
      else if isBreak c then
        let (s, brk) := s.readLine
        if f.leadingBlanks then scanBlanks tabCheck n s { f with trailingBreaks := f.trailingBreaks ++ brk }
        else scanBlanks tabCheck n s { f with whitespace := "", leadingBreak := brk, leadingBlanks := true }
      else .ok (s, f)

/-- The characters of one stretch of a plain scalar, up to a blank or an indicator that ends
it; pending whitespace is joined in before the first character. -/
def plainWord (start : Mark) : Nat → Scanner → String → Folding → Mark →
    Except SyntaxError (Scanner × String × Folding × Mark)
  | 0, s, out, f, m => .ok (s, out, f, m)
  | n + 1, s, out, f, m =>
      let c := s.cur
      if isBlankZ c then .ok (s, out, f, m)
      else if s.flowLevel > 0 && c == ':' && ",?[]{}".contains (s.peek 1) then
        .error (s.fail (some ("while scanning a plain scalar", start)) "found unexpected ':'")
      else if (c == ':' && isBlankZ (s.peek 1)) || (s.flowLevel > 0 && ",[]{}".contains c) then
        .ok (s, out, f, m)
      else
        let (out, f) :=
          if f.leadingBlanks || !f.whitespace.isEmpty then (f.join out, ({} : Folding)) else (out, f)
        let s := s.skip
        plainWord start n s (out.push c) f s.mark

/-- The lines of a plain scalar: words separated by blanks, continued on following lines
indented right of the enclosing block, ended by a comment, a document marker or an
indicator. -/
def plainLines (start : Mark) (indent : Int) : Nat → Scanner → String → Folding → Mark →
    Except SyntaxError (Scanner × String × Folding × Mark)
  | 0, s, out, f, m => .ok (s, out, f, m)
  | n + 1, s, out, f, m =>
      if s.atDocumentMarker '-' || s.atDocumentMarker '.' || s.cur == '#' then .ok (s, out, f, m)
      else
        match plainWord start s.fuel s out f m with
        | .error e => .error e
        | .ok (s, out, f, m) =>
            if !(isBlank s.cur || isBreak s.cur) then .ok (s, out, f, m)
            else
              let tabCheck (s : Scanner) (f : Folding) : Option SyntaxError :=
                if f.leadingBlanks && (s.mark.column : Int) < indent && s.cur == '\t' then
                  some (s.fail (some ("while scanning a plain scalar", start))
                    "found a tab character that violates indentation")
                else none
              match scanBlanks tabCheck s.fuel s f with
              | .error e => .error e
              | .ok (s, f) =>
                  if s.flowLevel == 0 && (s.mark.column : Int) < indent then .ok (s, out, f, m)
                  else plainLines start indent n s out f m

def fetchPlainScalar (s : Scanner) : Except SyntaxError Scanner := do
  let s ← s.saveKey
  let s := { s with keyAllowed := false }
  let start := s.mark
  let (s, text, f, stop) ← plainLines start (s.indent + 1) s.fuel s "" {} start
  let s := s.enqueue (.scalar text .plain) start stop
  return if f.leadingBlanks then { s with keyAllowed := true } else s

def simpleEscape (c : Char) : Option String :=
  match c with
  | '0' => some "\x00"
  | 'a' => some "\x07"
  | 'b' => some "\x08"
  | 't' => some "\t"
  | '\t' => some "\t"
  | 'n' => some "\n"
  | 'v' => some "\x0b"
  | 'f' => some "\x0c"
  | 'r' => some "\r"
  | 'e' => some "\x1b"
  | ' ' => some " "
  | '"' => some "\""
  | '/' => some "/"
  | '\'' => some "'"
  | '\\' => some "\\"
  | 'N' => some "\u0085"
  | '_' => some " "
  | 'L' => some " "
  | 'P' => some " "
  | _ => none

/-- The characters of a quoted scalar up to a blank, its closing quote or an escaped line
break; the flag says the stretch ended at an escaped line break. -/
def quotedWord (single : Bool) (start : Mark) : Nat → Scanner → String →
    Except SyntaxError (Scanner × String × Bool)
  | 0, s, out => .ok (s, out, false)
  | n + 1, s, out =>
      let c := s.cur
      let quote := if single then '\'' else '"'
      if isBlankZ c then .ok (s, out, false)
      else if single && c == '\'' && s.peek 1 == '\'' then quotedWord single start n s.skip.skip (out.push '\'')
      else if c == quote then .ok (s, out, false)
      else if !single && c == '\\' && isBreak (s.peek 1) then .ok (s.skip.skipLine, out, true)
      else if !single && c == '\\' then
        let e := s.peek 1
        match simpleEscape e with
        | some t => quotedWord single start n s.skip.skip (out ++ t)
        | none =>
            let width := if e == 'x' then 2 else if e == 'u' then 4 else if e == 'U' then 8 else 0
            let ctx := some ("while parsing a quoted scalar", start)
            if width == 0 then .error (s.fail ctx "found unknown escape character")
            else
              let s := s.skip.skip
              let digits := (List.range width).map s.peek
              if !digits.all isHexDigit then .error (s.fail ctx "did not find expected hexadecimal number")
              else
                let v := digits.foldl (fun acc d => 16 * acc + hexValue d) 0
                if (0xD800 ≤ v && v ≤ 0xDFFF) || v > 0x10FFFF then
                  .error (s.fail ctx "found invalid Unicode character escape code")
                else
                  let s := (List.range width).foldl (fun s _ => s.skip) s
                  quotedWord single start n s (out.push (Char.ofNat v))
      else quotedWord single start n s.skip (out.push c)

def quotedBody (single : Bool) (start : Mark) : Nat → Scanner → String →
    Except SyntaxError (Scanner × String)
  | 0, s, out => .ok (s, out)
  | n + 1, s, out =>
      let ctx := some ("while scanning a quoted scalar", start)
      if s.atDocumentMarker '-' || s.atDocumentMarker '.' then
        .error (s.fail ctx "found unexpected document indicator")
      else if isEnd s.cur then .error (s.fail ctx "found unexpected end of stream")
      else
        match quotedWord single start s.fuel s out with
        | .error e => .error e
        | .ok (s, out, escapedBreak) =>
            if s.cur == (if single then '\'' else '"') then .ok (s, out)
            else
              match scanBlanks (fun _ _ => none) s.fuel s { leadingBlanks := escapedBreak } with
              | .error e => .error e
              | .ok (s, f) => quotedBody single start n s (f.join out)

def fetchFlowScalar (s : Scanner) (single : Bool) : Except SyntaxError Scanner := do
  let s ← s.saveKey
  let s := { s with keyAllowed := false }
  let start := s.mark
  let (s, text) ← quotedBody single start s.fuel s.skip ""
  let s := s.skip
  return s.enqueue (.scalar text (if single then .singleQuoted else .doubleQuoted)) start s.mark

/-- Indentation spaces and empty lines before a line of a block scalar; settles the content
indentation when it was not given. -/
def blockBreaks (start : Mark) (parentIndent : Int) : Nat → Scanner → Nat → Nat → String → Mark →
    Except SyntaxError (Scanner × Nat × String × Mark)
  | 0, s, indent, _, breaks, m => .ok (s, indent, breaks, m)
  | n + 1, s, indent, maxIndent, breaks, m =>
      let s := skipSpaces (fun s => (indent == 0 || s.mark.column < indent) && s.cur == ' ') s.fuel s
      let maxIndent := max maxIndent s.mark.column
      if (indent == 0 || s.mark.column < indent) && s.cur == '\t' then
        .error (s.fail (some ("while scanning a block scalar", start))
          "found a tab character where an indentation space is expected")
      else if isBreak s.cur then
        let (s, brk) := s.readLine
        blockBreaks start parentIndent n s indent maxIndent (breaks ++ brk) s.mark
      else
        let indent :=
          if indent == 0 then max (max maxIndent (parentIndent + 1).toNat) 1 else indent
        .ok (s, indent, breaks, m)
where
  skipSpaces (p : Scanner → Bool) : Nat → Scanner → Scanner
    | 0, s => s
    | k + 1, s => if p s then skipSpaces p k s.skip else s

/-- The lines of a block scalar at its content indentation. A folded scalar joins a line break
between two lines that start with no blank into a space. -/
def blockLines (start : Mark) (literal : Bool) (parentIndent : Int) (indent : Nat) :
    Nat → Scanner → String → String → String → Bool → Mark →
    Except SyntaxError (Scanner × String × String × String × Mark)
  | 0, s, out, leadingBreak, trailing, _, m => .ok (s, out, leadingBreak, trailing, m)
  | n + 1, s, out, leadingBreak, trailing, leadingBlank, m =>
      if s.mark.column == indent && !isEnd s.cur then
        let trailingBlank := isBlank s.cur
        let out :=
          if !literal && leadingBreak.startsWith "\n" && !leadingBlank && !trailingBlank then
            if trailing.isEmpty then out.push ' ' else out
          else out ++ leadingBreak
        let out := out ++ trailing
        let leadingBlank := isBlank s.cur
        let (s, line) := takeWhile (fun c => !isBreak c) s.fuel s ""
        let (s, brk) := s.readLine
        match blockBreaks start parentIndent s.fuel s indent 0 "" s.mark with
        | .error e => .error e
        | .ok (s, _, trailing, m) =>
            blockLines start literal parentIndent indent n s (out ++ line) brk trailing leadingBlank m
      else .ok (s, out, leadingBreak, trailing, m)

def fetchBlockScalar (s : Scanner) (literal : Bool) : Except SyntaxError Scanner := do
  let s ← s.removeKey
  let s := { s with keyAllowed := true }
  let start := s.mark
  let s := s.skip
  let ctx := some ("while scanning a block scalar", start)
  let chompOf (c : Char) : Int := if c == '+' then 1 else -1
  let (s, chomp, increment) ←
    if s.cur == '+' || s.cur == '-' then do
      let chomp := chompOf s.cur
      let s := s.skip
      if s.cur.isDigit then
        if s.cur == '0' then throw (s.fail ctx "found an indentation indicator equal to 0")
        pure (s.skip, chomp, s.cur.toNat - '0'.toNat)
      else pure (s, chomp, 0)
    else if s.cur.isDigit then do
      if s.cur == '0' then throw (s.fail ctx "found an indentation indicator equal to 0")
      let increment := s.cur.toNat - '0'.toNat
      let s := s.skip
      if s.cur == '+' || s.cur == '-' then pure (s.skip, chompOf s.cur, increment)
      else pure (s, (0 : Int), increment)
    else pure (s, (0 : Int), 0)
  let s := s.skipWhile isBlank
  let s := if s.cur == '#' then s.skipWhile (fun c => !isBreak c) else s
  if !isBreakZ s.cur then throw (s.fail ctx "did not find expected comment or line break")
  let s := s.skipLine
  let indent : Nat :=
    if increment == 0 then 0
    else if s.indent ≥ 0 then (s.indent + increment).toNat else increment
  let (s, indent, trailing, stop) ← blockBreaks start s.indent s.fuel s indent 0 "" s.mark
  let (s, out, leadingBreak, trailing, stop) ←
    blockLines start literal s.indent indent s.fuel s "" "" trailing false stop
  let out := if chomp != -1 then out ++ leadingBreak else out
  let out := if chomp == 1 then out ++ trailing else out
  return s.enqueue (.scalar out (if literal then .literal else .folded)) start stop

def startsPlain (s : Scanner) : Bool :=
  let c := s.cur
  !(isBlankZ c || "-?:,[]\x7b\x7d#&*!|>'\"%@`".contains c) ||
    (c == '-' && !isBlank (s.peek 1)) ||
    (s.flowLevel == 0 && (c == '?' || c == ':') && !isBlankZ (s.peek 1))

/-- Scans the next token (or, at a `:`, the key token before it too) into the queue. -/
def fetchNext (s : Scanner) : Except SyntaxError Scanner := do
  if !s.started then return s.fetchStreamStart
  let s := toNextToken s.fuel s
  let s ← s.staleKeys
  let s := s.unrollIndent s.mark.column
  let c := s.cur
  let flow := s.flowLevel > 0
  if isEnd c then s.fetchStreamEnd
  else if s.mark.column == 0 && c == '%' then s.fetchDirective
  else if s.atDocumentMarker '-' then s.fetchDocumentIndicator .documentStart
  else if s.atDocumentMarker '.' then s.fetchDocumentIndicator .documentEnd
  else if c == '[' then s.fetchFlowStart .flowSequenceStart
  else if c == '{' then s.fetchFlowStart .flowMappingStart
  else if c == ']' then s.fetchFlowEnd .flowSequenceEnd
  else if c == '}' then s.fetchFlowEnd .flowMappingEnd
  else if c == ',' then s.fetchFlowEntry
  else if c == '-' && isBlankZ (s.peek 1) then s.fetchBlockEntry
  else if c == '?' && (flow || isBlankZ (s.peek 1)) then s.fetchKey
  else if c == ':' && (flow || isBlankZ (s.peek 1)) then s.fetchValue
  else if c == '*' then s.fetchAnchor true
  else if c == '&' then s.fetchAnchor false
  else if c == '!' then s.fetchTag
  else if c == '|' && !flow then s.fetchBlockScalar true
  else if c == '>' && !flow then s.fetchBlockScalar false
  else if c == '\'' then s.fetchFlowScalar true
  else if c == '"' then s.fetchFlowScalar false
  else if s.startsPlain then s.fetchPlainScalar
  else throw (s.fail (some ("while scanning for the next token", s.mark))
    "found character that cannot start any token")

/-- Whether the head of the queue may still change: the queue is empty, or a pending simple
key would insert its key token at the head. -/
def unsettled (s : Scanner) : Bool :=
  s.queue.isEmpty || s.keys.any fun k => k.possible && k.number == s.taken

def settle : Nat → Scanner → Except SyntaxError Scanner
  | 0, s => .ok s
  | n + 1, s =>
      if s.ended && s.queue.isEmpty then .ok s
      else if s.queue.isEmpty then
        match s.fetchNext with
        | .ok s => settle n s
        | .error e => .error e
      else
        match s.staleKeys with
        | .error e => .error e
        | .ok s => if s.unsettled && !s.ended then
            match s.fetchNext with
            | .ok s => settle n s
            | .error e => .error e
          else .ok s

def peekToken (s : Scanner) : Except SyntaxError (Option Token × Scanner) :=
  match settle (2 * s.fuel + 8) s with
  | .ok s => .ok (s.queue.head?, s)
  | .error e => .error e

def dropToken (s : Scanner) : Scanner :=
  match s.queue with
  | _ :: rest => { s with queue := rest, taken := s.taken + 1 }
  | [] => s

def ofString (text : String) : Scanner :=
  { input := text.toList.toArray }

end Scanner

end Yaml
end MemoryRecorder
