import MemoryRecorder.Store.Sql.Schema
import MemoryRecorder.Store.Sql.Printf
/-!
# Collations, patterns and built-in functions

The value-level half of evaluation:

* collations: BINARY compares the bytes of two texts, NOCASE folds ASCII letters first, RTRIM
  ignores trailing spaces; values of other kinds compare in the engine's order;
* comparisons under an affinity and a collation, unknown when either side is null;
* LIKE and GLOB: `%`/`*` match any run of characters, `_`/`?` any one; GLOB also has character
  classes `[...]` (`^` inverts, `a-z` spans, a leading `]` is a member) and compares case
  exactly, while LIKE folds ASCII letters and takes an optional escape character;
* the scalar functions and the running state of the aggregate functions.

`round(x, n)` writes the double with `n` places, as `printf("%!.nf")` does, and reads the text
back.
-/

namespace MemoryRecorder
namespace Store
namespace Sql

/-! ## Collations and comparisons -/

def foldAscii (s : String) : String :=
  s.map fun c => if c.toNat < 128 then c.toLower else c

def dropTrailingSpaces (s : String) : String :=
  String.ofList (s.toList.reverse.dropWhile (· == ' ')).reverse

def collateTexts (c : Collation) (a b : String) : Ordering :=
  let (x, y) := match c with
    | .binary => (a, b)
    | .nocase => (foldAscii a, foldAscii b)
    | .rtrim => (dropTrailingSpaces a, dropTrailingSpaces b)
  if x < y then .lt else if y < x then .gt else .eq

def compareWith (c : Collation) (a b : Value) : Ordering :=
  match a, b with
  | .text x, .text y => collateTexts c x y
  | _, _ => Value.compare a b

def compareFor (aff : Option Affinity) (c : Collation) (a b : Value) : Option Ordering :=
  match a, b with
  | .null, _ | _, .null => none
  | _, _ =>
      match aff with
      | some f =>
          if f.isNumeric then some (compareWith c a.forNumericCompare b.forNumericCompare)
          else if f = .text && (a.isText || b.isText) then
            some (compareWith c a.forTextCompare b.forTextCompare)
          else some (compareWith c a b)
      | none => some (compareWith c a b)

def CmpOp.holds (op : CmpOp) (o : Ordering) : Bool :=
  match op with
  | .eq | .is => o == .eq
  | .ne | .isNot => o != .eq
  | .lt => o == .lt
  | .le => o != .gt
  | .gt => o == .gt
  | .ge => o != .lt

/-- A comparison of two values: unknown with a null, except that `IS` and `IS NOT` take two
nulls as equal and a null as different from anything else. -/
def compareValues (op : CmpOp) (aff : Option Affinity) (c : Collation) (x y : Value) : Value :=
  match op with
  | .is | .isNot =>
      let same : Bool := match x, y with
        | .null, .null => true
        | .null, _ | _, .null => false
        | _, _ => compareFor aff c x y == some .eq
      Value.ofTruth (some (if op == .is then same else !same))
  | _ =>
      match compareFor aff c x y with
      | none => .null
      | some o => Value.ofTruth (some (op.holds o))

def andTruth : Option Bool → Option Bool → Option Bool
  | some false, _ | _, some false => some false
  | some true, some true => some true
  | _, _ => none

def orTruth : Option Bool → Option Bool → Option Bool
  | some true, _ | _, some true => some true
  | some false, some false => some false
  | _, _ => none

/-! ## Patterns -/

/-- How a pattern is read: its wildcards, whether it has character classes, its escape
character, and whether ASCII letters match in either case. -/
structure PatternStyle where
  many : Char
  one : Char
  classes : Bool
  escape : Option Char
  fold : Bool

def globStyle : PatternStyle := ⟨'*', '?', true, none, false⟩

def likeStyle (escape : Option Char) : PatternStyle := ⟨'%', '_', false, escape, true⟩

def PatternStyle.same (st : PatternStyle) (p c : Char) : Bool :=
  p == c || (st.fold && p.toNat < 128 && c.toNat < 128 && p.toLower == c.toLower)

/-- The members of a character class after its `[`, matched against a character: whether it is
a member, and how many pattern characters the class takes up to its `]`; none when the class
has no `]`. -/
def classScan (c : Char) : List Char → Option Char → Bool → Nat → Option (Bool × Nat)
  | [], _, _, _ => none
  | ']' :: _, _, seen, n => some (seen, n + 1)
  | '-' :: hi :: rest, some lo, seen, n =>
      if hi == ']' then classScan c (hi :: rest) (some '-') (seen || c == '-') (n + 1)
      else classScan c rest none (seen || (lo ≤ c && c ≤ hi)) (n + 2)
  | x :: rest, _, seen, n => classScan c rest (some x) (seen || c == x) (n + 1)

/-- A class after its `[`: an optional `^`, an optional leading `]` member, then the members.
Whether the character matches, and how many pattern characters the class takes. -/
def classMatch (c : Char) (p : List Char) : Option (Bool × Nat) :=
  let (invert, p, k) := match p with
    | '^' :: rest => (true, rest, 1)
    | _ => (false, p, 0)
  let (seen, p, k) := match p with
    | ']' :: rest => (c == ']', rest, k + 1)
    | _ => (false, p, k)
  (classScan c p (if k == 0 || (k == 1 && !invert) then none else none) seen 0).map
    fun (s, n) => (s != invert, n + k)

/-- Whether a text matches a pattern. -/
def patternMatch (st : PatternStyle) : List Char → List Char → Bool
  | [], s => s.isEmpty
  | c :: p, s =>
      if c == st.many then
        patternMatch st p s || (match s with
          | [] => false
          | _ :: s' => patternMatch st (c :: p) s')
      else if st.escape == some c then
        match p, s with
        | e :: p', x :: s' => st.same e x && patternMatch st p' s'
        | _, _ => false
      else if c == st.one then
        match s with
        | [] => false
        | _ :: s' => patternMatch st p s'
      else if st.classes && c == '[' then
        match s with
        | [] => false
        | x :: s' =>
            match classMatch x p with
            | some (true, k) => patternMatch st (p.drop k) s'
            | _ => false
      else
        match s with
        | [] => false
        | x :: s' => st.same c x && patternMatch st p s'
termination_by p s => p.length + s.length

def roundReal (r : Float) (places : Nat) : Float :=
  if r < -4503599627370496.0 || r > 4503599627370496.0 then r
  else if places = 0 then
    Float.ofInt (realToInt (if r < 0.0 then r - 0.5 else r + 0.5)).toInt
  else
    let written := renderReal .fixed 'e' { alternate2 := true, precision := some places } r
    (scanReal (written.getD "").toList).value

/-! ## Scalar functions -/

/-- What the engine knows of a connection while it evaluates: the last row id inserted and the
rows changed by the last statement and since the connection opened. -/
structure Session where
  lastRowid : Int64 := 0
  changes : Nat := 0
  totalChanges : Nat := 0
  deriving Inhabited

/-- How a function name and an argument count are understood. -/
inductive FnKind where
  | scalar
  | aggregate
  | wrongArgs
  | unknown
  deriving DecidableEq, Repr

/-- The scalar functions with the argument counts they take: least and most (none for any
number). -/
def scalarArities : List (String × Nat × Option Nat) :=
  [("abs", 1, some 1), ("changes", 0, some 0), ("char", 0, none), ("coalesce", 2, none),
    ("concat", 1, none), ("concat_ws", 2, none), ("format", 1, none), ("printf", 1, none),
    ("glob", 2, some 2), ("hex", 1, some 1), ("ifnull", 2, some 2), ("iif", 2, none),
    ("if", 2, none), ("instr", 2, some 2), ("last_insert_rowid", 0, some 0),
    ("length", 1, some 1), ("like", 2, some 3), ("likelihood", 2, some 2), ("likely", 1, some 1),
    ("lower", 1, some 1), ("ltrim", 1, some 2), ("max", 2, none), ("min", 2, none),
    ("nullif", 2, some 2), ("octet_length", 1, some 1), ("quote", 1, some 1),
    ("random", 0, some 0), ("randomblob", 1, some 1), ("replace", 3, some 3), ("round", 1, some 2),
    ("rtrim", 1, some 2), ("sign", 1, some 1), ("soundex", 1, some 1),
    ("sqlite_version", 0, some 0), ("substr", 2, some 3), ("substring", 2, some 3),
    ("total_changes", 0, some 0), ("trim", 1, some 2), ("typeof", 1, some 1),
    ("unhex", 1, some 2), ("unicode", 1, some 1), ("unlikely", 1, some 1), ("upper", 1, some 1),
    ("zeroblob", 1, some 1)]

def aggregateArities : List (String × Nat × Nat) :=
  [("avg", 1, 1), ("count", 0, 1), ("group_concat", 1, 2), ("max", 1, 1), ("min", 1, 1),
    ("sum", 1, 1), ("total", 1, 1), ("string_agg", 2, 2)]

def functionKind (name : String) (n : Nat) : FnKind :=
  let l := name.toLower
  let agg := aggregateArities.find? (·.1 == l)
  let sc := scalarArities.find? (·.1 == l)
  match agg with
  | some (_, lo, hi) =>
      if lo ≤ n && n ≤ hi then .aggregate
      else match sc with
        | some (_, lo, hi) => if lo ≤ n && (hi.map fun h => decide (n ≤ h)).getD true then .scalar else .wrongArgs
        | none => .wrongArgs
  | none =>
      match sc with
      | some (_, lo, hi) => if lo ≤ n && (hi.map fun h => decide (n ≤ h)).getD true then .scalar else .wrongArgs
      | none => .unknown

def valueBytes (v : Value) : List UInt8 :=
  match v with
  | .blob bs => bs
  | _ => (v.text?.getD "").toUTF8.toList

/-- The text of a value as text functions read it, up to its first NUL. -/
def valueText (v : Value) : String :=
  String.ofList ((v.text?.getD "").toList.takeWhile (· != '\x00'))

def hexDigitUpper (n : Nat) : Char :=
  if n < 10 then Char.ofNat ('0'.toNat + n) else Char.ofNat ('A'.toNat + n - 10)

def hexOfBytes (bs : List UInt8) : String :=
  String.ofList (bs.flatMap fun b => [hexDigitUpper (b.toNat / 16), hexDigitUpper (b.toNat % 16)])

def hexDigitValue? (c : Char) : Option Nat :=
  if c.isDigit then some (c.toNat - '0'.toNat)
  else if 'a' ≤ c && c ≤ 'f' then some (c.toNat - 'a'.toNat + 10)
  else if 'A' ≤ c && c ≤ 'F' then some (c.toNat - 'A'.toNat + 10)
  else none

/-- Hex digits read as bytes, skipping characters of `skip` between pairs; none when the text
is not such hex. -/
def bytesOfHex (skip : List Char) : List Char → Option (List UInt8)
  | [] => some []
  | a :: rest =>
      if skip.contains a then bytesOfHex skip rest
      else
        match rest with
        | b :: rest' =>
            match hexDigitValue? a, hexDigitValue? b with
            | some x, some y => (bytesOfHex skip rest').map (UInt8.ofNat (x * 16 + y) :: ·)
            | _, _ => none
        | [] => none

def quoteText (s : String) : String :=
  "'" ++ String.join (s.toList.map fun c => if c == '\'' then "''" else c.toString) ++ "'"

/-- The text `quote` writes for a double: fifteen significant digits when they read back as
the same double, else twenty places after the first digit with an exponent. -/
def quoteReal (r : Float) : String :=
  let short := (renderReal .general 'e'
    { alternate2 := true, zeroPad := true, precision := some 15 } r).getD ""
  if (scanReal short.toList).value == r then short
  else (renderReal .exponent 'e' { alternate2 := true, zeroPad := true, precision := some 20 } r).getD ""

def quoteValue : Value → String
  | .null => "NULL"
  | .int v => toString v.toInt
  | .real b => quoteReal (Float.ofBits b)
  | .text s => quoteText s
  | .blob bs => "X'" ++ hexOfBytes bs ++ "'"

def typeofValue : Value → String
  | .null => "null"
  | .int _ => "integer"
  | .real _ => "real"
  | .text _ => "text"
  | .blob _ => "blob"

def trimChars (set : List Char) (left right : Bool) (s : String) : String :=
  let cs := s.toList
  let cs := if left then cs.dropWhile set.contains else cs
  let cs := if right then (cs.reverse.dropWhile set.contains).reverse else cs
  String.ofList cs

def findFrom {α : Type} [BEq α] (needle : List α) : Nat → List α → Nat
  | _, [] => if needle.isEmpty then 1 else 0
  | i, h :: hs => if (h :: hs).take needle.length == needle then i else findFrom needle (i + 1) hs

def replaceAll (pat rep : List Char) : List Char → List Char
  | [] => []
  | c :: cs =>
      if !pat.isEmpty && (c :: cs).take pat.length == pat then
        rep ++ replaceAll pat rep (cs.drop (pat.length - 1))
      else c :: replaceAll pat rep cs
termination_by cs => cs.length

/-- `substr` on the characters (or bytes) of a value, with the engine's rules for a start at or
below zero and for a negative length. -/
def substrList {α : Type} (xs : List α) (start : Int) (len : Option Int) : List α :=
  let n : Int := xs.length
  let (p2, negP2) : Int × Bool := match len with
    | some l => if l < 0 then (-l, true) else (l, false)
    | none => (1000000000, false)
  let (p1, p2) : Int × Int :=
    if start < 0 then
      let p1 := start + n
      if p1 < 0 then (0, p2 + p1) else (p1, p2)
    else if 0 < start then (start - 1, p2)
    else if 0 < p2 then (0, p2 - 1)
    else (0, p2)
  let (p1, p2) : Int × Int :=
    if negP2 then
      let p1' := p1 - p2
      if p1' < 0 then (0, p2 + p1') else (p1', p2)
    else (p1, p2)
  let p2 := if p2 < 0 then 0 else p2
  (xs.drop p1.toNat).take p2.toNat

def soundexOf (s : String) : String :=
  let code (c : Char) : Nat :=
    match c.toUpper with
    | 'B' | 'F' | 'P' | 'V' => 1
    | 'C' | 'G' | 'J' | 'K' | 'Q' | 'S' | 'X' | 'Z' => 2
    | 'D' | 'T' => 3
    | 'L' => 4
    | 'M' | 'N' => 5
    | 'R' => 6
    | _ => 0
  match s.toList.dropWhile (fun c => !(c.toNat < 128 && c.isAlpha)) with
  | [] => "?000"
  | first :: rest =>
      let rec go : List Char → Nat → List Char → List Char
        | [], _, acc => acc
        | c :: cs, prev, acc =>
            if 4 ≤ acc.length then acc
            else
              let k := code c
              if 0 < k then
                if k != prev then go cs k (acc ++ [Char.ofNat ('0'.toNat + k)]) else go cs k acc
              else go cs 0 acc
      let out := go rest (code first) [first.toUpper]
      String.ofList (out ++ List.replicate (4 - out.length) '0')

/-- A scalar function on evaluated arguments; the error is a failure of the statement. Lazy
functions (`coalesce`, `ifnull`, `iif`) are evaluated by the caller. -/
def callScalar (ses : Session) (name : String) (args : List Value) : Except String Value :=
  let a0 := args.getD 0 .null
  let a1 := args.getD 1 .null
  let a2 := args.getD 2 .null
  let anyNull := args.any (· == .null)
  match name.toLower with
  | "abs" =>
      match a0 with
      | .int v =>
          if v == Int64.minValue then .error "integer overflow"
          else .ok (.int (if v < 0 then -v else v))
      | .null => .ok .null
      | v =>
          let r := v.realValue
          .ok (Value.ofFloat (if r < 0.0 then -r else r))
  | "typeof" => .ok (.text (typeofValue a0))
  | "length" =>
      match a0 with
      | .null => .ok .null
      | .blob bs => .ok (.int (Int64.ofNat bs.length))
      | .text _ => .ok (.int (Int64.ofNat (valueText a0).length))
      | v => .ok (.int (Int64.ofNat (v.text?.getD "").utf8ByteSize))
  | "octet_length" =>
      match a0 with
      | .null => .ok .null
      | v => .ok (.int (Int64.ofNat (valueBytes v).length))
  | "upper" =>
      match a0 with
      | .null => .ok .null
      | v => .ok (.text ((v.text?.getD "").map fun c => if c.toNat < 128 then c.toUpper else c))
  | "lower" =>
      match a0 with
      | .null => .ok .null
      | v => .ok (.text ((v.text?.getD "").map fun c => if c.toNat < 128 then c.toLower else c))
  | "hex" => .ok (.text (hexOfBytes (valueBytes a0)))
  | "unhex" =>
      if anyNull then .ok .null
      else
        let skip := if args.length == 2 then (a1.text?.getD "").toList else []
        match bytesOfHex skip (a0.text?.getD "").toList with
        | some bs => .ok (.blob bs)
        | none => .ok .null
  | "quote" => .ok (.text (quoteValue a0))
  | "nullif" => .ok (if compareWith .binary a0 a1 == .eq then .null else a0)
  | "likely" | "unlikely" | "likelihood" => .ok a0
  | "instr" =>
      if a0 == .null || a1 == .null then .ok .null
      else
        match a0, a1 with
        | .blob h, .blob n => .ok (.int (Int64.ofNat (findFrom n 1 h)))
        | _, _ => .ok (.int (Int64.ofNat (findFrom (a1.text?.getD "").toList 1
            (a0.text?.getD "").toList)))
  | "replace" =>
      match a0.text?, a1.text?, a2.text? with
      | none, _, _ => .ok .null
      | some _, none, _ => .ok .null
      | some s, some "", _ => .ok (.text s)
      | some _, some _, none => .ok .null
      | some s, some p, some r => .ok (.text (String.ofList (replaceAll p.toList r.toList s.toList)))
  | "trim" | "ltrim" | "rtrim" =>
      if anyNull then .ok .null
      else
        let set := if args.length == 2 then (a1.text?.getD "").toList else [' ']
        let l := name.toLower
        .ok (.text (trimChars set (l != "rtrim") (l != "ltrim") (a0.text?.getD "")))
  | "substr" | "substring" =>
      if a1 == .null || (args.length == 3 && a2 == .null) || a0 == .null then .ok .null
      else
        let start : Int := a1.int32Value
        let len : Option Int := if args.length == 3 then some a2.int32Value else none
        match a0 with
        | .blob [] => .ok .null
        | .blob bs => .ok (.blob (substrList bs start len))
        | v => .ok (.text (String.ofList (substrList (valueText v).toList start len)))
  | "char" =>
      .ok (.text (String.ofList (args.map fun v =>
        let x := v.intValue.toInt
        if x < 0 || x > 0x10ffff then Char.ofNat 0xfffd else Char.ofNat x.toNat)))
  | "unicode" =>
      match a0 with
      | .null => .ok .null
      | v =>
          match (v.text?.getD "").toList with
          | c :: _ => .ok (if c.toNat = 0 then .null else .int (Int64.ofNat c.toNat))
          | [] => .ok .null
  | "round" =>
      if a0 == .null || (args.length == 2 && a1 == .null) then .ok .null
      else
        let n : Int := if args.length == 2 then a1.int32Value else 0
        let n := if n > 30 then 30 else if n < 0 then 0 else n
        .ok (Value.ofFloat (roundReal a0.realValue n.toNat))
  | "sign" =>
      let signOf (r : Float) : Value := .int (if r < 0.0 then -1 else if r > 0.0 then 1 else 0)
      let numeric := match a0 with
        | .text _ => a0.withAffinity .numeric
        | v => v
      match numeric with
      | .int v => .ok (.int (if v < 0 then -1 else if v > 0 then 1 else 0))
      | .real b => .ok (signOf (Float.ofBits b))
      | _ => .ok .null
  | "zeroblob" =>
      let n := a0.intValue.toInt
      if n > 1000000000 then .error "string or blob too big"
      else .ok (.blob (List.replicate (if n < 0 then 0 else n.toNat) 0))
  | "randomblob" =>
      let n := a0.intValue.toInt
      .ok (.blob (List.replicate (if n < 1 then 1 else n.toNat) 0))
  | "random" => .ok (.int 0)
  | "concat" =>
      .ok (.text (String.join (args.map fun v => v.text?.getD "")))
  | "concat_ws" =>
      match a0.text? with
      | none => .ok .null
      | some sep =>
          .ok (.text (sep.intercalate
            (((args.drop 1).filterMap Value.text?).filter (!·.isEmpty))))
  | "max" | "min" =>
      if anyNull then .ok .null
      else
        let isMax := name.toLower == "max"
        let best := (args.drop 1).foldl (fun b v =>
          let o := compareWith .binary b v
          if isMax then (if o == .lt then v else b) else (if o != .lt then v else b)) a0
        .ok best
  | "glob" =>
      match a0.text?, a1.text? with
      | some p, some s => .ok (Value.ofTruth (some (patternMatch globStyle p.toList s.toList)))
      | _, _ => .ok .null
  | "like" =>
      match a0.text?, a1.text? with
      | some p, some s =>
          if args.length == 3 then
            match a2.text? with
            | none => .ok .null
            | some e =>
                match e.toList with
                | [c] => .ok (Value.ofTruth (some (patternMatch (likeStyle (some c)) p.toList s.toList)))
                | _ => .error "ESCAPE expression must be a single character"
          else .ok (Value.ofTruth (some (patternMatch (likeStyle none) p.toList s.toList)))
      | _, _ => .ok .null
  | "soundex" => .ok (.text (soundexOf (a0.text?.getD "")))
  | "last_insert_rowid" => .ok (.int ses.lastRowid)
  | "changes" => .ok (.int (Int64.ofNat ses.changes))
  | "total_changes" => .ok (.int (Int64.ofNat ses.totalChanges))
  | "sqlite_version" => .ok (.text "3.50.4")
  | "format" | "printf" => .ok (printfValue a0 (args.drop 1))
  | _ => .ok .null

/-! ## Aggregates -/

/-- The running state of `sum`, `total` and `avg`: the count of values, the integer sum while it
is exact, and the compensated double sum once a double or an overflow has been seen. -/
structure SumState where
  count : Nat := 0
  isum : Int64 := 0
  approx : Bool := false
  overflow : Bool := false
  rsum : Float := 0.0
  rerr : Float := 0.0

namespace SumState

def stepReal (s : SumState) (r : Float) : SumState :=
  let t := s.rsum + r
  let err := if s.rsum.abs > r.abs then (s.rsum - t) + r else (r - t) + s.rsum
  { s with rsum := t, rerr := s.rerr + err }

/-- Adds an integer to the double sum, in two parts when it is too large for a double. -/
def stepBig (s : SumState) (i : Int64) : SumState :=
  if i.toInt ≤ -4503599627370496 || i.toInt ≥ 4503599627370496 then
    let small := i.toInt.tmod 16384
    (s.stepReal (Float.ofInt (i.toInt - small))).stepReal (Float.ofInt small)
  else s.stepReal (Float.ofInt i.toInt)

def start (s : SumState) : SumState :=
  ({ s with approx := true, rsum := 0.0, rerr := 0.0 }).stepBig s.isum

def step (s : SumState) (v : Value) : SumState :=
  match v with
  | .null => s
  | _ =>
      let s := { s with count := s.count + 1 }
      let asInt : Option Int64 := match v.forNumericCompare with
        | .int i => some i
        | _ => none
      if !s.approx then
        match asInt with
        | some i =>
            let t := s.isum.toInt + i.toInt
            if SqlNum.fits t then { s with isum := Int64.ofInt t }
            else ({ s.start with overflow := true }).stepBig i
        | none => s.start.stepReal v.realValue
      else
        match asInt with
        | some i => s.stepBig i
        | none => { s with overflow := false }.stepReal v.realValue

def real (s : SumState) : Float :=
  if s.approx then
    if s.rerr.isFinite then s.rsum + s.rerr else s.rsum
  else Float.ofInt s.isum.toInt

def sumResult (s : SumState) : Except String Value :=
  if s.count = 0 then .ok .null
  else if s.approx then
    if s.overflow then .error "integer overflow" else .ok (Value.ofFloat s.real)
  else .ok (.int s.isum)

def totalResult (s : SumState) : Value :=
  Value.ofFloat s.real

def avgResult (s : SumState) : Value :=
  if s.count = 0 then .null else Value.ofFloat (s.real / Float.ofNat s.count)

end SumState

end Sql
end Store
end MemoryRecorder
