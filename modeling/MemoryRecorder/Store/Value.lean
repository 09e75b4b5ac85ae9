import MemoryRecorder.Store.Numeric
import MemoryRecorder.Text.Decimal
import MemoryRecorder.Store.Digits
/-!
# Values of the storage engine

A stored value is null, a signed 64-bit integer, a double, a text or a blob: the engine keeps
what a statement gives it, and the declared type of a column only nudges a value on its way in
(the column's affinity). This module holds the engine's rules for values:

* reading a text as a number (`scanReal`, `scanInt`): spaces around it, a sign, a fraction and
  an exponent are allowed, and the reading says whether the whole text was a number;
* affinities: an integer column turns a text that is wholly a number into that number and a
  whole double into an integer; a text column turns a number into its text;
* the text of a double: fifteen significant digits, trailing zeros dropped but one digit kept
  after the point, and an exponent below `1e-4` and from `1e15` on;
* the order of values (null, then numbers by exact value, then texts by their bytes, then
  blobs), and arithmetic, which stays with integers until a result leaves the word and is null
  after a division by zero.

A value other than a double is equal to itself in the engine's order (`compareBytes_self`,
`Value.compare_self_of_not_real`).
-/

namespace MemoryRecorder
namespace Store

/-- A value as the engine stores it. A double is kept by its bits. -/
inductive Value where
  | null
  | int (v : Int64)
  | real (bits : UInt64)
  | text (s : String)
  | blob (bytes : List UInt8)
  deriving DecidableEq, Repr

/-- How a column, or a cast, converts the values given to it. -/
inductive Affinity where
  | blob
  | text
  | numeric
  | integer
  | real
  deriving DecidableEq, Repr

def Affinity.isNumeric : Affinity → Bool
  | .numeric | .integer | .real => true
  | _ => false

def Affinity.ofTypeName (name : String) : Affinity :=
  let n := name.toUpper
  if (n.splitOn "INT").length > 1 then .integer
  else if (n.splitOn "CHAR").length > 1 || (n.splitOn "CLOB").length > 1 ||
      (n.splitOn "TEXT").length > 1 then .text
  else if (n.splitOn "BLOB").length > 1 || n.isEmpty then .blob
  else if (n.splitOn "REAL").length > 1 || (n.splitOn "FLOA").length > 1 ||
      (n.splitOn "DOUB").length > 1 then .real
  else .numeric

/-- The affinity a CAST converts to: that of its type name, except that a CAST with no type
name converts as NUMERIC does. -/
def Affinity.ofCastType (name : String) : Affinity :=
  if name.isEmpty then .numeric else Affinity.ofTypeName name

/-! ## Reading a text as a number -/

def isSpace (c : Char) : Bool :=
  c = ' ' || c = '\t' || c = '\n' || c = '\r' || c = '\x0b' || c = '\x0c'

def digitOf (c : Char) : Nat := c.toNat - '0'.toNat

def takeSign : List Char → Bool × List Char
  | '-' :: rest => (true, rest)
  | '+' :: rest => (false, rest)
  | cs => (false, cs)

def significandLimit : Nat := 1844674407370955160

/-- Reads the digits before the point into the significand `s`, with the decimal shift `d` and
the count `n` of digits kept. Once the significand reaches the limit, each further digit only
shifts the point. Returns them with the text after the digits. -/
def readWhole (s : Nat) (d : Int) (n : Nat) : List Char → Nat × Int × Nat × List Char
  | c :: cs =>
      if c.isDigit then
        let s' := s * 10 + digitOf c
        if significandLimit ≤ s' then
          let more := cs.takeWhile Char.isDigit
          (s', d + more.length, n + 1, cs.drop more.length)
        else readWhole s' d (n + 1) cs
      else (s, d, n, c :: cs)
  | [] => (s, d, n, [])

/-- Reads the digits after the point: each kept while the significand is below the limit, moving
the point one place; dropped after. -/
def readFraction (s : Nat) (d : Int) (n : Nat) : List Char → Nat × Int × Nat × List Char
  | c :: cs =>
      if c.isDigit then
        if s < significandLimit then readFraction (s * 10 + digitOf c) (d - 1) (n + 1) cs
        else readFraction s d n cs
      else (s, d, n, c :: cs)
  | [] => (s, d, n, [])

def readExponent (e : Nat) (seen : Bool) : List Char → Nat × Bool × List Char
  | c :: cs =>
      if c.isDigit then readExponent (if e < 10000 then e * 10 + digitOf c else 10000) true cs
      else (e, seen, c :: cs)
  | [] => (e, seen, [])

/-- How a text reads as a number. -/
inductive Reading where
  | none
  | leading
  | integer
  | real
  deriving DecidableEq, Repr

structure RealReading where
  reading : Reading
  value : Float

def scanExponent : List Char → Bool × Bool × Int × List Char
  | c :: more =>
      if c = 'e' || c = 'E' then
        match more with
        | [] => (true, false, 0, [])
        | _ =>
            let (negative, more) := takeSign more
            let (e, seen, rest) := readExponent 0 false more
            (true, seen, if negative then -(e : Int) else e, rest)
      else (false, true, 0, c :: more)
  | [] => (false, true, 0, [])

/-- Reads a text as a double, the way the engine converts texts: spaces, a sign, digits, a
fraction, an exponent, spaces. The value is that of the leading number even when other text
follows it; with no digits it is zero. -/
def scanReal (text : List Char) : RealReading :=
  match text.dropWhile isSpace with
  | [] => ⟨.none, 0.0⟩
  | cs =>
      let (negative, cs) := takeSign cs
      let (s, d, n, rest) := readWhole 0 0 0 cs
      let (point, s, d, n, rest) := match rest with
        | '.' :: more =>
            let (s, d, n, r) := readFraction s d n more
            (true, s, d, n, r)
        | _ => (false, s, d, n, rest)
      let (exponent, valid, e, rest) := scanExponent rest
      let rest := rest.dropWhile isSpace
      let kind : Nat := 1 + (if point then 1 else 0) + (if exponent then 1 else 0)
      let value := Text.ofScientific negative s (d + e)
      let reading : Reading :=
        if rest.isEmpty && 0 < n && valid then (if kind = 1 then .integer else .real)
        else if 2 ≤ kind && (kind = 3 || valid) && 0 < n then .leading
        else .none
      ⟨reading, value⟩

/-- How a text reads as a signed 64-bit integer. -/
inductive IntReading where
  | none
  | exact
  | trailing
  | tooLarge
  | limit
  deriving DecidableEq, Repr

def digitsValue (ds : List Char) : Nat :=
  ds.foldl (fun acc c => acc * 10 + digitOf c) 0

/-- Reads a text as a signed 64-bit integer, the way the engine converts texts: spaces, a sign,
decimal digits; anything else after the digits but spaces makes the reading `trailing`. -/
def scanInt (text : List Char) : IntReading × Int64 :=
  let (negative, cs) := takeSign (text.dropWhile isSpace)
  let zeros := cs.takeWhile (· = '0')
  let cs := cs.drop zeros.length
  let ds := cs.takeWhile Char.isDigit
  let rest := cs.drop ds.length
  let u := digitsValue ds
  let base : IntReading :=
    if zeros.isEmpty && ds.isEmpty then .none
    else if rest.any (fun c => !isSpace c) then .trailing
    else .exact
  let edge := Nat.pow 2 63
  if u < edge then (base, if negative then Int64.ofInt (-(u : Int)) else Int64.ofNat u)
  else if u = edge then
    if negative then (base, Int64.minValue) else (.limit, Int64.maxValue)
  else (.tooLarge, if negative then Int64.minValue else Int64.maxValue)

/-! ## Conversions -/

def realToInt (r : Float) : Int64 :=
  if r ≤ -9223372036854775808.0 then Int64.minValue
  else if r ≥ 9223372036854775808.0 then Int64.maxValue
  else r.toInt64

/-- Whether a double is zero or exactly an integer of at most 51 bits. -/
def realSameAsInt (r : Float) (i : Int64) : Bool :=
  r == 0.0 ||
    (r.toBits == (Float.ofInt i.toInt).toBits &&
      decide (-2251799813685248 ≤ i.toInt) && decide (i.toInt < 2251799813685248))

def bytesText (bs : List UInt8) : String :=
  match String.fromUTF8? (ByteArray.mk bs.toArray) with
  | some s => s
  | none => String.ofList (bs.map fun b => Char.ofNat b.toNat)

namespace Value

def ofFloat (f : Float) : Value := .real f.toBits

def typeName : Value → String
  | null => "Null"
  | int _ => "Integer"
  | real _ => "Real"
  | text _ => "Text"
  | blob _ => "Blob"

/-- A double kept as an integer when it is a whole number strictly inside the word. -/
def integral (r : Float) : Value :=
  let ix := realToInt r
  if r == Float.ofInt ix.toInt && ix != Int64.minValue && ix != Int64.maxValue then .int ix
  else ofFloat r

/-- A text as a number where one is preferred: a text that is wholly a number becomes it, as an
integer when it spells one exactly; with `preferInt` a whole double becomes an integer too. Any
other text stays. -/
def numericOfText (s : String) (preferInt : Bool) : Value :=
  let cs := s.toList
  let r := scanReal cs
  let asReal := if preferInt then integral r.value else ofFloat r.value
  match r.reading with
  | .none | .leading => .text s
  | .integer =>
      let ix := realToInt r.value
      if realSameAsInt r.value ix then .int ix
      else
        match scanInt cs with
        | (.exact, v) => .int v
        | _ => asReal
  | .real => asReal

def text? : Value → Option String
  | null => none
  | int v => some (toString v.toInt)
  | real b => some (realText (Float.ofBits b))
  | text s => some s
  | blob bs => some (bytesText bs)

def withAffinity : Affinity → Value → Value
  | .text, int v => text (toString v.toInt)
  | .text, real b => text (realText (Float.ofBits b))
  | .numeric, text s | .integer, text s | .real, text s => numericOfText s true
  | .numeric, real b | .integer, real b | .real, real b => integral (Float.ofBits b)
  | _, v => v

/-- The double a value stands for in arithmetic: a text or blob by its leading number, null
as zero. -/
def realValue : Value → Float
  | null => 0.0
  | int v => Float.ofInt v.toInt
  | real b => Float.ofBits b
  | text s => (scanReal s.toList).value
  | blob bs => (scanReal (bytesText bs).toList).value

/-- The integer a value stands for in integer arithmetic: a double truncated, a text or blob by
its leading integer, null as zero. -/
def intValue : Value → Int64
  | null => 0
  | int v => v
  | real b => realToInt (Float.ofBits b)
  | text s => (scanInt s.toList).2
  | blob bs => (scanInt (bytesText bs).toList).2

/-- The value as a 32-bit integer, as functions that take a small count read it: the low 32 bits
of its 64-bit integer, signed. -/
def int32Value (v : Value) : Int :=
  (Int32.ofInt v.intValue.toInt).toInt

def numOfChars (cs : List Char) : SqlNum :=
  let r := scanReal cs
  match r.reading, scanInt cs with
  | .none, (.none, v) | .none, (.exact, v) | .none, (.trailing, v) => .int v
  | .integer, (.exact, v) => .int v
  | _, _ => .real r.value

def num? : Value → Option SqlNum
  | null => none
  | int v => some (.int v)
  | real b => some (.real (Float.ofBits b))
  | text s => some (numOfChars s.toList)
  | blob bs => some (numOfChars (bytesText bs).toList)

/-- The truth of a value in a condition: null is unknown, a number is true unless zero, a text
by its leading number. -/
def truth? : Value → Option Bool
  | null => none
  | int v => some (v != 0)
  | v => some (v.realValue != 0.0)

def ofTruth : Option Bool → Value
  | some true => int 1
  | some false => int 0
  | none => null

def rank : Value → Nat
  | null => 0
  | int _ | real _ => 1
  | text _ => 2
  | blob _ => 3

end Value

def compareBytes : List UInt8 → List UInt8 → Ordering
  | [], [] => .eq
  | [], _ :: _ => .lt
  | _ :: _, [] => .gt
  | x :: xs, y :: ys => if x < y then .lt else if y < x then .gt else compareBytes xs ys

theorem compareBytes_self : ∀ xs : List UInt8, compareBytes xs xs = .eq
  | [] => rfl
  | x :: xs => by
      have h : ¬ x < x := UInt8.lt_irrefl x
      simp only [compareBytes, h, if_false]
      exact compareBytes_self xs

namespace Value

/-- The engine's order of values: null first, then numbers by exact value, then texts by their
bytes (the order of their characters), then blobs. -/
def compare (a b : Value) : Ordering :=
  match a, b with
  | text x, text y => if x < y then .lt else if y < x then .gt else .eq
  | blob x, blob y => compareBytes x y
  | int x, int y => SqlNum.compare (.int x) (.int y)
  | int x, real y => SqlNum.compare (.int x) (.real (Float.ofBits y))
  | real x, int y => SqlNum.compare (.real (Float.ofBits x)) (.int y)
  | real x, real y => SqlNum.compare (.real (Float.ofBits x)) (.real (Float.ofBits y))
  | a, b => Ord.compare a.rank b.rank

theorem compare_text_self (s : String) : compare (text s) (text s) = .eq := by
  simp [compare]

theorem compare_self_of_not_real (v : Value) (h : ∀ b, v ≠ real b) : compare v v = .eq := by
  cases v with
  | null => rfl
  | int x => simp [compare, SqlNum.compare]
  | real b => exact absurd rfl (h b)
  | text s => exact compare_text_self s
  | blob bs => exact compareBytes_self bs

def forNumericCompare : Value → Value
  | text s => numericOfText s false
  | v => v

def forTextCompare : Value → Value
  | int v => text (toString v.toInt)
  | real b => text (realText (Float.ofBits b))
  | v => v

def isText : Value → Bool
  | text _ => true
  | _ => false

/-- Compares two values under the affinity of a comparison; unknown when either is null. With
a numeric affinity texts that are numbers compare as numbers; with a text affinity, when either
side is a text, numbers compare as their texts. -/
def compareUnder (aff : Option Affinity) (a b : Value) : Option Ordering :=
  match a, b with
  | null, _ | _, null => none
  | _, _ =>
      match aff with
      | some f =>
          if f.isNumeric then some (compare a.forNumericCompare b.forNumericCompare)
          else if f = .text && (a.isText || b.isText) then
            some (compare a.forTextCompare b.forTextCompare)
          else some (compare a b)
      | none => some (compare a b)

def against (v : Value) (n : Int64) : Option Ordering :=
  compareUnder (some .integer) v (.int n)

def sameAs (v : Value) (n : Int64) : Bool :=
  v.against n == some .eq

def before (a b : Value) : Bool :=
  compare a b == .lt

end Value

/-- The affinity under which two operands compare: a numeric one if either has one and both
have one; else that of the one that has one; else none. Two texts or blobs compare as they
are. -/
def comparisonAffinity : Option Affinity → Option Affinity → Option Affinity
  | some x, some y => if x.isNumeric || y.isNumeric then some .numeric else some .blob
  | some x, none => some x
  | none, some y => some y
  | none, none => none

/-! ## Arithmetic -/

inductive ArithOp where
  | add
  | sub
  | mul
  | div
  | rem
  deriving DecidableEq, Repr

namespace Value

/-- Arithmetic on doubles: a division by zero or a result that is not a number is null; the
remainder is taken of the operands' integers. -/
def realArith (op : ArithOp) (a b : Value) : Value :=
  let x := a.realValue
  let y := b.realValue
  let result : Option Float := match op with
    | .add => some (x + y)
    | .sub => some (x - y)
    | .mul => some (x * y)
    | .div => if y == 0.0 then none else some (x / y)
    | .rem =>
        let i := a.intValue
        let j := b.intValue
        if j == 0 then none
        else some (Float.ofInt (i.toInt.tmod (if j == -1 then 1 else j.toInt)))
  match result with
  | some r => if r.isNaN then null else ofFloat r
  | none => null

/-- Arithmetic on two values: null if either is null; integers while both are and the result
fits the word; doubles otherwise. Division and remainder by zero are null. -/
def arith (op : ArithOp) (a b : Value) : Value :=
  match a.num?, b.num? with
  | some (.int x), some (.int y) =>
      let fits (n : Int) : Option Value := if SqlNum.fits n then some (int (Int64.ofInt n)) else none
      let exact : Option Value := match op with
        | .add => fits (x.toInt + y.toInt)
        | .sub => fits (x.toInt - y.toInt)
        | .mul => fits (x.toInt * y.toInt)
        | .div =>
            if y == 0 then some null
            else if y == -1 && x == Int64.minValue then none
            else some (int (Int64.ofInt (x.toInt.tdiv y.toInt)))
        | .rem =>
            if y == 0 then some null
            else some (int (Int64.ofInt (x.toInt.tmod (if y == -1 then 1 else y.toInt))))
      exact.getD (realArith op a b)
  | some _, some _ => realArith op a b
  | _, _ => null

def concat (a b : Value) : Value :=
  match a.text?, b.text? with
  | some x, some y => text (x ++ y)
  | _, _ => null

/-- A bitwise operator or shift on the integers of two values; null if either is null. A shift
by a negative amount shifts the other way, and one by 64 or more clears the word (or fills it
with the sign, shifting right). -/
def bitwise (op : String) (a b : Value) : Value :=
  match a, b with
  | null, _ | _, null => null
  | _, _ =>
      let x := a.intValue
      let y := b.intValue
      let shift (left : Bool) (n : Int) : Int64 :=
        let (left, n) := if n < 0 then (!left, if -64 < n then -n else 64) else (left, n)
        if n = 0 then x
        else if 64 ≤ n then (if 0 ≤ x.toInt || left then 0 else -1)
        else if left then Int64.ofInt (x.toInt * Int.pow 2 n.toNat)
        else Int64.ofInt (x.toInt / Int.pow 2 n.toNat)
      match op with
      | "&" => int (x &&& y)
      | "|" => int (x ||| y)
      | "<<" => int (shift true y.toInt)
      | _ => int (shift false y.toInt)

def complement : Value → Value
  | null => null
  | v => int (~~~v.intValue)

def cast (target : Affinity) (v : Value) : Value :=
  match v with
  | null => null
  | _ =>
      match target with
      | .blob =>
          match v with
          | blob bs => blob bs
          | _ => blob (v.text?.getD "").toUTF8.toList
      | .text => text (v.text?.getD "")
      | .integer => int v.intValue
      | .real => ofFloat v.realValue
      | .numeric =>
          match v with
          | int _ | real _ => v
          | _ =>
              let cs := (v.text?.getD "").toList
              let r := scanReal cs
              let (ir, ix) := scanInt cs
              let small := match ir with
                | .none | .exact | .trailing => true
                | _ => false
              if ((r.reading = .none || r.reading = .integer) && small) ||
                  realSameAsInt r.value (realToInt r.value) then
                int (if (r.reading = .none || r.reading = .integer) && small then ix
                  else realToInt r.value)
              else ofFloat r.value

end Value

end Store
end MemoryRecorder
