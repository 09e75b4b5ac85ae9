import MemoryRecorder.Config.Basic
import MemoryRecorder.Text.Decimal
import MemoryRecorder.Text.Numeral
/-!
# Plain scalars of YAML documents

An unquoted scalar of a YAML document is read by what it looks like: `~`, `null` (in three
spellings) and the empty scalar are null; `true` and `false` (in three spellings each) are
booleans; integers are decimal or, after `0x`, `0o` or `0b`, in another radix, with an optional
sign; and a finite decimal float is a float. Anything else is a string, and so is a run of digits
with a leading zero, such as `007`. Quoted scalars are always strings. A tag of the core schema
(`!!bool`, `!!int`, `!!float`, `!!null`) reads a scalar, quoted or not, as its type instead.

Writing a string, the same rules decide whether it needs quotes: a string that would read back as
something else is quoted.
-/

namespace MemoryRecorder
namespace Yaml

/-- A run of digits with a leading zero, after an optional sign: a string, not a number. -/
def digitsButNotNumber (s : String) : Bool :=
  let cs := match s.toList with
    | '-' :: rest => rest
    | '+' :: rest => rest
    | cs => cs
  match cs with
  | '0' :: d :: rest => (d :: rest).all Char.isDigit
  | _ => false

def isNull (s : String) : Bool :=
  s == "~" || s == "null" || s == "Null" || s == "NULL"

def boolOf? (s : String) : Option Bool :=
  if s == "true" || s == "True" || s == "TRUE" then some true
  else if s == "false" || s == "False" || s == "FALSE" then some false
  else none

def radixValue? (radix : Nat) (bound : Nat) (cs : List Char) : Option Nat :=
  let cs := match cs with
    | '+' :: rest => rest
    | cs => cs
  match Text.digitsValue? radix cs with
  | some n => if n < bound then some n else none
  | none => none

def signedRadixValue? (radix : Nat) (bound : Nat) (cs : List Char) : Option Int :=
  match cs with
  | '-' :: rest =>
      match Text.digitsValue? radix rest with
      | some n => if n ≤ bound then some (-(n : Int)) else none
      | none => none
  | _ => (radixValue? radix bound cs).map (fun n => (n : Int))

def unsignedOf? (bound : Nat) (s : String) : Option Nat :=
  let un := match s.toList with
    | '+' :: rest => rest
    | cs => cs
  let prefixed (tag : Char) (radix : Nat) : Option (Option Nat) :=
    match un with
    | '0' :: t :: rest =>
        if t == tag then
          match rest with
          | '+' :: _ | '-' :: _ => some none
          | _ => (radixValue? radix bound rest).map some
        else none
    | _ => none
  match prefixed 'x' 16 with
  | some r => r
  | none =>
      match prefixed 'o' 8 with
      | some r => r
      | none =>
          match prefixed 'b' 2 with
          | some r => r
          | none =>
              match un with
              | '+' :: _ | '-' :: _ => none
              | _ => if digitsButNotNumber s then none else radixValue? 10 bound un

def signedOf? (bound : Nat) (s : String) : Option Int :=
  let prefixed (tag : Char) (radix : Nat) : Option Int :=
    match s.toList with
    | '-' :: '0' :: t :: rest =>
        if t == tag then signedRadixValue? radix bound ('-' :: rest) else none
    | _ => none
  match prefixed 'x' 16 with
  | some n => some n
  | none =>
      match prefixed 'o' 8 with
      | some n => some n
      | none =>
          match prefixed 'b' 2 with
          | some n => some n
          | none => if digitsButNotNumber s then none else signedRadixValue? 10 bound s.toList

def spanDigits : List Char → List Char × List Char
  | c :: rest =>
      if c.isDigit then
        let (ds, r) := spanDigits rest
        (c :: ds, r)
      else ([], c :: rest)
  | [] => ([], [])

/-- A decimal float numeral without its sign: digits with an optional point, at least one digit,
and an optional exponent. Returns the digits as a natural and the power of ten. -/
def decimalOf? (cs : List Char) : Option (Nat × Int) :=
  let (whole, rest) := spanDigits cs
  let (frac, rest) := match rest with
    | '.' :: r => spanDigits r
    | r => ([], r)
  let hasPoint := match cs.drop whole.length with
    | '.' :: _ => true
    | _ => false
  if whole.isEmpty && frac.isEmpty then none
  else
    let mantissa := (Text.digitsValueFrom? 10 0 (whole ++ frac)).getD 0
    let exp : Option Int := match rest with
      | [] => some 0
      | e :: r =>
          if e == 'e' || e == 'E' then
            let (neg, ds) := match r with
              | '-' :: ds => (true, ds)
              | '+' :: ds => (false, ds)
              | ds => (false, ds)
            if ds.isEmpty || !ds.all Char.isDigit then none
            else
              let n := (Text.digitsValueFrom? 10 0 ds).getD 0
              some (if neg then -(n : Int) else n)
          else none
    let _ := hasPoint
    exp.map fun x => (mantissa, x - frac.length)

/-- A float as a number parser reads it: an optional sign, then a decimal numeral, or `inf`,
`infinity` or `nan` in any case. -/
def rustFloat? (s : String) : Option Float :=
  let (neg, cs) := match s.toList with
    | '-' :: rest => (true, rest)
    | '+' :: rest => (false, rest)
    | cs => (false, cs)
  let word := (String.ofList cs).toLower
  if word == "inf" || word == "infinity" then some (if neg then -(1e308 * 10) else 1e308 * 10)
  else if word == "nan" then some (0 / 0)
  else (decimalOf? cs).map fun (d, k) => Text.ofScientific neg d k

def floatOf? (s : String) : Option Float :=
  let un? : Option String := match s.toList with
    | '+' :: rest =>
        match rest with
        | '+' :: _ | '-' :: _ => none
        | _ => some (String.ofList rest)
    | _ => some s
  match un? with
  | none => none
  | some un =>
      if un == ".inf" || un == ".Inf" || un == ".INF" then some (1e308 * 10)
      else if s == "-.inf" || s == "-.Inf" || s == "-.INF" then some (-(1e308 * 10))
      else if s == ".nan" || s == ".NaN" || s == ".NAN" then some (0 / 0)
      else
        match rustFloat? un with
        | some x => if x.isFinite then some x else none
        | none => none

/-- An integer scalar: an unsigned or negative 64-bit integer, else a 128-bit one. -/
def integerOf? (s : String) : Option Found :=
  match unsignedOf? UInt64.size s with
  | some n => some (.unsigned n)
  | none =>
      match signedOf? (Nat.pow 2 63) s with
      | some n => some (if 0 ≤ n then .unsigned n.toNat else .signed n)
      | none =>
          match unsignedOf? (Nat.pow 2 128) s with
          | some n => some (.unsigned n)
          | none =>
              (signedOf? (Nat.pow 2 127) s).map fun n =>
                if 0 ≤ n then .unsigned n.toNat else .signed n

/-- What an unquoted scalar is read as. -/
def resolvePlain (s : String) : Found :=
  if s.isEmpty || isNull s then .unit
  else
    match boolOf? s with
    | some b => .bool b
    | none =>
        match integerOf? s with
        | some f => f
        | none =>
            if digitsButNotNumber s then .str s
            else
              match floatOf? s with
              | some x => .float (Text.showWithPoint x)
              | none => .str s

def nullTag : String := "tag:yaml.org,2002:null"

def notOfTag (s : String) (what : String) : String :=
  "invalid value: string " ++ debugQuote s ++ ", expected " ++ what

/-- What a scalar is read as with its tag. The core schema's tags read the text as their type
(`!!bool`, `!!int`, `!!float`, `!!null`), and a text that is not of it is an error naming the
type; a local tag (`!x`) on a plain scalar leaves it to be read by its look; any other tag, and
quotes, make a string. -/
def taggedFound (tag : Option String) (s : String) (plain : Bool) : Except String Found :=
  match tag with
  | some t =>
      if t == "tag:yaml.org,2002:bool" then
        match boolOf? s with
        | some b => .ok (.bool b)
        | none => .error (notOfTag s "a boolean")
      else if t == "tag:yaml.org,2002:int" then
        match integerOf? s with
        | some f => .ok f
        | none => .error (notOfTag s "an integer")
      else if t == "tag:yaml.org,2002:float" then
        match floatOf? s with
        | some x => .ok (.float (Text.showWithPoint x))
        | none => .error (notOfTag s "a float")
      else if t == nullTag then
        if isNull s then .ok .unit else .error (notOfTag s "null")
      else if t.startsWith "!" && plain then .ok (resolvePlain s)
      else .ok (.str s)
  | none => .ok (if plain then resolvePlain s else .str s)

/-- Whether a string written unquoted would read back as something other than itself. -/
def needsQuotes (s : String) : Bool :=
  match resolvePlain s with
  | .str _ => digitsButNotNumber s
  | _ => true

end Yaml
end MemoryRecorder
