import MemoryRecorder.Store.Value
/-!
# The `printf` function

`printf(format, ...)` (also called `format`) writes its arguments into the text of a format, as
the engine's own formatter does. A conversion is `%`, then flags (`-`, `+`, a space, `#`, `!`,
`0`, `,`), a width (digits, or `*` for the next argument), a precision (`.` and digits, or `.*`),
an ignored `l` or `ll`, and a character:

* `d` `i` `u`: decimal, `x` `X` `o` `p`: hexadecimal and octal of the unsigned word, `r`: an
  ordinal (`1st`, `2nd`, ...);
* `f` `e` `E` `g` `G`: a double, as `renderReal` writes it;
* `s` `z`: a text, cut at its first zero byte; `c`: the first character of a text, repeated
  `precision` times; `q` `Q` `w`: a text with its quote characters doubled, `Q` also enclosing
  it in quotes (and null written as `NULL`);
* `%`: a percent sign, and `n`: nothing.

Any other character ends the output there. Widths and precisions count bytes, or characters
with `!`. Arguments are read in turn; once they run out, a number reads as zero and a text as
none. A result of a billion bytes or more is too big, and the function gives null instead.
-/

namespace MemoryRecorder
namespace Store
namespace Sql

def byteOf (c : Char) : UInt8 :=
  c.toNat.toUInt8

def bytesOf (s : String) : List UInt8 :=
  s.toUTF8.toList

def isDigitByte (b : UInt8) : Bool :=
  48 ≤ b && b ≤ 57

def isContinuation (b : UInt8) : Bool :=
  b &&& 0xc0 == 0x80

def formatLimit : Nat := 1000000000

/-! ## Arguments -/

def takeInt : List Value → Int64 × List Value
  | v :: rest => (v.intValue, rest)
  | [] => (0, [])

def takeReal : List Value → Float × List Value
  | v :: rest => (v.realValue, rest)
  | [] => (0.0, [])

def takeText : List Value → Option (List UInt8) × List Value
  | .blob bs :: rest => (some bs, rest)
  | v :: rest => (v.text?.map bytesOf, rest)
  | [] => (none, [])

def asCount (v : Int64) : Int :=
  (Int32.ofInt v.toInt).toInt

/-! ## Reading a conversion -/

/-- The flags, width and precision read so far; a precision of `-1` is none. -/
structure Directive where
  spec : Spec := {}
  precision : Int := -1

def nextByte : List UInt8 → UInt8 × List UInt8
  | b :: rest => (b, rest)
  | [] => (0, [])

def readCount (acc : Nat) : List UInt8 → Nat × UInt8 × List UInt8
  | b :: rest =>
      if isDigitByte b then readCount ((acc * 10 + (b.toNat - 48)) % Nat.pow 2 32) rest
      else (acc, b, rest)
  | [] => (acc, 0, [])

/-- Reads the flags, width and precision of a conversion from its byte `c` on, taking the
arguments a `*` asks for: what was read, the conversion byte (zero when the format ended), the
bytes after it and the arguments left. -/
def readSpec : Nat → Directive → UInt8 → List UInt8 → List Value →
    Directive × UInt8 × List UInt8 × List Value
  | 0, r, c, rest, args => (r, c, rest, args)
  | fuel + 1, r, c, rest, args =>
      let more (r : Directive) : Directive × UInt8 × List UInt8 × List Value :=
        match rest with
        | [] => (r, 0, [], args)
        | b :: tail => readSpec fuel r b tail args
      let spec := r.spec
      if c == byteOf '-' then more { r with spec := { spec with leftJustify := true } }
      else if c == byteOf '+' then more { r with spec := { spec with plus := some '+' } }
      else if c == byteOf ' ' then more { r with spec := { spec with plus := some ' ' } }
      else if c == byteOf '#' then more { r with spec := { spec with alternate := true } }
      else if c == byteOf '!' then more { r with spec := { spec with alternate2 := true } }
      else if c == byteOf '0' then more { r with spec := { spec with zeroPad := true } }
      else if c == byteOf ',' then more { r with spec := { spec with thousands := true } }
      else if c == byteOf 'l' then
        let (c, rest) := nextByte rest
        let (c, rest) := if c == byteOf 'l' then nextByte rest else (c, rest)
        (r, c, rest, args)
      else if isDigitByte c then
        let (w, c, rest) := readCount (c.toNat - 48) rest
        let r := { r with spec := { spec with width := w % Nat.pow 2 31 } }
        if c != byteOf '.' && c != byteOf 'l' then (r, c, rest, args)
        else readSpec fuel r c rest args
      else if c == byteOf '*' then
        let (v, args) := takeInt args
        let w := asCount v
        let spec :=
          if w < 0 then
            { spec with leftJustify := true, width := if -2147483647 ≤ w then (-w).toNat else 0 }
          else { spec with width := w.toNat }
        let r := { r with spec := spec }
        match rest with
        | b :: tail =>
            if b != byteOf '.' && b != byteOf 'l' then (r, b, tail, args)
            else readSpec fuel r b tail args
        | [] => (r, 0, [], args)
      else if c == byteOf '.' then
        let (c, rest) := nextByte rest
        let (r, c, rest, args) :=
          if c == byteOf '*' then
            let (v, args) := takeInt args
            let p := asCount v
            let p := if p < 0 then (if -2147483647 ≤ p then -p else -1) else p
            let (c, rest) := nextByte rest
            ({ r with precision := p }, c, rest, args)
          else
            let (p, c, rest) := readCount 0 (c :: rest)
            ({ r with precision := ((p % Nat.pow 2 31 : Nat) : Int) }, c, rest, args)
        if c == byteOf 'l' then readSpec fuel r c rest args else (r, c, rest, args)
      else (r, c, rest, args)

/-! ## Conversions -/

/-- What a conversion character asks for. -/
inductive Conversion where
  | decimal (signed : Bool)
  | radix (base : Nat) (upper : Bool) (prefix_ : String)
  | ordinal
  | real (style : RealStyle) (letter : Char)
  | size
  | percent
  | char
  | string
  | escape (quote : UInt8) (enclose : Bool) (nullText : String)

def conversionOf (c : UInt8) : Option Conversion :=
  match Char.ofNat c.toNat with
  | 'd' | 'i' => some (.decimal true)
  | 'u' => some (.decimal false)
  | 's' | 'z' => some .string
  | 'g' => some (.real .general 'e')
  | 'G' => some (.real .general 'E')
  | 'f' => some (.real .fixed 'e')
  | 'e' => some (.real .exponent 'e')
  | 'E' => some (.real .exponent 'E')
  | 'q' => some (.escape (byteOf '\'') false "(NULL)")
  | 'Q' => some (.escape (byteOf '\'') true "NULL")
  | 'w' => some (.escape (byteOf '"') false "(NULL)")
  | 'c' => some .char
  | 'o' => some (.radix 8 true "0")
  | 'x' => some (.radix 16 false "0x")
  | 'X' => some (.radix 16 true "0X")
  | 'p' => some (.radix 16 true "0x")
  | 'n' => some .size
  | '%' => some .percent
  | 'r' => some .ordinal
  | _ => none

def radixDigits (base : Nat) (upper : Bool) (n : Nat) : List UInt8 :=
  (Nat.toDigits base n).map fun c => byteOf (if upper then c.toUpper else c)

def ordinalSuffix (n : Nat) : String :=
  let x := n % 10
  if 4 ≤ x || (n / 10) % 10 = 1 then "th"
  else if x = 1 then "st"
  else if x = 2 then "nd"
  else if x = 3 then "rd"
  else "th"

def groupThousands (ds : List UInt8) : List UInt8 :=
  let n := ds.length
  (ds.zipIdx 0).flatMap fun (d, i) =>
    if i + 1 < n && (n - 1 - i) % 3 = 0 then [d, byteOf ','] else [d]

/-- The UTF-8 characters of bytes that fit in `count`, as bytes: a character is its lead byte
and, when the lead byte starts a sequence, the continuation bytes after it. -/
def takeChars : Nat → List UInt8 → List UInt8
  | 0, _ => []
  | _, [] => []
  | k + 1, b :: rest =>
      let tail := if 0xc0 ≤ b then rest.takeWhile isContinuation else []
      b :: tail ++ takeChars k (rest.drop tail.length)
termination_by k => k

/-- The bytes `%q` and its kin quote: up to `count` characters (bytes without `!`), or all when
the count is negative. -/
def escapeSpan (chars : Bool) (fuel : Nat) (count : Int) (bs : List UInt8) : List UInt8 :=
  match fuel with
  | 0 => []
  | fuel + 1 =>
      if count = 0 then []
      else
        match bs with
        | [] => []
        | b :: rest =>
            let tail := if chars && b &&& 0xc0 == 0xc0 then rest.takeWhile isContinuation else []
            b :: tail ++ escapeSpan chars fuel (count - 1) (rest.drop tail.length)

/-- A field's width as `!` counts it: one more for each continuation byte of the body. -/
def widthInChars (width : Int) (body : List UInt8) : Int :=
  if 0 < width then width + (body.filter isContinuation).length else width

inductive Step where
  | next (out : Array UInt8) (args : List Value)
  | tooBig

def appendBytes (out : Array UInt8) (bs : List UInt8) : Option (Array UInt8) :=
  if formatLimit < out.size + bs.length + 1 then none else some (out ++ bs)

def appendField (out : Array UInt8) (body : List UInt8) (width : Int) (left : Bool) :
    Option (Array UInt8) :=
  let pad := width - body.length
  if 0 < pad then
    if formatLimit < out.size + pad.toNat + body.length + 1 then none
    else
      let spaces := List.replicate pad.toNat (byteOf ' ')
      some (if left then out ++ body ++ spaces else out ++ spaces ++ body)
  else appendBytes out body

def fieldStep (out : Array UInt8) (body : List UInt8) (width : Int) (left : Bool)
    (args : List Value) : Step :=
  match appendField out body width left with
  | some out => .next out args
  | none => .tooBig

def integerStep (out : Array UInt8) (r : Directive) (args : List Value) (signed : Bool)
    (base : Nat) (upper : Bool) (prefix_ : String) (ordinal thousands : Bool) : Step :=
  let spec := r.spec
  let (v, args) := takeInt args
  let (n, sign) : Nat × Option Char :=
    if signed then
      if v < 0 then (v.toInt.natAbs, some '-') else (v.toInt.toNat, spec.plus)
    else (v.toUInt64.toNat, none)
  let signWidth : Int := if sign.isSome then 1 else 0
  let width : Int := spec.width
  let precision :=
    if spec.zeroPad && r.precision < width - signWidth then width - signWidth else r.precision
  let buffer := precision + 10 + (if thousands then precision / 3 else 0)
  if 37 ≤ precision && (formatLimit : Int) < buffer then .tooBig
  else
    let digits := radixDigits base upper n ++ (if ordinal then bytesOf (ordinalSuffix n) else [])
    let digits := List.replicate (precision - digits.length).toNat (byteOf '0') ++ digits
    let digits := if thousands then groupThousands digits else digits
    let signed := ((sign.map fun c => [byteOf c]).getD []) ++ digits
    let body := (if spec.alternate && n != 0 then bytesOf prefix_ else []) ++ signed
    fieldStep out body width spec.leftJustify args

def charStep (out : Array UInt8) (r : Directive) (args : List Value) : Step :=
  let spec := r.spec
  let (t, args) := takeText args
  let buf : List UInt8 := match t with
    | some (b :: more) =>
        if b &&& 0xc0 == 0xc0 then b :: (more.takeWhile isContinuation).take 3 else [b]
    | _ => [0]
  let width : Int := spec.width
  if 1 < r.precision then
    let width := width - (r.precision - 1)
    let (lead, width) : List UInt8 × Int :=
      if 1 < width && !spec.leftJustify then
        (List.replicate (width - 1).toNat (byteOf ' '), 0)
      else ([], width)
    let copies := (r.precision - 1).toNat
    if formatLimit < out.size + lead.length + copies * buf.length + 1 then .tooBig
    else
      let out := out ++ lead ++ (List.replicate copies buf).flatten
      fieldStep out buf (widthInChars width buf) spec.leftJustify args
  else fieldStep out buf (widthInChars width buf) spec.leftJustify args

def stringStep (out : Array UInt8) (r : Directive) (args : List Value) : Step :=
  let spec := r.spec
  let (t, args) := takeText args
  let bs := (t.getD []).takeWhile (· != 0)
  let body :=
    if 0 ≤ r.precision then
      if spec.alternate2 then takeChars r.precision.toNat bs else bs.take r.precision.toNat
    else bs
  let width : Int := spec.width
  let width := if spec.alternate2 then widthInChars width body else width
  fieldStep out body width spec.leftJustify args

def escapeStep (out : Array UInt8) (r : Directive) (args : List Value) (quote : UInt8)
    (enclose : Bool) (nullText : String) : Step :=
  let spec := r.spec
  let (t, args) := takeText args
  let source := match t with
    | some bs => bs.takeWhile (· != 0)
    | none => bytesOf nullText
  let span := escapeSpan spec.alternate2 (source.length + 1) r.precision source
  let doubled := span.flatMap fun b => if b == quote then [b, b] else [b]
  let body := if t.isSome && enclose then quote :: doubled ++ [quote] else doubled
  let width : Int := spec.width
  let width := if spec.alternate2 then widthInChars width body else width
  fieldStep out body width spec.leftJustify args

def convert (out : Array UInt8) (r : Directive) (args : List Value) : Conversion → Step
  | .decimal signed =>
      integerStep out r args signed 10 false "" false r.spec.thousands
  | .radix base upper p => integerStep out r args false base upper p false false
  | .ordinal => integerStep out r args true 10 false "" true false
  | .real style letter =>
      let (x, args) := takeReal args
      let spec := { r.spec with precision := if r.precision < 0 then none else some r.precision.toNat }
      match renderReal style letter spec x with
      | some s => fieldStep out (bytesOf s) spec.width spec.leftJustify args
      | none => .tooBig
  | .size => .next out args
  | .percent => fieldStep out [byteOf '%'] r.spec.width r.spec.leftJustify args
  | .char => charStep out r args
  | .string => stringStep out r args
  | .escape q enclose nullText => escapeStep out r args q enclose nullText

/-- Formats the bytes of a format with arguments, into `out`: the output and whether anything
was written to it, even nothing (an invalid conversion stops before writing); none when the
result is too big. -/
def formatBytes : Nat → List UInt8 → List Value → Array UInt8 → Bool →
    Option (Array UInt8 × Bool)
  | 0, _, _, out, written => some (out, written)
  | fuel + 1, fmt, args, out, written =>
      let literal := fmt.takeWhile (· != byteOf '%')
      let written := written || !literal.isEmpty
      match appendBytes out literal with
      | none => none
      | some out =>
          match fmt.drop literal.length with
          | [] => some (out, written)
          | _ :: [] => (appendBytes out [byteOf '%']).map (·, true)
          | _ :: c :: rest =>
              let (r, c, rest, args) := readSpec (rest.length + 1) {} c rest args
              match conversionOf c with
              | none => some (out, written)
              | some conv =>
                  match convert out r args conv with
                  | .next out args => formatBytes fuel rest args out true
                  | .tooBig => none

/-- `printf(format, ...)`: null when the format is null, when nothing was written, or when the
result is too big. -/
def printfValue (format : Value) (args : List Value) : Value :=
  match takeText [format] with
  | (some fmt, _) =>
      let fmt := fmt.takeWhile (· != 0)
      match formatBytes (fmt.length + 1) fmt args #[] false with
      | some (out, true) => .text (bytesText out.toList)
      | _ => .null
  | (none, _) => .null

end Sql
end Store
end MemoryRecorder
