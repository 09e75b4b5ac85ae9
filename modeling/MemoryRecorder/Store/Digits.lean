import MemoryRecorder.Text.Decimal
/-!
# The decimal digits of a double, as the engine reads them

The engine writes a double in decimal from a digit string that it computes in the extended
format of the processor: a significand of 64 bits, rounded to nearest with ties to even after
every product. The double is scaled by powers of ten into `[1e17, 1e19)` (steps of `1e±100`,
then `1e±10`, then `10` or `0.1`), truncated to an integer, and that integer's decimal digits
are the digits of the double. So the first sixteen digits are the exact ones, and from the
seventeenth on the digits carry the rounding of the scaling, as the engine's do.

The digits are then rounded half up to a requested count (`decode`), and `renderReal` lays them
out as the engine's `%f`, `%e` and `%g` conversions do, with their flags. `realText`, the text
of a double wherever the engine turns one into text, is the `%!.15g` rendering.

A natural below `2 ^ 64` is exact in the extended format (`Extended.toNat_ofNat`), and rounding
digits up keeps their count (`roundUp_length`).
-/

namespace MemoryRecorder
namespace Store

/-! ## The extended format -/

/-- A non-negative value of the extended format, exactly `m · 2 ^ e`. -/
structure Extended where
  m : Nat
  e : Int
  deriving Repr

namespace Extended

/-- Rounds `n · 2 ^ e` to 64 significant bits, to nearest and ties to even; `sticky` says that
a nonzero remainder was already dropped below `n`, which breaks a tie upwards. -/
def roundBits (n : Nat) (e : Int) (sticky : Bool) : Extended :=
  if n < Nat.pow 2 64 then ⟨n, e⟩
  else
    let s := Nat.log2 n + 1 - 64
    let q := n >>> s
    let r := n % Nat.pow 2 s
    let half := Nat.pow 2 (s - 1)
    let up := decide (half < r) || (r == half && (sticky || q % 2 == 1))
    let q := if up then q + 1 else q
    if q = Nat.pow 2 64 then ⟨Nat.pow 2 63, e + s + 1⟩ else ⟨q, e + s⟩

def ofNat (n : Nat) : Extended :=
  roundBits n 0 false

def inverse (d : Nat) : Extended :=
  let s := Nat.log2 d + 66
  let n := Nat.pow 2 s
  roundBits (n / d) (-(s : Int)) (n % d != 0)

def mul (a b : Extended) : Extended :=
  roundBits (a.m * b.m) (a.e + b.e) false

def lt (a b : Extended) : Bool :=
  let e := min a.e b.e
  decide (a.m <<< (a.e - e).toNat < b.m <<< (b.e - e).toNat)

def toNat (a : Extended) : Nat :=
  if 0 ≤ a.e then a.m <<< a.e.toNat else a.m >>> (-a.e).toNat

theorem toNat_ofNat (n : Nat) (h : n < Nat.pow 2 64) : (ofNat n).toNat = n := by
  simp [ofNat, roundBits, h, toNat]

/-- Multiplies by `f` while `keep` holds, at most `fuel` times, counting the products. -/
def scaleWhile (keep : Extended → Bool) (f : Extended) : Nat → Extended → Nat → Extended × Nat
  | 0, x, k => (x, k)
  | fuel + 1, x, k => if keep x then scaleWhile keep f fuel (mul x f) (k + 1) else (x, k)

end Extended

def tenPow (k : Nat) : Nat :=
  Nat.pow 10 k

/-- Scales a positive double, given as `m · 2 ^ e`, into `[1e17, 1e19)` as the engine does, and
truncates it: the integer and the power of ten it was scaled by. -/
def scaled (m : Nat) (e : Int) : Nat × Int :=
  let x : Extended := ⟨m, e⟩
  let ge (a : Extended) (c : Nat) : Bool := !a.lt (.ofNat c)
  if ge x (tenPow 19) then
    let (x, a) := Extended.scaleWhile (fun y => ge y (tenPow 119))
      (Extended.inverse (tenPow 100)) 8 x 0
    let (x, b) := Extended.scaleWhile (fun y => ge y (tenPow 29))
      (Extended.inverse (tenPow 10)) 16 x 0
    let (x, c) := Extended.scaleWhile (fun y => ge y (tenPow 19))
      (Extended.inverse 10) 16 x 0
    (x.toNat, 100 * a + 10 * b + c)
  else
    let (x, a) := Extended.scaleWhile (fun y => y.lt (Extended.inverse (tenPow 97)))
      (.ofNat (tenPow 100)) 8 x 0
    let (x, b) := Extended.scaleWhile (fun y => y.lt (.ofNat (tenPow 7)))
      (.ofNat (tenPow 10)) 40 x 0
    let (x, c) := Extended.scaleWhile (fun y => y.lt (.ofNat (tenPow 17)))
      (.ofNat 10) 16 x 0
    (x.toNat, -((100 * a + 10 * b + c : Nat) : Int))

/-! ## Digit strings -/

/-- A double read in decimal: finite ones as digits `d₁ d₂ … dₙ` with the decimal point after
`point` of them, standing for `0.d₁d₂…dₙ · 10 ^ point`. -/
inductive DecimalDigits where
  | finite (negative : Bool) (digits : List Nat) (point : Int)
  | infinite (negative : Bool)
  | nan
  deriving Repr

def natDigits (n : Nat) : List Nat :=
  (Nat.toDigits 10 n).map fun c => c.toNat - '0'.toNat

def roundUp : List Nat → List Nat × Bool
  | [] => ([], true)
  | d :: rest =>
      match roundUp rest with
      | (rest', true) => if d = 9 then (0 :: rest', true) else ((d + 1) :: rest', false)
      | (rest', false) => (d :: rest', false)

theorem roundUp_length : ∀ ds : List Nat, (roundUp ds).1.length = ds.length
  | [] => rfl
  | d :: rest => by
      have ih := roundUp_length rest
      unfold roundUp
      split
      · split <;> simp_all
      · simp_all

def trimZeros (ds : List Nat) : List Nat :=
  match (ds.reverse.dropWhile (· = 0)).reverse with
  | [] => ds.take 1
  | kept => kept

/-- Reads a double in decimal and rounds it half up. A positive `round` keeps that many
significant digits; zero or less keeps the digits down to `-round` places after the point
(none beyond those exist when that is before the first digit). At most `most` digits are
kept however the count is asked, and trailing zeros are dropped. Zero is the digit `0`. -/
def decode (r : Float) (round : Int) (most : Nat) : DecimalDigits :=
  match Text.Binary64.ofFloat r with
  | .nan => .nan
  | .infinite negative => .infinite negative
  | .finite negative m e =>
      if m = 0 then .finite false [0] 1
      else
        let (v, shift) := scaled m e
        let ds := natDigits v
        let point := (ds.length : Int) + shift
        let (round, ds, point) :=
          if round ≤ 0 then
            let k := point - round
            if k = 0 && 5 ≤ ds.headD 0 then ((1 : Int), 0 :: ds, point + 1) else (k, ds, point)
          else (round, ds, point)
        let (ds, point) :=
          if 0 < round && (round < ds.length || most < ds.length) then
            let keep := min round.toNat most
            let kept := ds.take keep
            if 5 ≤ ds.getD keep 0 then
              match roundUp kept with
              | (rs, true) => (1 :: rs, point + 1)
              | (rs, false) => (rs, point)
            else (kept, point)
          else (ds, point)
        .finite negative (trimZeros ds) point

/-! ## Writing a double -/

inductive RealStyle where
  | fixed
  | exponent
  | general
  deriving DecidableEq, Repr

/-- The flags and sizes of a conversion. -/
structure Spec where
  leftJustify : Bool := false
  plus : Option Char := none
  alternate : Bool := false
  alternate2 : Bool := false
  zeroPad : Bool := false
  thousands : Bool := false
  width : Nat := 0
  precision : Option Nat := none
  deriving Repr

def digitChar (ds : List Nat) (i : Nat) : Char :=
  Char.ofNat ('0'.toNat + ds.getD i 0)

def wholePart (ds : List Nat) (thousands : Bool) : Nat → Nat → List Char
  | 0, _ => []
  | k + 1, start =>
      let sep := if thousands && k % 3 = 0 && 1 < k then [','] else []
      digitChar ds start :: sep ++ wholePart ds thousands k (start + 1)

def dropFractionZeros (cs : List Char) (keepOne : Bool) : List Char :=
  let t := (cs.reverse.dropWhile (· = '0')).reverse
  match t.getLast? with
  | some '.' => if keepOne then t ++ ['0'] else t.dropLast
  | _ => t

def exponentSuffix (letter : Char) (x : Int) : List Char :=
  let sign := if x < 0 then '-' else '+'
  let a := x.natAbs
  let hundreds := if 100 ≤ a then [Char.ofNat ('0'.toNat + a / 100)] else []
  let a := a % 100
  letter :: sign :: hundreds ++ [Char.ofNat ('0'.toNat + a / 10), Char.ofNat ('0'.toNat + a % 10)]

/-- Writes a double as a conversion does, zero padding included and other padding left out:
`%f`, `%e` or `%g` with a precision (six by default, a hundred million at most), the letter of
the exponent, and the flags. Infinity is `Inf` (`9.0e+999` and the like with zero padding), and NaN is `NaN` (`null`
with zero padding). None when the text would need a buffer of more than a billion bytes. -/
def renderReal (style : RealStyle) (letter : Char) (spec : Spec) (r : Float) : Option String :=
  let precision := min (spec.precision.getD 6) 100000000
  let precision := if style = .general && precision = 0 then 1 else precision
  let round : Int := match style with
    | .fixed => -(precision : Int)
    | .general => precision
    | .exponent => precision + 1
  let decoded := decode r round (if spec.alternate2 then 26 else 16)
  let special : Option String := match decoded with
    | .nan => some (if spec.zeroPad then "null" else "NaN")
    | .infinite negative =>
        if spec.zeroPad then none
        else some ((if negative then "-" else (spec.plus.map toString).getD "") ++ "Inf")
    | .finite _ _ _ => none
  match special with
  | some s => some s
  | none =>
      let (negative, ds, point) := match decoded with
        | .finite negative ds point => (negative, ds, point)
        | .infinite negative => (negative, [9], (1000 : Int))
        | .nan => (false, [0], (1 : Int))
      let sign : Option Char :=
        if negative then
          if spec.alternate && spec.plus.isNone && style = .fixed && point ≤ round then none
          else some '-'
        else spec.plus
      let (style, precision, trim) : RealStyle × Nat × Bool :=
        if style = .general then
          let p := precision - 1
          let x := point - 1
          if x < -4 || (p : Int) < x then (.exponent, p, !spec.alternate)
          else (.fixed, (p - x).toNat, !spec.alternate)
        else (style, precision, spec.alternate2)
      let e2 : Int := if style = .exponent then 0 else point - 1
      let need : Int := max e2 0 + precision + spec.width + 15 +
        (if spec.thousands && 0 < e2 then (e2 + 2) / 3 else 0)
      if 1000000000 < need then none else
      let showPoint := 0 < precision || spec.alternate || spec.alternate2
      let whole : List Char :=
        if e2 < 0 then ['0'] else wholePart ds spec.thousands (e2.toNat + 1) 0
      let used := if e2 < 0 then 0 else e2.toNat + 1
      let leadZeros := if e2 < 0 then min ((-(e2 + 1)).toNat) precision else 0
      let rest := precision - leadZeros
      let frac := List.replicate leadZeros '0' ++ (List.range rest).map fun i => digitChar ds (used + i)
      let body := whole ++ (if showPoint then '.' :: frac else frac)
      let body := if trim && showPoint then dropFractionZeros body spec.alternate2 else body
      let body := if style = .exponent then body ++ exponentSuffix letter (point - 1) else body
      let signed := (sign.map fun c => [c]).getD [] ++ body
      let padded :=
        if spec.zeroPad && !spec.leftJustify && signed.length < spec.width then
          let n := spec.width - signed.length
          (sign.map fun c => [c]).getD [] ++ List.replicate n '0' ++ body
        else signed
      some (String.ofList padded)

/-- The text of a double wherever the engine turns one into text: fifteen significant digits,
trailing zeros dropped but one digit kept after the point, and an exponent of at least two
digits when the leading digit stands below `1e-4` or from `1e15` on. Zero, of either sign, is
`0.0`. -/
def realText (r : Float) : String :=
  (renderReal .general 'e' { alternate2 := true, precision := some 15 } r).getD ""

end Store
end MemoryRecorder
