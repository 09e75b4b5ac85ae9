/-!
# Decimal text of binary floating point

A finite double is exactly `± m · 2 ^ e` for a natural `m` and an integer `e`. This module reads
that value from the bits and then works with it exactly, in natural-number arithmetic:

* `ofDecimal` is the double nearest to a decimal, ties going to the even mantissa;
* `fixed` writes a double with a fixed number of fraction digits, rounding the exact binary
  value half to even, so `2.25` with one digit is `2.2` and `0.35` (just below `0.35`) is `0.3`;
* `shortest` finds the fewest significant digits that still read back as the same double and,
  among candidates of that length, the one nearest to the exact value; `showShortest` lays them
  out with a decimal point, or with an exponent for very large and very small magnitudes.

`roundHalfEven_le_succ` and `roundHalfEven_ge` bound the rounding step that every conversion here
uses.
-/

namespace MemoryRecorder
namespace Text

inductive Binary64 where
  | nan
  | infinite (negative : Bool)
  | finite (negative : Bool) (mantissa : Nat) (exponent : Int)
  deriving Repr, BEq

namespace Binary64

def ofFloat (x : Float) : Binary64 :=
  let bits : Nat := x.toBits.toNat
  let negative := decide (Nat.pow 2 63 ≤ bits)
  let biased : Nat := bits / Nat.pow 2 52 % Nat.pow 2 11
  let fraction : Nat := bits % Nat.pow 2 52
  if biased = 2047 then
    if fraction = 0 then .infinite negative else .nan
  else if biased = 0 then .finite negative fraction (-1074)
  else .finite negative (fraction + Nat.pow 2 52) ((biased : Int) - 1075)

end Binary64

def roundHalfEven (n d : Nat) : Nat :=
  let q := n / d
  let r := n % d
  if 2 * r < d then q
  else if d < 2 * r then q + 1
  else if q % 2 = 0 then q else q + 1

theorem roundHalfEven_ge (n d : Nat) : n / d ≤ roundHalfEven n d := by
  unfold roundHalfEven
  dsimp only
  repeat' split
  all_goals omega

theorem roundHalfEven_le_succ (n d : Nat) : roundHalfEven n d ≤ n / d + 1 := by
  unfold roundHalfEven
  dsimp only
  repeat' split
  all_goals omega

/-- Two naturals `(a, b)` with `x · 2 ^ e / 10 ^ k = x · a / b` for every `x`. -/
def scale (e k : Int) : Nat × Nat :=
  (Nat.pow 2 e.toNat * Nat.pow 10 (-k).toNat, Nat.pow 2 (-e).toNat * Nat.pow 10 k.toNat)

def digitCount (n : Nat) : Nat :=
  (Nat.toDigits 10 n).length

/-- The double nearest to `± n / 10 ^ f`, ties to the even mantissa. A magnitude past the largest
double is infinite, and one below half the least subnormal is zero. -/
def ofDecimal (negative : Bool) (n f : Nat) : Float :=
  let d := Nat.pow 10 f
  -- `n / d / 2 ^ e` as the fraction `num / den`
  let scaled (e : Int) : Nat × Nat := (n * Nat.pow 2 (-e).toNat, d * Nat.pow 2 e.toNat)
  let e1 : Int := (Nat.log2 n : Int) - (Nat.log2 d : Int) - 52
  let e2 := if (scaled e1).1 / (scaled e1).2 < Nat.pow 2 52 then e1 - 1 else e1
  let e3 := max e2 (-1074)
  let q0 := roundHalfEven (scaled e3).1 (scaled e3).2
  let q := if q0 = Nat.pow 2 53 then Nat.pow 2 52 else q0
  let e := if q0 = Nat.pow 2 53 then e3 + 1 else e3
  let magnitude : Nat :=
    if n = 0 then 0
    else if 971 < e then 2047 * Nat.pow 2 52
    else if q < Nat.pow 2 52 then q
    else (e + 1075).toNat * Nat.pow 2 52 + (q - Nat.pow 2 52)
  Float.ofBits (UInt64.ofNat (magnitude + if negative then Nat.pow 2 63 else 0))

def padDigits (width n : Nat) : String :=
  let s := toString n
  "".pushn '0' (width - s.length) ++ s

/-- A double with `places` digits after the point, the exact value rounded half to even. A
negative value keeps its sign even when it rounds to zero. -/
def fixed (places : Nat) (x : Float) : String :=
  match Binary64.ofFloat x with
  | .nan => "NaN"
  | .infinite negative => if negative then "-inf" else "inf"
  | .finite negative m e =>
      let (a, b) := scale e (-(places : Int))
      let q := roundHalfEven (m * a) b
      let unit := Nat.pow 10 places
      let body :=
        if places = 0 then toString q
        else toString (q / unit) ++ "." ++ padDigits places (q % unit)
      if negative then "-" ++ body else body

def floorLog10 (x : Nat) (e : Int) : Int :=
  let n := x * Nat.pow 2 e.toNat
  let d := Nat.pow 2 (-e).toNat
  if d ≤ n then (digitCount (n / d) : Int) - 1
  else
    -- below one: the least `j` with `n · 10 ^ j ≥ d` is one of two neighbours
    let j := digitCount d - digitCount n
    if d ≤ n * Nat.pow 10 j then -(j : Int) else -((j + 1 : Nat) : Int)

def dropZeros : Nat → Nat → Int → Nat × Int
  | 0, d, k => (d, k)
  | fuel + 1, d, k => if d ≠ 0 ∧ d % 10 = 0 then dropZeros fuel (d / 10) (k + 1) else (d, k)

/-- The shortest decimal `d · 10 ^ k` of the positive double `m · 2 ^ e`.

The double stands for every real that rounds to it: the interval reaching halfway to its
neighbours, closed when `m` is even. Its lower half is half as wide when `m` is a power of two
above the subnormals. Going down from the largest power of ten not above the interval, the first
scale `10 ^ k` with a multiple inside the interval gives the fewest significant digits; only the
two multiples around the exact value can be the nearest, and the nearer one inside wins, ties
to the even one. -/
def shortest (m : Nat) (e : Int) : Nat × Int :=
  let closed := m % 2 = 0
  let v := 4 * m
  let hi := 4 * m + 2
  let lo := if m = Nat.pow 2 52 ∧ -1074 < e then 4 * m - 1 else 4 * m - 2
  let e2 := e - 2
  -- `c · 10 ^ k` inside the interval, for `(a, b) = scale e2 k`
  let inside (c a b : Nat) : Bool :=
    (if closed then decide (lo * a ≤ c * b) else decide (lo * a < c * b)) &&
    (if closed then decide (c * b ≤ hi * a) else decide (c * b < hi * a))
  let rec search : Nat → Int → Nat × Int
    | 0, k =>
        let (a, b) := scale e2 k
        (roundHalfEven (v * a) b, k)
    | fuel + 1, k =>
        let (a, b) := scale e2 k
        let q := v * a / b
        let down := inside q a b
        let up := inside (q + 1) a b
        if down && up then (roundHalfEven (v * a) b, k)
        else if down then (q, k)
        else if up then (q + 1, k)
        else search fuel (k - 1)
  let (d, k) := search 40 (floorLog10 hi e2)
  dropZeros 20 d k

/-- Lays out `d · 10 ^ k` as shortest round-trip writers do: a plain decimal with at most sixteen
integer digits or at most four zeros after the point, else one digit, a fraction and a signed
exponent (`1e+16`, `1.5e-7`). -/
def layout (d : Nat) (k : Int) : String :=
  let ds := (toString d).toList
  let n : Int := ds.length
  let kk := n + k
  if 0 ≤ k ∧ kk ≤ 16 then String.ofList ds ++ "".pushn '0' k.toNat ++ ".0"
  else if 0 < kk ∧ kk ≤ 16 then
    String.ofList (ds.take kk.toNat) ++ "." ++ String.ofList (ds.drop kk.toNat)
  else if -5 < kk ∧ kk ≤ 0 then "0." ++ "".pushn '0' (-kk).toNat ++ String.ofList ds
  else
    let mantissa := if n = 1 then String.ofList ds
      else String.ofList (ds.take 1) ++ "." ++ String.ofList (ds.drop 1)
    mantissa ++ (if kk - 1 < 0 then "e" else "e+") ++ toString (kk - 1)

def shortestOf? (x : Float) : Option (Bool × Nat × Int) :=
  match Binary64.ofFloat x with
  | .finite negative m e => some (negative, if m = 0 then (0, 0) else shortest m e)
  | _ => none

def showShortest (x : Float) : String :=
  match Binary64.ofFloat x with
  | .nan => "NaN"
  | .infinite negative => if negative then "-inf" else "inf"
  | .finite negative m e =>
      let body := if m = 0 then "0.0" else (fun (d, k) => layout d k) (shortest m e)
      if negative then "-" ++ body else body

/-- The shortest digits of a double in plain positional notation, never with an exponent, as a
general-purpose display prints it: `1e20` is `100000000000000000000` and `1.5e-7` is
`0.00000015`. -/
def showPlain (x : Float) : String :=
  match Binary64.ofFloat x with
  | .nan => "NaN"
  | .infinite negative => if negative then "-inf" else "inf"
  | .finite negative m e =>
      let body :=
        if m = 0 then "0"
        else
          let (d, k) := shortest m e
          let ds := (toString d).toList
          if 0 ≤ k then String.ofList ds ++ "".pushn '0' k.toNat
          else
            let point := (ds.length : Int) + k
            if 0 < point then
              String.ofList (ds.take point.toNat) ++ "." ++ String.ofList (ds.drop point.toNat)
            else "0." ++ "".pushn '0' (-point).toNat ++ String.ofList ds
      if negative then "-" ++ body else body

/-- Plain positional digits that always show a fraction: a finite whole number gets `.0`, so
`1e20` is `100000000000000000000.0` and `-0.0` is `-0.0`. -/
def showWithPoint (x : Float) : String :=
  let s := showPlain x
  if x.isFinite && !s.contains '.' then s ++ ".0" else s

/-- The double nearest to `± d · 10 ^ k`. Exponents far beyond the range of doubles are cut
short before any power is formed: the value is then infinite or zero. -/
def ofScientific (negative : Bool) (d : Nat) (k : Int) : Float :=
  if d = 0 then ofDecimal negative 0 0
  else if 400 < k then (if negative then -(1e308 * 10) else 1e308 * 10)
  else if k < -(400 + (digitCount d : Int)) then ofDecimal negative 0 0
  else if 0 ≤ k then ofDecimal negative (d * Nat.pow 10 k.toNat) 0
  else ofDecimal negative d (-k).toNat

end Text
end MemoryRecorder
