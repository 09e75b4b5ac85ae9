/-!
# Numerals

A numeral is a non-empty run of digits of its radix, after at most one sign. A plus sign is
always allowed, a minus sign only for signed words; digits are ASCII only, and hexadecimal
digits are of either case. The value must fit the word it is read into.

A numeral is read digit by digit from the left (`digitsValueFrom?_append`).
-/

namespace MemoryRecorder
namespace Text

def digitValue? (radix : Nat) (c : Char) : Option Nat :=
  let v :=
    if '0' ≤ c ∧ c ≤ '9' then some (c.toNat - '0'.toNat)
    else if 'a' ≤ c ∧ c ≤ 'z' then some (c.toNat - 'a'.toNat + 10)
    else if 'A' ≤ c ∧ c ≤ 'Z' then some (c.toNat - 'A'.toNat + 10)
    else none
  match v with
  | some d => if d < radix then some d else none
  | none => none

def digitsValueFrom? (radix : Nat) : Nat → List Char → Option Nat
  | acc, [] => some acc
  | acc, c :: cs =>
      match digitValue? radix c with
      | some d => digitsValueFrom? radix (acc * radix + d) cs
      | none => none

def digitsValue? (radix : Nat) (cs : List Char) : Option Nat :=
  if cs.isEmpty then none else digitsValueFrom? radix 0 cs

/-- An unsigned numeral: an optional plus sign and digits. -/
def unsignedValue? (radix : Nat) (s : String) : Option Nat :=
  match s.toList with
  | '+' :: cs => digitsValue? radix cs
  | cs => digitsValue? radix cs

/-- A signed numeral: an optional plus or minus sign and digits. -/
def signedValue? (radix : Nat) (s : String) : Option Int :=
  match s.toList with
  | '+' :: cs => (digitsValue? radix cs).map Int.ofNat
  | '-' :: cs => (digitsValue? radix cs).map fun n => -Int.ofNat n
  | cs => (digitsValue? radix cs).map Int.ofNat

def u64? (s : String) : Option UInt64 :=
  match unsignedValue? 10 s with
  | some n => if n < UInt64.size then some (UInt64.ofNat n) else none
  | none => none

def hexU64? (s : String) : Option UInt64 :=
  match unsignedValue? 16 s with
  | some n => if n < UInt64.size then some (UInt64.ofNat n) else none
  | none => none

def i32? (s : String) : Option Int32 :=
  match signedValue? 10 s with
  | some n => if -Int.pow 2 31 ≤ n ∧ n < Int.pow 2 31 then some (Int32.ofInt n) else none
  | none => none

def i64? (s : String) : Option Int64 :=
  match signedValue? 10 s with
  | some n => if -Int.pow 2 63 ≤ n ∧ n < Int.pow 2 63 then some (Int64.ofInt n) else none
  | none => none

theorem digitsValueFrom?_append (radix acc : Nat) (xs ys : List Char) :
    digitsValueFrom? radix acc (xs ++ ys) =
      (digitsValueFrom? radix acc xs).bind fun v => digitsValueFrom? radix v ys := by
  induction xs generalizing acc with
  | nil => rfl
  | cons c cs ih =>
      simp only [List.cons_append, digitsValueFrom?]
      split
      · exact ih _
      · rfl

end Text
end MemoryRecorder
