/-!
# Reading UTF-8

Bytes are read as UTF-8 one sequence at a time. A lead byte opens a sequence and fixes how
many continuation bytes follow and in which range the first of them lies, so that overlong
forms, surrogates and code points above `0x10FFFF` never decode. A sequence that breaks off
is one bad unit: the byte that broke it starts afresh.

Two readers share the scan: `decodeLossy` writes U+FFFD for every bad unit, and `decode?`
refuses any input with one. A byte below `0x80` decodes to one character of its own
(`scanFrom_ascii`).
-/

namespace MemoryRecorder
namespace Text
namespace Utf8

/-- An open multi-byte sequence: the bits read so far, the continuation bytes still due and the
range the next one must lie in. -/
structure Pending where
  bits : Nat
  due : Nat
  lo : UInt8
  hi : UInt8
  deriving Repr

inductive Decoded where
  | char (c : Char)
  | bad
  deriving Repr, DecidableEq

def opening (b : UInt8) : Sum Decoded Pending :=
  let n := b.toNat
  if n < 0x80 then .inl (.char (Char.ofNat n))
  else if 0xC2 ≤ n ∧ n ≤ 0xDF then .inr ⟨n % 0x20, 1, 0x80, 0xBF⟩
  else if n = 0xE0 then .inr ⟨0, 2, 0xA0, 0xBF⟩
  else if n = 0xED then .inr ⟨0xD, 2, 0x80, 0x9F⟩
  else if 0xE1 ≤ n ∧ n ≤ 0xEF then .inr ⟨n % 0x10, 2, 0x80, 0xBF⟩
  else if n = 0xF0 then .inr ⟨0, 3, 0x90, 0xBF⟩
  else if n = 0xF4 then .inr ⟨4, 3, 0x80, 0x8F⟩
  else if 0xF1 ≤ n ∧ n ≤ 0xF3 then .inr ⟨n % 0x08, 3, 0x80, 0xBF⟩
  else .inl .bad

/-- The units a byte completes, and the sequence left open after it. A byte that breaks an open
sequence closes it as a bad unit and is then read as if nothing were open. -/
def feed : Option Pending → UInt8 → List Decoded × Option Pending
  | none, b =>
      match opening b with
      | .inl u => ([u], none)
      | .inr p => ([], some p)
  | some p, b =>
      if p.lo ≤ b ∧ b ≤ p.hi then
        let bits := p.bits * 0x40 + b.toNat % 0x40
        if p.due = 1 then ([.char (Char.ofNat bits)], none)
        else ([], some ⟨bits, p.due - 1, 0x80, 0xBF⟩)
      else
        match opening b with
        | .inl u => ([.bad, u], none)
        | .inr q => ([.bad], some q)

def scanFrom : Option Pending → List UInt8 → List Decoded
  | none, [] => []
  | some _, [] => [.bad]
  | st, b :: bs =>
      let step := feed st b
      step.1 ++ scanFrom step.2 bs

def scan (bs : List UInt8) : List Decoded :=
  scanFrom none bs

def replacement : Char := '�'

/-- Reads bytes, writing U+FFFD for each bad unit. -/
def decodeLossy (bs : List UInt8) : String :=
  String.ofList ((scan bs).map fun
    | .char c => c
    | .bad => replacement)

def charsOf? : List Decoded → Option (List Char)
  | [] => some []
  | .char c :: us => (charsOf? us).map (c :: ·)
  | .bad :: _ => none

/-- Reads bytes that must be UTF-8 throughout. -/
def decode? (bs : List UInt8) : Option String :=
  (charsOf? (scan bs)).map String.ofList

theorem scanFrom_ascii (b : UInt8) (bs : List UInt8) (h : b.toNat < 0x80) :
    scanFrom none (b :: bs) = .char (Char.ofNat b.toNat) :: scanFrom none bs := by
  simp [scanFrom, feed, opening, h]

end Utf8
end Text
end MemoryRecorder
