import Mathlib
import MemoryRecorder.Proofs.Text.Written
/-!
# Texts in byte order

A text is held as the bytes of its UTF-8 encoding, and texts compare character by character.
This module shows that the two views agree. The byte array a text holds lists as its UTF-8 bytes
(`toList_toUTF8`), as many as the text's byte size (`length_utf8Bytes`), and two texts with the
same bytes are one text (`utf8Bytes_injective`). UTF-8 keeps the order of characters: the bytes
of a smaller character come first byte by byte, whatever follows each (`utf8EncodeChar_append_lt`),
so texts compare as their bytes do (`utf8Bytes_lt_iff`).

The order argument splits on the lengths of the two encodings. A longer encoding starts with a
larger lead byte (`utf8EncodeChar_append_lt_of_length_lt`). Within one length it reads a byte
list as a number, its first byte the most significant (`bigEndian`): the smaller character reads
as the smaller number (`bigEndian_utf8EncodeChar_lt_of_length_eq`), and of two lists of one
length the one with the smaller number comes first (`append_lt_of_bigEndian_lt`).
-/

namespace MemoryRecorder
namespace Text

/-! ## The bytes a text holds -/

theorem toList_loop (bs : ByteArray) (i : Nat) (r : List UInt8) :
    ByteArray.toList.loop bs i r = r.reverse ++ bs.data.toList.drop i := by
  fun_induction ByteArray.toList.loop bs i r with
  | case1 i r hi ih =>
      have hi' : i < bs.data.toList.length := by simpa using hi
      rw [ih, List.drop_eq_getElem_cons hi']
      simp [ByteArray.get!, hi]
  | case2 i r hi =>
      rw [List.drop_eq_nil_of_le (by simpa using hi), List.append_nil]

theorem toList_eq_data_toList (bs : ByteArray) : bs.toList = bs.data.toList := by
  rw [ByteArray.toList, toList_loop]
  simp

theorem toList_toUTF8 (s : String) : s.toUTF8.toList = utf8Bytes s := by
  have h : s.toByteArray = s.toList.utf8Encode := by
    rw [← String.toByteArray_ofList, String.ofList_toList]
  rw [toList_eq_data_toList, String.toUTF8_eq_toByteArray, h, List.utf8Encode,
    List.toList_data_toByteArray]
  rfl

theorem length_utf8Bytes (s : String) : (utf8Bytes s).length = s.utf8ByteSize := by
  rw [← toList_toUTF8, toList_eq_data_toList, Array.length_toList, ← String.size_toByteArray]
  rfl

theorem utf8Bytes_injective {s t : String} (h : utf8Bytes s = utf8Bytes t) : s = t := by
  have hs := Utf8.decode?_utf8Bytes s
  rw [h, Utf8.decode?_utf8Bytes] at hs
  exact (Option.some.inj hs).symm

/-! ## Byte lists read as numbers -/

/-- A byte list read as a number, its first byte the most significant. -/
def bigEndian : List UInt8 → Nat
  | [] => 0
  | b :: bs => b.toNat * 256 ^ bs.length + bigEndian bs

theorem bigEndian_lt (bs : List UInt8) : bigEndian bs < 256 ^ bs.length := by
  induction bs with
  | nil => simp [bigEndian]
  | cons b bs ih =>
      have hb : b.toNat + 1 ≤ 256 := b.toNat_lt
      have := Nat.mul_le_mul_right (256 ^ bs.length) hb
      rw [bigEndian, List.length_cons, Nat.pow_succ, Nat.mul_comm _ 256, Nat.succ_mul] at *
      omega

/-- Of two byte lists of one length, the one with the smaller number comes first, whatever
follows each. The first bytes decide unless they are equal: a larger first byte alone outweighs
everything behind it. -/
theorem append_lt_of_bigEndian_lt : ∀ {xs ys : List UInt8}, xs.length = ys.length →
    bigEndian xs < bigEndian ys → ∀ r r' : List UInt8, xs ++ r < ys ++ r'
  | [], [], _, h, _, _ => absurd h (by simp [bigEndian])
  | x :: xs, y :: ys, hlen, h, r, r' => by
      have hlen' : xs.length = ys.length := by simpa using hlen
      have hxs := bigEndian_lt xs
      have hys := bigEndian_lt ys
      simp only [bigEndian, hlen'] at h
      rw [List.cons_append, List.cons_append, List.cons_lt_cons_iff]
      rcases Nat.lt_trichotomy x.toNat y.toNat with hxy | hxy | hxy
      · exact .inl hxy
      · refine .inr ⟨UInt8.toNat_inj.mp hxy, append_lt_of_bigEndian_lt hlen' ?_ r r'⟩
        rw [hxy] at h
        omega
      · have := Nat.mul_le_mul_right (256 ^ ys.length) (Nat.succ_le_of_lt hxy)
        rw [Nat.succ_mul] at this
        omega

theorem append_lt_append_left_iff (l : List UInt8) {a b : List UInt8} : l ++ a < l ++ b ↔ a < b := by
  induction l with
  | nil => rfl
  | cons x l ih => rw [List.cons_append, List.cons_append, List.cons_lt_cons_self, ih]

/-! ## UTF-8 keeps the order of characters -/

theorem toNat_lt_of_char (c : Char) : c.toNat < 0x110000 := by
  have := c.valid
  simp only [UInt32.isValidChar, Nat.isValidChar] at this
  show c.val.toNat < _
  omega

theorem length_utf8EncodeChar_le {c d : Char} (h : c < d) :
    (String.utf8EncodeChar c).length ≤ (String.utf8EncodeChar d).length := by
  have hv : c.val.toNat < d.val.toNat := h
  fun_cases String.utf8EncodeChar c <;> fun_cases String.utf8EncodeChar d <;>
    simp only [List.length_cons, List.length_nil] <;> omega

theorem utf8EncodeChar_append_lt_of_length_lt {c d : Char}
    (hlen : (String.utf8EncodeChar c).length < (String.utf8EncodeChar d).length)
    (r r' : List UInt8) : String.utf8EncodeChar c ++ r < String.utf8EncodeChar d ++ r' := by
  revert hlen
  -- one case for each pair of lengths; those that are not longer for `d` contradict `hlen`
  fun_cases String.utf8EncodeChar c <;> fun_cases String.utf8EncodeChar d <;>
    simp only [List.length_cons, List.length_nil] <;> intro hlen <;>
    refine List.cons_lt_cons_iff.mpr (.inl ?_) <;>
    rw [UInt8.lt_iff_toNat_lt, Utf8.toNat_ofNat_byte (by omega), Utf8.toNat_ofNat_byte (by omega)] <;>
    omega

/-- Within one length both encodings hold the characters' digits in base 64 behind the same
marker bits, so the smaller character reads as the smaller number. -/
theorem bigEndian_utf8EncodeChar_lt_of_length_eq {c d : Char} (h : c < d)
    (hlen : (String.utf8EncodeChar c).length = (String.utf8EncodeChar d).length) :
    bigEndian (String.utf8EncodeChar c) < bigEndian (String.utf8EncodeChar d) := by
  have hv : c.val.toNat < d.val.toNat := h
  have hd : d.val.toNat < 0x110000 := toNat_lt_of_char d
  -- the digits in base 64 are nested divisions, each at least as large for the larger character
  have hc64 : c.val.toNat / 64 / 64 = c.val.toNat / 4096 := Nat.div_div_eq_div_mul ..
  have hd64 : d.val.toNat / 64 / 64 = d.val.toNat / 4096 := Nat.div_div_eq_div_mul ..
  have hc4096 : c.val.toNat / 4096 / 64 = c.val.toNat / 262144 := Nat.div_div_eq_div_mul ..
  have hd4096 : d.val.toNat / 4096 / 64 = d.val.toNat / 262144 := Nat.div_div_eq_div_mul ..
  have hm64 := Nat.div_le_div_right (c := 64) (Nat.le_of_lt hv)
  have hm4096 := Nat.div_le_div_right (c := 4096) (Nat.le_of_lt hv)
  have hm262144 := Nat.div_le_div_right (c := 262144) (Nat.le_of_lt hv)
  have hc8 : c.val.toNat / 262144 % 8 = c.val.toNat / 262144 := Nat.mod_eq_of_lt (by omega)
  have hd8 : d.val.toNat / 262144 % 8 = d.val.toNat / 262144 := Nat.mod_eq_of_lt (by omega)
  simp only [String.utf8EncodeChar] at hlen ⊢
  revert hlen
  repeat' split
  all_goals
    intro hlen
    simp (disch := omega) only [bigEndian, List.length_cons, List.length_nil,
      Utf8.toNat_ofNat_byte, Nat.reducePow, Nat.reduceAdd] at hlen ⊢
    omega

theorem utf8EncodeChar_append_lt {c d : Char} (h : c < d) (r r' : List UInt8) :
    String.utf8EncodeChar c ++ r < String.utf8EncodeChar d ++ r' := by
  rcases Nat.lt_or_eq_of_le (length_utf8EncodeChar_le h) with hlen | hlen
  · exact utf8EncodeChar_append_lt_of_length_lt hlen r r'
  · exact append_lt_of_bigEndian_lt hlen (bigEndian_utf8EncodeChar_lt_of_length_eq h hlen) r r'

/-- Lists of characters compare as their UTF-8 bytes do. -/
theorem flatMap_utf8EncodeChar_lt_iff : ∀ l l' : List Char,
    l.flatMap String.utf8EncodeChar < l'.flatMap String.utf8EncodeChar ↔ l < l'
  | [], [] => by simp
  | [], d :: l' => by
      obtain ⟨b, bs, hb⟩ := List.exists_cons_of_ne_nil (String.utf8EncodeChar_ne_nil (c := d))
      simp [hb]
  | c :: l, [] => by simp
  | c :: l, d :: l' => by
      rw [List.flatMap_cons, List.flatMap_cons, List.cons_lt_cons_iff]
      rcases Nat.lt_trichotomy c.toNat d.toNat with h | h | h
      · exact iff_of_true (utf8EncodeChar_append_lt h _ _) (.inl h)
      · obtain rfl : c = d := Char.ext (UInt32.toNat_inj.mp h)
        rw [append_lt_append_left_iff, flatMap_utf8EncodeChar_lt_iff l l']
        exact ⟨fun h => .inr ⟨rfl, h⟩, fun h => h.elim (absurd · (Char.lt_irrefl c)) And.right⟩
      · refine iff_of_false (List.lt_asymm (utf8EncodeChar_append_lt h _ _)) ?_
        rintro (hcd | ⟨rfl, -⟩)
        · exact Nat.lt_asymm h hcd
        · exact Nat.lt_irrefl _ h

/-- Texts compare as their UTF-8 bytes do. -/
theorem utf8Bytes_lt_iff (s t : String) : utf8Bytes s < utf8Bytes t ↔ s < t := by
  rw [String.lt_iff]
  exact flatMap_utf8EncodeChar_lt_iff s.toList t.toList

end Text
end MemoryRecorder
