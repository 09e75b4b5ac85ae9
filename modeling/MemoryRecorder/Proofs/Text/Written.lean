import MemoryRecorder.Text.Utf8
import MemoryRecorder.Text.Blank
import MemoryRecorder.Text.Numeral
/-!
# Reading back what is written

The readers of this library undo the writers a file's text comes from. The bytes of a text,
written as UTF-8, decode back to the text (`decodeLossy_utf8Bytes`), and a line feed is the only
character whose bytes hold the byte `10`. A number written in a base up to sixteen reads back as
its value (`unsignedValue?_toDigits`), words written one space apart read back as those words
(`words_intercalate`), and a text split at a character it holds once splits there
(`splitOnce_append`).
-/

namespace MemoryRecorder
namespace Text

/-- The UTF-8 bytes of a text, as a file holds them. -/
def utf8Bytes (s : String) : List UInt8 :=
  s.toList.flatMap String.utf8EncodeChar

@[simp]
theorem utf8Bytes_append (s u : String) : utf8Bytes (s ++ u) = utf8Bytes s ++ utf8Bytes u := by
  simp [utf8Bytes]

@[simp]
theorem utf8Bytes_eq_nil_iff {s : String} : utf8Bytes s = [] ↔ s = "" := by
  rw [← String.toList_eq_nil_iff, utf8Bytes, List.flatMap_eq_nil_iff]
  constructor
  · intro h
    cases hs : s.toList with
    | nil => rfl
    | cons c cs => exact absurd (h c (hs ▸ List.mem_cons_self)) String.utf8EncodeChar_ne_nil
  · intro h c hc
    simp [h] at hc

namespace Utf8

/-! ## UTF-8 -/

theorem toNat_ofNat_byte {n : Nat} (h : n < 256) : (UInt8.ofNat n).toNat = n := by
  simp [Nat.mod_eq_of_lt h]

theorem char_ofNat_eq {c : Char} {n : Nat} (h : n = c.toNat) : Char.ofNat n = c :=
  h ▸ Char.ofNat_toNat c

theorem opening_lead {n : Nat} (h : n < 256) (h1 : 0x80 ≤ n) :
    opening (UInt8.ofNat n) =
      if 0xC2 ≤ n ∧ n ≤ 0xDF then .inr ⟨n % 0x20, 1, 0x80, 0xBF⟩
      else if n = 0xE0 then .inr ⟨0, 2, 0xA0, 0xBF⟩
      else if n = 0xED then .inr ⟨0xD, 2, 0x80, 0x9F⟩
      else if 0xE1 ≤ n ∧ n ≤ 0xEF then .inr ⟨n % 0x10, 2, 0x80, 0xBF⟩
      else if n = 0xF0 then .inr ⟨0, 3, 0x90, 0xBF⟩
      else if n = 0xF4 then .inr ⟨4, 3, 0x80, 0x8F⟩
      else if 0xF1 ≤ n ∧ n ≤ 0xF3 then .inr ⟨n % 0x08, 3, 0x80, 0xBF⟩
      else .inl .bad := by
  rw [opening, toNat_ofNat_byte h, if_neg (by omega)]

theorem opening_three {n : Nat} (h1 : 0xE0 ≤ n) (h2 : n ≤ 0xEF) :
    ∃ p : Pending, opening (UInt8.ofNat n) = .inr p ∧ p.bits = n % 0x10 ∧ p.due = 2 ∧
      ∀ m, (n = 0xE0 → 0xA0 ≤ m) → (n = 0xED → m ≤ 0x9F) → 0x80 ≤ m → m ≤ 0xBF →
        p.lo.toNat ≤ m ∧ m ≤ p.hi.toNat := by
  rw [opening_lead (by omega) (by omega), if_neg (by omega)]
  by_cases hE0 : n = 0xE0
  · subst hE0
    exact ⟨_, rfl, rfl, rfl, fun m hlo _ _ hhi => ⟨by simp; omega, by simp; omega⟩⟩
  · by_cases hED : n = 0xED
    · subst hED
      exact ⟨_, rfl, rfl, rfl, fun m _ hhi hlo _ => ⟨by simp; omega, by simp; omega⟩⟩
    · rw [if_neg hE0, if_neg hED, if_pos (by omega)]
      exact ⟨_, rfl, rfl, rfl, fun m _ _ hlo hhi => ⟨by simp; omega, by simp; omega⟩⟩

theorem opening_four {n : Nat} (h1 : 0xF0 ≤ n) (h2 : n ≤ 0xF4) :
    ∃ p : Pending, opening (UInt8.ofNat n) = .inr p ∧ p.bits = n % 0x08 ∧ p.due = 3 ∧
      ∀ m, (n = 0xF0 → 0x90 ≤ m) → (n = 0xF4 → m ≤ 0x8F) → 0x80 ≤ m → m ≤ 0xBF →
        p.lo.toNat ≤ m ∧ m ≤ p.hi.toNat := by
  rw [opening_lead (by omega) (by omega), if_neg (by omega), if_neg (by omega),
    if_neg (by omega), if_neg (by omega)]
  by_cases hF0 : n = 0xF0
  · subst hF0
    exact ⟨_, rfl, rfl, rfl, fun m hlo _ _ hhi => ⟨by simp; omega, by simp; omega⟩⟩
  · by_cases hF4 : n = 0xF4
    · subst hF4
      exact ⟨_, rfl, rfl, rfl, fun m _ hhi hlo _ => ⟨by simp; omega, by simp; omega⟩⟩
    · rw [if_neg hF0, if_neg hF4, if_pos (by omega)]
      exact ⟨_, rfl, rfl, rfl, fun m _ _ hlo hhi => ⟨by simp; omega, by simp; omega⟩⟩

theorem scanFrom_open {b : UInt8} {p : Pending} (h : opening b = .inr p) (bs : List UInt8) :
    scanFrom none (b :: bs) = scanFrom (some p) bs := by
  simp [scanFrom, feed, h]

theorem scanFrom_cont {p : Pending} {n : Nat} (h : n < 256) (hlo : p.lo.toNat ≤ n)
    (hhi : n ≤ p.hi.toNat) (bs : List UInt8) :
    scanFrom (some p) (UInt8.ofNat n :: bs) =
      if p.due = 1 then .char (Char.ofNat (p.bits * 0x40 + n % 0x40)) :: scanFrom none bs
      else scanFrom (some ⟨p.bits * 0x40 + n % 0x40, p.due - 1, 0x80, 0xBF⟩) bs := by
  have hlo' : p.lo ≤ UInt8.ofNat n := by
    rw [UInt8.le_iff_toNat_le, toNat_ofNat_byte h]; exact hlo
  have hhi' : UInt8.ofNat n ≤ p.hi := by
    rw [UInt8.le_iff_toNat_le, toNat_ofNat_byte h]; exact hhi
  by_cases hd : p.due = 1 <;> simp [scanFrom, feed, hlo', hhi', hd, toNat_ofNat_byte h]

/-- The bytes of one character decode to that character. The cases are the four lengths of its
encoding; for three and four bytes the lead byte's special ranges hold because a character is
no surrogate and lies below `0x110000`. -/
theorem scanFrom_utf8EncodeChar (c : Char) (bs : List UInt8) :
    scanFrom none (String.utf8EncodeChar c ++ bs) = .char c :: scanFrom none bs := by
  have hv : c.toNat < 0xD800 ∨ (0xDFFF < c.toNat ∧ c.toNat < 0x110000) := c.valid
  unfold String.utf8EncodeChar
  simp only [Char.toNat_val]
  split
  · rename_i h1
    have hb : (UInt8.ofNat c.toNat).toNat < 0x80 := by rw [toNat_ofNat_byte (by omega)]; omega
    rw [List.cons_append, List.nil_append, scanFrom_ascii _ _ hb, toNat_ofNat_byte (by omega),
      Char.ofNat_toNat]
  · split
    · rename_i h1 h2
      rw [List.cons_append,
        scanFrom_open (by rw [opening_lead (by omega) (by omega), if_pos (by omega)]),
        List.cons_append, List.nil_append, scanFrom_cont (by omega) (by simp) (by simp; omega)]
      rw [if_pos rfl, char_ofNat_eq (c := c) (by dsimp only; omega)]
    · split
      · rename_i h1 h2 h3
        obtain ⟨p, hp, hbits, hdue, hrange⟩ :=
          opening_three (n := c.toNat / 4096 % 0x10 + 0xE0) (by omega) (by omega)
        have hr := hrange (c.toNat / 64 % 0x40 + 0x80) (by omega) (by omega) (by omega) (by omega)
        rw [List.cons_append, scanFrom_open hp, List.cons_append,
          scanFrom_cont (by omega) hr.1 hr.2, if_neg (by omega), List.cons_append,
          List.nil_append, scanFrom_cont (by omega) (by simp) (by simp; omega)]
        rw [if_pos (by simp [hdue]), char_ofNat_eq (c := c) (by dsimp only; omega)]
      · rename_i h1 h2 h3
        obtain ⟨p, hp, hbits, hdue, hrange⟩ :=
          opening_four (n := c.toNat / 262144 % 0x08 + 0xF0) (by omega) (by omega)
        have hr := hrange (c.toNat / 4096 % 0x40 + 0x80) (by omega) (by omega) (by omega) (by omega)
        rw [List.cons_append, scanFrom_open hp, List.cons_append,
          scanFrom_cont (by omega) hr.1 hr.2, if_neg (by omega), List.cons_append,
          scanFrom_cont (by omega) (by simp) (by simp; omega), if_neg (by simp; omega),
          List.cons_append, List.nil_append, scanFrom_cont (by omega) (by simp) (by simp; omega)]
        rw [if_pos (by simp [hdue]), char_ofNat_eq (c := c) (by dsimp only; omega)]

theorem scan_flatMap_utf8EncodeChar (cs : List Char) :
    scan (cs.flatMap String.utf8EncodeChar) = cs.map .char := by
  induction cs with
  | nil => rfl
  | cons c cs ih => rw [List.flatMap_cons, scan, scanFrom_utf8EncodeChar, ← scan, ih]; rfl

/-- The bytes of a text decode back to the text, with nothing replaced. -/
theorem decodeLossy_utf8Bytes (s : String) : decodeLossy (utf8Bytes s) = s := by
  simp [decodeLossy, utf8Bytes, scan_flatMap_utf8EncodeChar, Function.comp_def]

theorem charsOf?_map_char (cs : List Char) : charsOf? (cs.map .char) = some cs := by
  induction cs with
  | nil => rfl
  | cons c cs ih => simp [charsOf?, ih]

theorem decode?_utf8Bytes (s : String) : decode? (utf8Bytes s) = some s := by
  simp [decode?, utf8Bytes, scan_flatMap_utf8EncodeChar, charsOf?_map_char]

theorem toNat_of_mem_utf8EncodeChar {c : Char} {b : UInt8} (h : b ∈ String.utf8EncodeChar c) :
    b.toNat = c.toNat ∨ 0x80 ≤ b.toNat := by
  have hv : c.toNat < 0x110000 := by
    have := c.valid
    simp only [UInt32.isValidChar, Nat.isValidChar] at this
    show c.val.toNat < _
    omega
  unfold String.utf8EncodeChar at h
  simp only [Char.toNat_val] at h
  split at h
  · simp only [List.mem_singleton] at h
    subst h
    left
    exact toNat_ofNat_byte (by omega)
  · right
    split at h
    · simp only [List.mem_cons, List.not_mem_nil, or_false] at h
      rcases h with rfl | rfl <;> rw [toNat_ofNat_byte (by omega)] <;> omega
    · split at h
      · simp only [List.mem_cons, List.not_mem_nil, or_false] at h
        rcases h with rfl | rfl | rfl <;> rw [toNat_ofNat_byte (by omega)] <;> omega
      · simp only [List.mem_cons, List.not_mem_nil, or_false] at h
        rcases h with rfl | rfl | rfl | rfl <;> rw [toNat_ofNat_byte (by omega)] <;> omega

end Utf8

theorem lf_not_mem_utf8Bytes {s : String} (h : '\n' ∉ s.toList) : (10 : UInt8) ∉ utf8Bytes s := by
  intro hmem
  obtain ⟨c, hc, hb⟩ := List.mem_flatMap.1 hmem
  rcases Utf8.toNat_of_mem_utf8EncodeChar hb with h10 | h10
  · have : c = '\n' := Utf8.char_ofNat_eq (c := c) (by simpa using h10) ▸ rfl
    exact h (this ▸ hc)
  · simp at h10

theorem utf8Bytes_lf : utf8Bytes "\n" = [10] := rfl

/-! ## Numerals -/

theorem digitValue?_digitChar {radix d : Nat} (hd : d < radix) (hr : radix ≤ 16) :
    digitValue? radix (Nat.digitChar d) = some d := by
  -- the sixteen digits are read by the same three ranges `digitValue?` tries
  have hv : ∀ k < 16,
      (if '0' ≤ Nat.digitChar k ∧ Nat.digitChar k ≤ '9' then
          some ((Nat.digitChar k).toNat - '0'.toNat)
        else if 'a' ≤ Nat.digitChar k ∧ Nat.digitChar k ≤ 'z' then
          some ((Nat.digitChar k).toNat - 'a'.toNat + 10)
        else if 'A' ≤ Nat.digitChar k ∧ Nat.digitChar k ≤ 'Z' then
          some ((Nat.digitChar k).toNat - 'A'.toNat + 10)
        else none) = some k := by
    decide
  unfold digitValue?
  rw [hv d (by omega)]
  simp [hd]

theorem digitsValueFrom?_toDigits {radix : Nat} (h1 : 1 < radix) (h2 : radix ≤ 16) (n : Nat) :
    digitsValueFrom? radix 0 (Nat.toDigits radix n) = some n := by
  induction n using Nat.base_induction radix h1 with
  | single m hm =>
      rw [Nat.toDigits_of_lt_base hm]
      simp [digitsValueFrom?, digitValue?_digitChar hm h2]
  | digit m k hk hm ih =>
      rw [← Nat.toDigits_append_toDigits h1 hm hk, digitsValueFrom?_append, ih,
        Nat.toDigits_of_lt_base hk]
      simp [digitsValueFrom?, digitValue?_digitChar hk h2, Nat.mul_comm]

theorem digitChar_of_mem_toDigits {radix : Nat} (h1 : 1 < radix) {n : Nat} {c : Char}
    (hc : c ∈ Nat.toDigits radix n) : ∃ d < radix, c = Nat.digitChar d := by
  induction n using Nat.base_induction radix h1 with
  | single m hm =>
      rw [Nat.toDigits_of_lt_base hm, List.mem_singleton] at hc
      exact ⟨m, hm, hc⟩
  | digit m k hk hm ih =>
      rw [← Nat.toDigits_append_toDigits h1 hm hk, List.mem_append,
        Nat.toDigits_of_lt_base hk, List.mem_singleton] at hc
      rcases hc with hc | hc
      · exact ih hc
      · exact ⟨k, hk, hc⟩

/-- A number written in a base up to sixteen reads back as its value. -/
theorem unsignedValue?_toDigits {radix : Nat} (h1 : 1 < radix) (h2 : radix ≤ 16) (n : Nat) :
    unsignedValue? radix (String.ofList (Nat.toDigits radix n)) = some n := by
  have hplus : '+' ∉ Nat.toDigits radix n := by
    intro h
    obtain ⟨d, hd, hc⟩ := digitChar_of_mem_toDigits h1 h
    have : ∀ k < 16, Nat.digitChar k ≠ '+' := by decide
    exact this d (by omega) hc.symm
  unfold unsignedValue?
  rw [String.toList_ofList]
  split
  · rename_i cs hcs
    exact absurd (hcs ▸ List.mem_cons_self) hplus
  · simp [digitsValue?, digitsValueFrom?_toDigits h1 h2]

theorem u64?_toString (n : UInt64) : u64? (toString n) = some n := by
  have h := unsignedValue?_toDigits (by decide : 1 < 10) (by decide) n.toNat
  simp only [u64?, show toString n = String.ofList (Nat.toDigits 10 n.toNat) from rfl, h]
  simp [n.toNat_lt_size]

theorem hexU64?_toDigits (n : UInt64) :
    hexU64? (String.ofList (Nat.toDigits 16 n.toNat)) = some n := by
  simp [hexU64?, unsignedValue?_toDigits (by decide : 1 < 16) (by decide), n.toNat_lt_size]

/-! ## Words -/

theorem wordsFrom_append_of_not_blank {w : List Char} (hw : ∀ c ∈ w, isBlank c = false)
    (acc rest : List Char) : wordsFrom acc (w ++ rest) = wordsFrom (w.reverse ++ acc) rest := by
  induction w generalizing acc with
  | nil => rfl
  | cons c cs ih =>
      have hc : isBlank c = false := hw c List.mem_cons_self
      rw [List.cons_append, wordsFrom, if_neg (by simp [hc]),
        ih (fun d hd => hw d (List.mem_cons_of_mem c hd))]
      simp

theorem wordsFrom_intercalate {ws : List (List Char)}
    (h : ∀ w ∈ ws, w ≠ [] ∧ ∀ c ∈ w, isBlank c = false) :
    wordsFrom [] ([' '].intercalate ws) = ws := by
  induction ws with
  | nil => rfl
  | cons w rest ih =>
      have hw := h w List.mem_cons_self
      have hrest := ih (fun v hv => h v (List.mem_cons_of_mem w hv))
      cases rest with
      | nil =>
          rw [List.intercalate_singleton, ← List.append_nil w,
            wordsFrom_append_of_not_blank hw.2]
          simp [wordsFrom, hw.1]
      | cons v vs =>
          rw [List.intercalate_cons_cons, List.append_assoc, wordsFrom_append_of_not_blank hw.2,
            List.singleton_append, wordsFrom, if_pos (by decide)]
          simp [hw.1, hrest]

/-- Words written one space apart read back as those words. -/
theorem words_intercalate {ws : List String}
    (h : ∀ w ∈ ws, w ≠ "" ∧ ∀ c ∈ w.toList, isBlank c = false) :
    words (" ".intercalate ws) = ws := by
  have hl : ∀ w ∈ ws.map String.toList, w ≠ [] ∧ ∀ c ∈ w, isBlank c = false := by
    intro w hw
    obtain ⟨s, hs, rfl⟩ := List.mem_map.1 hw
    exact ⟨by simpa using (h s hs).1, (h s hs).2⟩
  have hsp : (" " : String).toList = [' '] := rfl
  rw [words, String.toList_intercalate, hsp, wordsFrom_intercalate hl]
  simp

/-- A text splits at the first occurrence of a character that its front does not hold. -/
theorem splitOnce_append {c : Char} {a b : String} (ha : c ∉ a.toList) :
    splitOnce c (a ++ String.singleton c ++ b) = some (a, b) := by
  have key : ∀ xs : List Char, c ∉ xs →
      (xs ++ c :: b.toList).takeWhile (fun x => decide (x ≠ c)) = xs ∧
        ((xs ++ c :: b.toList).dropWhile (fun x => decide (x ≠ c))).drop 1 = b.toList := by
    intro xs hxs
    induction xs with
    | nil => simp
    | cons x xs ih =>
        have hx : decide (x ≠ c) = true := decide_eq_true fun hx => hxs (hx ▸ List.mem_cons_self)
        obtain ⟨h1, h2⟩ := ih (fun hm => hxs (List.mem_cons_of_mem x hm))
        rw [List.cons_append, List.takeWhile_cons_of_pos (p := fun x => decide (x ≠ c)) hx,
          List.dropWhile_cons_of_pos (p := fun x => decide (x ≠ c)) hx, h1, h2]
        exact ⟨rfl, rfl⟩
  obtain ⟨h1, h2⟩ := key a.toList ha
  have hcs : (a ++ String.singleton c ++ b).toList = a.toList ++ c :: b.toList := by simp
  unfold splitOnce
  rw [hcs, if_pos (by simp), h1, h2]
  simp

end Text
end MemoryRecorder
