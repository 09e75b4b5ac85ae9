import Mathlib
import MemoryRecorder.Store.Write
import MemoryRecorder.Proofs.Text.ByteOrder
/-!
# Row ids are content keys

Every row of the store is keyed by a content hash: a process by its pid and start time, a mapping
by its process' hash, its range, permission and name, a measurement by its process' hash and its
time. A content hash is the FNV-1a hash of the bytes its fields are written as (`finish_eq_fnv1a`).

This module shows that the writing loses nothing. A word is written as its eight bytes from the
least significant up, a signed word as the word with the same bits, a text as its length and then
its UTF-8 bytes. Each field of a known kind therefore says where it ends, so two lists of fields of
one kind pattern that are written alike are the same fields (`message_injective`): the texts
`"ab"` and `"c"` are not written as `"a"` and `"bc"` are.

Hence two processes, two mappings or two measurements share a row id only when FNV-1a maps two
different messages to one hash, and never because fields run into each other
(`rowIds_collide_only_through_fnv`).
-/

namespace MemoryRecorder

/-! ## Words as bytes -/

theorem length_leBytes (x : UInt64) : (leBytes x).length = 8 := rfl

theorem toNat_leByte (x : UInt64) (i : Nat) (hi : i < 8) :
    ((x >>> (8 * i).toUInt64).toUInt8).toNat = x.toNat / 256 ^ i % 256 := by
  rw [UInt64.toNat_toUInt8, UInt64.toNat_shiftRight]
  have h : (8 * i).toUInt64.toNat % 64 = 8 * i := by
    simp only [Nat.toUInt64_eq, UInt64.toNat_ofNat']
    omega
  rw [h, Nat.shiftRight_eq_div_pow, Nat.pow_mul]

theorem leBytes_digits (x : UInt64) :
    (leBytes x).map UInt8.toNat = (List.range 8).map fun i => x.toNat / 256 ^ i % 256 := by
  simp only [leBytes, List.map_map]
  apply List.map_congr_left
  intro i hi
  exact toNat_leByte x i (List.mem_range.mp hi)

theorem eq_of_digits256 (n : Nat) {a b : Nat} (ha : a < 256 ^ n) (hb : b < 256 ^ n)
    (h : ∀ i < n, a / 256 ^ i % 256 = b / 256 ^ i % 256) : a = b := by
  induction n generalizing a b with
  | zero => simp at ha hb; omega
  | succ n ih =>
      have hlow : a % 256 = b % 256 := by simpa using h 0 (by omega)
      -- the higher digits are the digits of the quotients by 256
      have hhigh : a / 256 = b / 256 := by
        refine ih (by rw [Nat.pow_succ] at ha; omega) (by rw [Nat.pow_succ] at hb; omega)
          fun i hi => ?_
        have := h (i + 1) (by omega)
        rwa [Nat.pow_succ', ← Nat.div_div_eq_div_mul, ← Nat.div_div_eq_div_mul] at this
      omega

theorem leBytes_injective {x y : UInt64} (h : leBytes x = leBytes y) : x = y := by
  have hdigit : ∀ i < 8, x.toNat / 256 ^ i % 256 = y.toNat / 256 ^ i % 256 := by
    intro i hi
    have := congrArg (fun l => (l[i]?).map UInt8.toNat) h
    simp only [leBytes, List.getElem?_map, List.getElem?_range hi, Option.map_some] at this
    rw [← toNat_leByte x i hi, ← toNat_leByte y i hi]
    exact Option.some.inj this
  exact UInt64.toNat_inj.mp (eq_of_digits256 8 x.toNat_lt y.toNat_lt hdigit)

theorem toUInt64_eq_ofInt (x : Int64) : x.toUInt64 = UInt64.ofInt x.toInt := by
  apply UInt64.toBitVec_inj.mp
  rw [Int64.toBitVec_toUInt64, ← BitVec.ofInt_int64ToInt x]
  apply BitVec.eq_of_toNat_eq
  rw [BitVec.toNat_ofInt, UInt64.ofInt, UInt64.toNat_toBitVec, UInt64.toNat_ofNat']
  omega

namespace HashField

/-! ## Fields as bytes -/

inductive Kind where
  | word
  | signed
  | text
  deriving DecidableEq, Repr

def kind : HashField → Kind
  | word _ => .word
  | signed _ => .signed
  | text _ => .text

/-- A field as it can be fed: the length of a text in bytes is a word, as the length written
before it has to be. -/
def Fits : HashField → Prop
  | text s => s.utf8ByteSize < UInt64.size
  | _ => True

/-- The bytes a list of fields is written as, one field after another. -/
def message (fs : List HashField) : List UInt8 :=
  fs.flatMap encode

@[simp] theorem message_nil : message [] = [] := rfl

@[simp] theorem message_cons (f : HashField) (fs : List HashField) :
    message (f :: fs) = f.encode ++ message fs := rfl

theorem encode_text (s : String) :
    (text s).encode = leBytes s.utf8ByteSize.toUInt64 ++ Text.utf8Bytes s := by
  rw [encode, Text.toList_toUTF8]

theorem utf8ByteSize_eq_of_toUInt64 {s t : String} (hs : s.utf8ByteSize < UInt64.size)
    (ht : t.utf8ByteSize < UInt64.size) (h : s.utf8ByteSize.toUInt64 = t.utf8ByteSize.toUInt64) :
    s.utf8ByteSize = t.utf8ByteSize := by
  have := congrArg UInt64.toNat h
  simp only [Nat.toUInt64_eq, UInt64.toNat_ofNat'] at this
  have hsize : UInt64.size = 2 ^ 64 := rfl
  omega

/-- Where a field ends is known from its kind: a word or a signed word takes eight bytes, a text
as many as its length says. So two fields of one kind that start two byte lists alike are one
field, and what follows them is alike too. -/
theorem encode_append_inj {f g : HashField} (hk : f.kind = g.kind) (hf : f.Fits) (hg : g.Fits)
    {r r' : List UInt8} (h : f.encode ++ r = g.encode ++ r') : f = g ∧ r = r' := by
  match f, g with
  | word x, word y =>
      obtain ⟨hxy, hr⟩ := List.append_inj h rfl
      exact ⟨congrArg word (leBytes_injective hxy), hr⟩
  | signed x, signed y =>
      obtain ⟨hxy, hr⟩ := List.append_inj h rfl
      have hbits : x.toUInt64 = y.toUInt64 := leBytes_injective hxy
      exact ⟨congrArg signed (by simpa using congrArg UInt64.toInt64 hbits), hr⟩
  | text s, text t =>
      rw [encode_text, encode_text, List.append_assoc, List.append_assoc] at h
      obtain ⟨hlen, hrest⟩ := List.append_inj h rfl
      -- the length written first says how many bytes the text takes
      have hsize := utf8ByteSize_eq_of_toUInt64 hf hg (leBytes_injective hlen)
      obtain ⟨hst, hr⟩ := List.append_inj hrest
        (by rw [Text.length_utf8Bytes, Text.length_utf8Bytes, hsize])
      exact ⟨congrArg text (Text.utf8Bytes_injective hst), hr⟩
  | word _, signed _ | word _, text _ | signed _, word _ | signed _, text _
  | text _, word _ | text _, signed _ => nomatch hk

/-- Lists of fields of one kind pattern that are written alike are the same fields. -/
theorem message_injective : ∀ {fs gs : List HashField}, fs.map kind = gs.map kind →
    (∀ f ∈ fs, f.Fits) → (∀ g ∈ gs, g.Fits) → message fs = message gs → fs = gs
  | [], [], _, _, _, _ => rfl
  | [], _ :: _, hk, _, _, _ => by simp at hk
  | _ :: _, [], hk, _, _, _ => by simp at hk
  | f :: fs, g :: gs, hk, hf, hg, h => by
      simp only [List.map_cons, List.cons.injEq] at hk
      rw [message_cons, message_cons] at h
      obtain ⟨rfl, hrest⟩ := encode_append_inj hk.1 (hf f (by simp)) (hg g (by simp)) h
      rw [message_injective hk.2 (fun f' hf' => hf f' (by simp [hf']))
        (fun g' hg' => hg g' (by simp [hg'])) hrest]

end HashField

def FnvCollision (bs bs' : List UInt8) : Prop :=
  bs ≠ bs' ∧ fnv1a bs = fnv1a bs'

namespace ContentHash

theorem ofFields_eq_fnv1a_message (fs : List HashField) :
    ofFields fs = fnv1a (HashField.message fs) :=
  finish_eq_fnv1a fnv1a_isFnv1a fs

/-- Fields of one kind pattern hashed alike are the same fields, or FNV-1a maps their two
messages to one hash. -/
theorem ofFields_collision {fs gs : List HashField} (hk : fs.map HashField.kind = gs.map HashField.kind)
    (hf : ∀ f ∈ fs, f.Fits) (hg : ∀ g ∈ gs, g.Fits) (h : ofFields fs = ofFields gs) :
    fs = gs ∨ FnvCollision (HashField.message fs) (HashField.message gs) := by
  by_cases hm : HashField.message fs = HashField.message gs
  · exact .inl (HashField.message_injective hk hf hg hm)
  · rw [ofFields_eq_fnv1a_message, ofFields_eq_fnv1a_message] at h
    exact .inr ⟨hm, h⟩

end ContentHash

/-! ## The keys of the store -/

namespace ProcessId

def hashFields (p : ProcessId) : List HashField :=
  [.signed p.pid.toInt64, .word p.startTime]

theorem hash_eq_ofFields (p : ProcessId) : p.hash = ContentHash.ofFields p.hashFields := rfl

theorem hashFields_injective {p q : ProcessId} (h : p.hashFields = q.hashFields) : p = q := by
  simp only [hashFields, List.cons.injEq, HashField.signed.injEq, HashField.word.injEq,
    and_true] at h
  have hpid := congrArg Int64.toInt h.1
  simp only [Int32.toInt_toInt64] at hpid
  cases p
  cases q
  simp only [mk.injEq]
  exact ⟨Int32.toInt_inj.mp hpid, h.2⟩

/-- Two processes share a hash only through FNV-1a: their messages differ and hash alike. -/
theorem hash_collision {p q : ProcessId} (hne : p ≠ q) (h : p.hash = q.hash) :
    FnvCollision (HashField.message p.hashFields) (HashField.message q.hashFields) := by
  rw [hash_eq_ofFields, hash_eq_ofFields] at h
  have hk : p.hashFields.map HashField.kind = q.hashFields.map HashField.kind := by
    simp only [hashFields, List.map_cons, List.map_nil, HashField.kind]
  rcases ContentHash.ofFields_collision hk (by simp [hashFields, HashField.Fits])
    (by simp [hashFields, HashField.Fits]) h with heq | hc
  · exact absurd (hashFields_injective heq) hne
  · exact hc

end ProcessId

namespace RangeKey

def hashFields (k : RangeKey) : List HashField :=
  [.word k.process.hash, .word k.lo, .word k.hi, .text k.permission, .text k.name]

theorem hash_eq_ofFields (k : RangeKey) : k.hash = ContentHash.ofFields k.hashFields := rfl

theorem eq_of_hashFields {k k' : RangeKey} (h : k.hashFields = k'.hashFields)
    (hp : k.process = k'.process) : k = k' := by
  simp only [hashFields, List.cons.injEq, HashField.word.injEq, HashField.text.injEq,
    and_true] at h
  cases k
  cases k'
  simp only [mk.injEq]
  exact ⟨hp, h.2.1, h.2.2.1, h.2.2.2.1, h.2.2.2.2⟩

/-- Two mappings share a hash only through FNV-1a: either their own messages differ and hash
alike, or their processes differ and the messages of those hash alike. -/
theorem hash_collision {k k' : RangeKey} (hk : ∀ f ∈ k.hashFields, f.Fits)
    (hk' : ∀ f ∈ k'.hashFields, f.Fits) (hne : k ≠ k') (h : k.hash = k'.hash) :
    FnvCollision (HashField.message k.hashFields) (HashField.message k'.hashFields) ∨
      FnvCollision (HashField.message k.process.hashFields)
        (HashField.message k'.process.hashFields) := by
  rw [hash_eq_ofFields, hash_eq_ofFields] at h
  have hkind : k.hashFields.map HashField.kind = k'.hashFields.map HashField.kind := by
    simp only [hashFields, List.map_cons, List.map_nil, HashField.kind]
  rcases ContentHash.ofFields_collision hkind hk hk' h with heq | hc
  · -- the same fields: the processes differ, yet their hashes are one field
    have hp : k.process ≠ k'.process := fun hp => hne (eq_of_hashFields heq hp)
    have hph : k.process.hash = k'.process.hash := by
      simp only [hashFields, List.cons.injEq, HashField.word.injEq] at heq
      exact heq.1
    exact .inr (ProcessId.hash_collision hp hph)
  · exact .inl hc

end RangeKey

namespace Store

def measurementFields (p : ProcessId) (t : Millis) : List HashField :=
  [.word p.hash, .signed t]

theorem measurementId_eq_ofFields (p : ProcessId) (t : Millis) :
    measurementId p t = (ContentHash.ofFields (measurementFields p t)).toInt64 := rfl

/-- Two measurements share an id only through FNV-1a: either their own messages differ and hash
alike, or their processes differ and the messages of those hash alike. -/
theorem measurementId_collision {p q : ProcessId} {t u : Millis} (hne : (p, t) ≠ (q, u))
    (h : measurementId p t = measurementId q u) :
    FnvCollision (HashField.message (measurementFields p t))
        (HashField.message (measurementFields q u)) ∨
      FnvCollision (HashField.message p.hashFields) (HashField.message q.hashFields) := by
  -- the id is the hash read as a signed word, which keeps every bit
  rw [measurementId_eq_ofFields, measurementId_eq_ofFields] at h
  have hword : ContentHash.ofFields (measurementFields p t) =
      ContentHash.ofFields (measurementFields q u) := by
    simpa using congrArg Int64.toUInt64 h
  have hk : (measurementFields p t).map HashField.kind =
      (measurementFields q u).map HashField.kind := by
    simp only [measurementFields, List.map_cons, List.map_nil, HashField.kind]
  rcases ContentHash.ofFields_collision hk (by simp [measurementFields, HashField.Fits])
    (by simp [measurementFields, HashField.Fits]) hword with heq | hc
  · simp only [measurementFields, List.cons.injEq, HashField.word.injEq, HashField.signed.injEq,
      and_true] at heq
    have hp : p ≠ q := fun hp => hne (by rw [hp, heq.2])
    exact .inr (ProcessId.hash_collision hp heq.1)
  · exact .inl hc

end Store

/-- Row ids are content keys up to FNV-1a. A content hash fed with fields is the FNV-1a hash of
their bytes, one field after another: a word as its digits in base 256 from the least
significant up, a signed word as the word congruent to it modulo `2 ^ 64`, a text as its length
and then its UTF-8 bytes. Fields of one kind pattern written alike are the same fields, texts
whose lengths are words. So two different processes, mappings or measurements share a row id
only when FNV-1a maps two different messages, theirs or their processes', to one hash. -/
theorem rowIds_collide_only_through_fnv :
    (∀ fs, ContentHash.ofFields fs = fnv1a (HashField.message fs)) ∧
    (∀ x : UInt64, (HashField.word x).encode.map UInt8.toNat =
      (List.range 8).map fun i => x.toNat / 256 ^ i % 256) ∧
    (∀ x : Int64, (HashField.signed x).encode = (HashField.word (UInt64.ofInt x.toInt)).encode) ∧
    (∀ s : String, (HashField.text s).encode =
      (HashField.word s.utf8ByteSize.toUInt64).encode ++ Text.utf8Bytes s) ∧
    (∀ fs gs : List HashField, fs.map HashField.kind = gs.map HashField.kind →
      (∀ f ∈ fs, f.Fits) → (∀ g ∈ gs, g.Fits) →
      HashField.message fs = HashField.message gs → fs = gs) ∧
    (∀ p q : ProcessId, p ≠ q → p.hash = q.hash →
      FnvCollision (HashField.message p.hashFields) (HashField.message q.hashFields)) ∧
    (∀ k k' : RangeKey, (∀ f ∈ k.hashFields, f.Fits) → (∀ f ∈ k'.hashFields, f.Fits) →
      k ≠ k' → k.hash = k'.hash →
      FnvCollision (HashField.message k.hashFields) (HashField.message k'.hashFields) ∨
        FnvCollision (HashField.message k.process.hashFields)
          (HashField.message k'.process.hashFields)) ∧
    (∀ (p q : ProcessId) (t u : Millis), (p, t) ≠ (q, u) →
      Store.measurementId p t = Store.measurementId q u →
      FnvCollision (HashField.message (Store.measurementFields p t))
          (HashField.message (Store.measurementFields q u)) ∨
        FnvCollision (HashField.message p.hashFields) (HashField.message q.hashFields)) :=
  ⟨ContentHash.ofFields_eq_fnv1a_message, leBytes_digits,
    fun x => by rw [HashField.encode, HashField.encode, toUInt64_eq_ofInt],
    HashField.encode_text,
    fun _ _ hk hf hg h => HashField.message_injective hk hf hg h,
    fun _ _ hne h => ProcessId.hash_collision hne h,
    fun _ _ hk hk' hne h => RangeKey.hash_collision hk hk' hne h,
    fun _ _ _ _ hne h => Store.measurementId_collision hne h⟩

/-- The texts `"ab"` and `"c"` are written apart from `"a"` and `"bc"`: the lengths in front of
them tell where each ends. -/
theorem rowIds_collide_only_through_fnv_length_prefix :
    HashField.message [.text "ab", .text "c"] ≠ HashField.message [.text "a", .text "bc"] := by
  intro h
  have hfits : ∀ s : String, s.utf8ByteSize < 3 → (HashField.text s).Fits := fun s hs => by
    show s.utf8ByteSize < UInt64.size
    exact Nat.lt_trans hs (by decide)
  have := rowIds_collide_only_through_fnv.2.2.2.2.1 [.text "ab", .text "c"]
    [.text "a", .text "bc"] rfl
    (by simp only [List.mem_cons, List.not_mem_nil, or_false, forall_eq_or_imp, forall_eq]
        exact ⟨hfits _ (by decide), hfits _ (by decide)⟩)
    (by simp only [List.mem_cons, List.not_mem_nil, or_false, forall_eq_or_imp, forall_eq]
        exact ⟨hfits _ (by decide), hfits _ (by decide)⟩) h
  simp at this

end MemoryRecorder
