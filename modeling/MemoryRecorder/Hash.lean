/-!
# Content hashes

Rows of the store are keyed by a 64-bit FNV-1a hash of the fields that identify them. The
hash absorbs one byte at a time: exclusive or with the byte, then a wrapping product with the
FNV prime. Fields are written as bytes before they are absorbed: a word as its eight bytes
from the least significant up, a signed word as the unsigned word with the same bits, and a
text as its UTF-8 length as a word, followed by its UTF-8 bytes.

FNV-1a is characterised by its recurrence (`IsFnv1a`), which only `fnv1a` satisfies, and a hash
fed with fields is the FNV-1a hash of the concatenation of their encodings (`finish_eq_fnv1a`).
-/

namespace MemoryRecorder

def fnvOffsetBasis : UInt64 := 0xcbf29ce484222325

def fnvPrime : UInt64 := 0x100000001b3

def fnvAbsorb (h : UInt64) (b : UInt8) : UInt64 :=
  (h ^^^ b.toUInt64) * fnvPrime

def fnv1a (bs : List UInt8) : UInt64 :=
  bs.foldl fnvAbsorb fnvOffsetBasis

/-- What makes a hash of byte lists FNV-1a: no bytes hash to the offset basis, and a further byte
is absorbed into the hash of the bytes before it. -/
structure IsFnv1a (H : List UInt8 → UInt64) : Prop where
  nil : H [] = fnvOffsetBasis
  snoc : ∀ bs b, H (bs ++ [b]) = (H bs ^^^ b.toUInt64) * fnvPrime

theorem fnv1a_isFnv1a : IsFnv1a fnv1a :=
  ⟨rfl, fun bs b => by simp [fnv1a, fnvAbsorb, List.foldl_append]⟩

theorem IsFnv1a.append {H : List UInt8 → UInt64} (hH : IsFnv1a H) :
    ∀ (bs pre : List UInt8), H (pre ++ bs) = bs.foldl fnvAbsorb (H pre)
  | [], pre => by rw [List.append_nil, List.foldl_nil]
  | b :: bs, pre => by
      have hb : fnvAbsorb (H pre) b = H (pre ++ [b]) := (hH.snoc pre b).symm
      rw [List.foldl_cons, hb, ← IsFnv1a.append hH bs (pre ++ [b]), List.append_assoc,
        List.singleton_append]

/-- There is one FNV-1a hash. -/
theorem IsFnv1a.eq_fnv1a {H : List UInt8 → UInt64} (hH : IsFnv1a H) : H = fnv1a := by
  funext bs
  rw [← List.nil_append bs, hH.append bs [], hH.nil]
  rfl

def leBytes (x : UInt64) : List UInt8 :=
  (List.range 8).map fun i => (x >>> (8 * i).toUInt64).toUInt8

/-- A field fed to a content hash. -/
inductive HashField where
  | word (x : UInt64)
  | signed (x : Int64)
  | text (s : String)

namespace HashField

def encode : HashField → List UInt8
  | word x => leBytes x
  | signed x => leBytes x.toUInt64
  | text s => leBytes s.utf8ByteSize.toUInt64 ++ s.toUTF8.toList

end HashField

/-- A content hash being fed: the state after the bytes absorbed so far. -/
structure ContentHash where
  state : UInt64 := fnvOffsetBasis

namespace ContentHash

def bytes (h : ContentHash) (bs : List UInt8) : ContentHash :=
  ⟨bs.foldl fnvAbsorb h.state⟩

def field (h : ContentHash) (f : HashField) : ContentHash :=
  h.bytes f.encode

def u64 (h : ContentHash) (x : UInt64) : ContentHash :=
  h.field (.word x)

def i64 (h : ContentHash) (x : Int64) : ContentHash :=
  h.field (.signed x)

/-- Absorbs a text, its length first. -/
def str (h : ContentHash) (s : String) : ContentHash :=
  h.field (.text s)

def finish (h : ContentHash) : UInt64 :=
  h.state

def ofFields (fs : List HashField) : UInt64 :=
  (fs.foldl field {}).finish

theorem foldl_field_state (fs : List HashField) (h : ContentHash) :
    (fs.foldl field h).state = (fs.flatMap HashField.encode).foldl fnvAbsorb h.state := by
  induction fs generalizing h with
  | nil => rfl
  | cons f fs ih =>
      simp only [List.foldl_cons, List.flatMap_cons, List.foldl_append]
      exact ih _

/-- A hash fed with fields is the FNV-1a hash of the concatenation of their encodings, for any
hash with the FNV-1a recurrence. -/
theorem finish_eq_fnv1a {H : List UInt8 → UInt64} (hH : IsFnv1a H) (fs : List HashField) :
    ofFields fs = H (fs.flatMap HashField.encode) := by
  rw [hH.eq_fnv1a]
  exact foldl_field_state fs {}

end ContentHash

end MemoryRecorder
