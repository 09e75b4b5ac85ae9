import Mathlib.Data.List.DropRight
import MemoryRecorder.Process.Watcher
import MemoryRecorder.Proofs.Text.Written
/-!
# Reading back a written mapping list

A mapping list is written block by block: a header that names the range, its permissions,
offset, device, inode and path, then body lines among which stand the sizes, then a closing line
keyed by the terminator. This module states when such a text is read back exactly:
`loadSmapsSnapshot_render` says that blocks that meet `Block.Listed`, written one after another,
load as the snapshot of their mappings, in order.

Reading takes two passes over the same lines, and they must agree. The terminator is learned
from the last line read (`terminatorOf_render`), and the blocks are scanned with it
(`blocks_render`). Both see the written lines with their line ends dropped
(`readLines_intercalate`), because every line is decoded from its own bytes and reading stops
only at a line left empty. A body line made of carriage returns alone is left empty, so it ends
the reading early and the blocks after it are lost (`loadSmapsSnapshot_bare_return`): the main
statement asks every body line for another character.
-/

namespace MemoryRecorder
namespace Smaps

open Text

def IsWord (s : String) : Prop :=
  s ≠ "" ∧ ∀ c ∈ s.toList, isBlank c = false

theorem isWord_iff_all (s : String) :
    IsWord s ↔ s ≠ "" ∧ s.toList.all (fun c => !isBlank c) = true := by
  simp [IsWord, List.all_eq_true]

/-- A word is checked character by character, through the list of its characters: a decision
over every character would enumerate them all. -/
instance : DecidablePred IsWord := fun s => decidable_of_iff _ (isWord_iff_all s).symm

def IsKey (t : String) : Prop :=
  IsWord t ∧ ':' ∉ t.toList

instance : DecidablePred IsKey := fun t => inferInstanceAs (Decidable (IsWord t ∧ ':' ∉ t.toList))

def sizeLine (key : String) (v : UInt64) : String :=
  key ++ " " ++ toString v ++ " kB"

/-- A block of a mapping list as it is written: the fields of its header, its sizes, its body
lines in order and the flags of its closing line. -/
structure Block where
  lo : UInt64
  hi : UInt64
  permission : String
  offset : String
  dev : String
  inode : String
  name : String
  rss : UInt64
  pss : UInt64
  body : List String
  flags : String

namespace Block

def hex (n : UInt64) : String :=
  String.ofList (Nat.toDigits 16 n.toNat)

def headerWords (b : Block) : List String :=
  [hex b.lo ++ "-" ++ hex b.hi, b.permission, b.offset, b.dev, b.inode] ++
    (if b.name = "" then [] else [b.name])

def header (b : Block) : String :=
  " ".intercalate b.headerWords

def closing (t : String) (b : Block) : String :=
  t ++ ": " ++ b.flags

def lines (t : String) (b : Block) : List String :=
  b.header :: b.body ++ [b.closing t]

def mapping (p : ProcessId) (b : Block) : Mapping :=
  ⟨⟨p, b.lo, b.hi, b.permission, b.name⟩, b.rss, b.pss⟩

/-- What a block must be to be read back with the terminator key `t`: a forward range; words
for the permissions, offset, device and inode; a name of one word or none; exactly one `Rss:`
and one `Pss:` line among the body lines, each with the block's size; body lines that are not
empty, hold no line feed and do not start with the terminator; and flags that are not empty and
hold neither a colon nor a line feed. -/
structure Listed (t : String) (b : Block) : Prop where
  lo_lt_hi : b.lo < b.hi
  permission : IsWord b.permission
  offset : IsWord b.offset
  dev : IsWord b.dev
  inode : IsWord b.inode
  name : b.name = "" ∨ IsWord b.name
  rss : b.body.filter (·.startsWith "Rss:") = [sizeLine "Rss:" b.rss]
  pss : b.body.filter (·.startsWith "Pss:") = [sizeLine "Pss:" b.pss]
  body : ∀ l ∈ b.body, l ≠ "" ∧ '\n' ∉ l.toList ∧ l.startsWith t = false
  flags : b.flags ≠ "" ∧ ':' ∉ b.flags.toList ∧ '\n' ∉ b.flags.toList

end Block

/-- A mapping list: the lines of its blocks, one line feed between two lines. -/
def render (t : String) (bs : List Block) : String :=
  "\n".intercalate (bs.flatMap (·.lines t))

/-! ## Lines -/

theorem chunks_lf (bs : List UInt8) : chunks (10 :: bs) = [] :: chunks bs := by
  cases h : chunks bs <;> simp [chunks, h]

theorem chunks_append_lf {a : List UInt8} (ha : 10 ∉ a) (bs : List UInt8) :
    chunks (a ++ 10 :: bs) = a :: chunks bs := by
  induction a with
  | nil => exact chunks_lf bs
  | cons x a ih =>
      have hx : x ≠ 10 := fun h => ha (h ▸ List.mem_cons_self)
      rw [List.cons_append, chunks, ih (fun h => ha (List.mem_cons_of_mem x h))]
      simp [hx]

theorem chunks_of_lf_not_mem {a : List UInt8} (ha : 10 ∉ a) (hne : a ≠ []) : chunks a = [a] := by
  induction a with
  | nil => contradiction
  | cons x a ih =>
      have hx : x ≠ 10 := fun h => ha (h ▸ List.mem_cons_self)
      by_cases ha' : a = []
      · subst ha'
        simp [chunks, hx]
      · rw [chunks, ih (fun h => ha (List.mem_cons_of_mem x h)) ha']
        simp [hx]

/-- Chunks joined by line feeds are cut back into those chunks, as long as none is empty and
none holds a line feed. -/
theorem chunks_intercalate {xs : List (List UInt8)} (h : ∀ x ∈ xs, 10 ∉ x ∧ x ≠ []) :
    chunks ([10].intercalate xs) = xs := by
  induction xs with
  | nil => rfl
  | cons x rest ih =>
      have hx := h x List.mem_cons_self
      cases rest with
      | nil => rw [List.intercalate_singleton, chunks_of_lf_not_mem hx.1 hx.2]
      | cons y ys =>
          rw [List.intercalate_cons_cons, List.append_assoc, List.singleton_append,
            chunks_append_lf hx.1, ih (fun z hz => h z (List.mem_cons_of_mem x hz))]

theorem utf8Bytes_intercalate_lf (ls : List String) :
    utf8Bytes ("\n".intercalate ls) = [10].intercalate (ls.map utf8Bytes) := by
  induction ls with
  | nil => simp [utf8Bytes]
  | cons l rest ih =>
      cases rest with
      | nil => simp
      | cons m ms =>
          rw [String.intercalate_cons_cons, utf8Bytes_append, utf8Bytes_append, utf8Bytes_lf, ih]
          simp only [List.map_cons, List.intercalate_cons_cons]

/-! ## Line ends -/

theorem toList_stripEnd (s : String) :
    (stripEnd s).toList = s.toList.rdropWhile (fun c => decide (c = '\r' ∨ c = '\n')) := by
  simp [stripEnd, List.rdropWhile]

theorem stripEnd_keeps_front (s : String) : (stripEnd s).toList <+: s.toList := by
  rw [toList_stripEnd]
  exact List.rdropWhile_prefix _ _

theorem startsWith_of_stripEnd {s pat : String} (h : (stripEnd s).startsWith pat = true) :
    s.startsWith pat = true := by
  rw [String.startsWith_string_iff] at h ⊢
  exact h.trans (stripEnd_keeps_front s)

theorem stripEnd_append {a : String} {c : Char} (hlast : a.toList.getLast? = some c)
    (hc : ¬(c = '\r' ∨ c = '\n')) (b : String) : stripEnd (a ++ b) = a ++ stripEnd b := by
  obtain ⟨init, hinit⟩ := List.getLast?_eq_some_iff.1 hlast
  rw [String.ext_iff, String.toList_append, toList_stripEnd, toList_stripEnd, String.toList_append]
  induction b.toList using List.reverseRecOn with
  | nil => simp [hinit, hc]
  | append_singleton xs x ih =>
      rw [← List.append_assoc, List.rdropWhile_concat, List.rdropWhile_concat, ih]
      split <;> simp

theorem stripEnd_of_getLast? {a : String} {c : Char} (hlast : a.toList.getLast? = some c)
    (hc : ¬(c = '\r' ∨ c = '\n')) : stripEnd a = a := by
  have h := stripEnd_append hlast hc ""
  rwa [show stripEnd "" = "" from rfl, String.append_empty] at h

theorem stripEnd_eq_self {s : String} (h : ∀ c ∈ s.toList, ¬(c = '\r' ∨ c = '\n')) :
    stripEnd s = s := by
  rw [String.ext_iff, toList_stripEnd, List.rdropWhile_eq_self_iff]
  intro hne
  simpa using h _ (List.getLast_mem hne)

theorem stripEnd_ne_empty {s : String} (h : ∃ c ∈ s.toList, ¬(c = '\r' ∨ c = '\n')) :
    stripEnd s ≠ "" := by
  obtain ⟨c, hc, hne⟩ := h
  intro he
  have hnil : (stripEnd s).toList = [] := by rw [he]; rfl
  rw [toList_stripEnd, List.rdropWhile_eq_nil_iff] at hnil
  exact hne (by simpa using hnil c hc)

/-- The lines read from a text written line by line are the written lines with their line ends
dropped, up to the first one left empty, as long as no line holds a line feed or is empty. -/
theorem readLines_intercalate {ls : List String} (h : ∀ l ∈ ls, '\n' ∉ l.toList ∧ l ≠ "") :
    readLines (utf8Bytes ("\n".intercalate ls)) = (ls.map stripEnd).takeWhile (· ≠ "") := by
  have hbytes : ∀ x ∈ ls.map utf8Bytes, 10 ∉ x ∧ x ≠ [] := by
    intro x hx
    obtain ⟨l, hl, rfl⟩ := List.mem_map.1 hx
    exact ⟨lf_not_mem_utf8Bytes (h l hl).1, fun he => (h l hl).2 (utf8Bytes_eq_nil_iff.1 he)⟩
  rw [readLines, utf8Bytes_intercalate_lf, chunks_intercalate hbytes, List.map_map]
  simp [Function.comp_def, Utf8.decodeLossy_utf8Bytes]

theorem readLines_intercalate_of_stripEnd {ls : List String}
    (h : ∀ l ∈ ls, '\n' ∉ l.toList ∧ stripEnd l ≠ "") :
    readLines (utf8Bytes ("\n".intercalate ls)) = ls.map stripEnd := by
  have hne : ∀ l ∈ ls, '\n' ∉ l.toList ∧ l ≠ "" := by
    intro l hl
    refine ⟨(h l hl).1, fun he => (h l hl).2 ?_⟩
    rw [he]
    rfl
  rw [readLines_intercalate hne, List.takeWhile_eq_self_iff]
  intro x hx
  obtain ⟨l, hl, rfl⟩ := List.mem_map.1 hx
  simpa using (h l hl).2

/-! ## Headers -/

theorem digit_of_mem_toDigits {radix n : Nat} (h1 : 1 < radix) (h2 : radix ≤ 16) {c : Char}
    (hc : c ∈ Nat.toDigits radix n) : isBlank c = false ∧ c ≠ '-' ∧ c ≠ '\n' := by
  obtain ⟨d, hd, rfl⟩ := digitChar_of_mem_toDigits h1 hc
  have key : ∀ k < 16, isBlank (Nat.digitChar k) = false ∧ Nat.digitChar k ≠ '-' ∧
      Nat.digitChar k ≠ '\n' := by
    decide
  exact key d (by omega)

theorem isWord_toDigits {radix : Nat} (h1 : 1 < radix) (h2 : radix ≤ 16) (n : Nat) :
    IsWord (String.ofList (Nat.toDigits radix n)) := by
  refine ⟨?_, fun c hc => ?_⟩
  · rw [ne_eq, ← String.toList_eq_nil_iff, String.toList_ofList]
    exact Nat.toDigits_ne_nil
  · rw [String.toList_ofList] at hc
    exact (digit_of_mem_toDigits h1 h2 hc).1

@[simp]
theorem hexU64?_hex (n : UInt64) : hexU64? (Block.hex n) = some n :=
  hexU64?_toDigits n

theorem dash_not_mem_hex (n : UInt64) : '-' ∉ (Block.hex n).toList := by
  intro h
  rw [Block.hex, String.toList_ofList] at h
  exact (digit_of_mem_toDigits (by decide) (by decide) h).2.1 rfl

theorem isWord_span (lo hi : UInt64) : IsWord (Block.hex lo ++ "-" ++ Block.hex hi) := by
  refine ⟨?_, fun c hc => ?_⟩
  · rw [ne_eq, ← String.toList_eq_nil_iff]
    simp
  · simp only [String.toList_append, List.mem_append, Block.hex, String.toList_ofList] at hc
    rcases hc with (hc | hc) | hc
    · exact (digit_of_mem_toDigits (by decide) (by decide) hc).1
    · have : c = '-' := by simpa using hc
      subst this
      decide
    · exact (digit_of_mem_toDigits (by decide) (by decide) hc).1

theorem isWord_of_mem_headerWords {t : String} {b : Block} (hb : b.Listed t) {w : String}
    (hw : w ∈ b.headerWords) : IsWord w := by
  have hname : b.name ≠ "" → IsWord b.name := fun hn => hb.name.resolve_left hn
  by_cases hn : b.name = ""
  · simp only [Block.headerWords, hn, if_true, List.append_nil, List.mem_cons, List.not_mem_nil,
      or_false] at hw
    rcases hw with rfl | rfl | rfl | rfl | rfl
    exacts [isWord_span _ _, hb.permission, hb.offset, hb.dev, hb.inode]
  · simp only [Block.headerWords, hn, if_false, List.cons_append, List.nil_append,
      List.mem_cons, List.not_mem_nil, or_false] at hw
    rcases hw with rfl | rfl | rfl | rfl | rfl | rfl
    exacts [isWord_span _ _, hb.permission, hb.offset, hb.dev, hb.inode, hname hn]

theorem words_header {t : String} {b : Block} (hb : b.Listed t) : words b.header = b.headerWords :=
  words_intercalate fun _ hw => isWord_of_mem_headerWords hb hw

/-- A header written from a listed block parses back to the block's range key. -/
theorem ofHeader?_header {t : String} {b : Block} (hb : b.Listed t) (p : ProcessId) :
    RangeKey.ofHeader? b.header p = some (b.mapping p).key := by
  have hsplit : splitOnce '-' (Block.hex b.lo ++ "-" ++ Block.hex b.hi) =
      some (Block.hex b.lo, Block.hex b.hi) :=
    splitOnce_append (dash_not_mem_hex b.lo)
  have hhi : ¬b.hi ≤ b.lo := UInt64.not_le.2 hb.lo_lt_hi
  by_cases hn : b.name = ""
  · simp [RangeKey.ofHeader?, words_header hb, Block.headerWords, hn, hsplit, hhi, Block.mapping]
  · simp [RangeKey.ofHeader?, words_header hb, Block.headerWords, hn, hsplit, hhi, Block.mapping]

theorem mem_intercalate_space {ws : List String} {c : Char} (h : c ∈ (" ".intercalate ws).toList) :
    c = ' ' ∨ ∃ w ∈ ws, c ∈ w.toList := by
  induction ws with
  | nil => simp at h
  | cons w rest ih =>
      cases rest with
      | nil => exact .inr ⟨w, List.mem_cons_self, by simpa using h⟩
      | cons v vs =>
          rw [String.intercalate_cons_cons] at h
          simp only [String.toList_append, List.mem_append] at h
          rcases h with (h | h) | h
          · exact .inr ⟨w, List.mem_cons_self, h⟩
          · exact .inl (by simpa using h)
          · rcases ih h with h' | ⟨u, hu, hc⟩
            · exact .inl h'
            · exact .inr ⟨u, List.mem_cons_of_mem w hu, hc⟩

theorem blank_of_mem_header {t : String} {b : Block} (hb : b.Listed t) {c : Char}
    (hc : c ∈ b.header.toList) : c = ' ' ∨ isBlank c = false := by
  rcases mem_intercalate_space hc with h | ⟨w, hw, hcw⟩
  · exact .inl h
  · exact .inr ((isWord_of_mem_headerWords hb hw).2 _ hcw)

theorem header_ne_empty {t : String} {b : Block} (hb : b.Listed t) : b.header ≠ "" := by
  intro h
  have hw := words_header hb
  rw [h, show words "" = [] from rfl] at hw
  simp [Block.headerWords] at hw

theorem stripEnd_header {t : String} {b : Block} (hb : b.Listed t) :
    stripEnd b.header = b.header :=
  stripEnd_eq_self fun c hc => by
    rcases blank_of_mem_header hb hc with rfl | h
    · decide
    · rintro (rfl | rfl) <;> simp [isBlank] at h

/-! ## Sizes -/

theorem isWord_toString (v : UInt64) : IsWord (toString v) :=
  isWord_toDigits (by decide : 1 < 10) (by decide) v.toNat

theorem kbValue_sizeLine {key : String} (hk : IsWord key) (v : UInt64) :
    kbValue (sizeLine key v) = v := by
  have hline : sizeLine key v = " ".intercalate [key, toString v, "kB"] := by
    rw [String.intercalate_cons_cons, String.intercalate_cons_cons, String.intercalate_singleton,
      sizeLine, String.append_assoc, String.append_assoc, String.append_assoc,
      String.append_assoc, show (" kB" : String) = " " ++ "kB" by decide]
  have hwords : words (sizeLine key v) = [key, toString v, "kB"] := by
    rw [hline]
    apply words_intercalate
    intro w hw
    simp only [List.mem_cons, List.not_mem_nil, or_false] at hw
    rcases hw with rfl | rfl | rfl
    · exact hk
    · exact isWord_toString v
    · exact (by decide : IsWord "kB")
  simp [kbValue, kbValue?, hwords, u64?_toString]

theorem stripEnd_sizeLine (key : String) (v : UInt64) : stripEnd (sizeLine key v) = sizeLine key v :=
  stripEnd_of_getLast? (c := 'B') (by simp [sizeLine, List.getLast?_append, List.getLast?_cons])
    (by decide)

theorem pss_of_rss {l : String} (h : l.startsWith "Rss:" = true) : l.startsWith "Pss:" = false := by
  rw [String.startsWith_string_iff] at h
  rw [Bool.eq_false_iff, ne_eq, String.startsWith_string_iff]
  rintro ⟨u, hu⟩
  obtain ⟨u', hu'⟩ := h
  rw [← hu', show "Pss:".toList = ['P', 's', 's', ':'] by decide,
    show "Rss:".toList = ['R', 's', 's', ':'] by decide] at hu
  exact absurd (List.cons.inj hu).1 (by decide)

theorem filter_map_stripEnd {ls : List String} {pat x : String}
    (h : ls.filter (·.startsWith pat) = [x]) (hx : stripEnd x = x) :
    (ls.map stripEnd).filter (·.startsWith pat) = [x] := by
  have hcongr : ls.filter ((·.startsWith pat) ∘ stripEnd) = ls.filter (·.startsWith pat) := by
    apply List.filter_congr
    intro y hy
    cases hp : y.startsWith pat with
    | true =>
        have hyx : y = x := by
          have : y ∈ ls.filter (·.startsWith pat) := List.mem_filter.2 ⟨hy, hp⟩
          simpa [h] using this
        subst hyx
        simp [hx, hp]
    | false =>
        simp only [Function.comp_apply, Bool.eq_false_iff, ne_eq]
        exact fun hs => by simp [startsWith_of_stripEnd hs] at hp
  rw [List.filter_map, hcongr, h, List.map_singleton, hx]

/-! ## Scanning blocks -/

theorem step_header {p : ProcessId} {t : String} {b : Block} (hb : b.Listed t)
    (acc : List Mapping) :
    Scan.step p t ⟨true, none, acc⟩ b.header = ⟨false, some ⟨(b.mapping p).key, 0, 0⟩, acc⟩ := by
  simp [Scan.step, ofHeader?_header hb]

theorem step_body {p : ProcessId} {t l : String} (hl : l.startsWith t = false) (m : Mapping)
    (acc : List Mapping) :
    Scan.step p t ⟨false, some m, acc⟩ l =
      ⟨false, some ⟨m.key, if l.startsWith "Rss:" then kbValue l else m.rss,
        if l.startsWith "Pss:" then kbValue l else m.pss⟩, acc⟩ := by
  by_cases hr : l.startsWith "Rss:" = true
  · simp [Scan.step, hl, hr, pss_of_rss hr]
  · by_cases hp : l.startsWith "Pss:" = true <;> simp [Scan.step, hl, hr, hp]

theorem step_closing {p : ProcessId} {t l : String} (hl : l.startsWith t = true) (m : Mapping)
    (acc : List Mapping) : Scan.step p t ⟨false, some m, acc⟩ l = ⟨true, none, m :: acc⟩ := by
  simp [Scan.step, hl]

/-- Body lines keep the block open, and the last `Rss:` and `Pss:` lines set its sizes. -/
theorem foldl_step_body {p : ProcessId} {t : String} {ls : List String}
    (hls : ∀ l ∈ ls, l.startsWith t = false) (m : Mapping) (acc : List Mapping) :
    ls.foldl (Scan.step p t) ⟨false, some m, acc⟩ =
      ⟨false, some ⟨m.key, (ls.filter (·.startsWith "Rss:")).foldl (fun _ l => kbValue l) m.rss,
        (ls.filter (·.startsWith "Pss:")).foldl (fun _ l => kbValue l) m.pss⟩, acc⟩ := by
  induction ls generalizing m with
  | nil => rfl
  | cons l ls ih =>
      rw [List.foldl_cons, step_body (hls l List.mem_cons_self),
        ih (fun l' h => hls l' (List.mem_cons_of_mem l h))]
      -- the filters test a line with the same keys as the step
      cases hr : l.startsWith "Rss:" <;> cases hp : l.startsWith "Pss:" <;>
        simp [hr, hp]

theorem stripEnd_closing (t : String) (b : Block) :
    stripEnd (b.closing t) = t ++ ": " ++ stripEnd b.flags :=
  stripEnd_append (c := ' ') (by simp [List.getLast?_append, List.getLast?_cons]) (by decide) _

theorem map_stripEnd_lines {t : String} {b : Block} (hb : b.Listed t) :
    (b.lines t).map stripEnd = b.header :: b.body.map stripEnd ++ [t ++ ": " ++ stripEnd b.flags] := by
  simp [Block.lines, stripEnd_header hb, stripEnd_closing]

theorem isWord_rss : IsWord "Rss:" := by decide

theorem isWord_pss : IsWord "Pss:" := by decide

/-- The lines of a listed block, read from a state where a header is due, add its mapping. -/
theorem foldl_step_lines {t : String} {b : Block} (hb : b.Listed t) (p : ProcessId)
    (acc : List Mapping) :
    ((b.lines t).map stripEnd).foldl (Scan.step p t) ⟨true, none, acc⟩ =
      ⟨true, none, b.mapping p :: acc⟩ := by
  have hbody : ∀ l ∈ b.body.map stripEnd, l.startsWith t = false := by
    intro l hl
    obtain ⟨l₀, hl₀, rfl⟩ := List.mem_map.1 hl
    cases h : (stripEnd l₀).startsWith t
    · rfl
    · have := startsWith_of_stripEnd h
      rw [(hb.body l₀ hl₀).2.2] at this
      exact absurd this Bool.false_ne_true
  have hclose : (t ++ ": " ++ stripEnd b.flags).startsWith t = true := by
    rw [String.startsWith_string_iff, String.append_assoc, String.toList_append]
    exact List.prefix_append _ _
  rw [map_stripEnd_lines hb, List.foldl_append, List.foldl_cons, List.foldl_nil, List.foldl_cons,
    step_header hb, foldl_step_body hbody, filter_map_stripEnd hb.rss (stripEnd_sizeLine _ _),
    filter_map_stripEnd hb.pss (stripEnd_sizeLine _ _), step_closing hclose]
  simp [kbValue_sizeLine isWord_rss, kbValue_sizeLine isWord_pss, Block.mapping]

theorem foldl_step_blocks {t : String} {bs : List Block} (hbs : ∀ b ∈ bs, b.Listed t)
    (p : ProcessId) (acc : List Mapping) :
    ((bs.flatMap (·.lines t)).map stripEnd).foldl (Scan.step p t) ⟨true, none, acc⟩ =
      ⟨true, none, (bs.map (·.mapping p)).reverse ++ acc⟩ := by
  induction bs generalizing acc with
  | nil => rfl
  | cons b bs ih =>
      rw [List.flatMap_cons, List.map_append, List.foldl_append,
        foldl_step_lines (hbs b List.mem_cons_self),
        ih (fun b' h => hbs b' (List.mem_cons_of_mem b h))]
      simp

/-- The blocks scanned from the lines of listed blocks are their mappings, in order. -/
theorem blocks_render {t : String} {bs : List Block} (hbs : ∀ b ∈ bs, b.Listed t)
    (p : ProcessId) : blocks p t ((bs.flatMap (·.lines t)).map stripEnd) = bs.map (·.mapping p) := by
  rw [blocks, show ({} : Scan) = ⟨true, none, []⟩ from rfl, foldl_step_blocks hbs]
  simp

/-! ## The terminator -/

/-- The terminator learned from lines that end in a key and a value with the line's one colon
between them is the key. -/
theorem terminatorOf_append_key (ls : List String) {key value : String} (hk : key ≠ "")
    (hv : value ≠ "") (hkc : ':' ∉ key.toList) (hvc : ':' ∉ value.toList) :
    terminatorOf (ls ++ [key ++ ":" ++ value]) = .ok key := by
  have hsplit : (key ++ ":" ++ value).toList.splitOn ':' = [key.toList, value.toList] := by
    rw [String.toList_append, String.toList_append, show (":" : String).toList = [':'] from rfl,
      List.append_assoc, List.singleton_append, List.splitOn_append_cons_self_of_not_mem hkc,
      List.splitOn_eq_singleton hvc]
  have hk' : key.toList ≠ [] := by rwa [ne_eq, String.toList_eq_nil_iff]
  have hv' : value.toList ≠ [] := by rwa [ne_eq, String.toList_eq_nil_iff]
  rw [terminatorOf, List.getLast?_concat]
  simp only [hsplit]
  rw [List.filter_cons_of_pos (by simpa using hk'), List.filter_cons_of_pos (by simpa using hv'),
    List.filter_nil]
  simp only [String.ofList_toList]

theorem terminatorOf_render {t : String} {bs : List Block} (ht : IsKey t) (hne : bs ≠ [])
    (hbs : ∀ b ∈ bs, b.Listed t) :
    terminatorOf ((bs.flatMap (·.lines t)).map stripEnd) = .ok t := by
  obtain ⟨init, b, rfl⟩ : ∃ init b, bs = init ++ [b] := by
    rcases List.eq_nil_or_concat bs with h | ⟨init, b, h⟩
    · exact absurd h hne
    · exact ⟨init, b, by simpa using h⟩
  have hb := hbs b (by simp)
  have hlines : ((init ++ [b]).flatMap (·.lines t)).map stripEnd =
      ((init.flatMap (·.lines t)).map stripEnd ++ b.header :: b.body.map stripEnd) ++
        [t ++ ":" ++ (" " ++ stripEnd b.flags)] := by
    have hcl : t ++ ": " ++ stripEnd b.flags = t ++ ":" ++ (" " ++ stripEnd b.flags) := by
      rw [show (": " : String) = ":" ++ " " by decide]
      simp only [String.append_assoc]
    rw [List.flatMap_append, List.map_append, List.flatMap_singleton, map_stripEnd_lines hb, hcl]
    simp
  have hvalue : ':' ∉ (" " ++ stripEnd b.flags).toList := by
    rw [String.toList_append, List.mem_append, not_or]
    exact ⟨by decide, fun h => hb.flags.2.1 ((stripEnd_keeps_front _).subset h)⟩
  rw [hlines, terminatorOf_append_key _ ht.1.1 (by simp [← String.toList_inj]) ht.2 hvalue]

/-! ## Loading -/

theorem line_readable {t : String} {b : Block} (ht : IsKey t) (hb : b.Listed t)
    (hcr : ∀ l ∈ b.body, ∃ c ∈ l.toList, c ≠ '\r') {l : String} (hl : l ∈ b.lines t) :
    '\n' ∉ l.toList ∧ stripEnd l ≠ "" := by
  simp only [Block.lines, List.mem_cons, List.mem_append, List.not_mem_nil, or_false] at hl
  rcases hl with (rfl | hl) | rfl
  · refine ⟨fun h => ?_, by rw [stripEnd_header hb]; exact header_ne_empty hb⟩
    rcases blank_of_mem_header hb h with h | h <;> simp [isBlank] at h
  · obtain ⟨c, hc, hcr⟩ := hcr l hl
    have hlf := (hb.body l hl).2.1
    refine ⟨hlf, stripEnd_ne_empty ⟨c, hc, ?_⟩⟩
    rintro (rfl | rfl)
    exacts [hcr rfl, hlf hc]
  · refine ⟨?_, stripEnd_ne_empty ⟨':', by simp [Block.closing], by decide⟩⟩
    simp only [Block.closing, String.toList_append, List.mem_append, not_or]
    refine ⟨⟨fun h => ?_, by decide⟩, hb.flags.2.2⟩
    exact absurd (ht.1.2 _ h) (by decide)

/-- Blocks that meet `Block.Listed`, written one after another with a terminator key and read
from a file, load as the snapshot of their mappings, in order, as long as no body line is made
of carriage returns alone. -/
theorem loadSmapsSnapshot_render {tree : FileTree} {path : Location} {t : String}
    {bs : List Block} (ht : IsKey t) (hne : bs ≠ []) (hbs : ∀ b ∈ bs, b.Listed t)
    (hcr : ∀ b ∈ bs, ∀ l ∈ b.body, ∃ c ∈ l.toList, c ≠ '\r')
    (hfile : tree.readBytes path = .ok (utf8Bytes (render t bs))) (pid : Int32) (time : Millis) :
    loadSmapsSnapshot tree pid path time =
      .ok { time := time, process := ⟨pid, 0⟩, ranges := bs.map (·.mapping ⟨pid, 0⟩) } := by
  have hlines : readLines (utf8Bytes (render t bs)) = (bs.flatMap (·.lines t)).map stripEnd := by
    apply readLines_intercalate_of_stripEnd
    intro l hl
    obtain ⟨b, hb, hl⟩ := List.mem_flatMap.1 hl
    exact line_readable ht (hbs b hb) (hcr b hb) hl
  simp only [loadSmapsSnapshot, discoverTerminator, parseSmaps, hfile, hlines,
    terminatorOf_render ht hne hbs, blocks_render hbs]

/-- The mapping file of a process with its program text and a stack: the first block has a path
and body lines other than the sizes, the second has neither. -/
def twoBlocks : List Block :=
  [{ lo := 0x400000, hi := 0x401000, permission := "r-xp", offset := "00000000", dev := "08:01",
     inode := "1234", name := "/usr/bin/cat", rss := 4, pss := 2,
     body := ["Size: 4 kB", "Rss: 4 kB", "Pss: 2 kB", "Swap: 0 kB"], flags := "rd ex mr mw me" },
   { lo := 0x7ffd0000, hi := 0x7ffd1000, permission := "rw-p", offset := "00000000",
     dev := "00:00", inode := "0", name := "", rss := 8, pss := 8,
     body := ["Rss: 8 kB", "Pss: 8 kB"], flags := "rd wr" }]

theorem loadSmapsSnapshot_two_blocks :
    IsKey "VmFlags" ∧ twoBlocks ≠ [] ∧ (∀ b ∈ twoBlocks, b.Listed "VmFlags") ∧
      (∀ b ∈ twoBlocks, ∀ l ∈ b.body, ∃ c ∈ l.toList, c ≠ '\r') ∧
      loadSmapsSnapshot ⟨[(["smaps"], .file (utf8Bytes (render "VmFlags" twoBlocks)))]⟩ 7
          { shown := "smaps", parts := ["smaps"] } 1000 =
        .ok { time := 1000, process := ⟨7, 0⟩, ranges := twoBlocks.map (·.mapping ⟨7, 0⟩) } := by
  have ht : IsKey "VmFlags" := by decide
  have hne : twoBlocks ≠ [] := by simp [twoBlocks]
  have hbs : ∀ b ∈ twoBlocks, b.Listed "VmFlags" := by
    simp only [twoBlocks, List.mem_cons, List.not_mem_nil, or_false]
    rintro b (rfl | rfl) <;>
      exact ⟨by decide, by decide, by decide, by decide, by decide, by decide,
        by simp [sizeLine]; decide,
        by simp [sizeLine]; decide, by simp, by decide⟩
  -- checked through the lists of characters, as for words
  have hcr : ∀ b ∈ twoBlocks, ∀ l ∈ b.body, ∃ c ∈ l.toList, c ≠ '\r' := by
    have h : ∀ b ∈ twoBlocks, ∀ l ∈ b.body, l.toList.any (· != '\r') = true := by decide
    intro b hb l hl
    simpa using h b hb l hl
  exact ⟨ht, hne, hbs, hcr, loadSmapsSnapshot_render ht hne hbs hcr rfl 7 1000⟩

def bareReturnBlock : Block :=
  { lo := 0x1000, hi := 0x2000, permission := "rw-p", offset := "00000000", dev := "00:00",
    inode := "0", name := "", rss := 8, pss := 8, body := ["\r", "Rss: 8 kB", "Pss: 8 kB"],
    flags := "rd" }

/-- A body line of carriage returns alone is a line that is read as empty, so reading stops
after the header: the colon of the device number then makes the header the last line and its
front the terminator, and no block is closed. -/
theorem loadSmapsSnapshot_bare_return :
    IsKey "VmFlags" ∧ bareReturnBlock.Listed "VmFlags" ∧
      loadSmapsSnapshot ⟨[(["smaps"], .file (utf8Bytes (render "VmFlags" [bareReturnBlock])))]⟩ 7
          { shown := "smaps", parts := ["smaps"] } 1000 =
        .ok { time := 1000, process := ⟨7, 0⟩, ranges := [] } := by
  have hlines : readLines (utf8Bytes (render "VmFlags" [bareReturnBlock])) =
      ["1000-2000 rw-p 00000000 00:00 0"] := by
    decide
  have hterm : terminatorOf ["1000-2000 rw-p 00000000 00:00 0"] =
      .ok "1000-2000 rw-p 00000000 00" := by
    rw [show "1000-2000 rw-p 00000000 00:00 0" = "1000-2000 rw-p 00000000 00" ++ ":" ++ "00 0" by
      decide]
    exact terminatorOf_append_key [] (by decide) (by decide) (by decide) (by decide)
  refine ⟨by decide,
    ⟨by decide, by decide, by decide, by decide, by decide, .inl rfl, by simp [bareReturnBlock, sizeLine]; decide,
      by simp [bareReturnBlock, sizeLine]; decide, by simp [bareReturnBlock], by decide⟩, ?_⟩
  have hfile : FileTree.readBytes
      ⟨[(["smaps"], .file (utf8Bytes (render "VmFlags" [bareReturnBlock])))]⟩
      { shown := "smaps", parts := ["smaps"] } =
      .ok (utf8Bytes (render "VmFlags" [bareReturnBlock])) := rfl
  simp only [loadSmapsSnapshot, discoverTerminator, parseSmaps, hfile, hlines, hterm]
  rfl

end Smaps
end MemoryRecorder
