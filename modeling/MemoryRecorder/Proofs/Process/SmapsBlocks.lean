import MemoryRecorder.Proofs.Process.SmapsRoundTrip
/-!
# Reading any mapping list

Whatever bytes a mapping file holds and whatever terminator key is given, the empty one
included, reading its blocks succeeds and gives what cutting its lines into blocks gives
(`parseSmaps_cutBlocks`). The lines are those read up to the first one left empty. They are
cut greedily (`cutBlocks`): the line in header position opens a block, and the block runs up to
and including the first later line that starts with the terminator. Each closed block whose
header parses gives its mapping, sized by the last `Rss:` and the last `Pss:` line of its body,
or zero when there is none (`Cut.mapping`). A block whose header does not parse, and a last
block that is never closed, give nothing, and the blocks after a bad header are cut as if it
were good. So every mapping read has a forward range and belongs to the process asked for.

The scan reads the lines one at a time, with a state that says whether a header is due
(`Scan.step`). From a state where a header is due, it adds the mappings of the cut blocks, one
block at a time (`foldl_step_cutBlocks`).
-/

namespace MemoryRecorder
namespace Smaps

structure Cut where
  header : String
  body : List String
  closing : String

/-- Cuts lines into blocks: each block is a header, then the lines up to and including the first
that starts with the terminator `t`. The lines after the last closing line belong to no block. -/
def cutBlocks (t : String) : List String → List Cut
  | [] => []
  | header :: rest =>
      match _hdrop : rest.dropWhile (fun l => !l.startsWith t) with
      | [] => []
      | closing :: after =>
          ⟨header, rest.takeWhile (fun l => !l.startsWith t), closing⟩ :: cutBlocks t after
termination_by ls => ls.length
decreasing_by
  have hle := List.length_dropWhile_le (fun l => !l.startsWith t) rest
  rw [_hdrop, List.length_cons] at hle
  simp only [List.length_cons]
  omega

def lastSize (key : String) (body : List String) : UInt64 :=
  match (body.filter (·.startsWith key)).getLast? with
  | some l => kbValue l
  | none => 0

/-- The mapping a cut block gives for a process: the key its header reads as, sized by its last
`Rss:` and `Pss:` lines; none when the header does not parse. -/
def Cut.mapping (p : ProcessId) (c : Cut) : Option Mapping :=
  (RangeKey.ofHeader? c.header p).map fun k => ⟨k, lastSize "Rss:" c.body, lastSize "Pss:" c.body⟩

/-! ## Cutting -/

section

variable {t : String}

theorem startsWith_closing {rest after : List String} {closing : String}
    (h : rest.dropWhile (fun l => !l.startsWith t) = closing :: after) :
    closing.startsWith t = true := by
  have hhead := List.head_dropWhile_not (fun l => !l.startsWith t) (l := rest) (by simp [h])
  simp only [h, List.head_cons, Bool.not_eq_false'] at hhead
  exact hhead

theorem startsWith_of_mem_takeWhile {rest : List String} {l : String}
    (hl : l ∈ rest.takeWhile (fun l => !l.startsWith t)) : l.startsWith t = false := by
  simpa using List.mem_takeWhile_imp hl

theorem cutBlocks_of_unclosed {header : String} {rest : List String}
    (h : rest.dropWhile (fun l => !l.startsWith t) = []) : cutBlocks t (header :: rest) = [] := by
  rw [cutBlocks]
  split <;> simp_all

theorem cutBlocks_of_closed {header closing : String} {rest after : List String}
    (h : rest.dropWhile (fun l => !l.startsWith t) = closing :: after) :
    cutBlocks t (header :: rest) =
      ⟨header, rest.takeWhile (fun l => !l.startsWith t), closing⟩ :: cutBlocks t after := by
  rw [cutBlocks]
  split <;> simp_all

end

/-! ## Sizes -/

theorem foldl_last {α β : Type} (f : α → β) (d : β) (xs : List α) :
    xs.foldl (fun _ x => f x) d = (xs.getLast?.map f).getD d := by
  induction xs generalizing d with
  | nil => rfl
  | cons x xs ih =>
      rw [List.foldl_cons, ih, List.getLast?_cons]
      cases xs.getLast? <;> rfl

theorem lastSize_eq_foldl (key : String) (body : List String) :
    lastSize key body = (body.filter (·.startsWith key)).foldl (fun _ l => kbValue l) 0 := by
  rw [foldl_last, lastSize]
  cases (body.filter (·.startsWith key)).getLast? <;> rfl

/-! ## Scanning -/

section

variable {p : ProcessId} {t : String}

theorem foldl_step_skipped {ls : List String} (hls : ∀ l ∈ ls, l.startsWith t = false)
    (acc : List Mapping) : ls.foldl (Scan.step p t) ⟨false, none, acc⟩ = ⟨false, none, acc⟩ := by
  induction ls with
  | nil => rfl
  | cons l ls ih =>
      have hl : Scan.step p t ⟨false, none, acc⟩ l = ⟨false, none, acc⟩ := by
        simp [Scan.step, hls l List.mem_cons_self]
      rw [List.foldl_cons, hl, ih fun l' h => hls l' (List.mem_cons_of_mem l h)]

theorem foldl_step_opened (header : String) {body : List String}
    (hbody : ∀ l ∈ body, l.startsWith t = false) (closing : String) (acc : List Mapping) :
    (header :: body).foldl (Scan.step p t) ⟨true, none, acc⟩ =
      ⟨false, Cut.mapping p ⟨header, body, closing⟩, acc⟩ := by
  rw [List.foldl_cons]
  cases hk : RangeKey.ofHeader? header p with
  | none =>
      have hstep : Scan.step p t ⟨true, none, acc⟩ header = ⟨false, none, acc⟩ := by
        simp [Scan.step, hk]
      rw [hstep, foldl_step_skipped hbody]
      simp [Cut.mapping, hk]
  | some k =>
      have hstep : Scan.step p t ⟨true, none, acc⟩ header = ⟨false, some ⟨k, 0, 0⟩, acc⟩ := by
        simp [Scan.step, hk]
      rw [hstep, foldl_step_body hbody]
      simp [Cut.mapping, hk, lastSize_eq_foldl]

theorem step_close {l : String} (hl : l.startsWith t = true) (m : Option Mapping)
    (acc : List Mapping) : Scan.step p t ⟨false, m, acc⟩ l = ⟨true, none, m.toList ++ acc⟩ := by
  cases m <;> simp [Scan.step, hl]

/-- From a state where a header is due, the scan files the mappings of the cut blocks, in
order, after those it had. -/
theorem foldl_step_cutBlocks (ls : List String) (acc : List Mapping) :
    (ls.foldl (Scan.step p t) ⟨true, none, acc⟩).closed =
      ((cutBlocks t ls).filterMap (Cut.mapping p)).reverse ++ acc := by
  induction ls using cutBlocks.induct t generalizing acc with
  | case1 => simp [cutBlocks]
  | case2 header rest hnone =>
      -- the last block is never closed: its lines leave the filed mappings alone
      have hbody : ∀ l ∈ rest, l.startsWith t = false := by
        simpa using List.dropWhile_eq_nil_iff.1 hnone
      rw [cutBlocks_of_unclosed hnone, foldl_step_opened header hbody "" acc]
      rfl
  | case3 header rest closing after hclosed ih =>
      -- the block is its header and body, then the closing line files its mapping
      have hsplit : header :: rest =
          header :: rest.takeWhile (fun l => !l.startsWith t) ++ closing :: after := by
        rw [← hclosed, List.cons_append, List.takeWhile_append_dropWhile]
      rw [cutBlocks_of_closed hclosed, hsplit, List.foldl_append,
        foldl_step_opened header (fun _ hl => startsWith_of_mem_takeWhile hl) closing acc,
        List.foldl_cons, step_close (startsWith_closing hclosed), ih]
      cases hm : Cut.mapping p ⟨header, rest.takeWhile (fun l => !l.startsWith t), closing⟩ <;>
        simp [hm]

/-- The blocks scanned from lines are the mappings of the blocks they are cut into. -/
theorem blocks_eq_cutBlocks (ls : List String) :
    blocks p t ls = (cutBlocks t ls).filterMap (Cut.mapping p) := by
  rw [blocks, show ({} : Scan) = ⟨true, none, []⟩ from rfl, foldl_step_cutBlocks]
  simp

/-- A block with a header that does not parse is skipped without shifting the next one, and a
last block that is never closed gives nothing. -/
example : (cutBlocks "VmFlags" ["zz-1000 r-xp 00000000 00:00 0", "Rss: 4 kB", "VmFlags: rd",
    "1000-2000 rw-p 00000000 00:00 0 [heap]", "Rss: 8 kB", "Pss: 4 kB", "VmFlags: rd wr",
    "3000-4000 r--p 00000000 00:00 0", "Rss: 4 kB"]).filterMap (Cut.mapping ⟨7, 0⟩) =
    [⟨⟨⟨7, 0⟩, 0x1000, 0x2000, "rw-p", "[heap]"⟩, 8, 4⟩] := by
  decide +kernel

end

/-! ## Mappings -/

theorem ofHeader?_range {line : String} {p : ProcessId} {k : RangeKey}
    (h : RangeKey.ofHeader? line p = some k) : k.lo < k.hi ∧ k.process = p := by
  unfold RangeKey.ofHeader? at h
  dsimp only at h
  split at h
  · cases h
  · split at h
    · split at h
      · cases h
      · split at h
        · split at h
          · cases h
          · cases h
            exact ⟨UInt64.not_le.1 ‹_›, rfl⟩
        · cases h
    · cases h

theorem Cut.range_of_mapping {p : ProcessId} {c : Cut} {m : Mapping}
    (h : c.mapping p = some m) : m.key.lo < m.key.hi ∧ m.key.process = p := by
  obtain ⟨k, hk, rfl⟩ := Option.map_eq_some_iff.1 h
  exact ofHeader?_range hk

/-- Reading the blocks of any mapping file succeeds, with any terminator key: it gives the
mapping of every closed block whose header parses, in order, each sized by the last `Rss:` and
`Pss:` lines of its body, and every mapping read has a forward range and the process asked
for. -/
theorem parseSmaps_cutBlocks {tree : FileTree} {path : Location} {bs : List UInt8}
    (hfile : tree.readBytes path = .ok bs) (p : ProcessId) (t : String) :
    parseSmaps tree path p t = .ok ((cutBlocks t (readLines bs)).filterMap (Cut.mapping p)) ∧
      ∀ m ∈ (cutBlocks t (readLines bs)).filterMap (Cut.mapping p),
        m.key.lo < m.key.hi ∧ m.key.process = p := by
  refine ⟨by simp only [parseSmaps, hfile, blocks_eq_cutBlocks], fun m hm => ?_⟩
  obtain ⟨c, -, hc⟩ := List.mem_filterMap.1 hm
  exact Cut.range_of_mapping hc

/-- A mapping file whose first block has a header that does not parse, whose second block is
read, and whose last block is never closed. -/
def skippedBlockBytes : List UInt8 :=
  Text.utf8Bytes ("zz-1000 r-xp 00000000 00:00 0\nRss: 4 kB\nVmFlags: rd\n" ++
    "1000-2000 rw-p 00000000 00:00 0 [heap]\nRss: 8 kB\nPss: 4 kB\nVmFlags: rd wr\n" ++
    "3000-4000 r--p 00000000 00:00 0\nRss: 4 kB\n")

theorem parseSmaps_cutBlocks_skipped :
    FileTree.readBytes ⟨[(["smaps"], .file skippedBlockBytes)]⟩
        { shown := "smaps", parts := ["smaps"] } = .ok skippedBlockBytes ∧
      parseSmaps ⟨[(["smaps"], .file skippedBlockBytes)]⟩ { shown := "smaps", parts := ["smaps"] }
          ⟨7, 0⟩ "VmFlags" =
        .ok ((cutBlocks "VmFlags" (readLines skippedBlockBytes)).filterMap (Cut.mapping ⟨7, 0⟩)) ∧
      ∀ m ∈ (cutBlocks "VmFlags" (readLines skippedBlockBytes)).filterMap (Cut.mapping ⟨7, 0⟩),
        m.key.lo < m.key.hi ∧ m.key.process = ⟨7, 0⟩ :=
  ⟨rfl, parseSmaps_cutBlocks rfl ⟨7, 0⟩ "VmFlags"⟩

end Smaps
end MemoryRecorder
