import MemoryRecorder.Proofs.Process.SmapsBlocks
/-!
# The terminator a mapping file teaches

The terminator is the key of the last line read: that line must split at its colons into exactly
two non-empty parts, and the key is the first of them (`terminatorOf`). So the key is never empty
and holds no colon, and a last line that does not itself start with a colon starts with the key
and a colon (`terminatorOf_eq_ok_prefix`).

Reading the blocks with that key: the cut blocks cover every line read but at most one trailing
block that is never closed, a header and lines none of which starts with the terminator
(`cutBlocks_cover`). The last line starts with the terminator, so either it closes the final
block, whose mapping is then read whenever its header parses, or it stands alone after the
closed blocks, as the header of a block that is never closed (`terminator_closes_last_block`). A
file whose one line is a header with a colon in its device field teaches such a key
(`parseSmaps_header_only`). A last line that starts with a colon teaches the part after that
colon, which need start no line, and the final block may then never close
(`parseSmaps_colon_last_line`).
-/

namespace MemoryRecorder
namespace Smaps

/-! ## Colons -/

theorem not_mem_of_mem_splitOn {c : Char} :
    ∀ {xs part : List Char}, part ∈ xs.splitOn c → c ∉ part
  | [], part, h => by
      rw [List.splitOn_nil, List.mem_singleton] at h
      subst h
      simp
  | x :: xs, part, h => by
      rw [List.splitOn_cons_eq_if_modifyHead] at h
      split at h
      · rcases List.mem_cons.1 h with rfl | h
        · simp
        · exact not_mem_of_mem_splitOn h
      · rename_i hx
        obtain ⟨r, rs, hr⟩ := List.exists_cons_of_ne_nil (List.splitOn_ne_nil c xs)
        rw [hr, List.modifyHead_cons] at h
        rcases List.mem_cons.1 h with rfl | h
        · intro hc
          rcases List.mem_cons.1 hc with rfl | hc
          · simp at hx
          · exact not_mem_of_mem_splitOn (hr ▸ List.mem_cons_self) hc
        · exact not_mem_of_mem_splitOn (hr ▸ List.mem_cons_of_mem r h)

theorem exists_split_first {c : Char} :
    ∀ {cs : List Char}, c ∈ cs → ∃ front rest, cs = front ++ c :: rest ∧ c ∉ front
  | [], h => absurd h List.not_mem_nil
  | x :: xs, h => by
      by_cases hx : x = c
      · exact ⟨[], xs, by rw [hx]; rfl, List.not_mem_nil⟩
      · obtain ⟨front, rest, rfl, hfront⟩ := exists_split_first
          ((List.mem_cons.1 h).resolve_left (Ne.symm hx))
        refine ⟨x :: front, rest, rfl, ?_⟩
        rintro (_ | ⟨_, hc⟩)
        · exact hx rfl
        · exact hfront hc

theorem terminatorOf_eq_ok {ls : List String} {key : String} (h : terminatorOf ls = .ok key) :
    ∃ last, ls.getLast? = some last ∧ ∃ k v,
      (last.toList.splitOn ':').filter (· ≠ []) = [k, v] ∧ key = String.ofList k := by
  unfold terminatorOf at h
  split at h
  · cases h
  · rename_i last hlast
    split at h
    · rename_i k v hkv
      cases h
      exact ⟨last, hlast, k, v, hkv, rfl⟩
    · cases h

/-- The key learned is not empty and holds no colon, and a last line that does not start with a
colon starts with the key and a colon. -/
theorem terminatorOf_eq_ok_prefix {ls : List String} {key : String}
    (h : terminatorOf ls = .ok key) :
    key ≠ "" ∧ ':' ∉ key.toList ∧ ∃ last, ls.getLast? = some last ∧
      (last.toList.head? ≠ some ':' → ∃ rest, last.toList = key.toList ++ ':' :: rest) := by
  obtain ⟨last, hlast, k, v, hkv, rfl⟩ := terminatorOf_eq_ok h
  have hk : k ∈ (last.toList.splitOn ':').filter (· ≠ []) := by
    rw [hkv]
    exact List.mem_cons_self
  obtain ⟨hsplit, hne⟩ := List.mem_filter.1 hk
  refine ⟨by simpa using hne, by simpa using not_mem_of_mem_splitOn hsplit, last, hlast,
    fun hhead => ?_⟩
  -- the line has a colon, or it would be one part; the part before it is the key
  have hcolon : ':' ∈ last.toList := by
    refine Classical.byContradiction fun hc => ?_
    rw [List.splitOn_eq_singleton hc] at hkv
    by_cases he : last.toList = [] <;> simp [he] at hkv
  obtain ⟨front, rest, hcs, hfront⟩ := exists_split_first hcolon
  have hfne : front ≠ [] := by
    rintro rfl
    exact hhead (by simp [hcs])
  rw [hcs, List.splitOn_append_cons_self_of_not_mem hfront, List.filter_cons_of_pos (by simpa using hfne),
    List.cons.injEq] at hkv
  exact ⟨rest, by rw [hcs, hkv.1, String.toList_ofList]⟩

/-! ## Cut blocks cover the lines -/

def Cut.lines (c : Cut) : List String :=
  c.header :: c.body ++ [c.closing]

/-- Cutting lines into blocks leaves at most one trailing block unclosed: a header followed by
lines none of which starts with the terminator. -/
theorem cutBlocks_cover (t : String) (ls : List String) :
    ∃ rest, ls = (cutBlocks t ls).flatMap Cut.lines ++ rest ∧
      (rest = [] ∨ ∃ header body, rest = header :: body ∧ ∀ l ∈ body, l.startsWith t = false) := by
  induction ls using cutBlocks.induct t with
  | case1 => exact ⟨[], by simp [cutBlocks], .inl rfl⟩
  | case2 header rest hnone =>
      refine ⟨header :: rest, by simp [cutBlocks_of_unclosed hnone], .inr ⟨header, rest, rfl, ?_⟩⟩
      simpa using List.dropWhile_eq_nil_iff.1 hnone
  | case3 header rest closing after hclosed ih =>
      obtain ⟨r, hr, hshape⟩ := ih
      refine ⟨r, ?_, hshape⟩
      have hsplit : header :: rest =
          header :: rest.takeWhile (fun l => !l.startsWith t) ++ closing :: after := by
        rw [← hclosed, List.cons_append, List.takeWhile_append_dropWhile]
      rw [cutBlocks_of_closed hclosed, List.flatMap_cons, hsplit]
      conv_lhs => rw [hr]
      simp [Cut.lines]

/-- When the last line starts with the terminator, it closes the last cut block, or it stands
alone after the cut blocks. -/
theorem cutBlocks_of_last {t last : String} {ls : List String} (hlast : ls.getLast? = some last)
    (ht : last.startsWith t = true) :
    (∃ cs c, cutBlocks t ls = cs ++ [c] ∧ c.closing = last ∧ (cs ++ [c]).flatMap Cut.lines = ls) ∨
      (cutBlocks t ls).flatMap Cut.lines ++ [last] = ls := by
  obtain ⟨rest, hls, hrest⟩ := cutBlocks_cover t ls
  rcases hrest with rfl | ⟨header, body, rfl, hbody⟩
  · -- every line is in a closed block; the last block ends at the last line
    left
    rw [List.append_nil] at hls
    rcases List.eq_nil_or_concat (cutBlocks t ls) with hnil | ⟨cs, c, hcs⟩
    · rw [hnil] at hls
      rw [hls] at hlast
      cases hlast
    · rw [List.concat_eq_append] at hcs
      refine ⟨cs, c, hcs, ?_, by rw [← hcs, ← hls]⟩
      rw [hls, hcs, List.flatMap_append, List.flatMap_singleton,
        List.getLast?_append_of_ne_nil _ (by simp [Cut.lines]), Cut.lines,
        List.getLast?_concat] at hlast
      exact Option.some.inj hlast
  · -- a body line never starts with the terminator, so the last line is the lone header
    right
    rcases List.eq_nil_or_concat body with rfl | ⟨b, l, rfl⟩
    · rw [hls, List.getLast?_append_of_ne_nil _ (by simp), List.getLast?_singleton] at hlast
      cases hlast
      exact hls.symm
    · rw [List.concat_eq_append] at hbody hls
      have hl : l = last := by
        rw [hls, List.getLast?_append_of_ne_nil _ (by simp), List.getLast?_cons,
          List.getLast?_concat] at hlast
        simpa using hlast
      have hstarts := hbody l (by simp)
      rw [hl, ht] at hstarts
      cases hstarts

/-- Learning the terminator of a mapping file and reading its blocks with it: the key is not
empty and holds no colon. When the last line read does not start with a colon, it starts with
the key and a colon, and then either it closes the file's final block, so that the cut blocks
cover every line and the final block's mapping is read whenever its header parses, or it stands
alone after the closed blocks, in header position. -/
theorem terminator_closes_last_block {tree : FileTree} {path : Location} {bs : List UInt8}
    {t : String} (hfile : tree.readBytes path = .ok bs) (ht : discoverTerminator tree path = .ok t) :
    t ≠ "" ∧ ':' ∉ t.toList ∧ ∃ last, (readLines bs).getLast? = some last ∧
      (last.toList.head? ≠ some ':' →
        last.startsWith (t ++ ":") = true ∧
        ((∃ cs c, cutBlocks t (readLines bs) = cs ++ [c] ∧ c.closing = last ∧
            (cs ++ [c]).flatMap Cut.lines = readLines bs ∧
            ∀ p, parseSmaps tree path p t =
              .ok (cs.filterMap (Cut.mapping p) ++ (c.mapping p).toList)) ∨
          (cutBlocks t (readLines bs)).flatMap Cut.lines ++ [last] = readLines bs)) := by
  have hterm : terminatorOf (readLines bs) = .ok t := by
    simp only [discoverTerminator, hfile] at ht
    split at ht
    · cases ht
      assumption
    · cases ht
  obtain ⟨hne, hcolon, last, hlast, hprefix⟩ := terminatorOf_eq_ok_prefix hterm
  refine ⟨hne, hcolon, last, hlast, fun hhead => ?_⟩
  obtain ⟨rest, hrest⟩ := hprefix hhead
  have hstarts : last.startsWith (t ++ ":") = true := by
    rw [String.startsWith_string_iff, hrest]
    exact ⟨rest, by simp⟩
  have hkey : last.startsWith t = true := by
    rw [String.startsWith_string_iff, hrest]
    exact List.prefix_append _ _
  refine ⟨hstarts, ?_⟩
  rcases cutBlocks_of_last hlast hkey with ⟨cs, c, hcs, hclosing, hcover⟩ | hlone
  · refine .inl ⟨cs, c, hcs, hclosing, hcover, fun p => ?_⟩
    rw [(parseSmaps_cutBlocks hfile p t).1, hcs, List.filterMap_append]
    cases hm : c.mapping p <;> simp [hm]
  · exact .inr hlone

def oneBlockBytes : List UInt8 :=
  Text.utf8Bytes "1000-2000 rw-p 00000000 00:00 0 [heap]\nRss: 8 kB\nPss: 4 kB\nVmFlags: rd wr\n"

theorem terminator_closes_last_block_one_block :
    FileTree.readBytes ⟨[(["smaps"], .file oneBlockBytes)]⟩
        { shown := "smaps", parts := ["smaps"] } = .ok oneBlockBytes ∧
      discoverTerminator ⟨[(["smaps"], .file oneBlockBytes)]⟩
        { shown := "smaps", parts := ["smaps"] } = .ok "VmFlags" ∧
      "VmFlags" ≠ "" ∧ ':' ∉ "VmFlags".toList ∧ ∃ last, (readLines oneBlockBytes).getLast? = some last ∧
        (last.toList.head? ≠ some ':' →
          last.startsWith ("VmFlags" ++ ":") = true ∧
          ((∃ cs c, cutBlocks "VmFlags" (readLines oneBlockBytes) = cs ++ [c] ∧ c.closing = last ∧
              (cs ++ [c]).flatMap Cut.lines = readLines oneBlockBytes ∧
              ∀ p, parseSmaps ⟨[(["smaps"], .file oneBlockBytes)]⟩
                  { shown := "smaps", parts := ["smaps"] } p "VmFlags" =
                .ok (cs.filterMap (Cut.mapping p) ++ (c.mapping p).toList)) ∨
            (cutBlocks "VmFlags" (readLines oneBlockBytes)).flatMap Cut.lines ++ [last] =
              readLines oneBlockBytes)) :=
  have hterm : discoverTerminator ⟨[(["smaps"], .file oneBlockBytes)]⟩
      { shown := "smaps", parts := ["smaps"] } = .ok "VmFlags" := by decide
  ⟨rfl, hterm, terminator_closes_last_block rfl hterm⟩

/-! ## A file of one header -/

/-- A mapping file whose one line is a header with a colon in its device field. -/
def headerOnlyBytes : List UInt8 :=
  Text.utf8Bytes "1000-2000 rw-p 00000000 08:02 0\n"

/-- That file teaches the part of its header before the colon as the terminator, and its one
block, whose header reads as a range, is then never closed, so no mapping is read. -/
theorem parseSmaps_header_only :
    discoverTerminator ⟨[(["smaps"], .file headerOnlyBytes)]⟩
        { shown := "smaps", parts := ["smaps"] } = .ok "1000-2000 rw-p 00000000 08" ∧
      readLines headerOnlyBytes = ["1000-2000 rw-p 00000000 08:02 0"] ∧
      RangeKey.ofHeader? "1000-2000 rw-p 00000000 08:02 0" ⟨7, 0⟩ =
        some ⟨⟨7, 0⟩, 0x1000, 0x2000, "rw-p", ""⟩ ∧
      parseSmaps ⟨[(["smaps"], .file headerOnlyBytes)]⟩ { shown := "smaps", parts := ["smaps"] }
        ⟨7, 0⟩ "1000-2000 rw-p 00000000 08" = .ok [] := by
  refine ⟨by decide, by decide, by decide, by decide⟩

/-! ## A last line that starts with a colon -/

/-- A mapping file of one block whose last line starts with a colon. -/
def colonLastBytes : List UInt8 :=
  Text.utf8Bytes "1000-2000 rw-p 00000000 00:00 0 [heap]\nRss: 8 kB\n:Z: 1\n"

/-- The part after the leading colon of its last line is the terminator, and no line of the file
starts with it: the one block, whose header reads as a range, is never closed, and its mapping is
lost. -/
theorem parseSmaps_colon_last_line :
    discoverTerminator ⟨[(["smaps"], .file colonLastBytes)]⟩
        { shown := "smaps", parts := ["smaps"] } = .ok "Z" ∧
      RangeKey.ofHeader? "1000-2000 rw-p 00000000 00:00 0 [heap]" ⟨7, 0⟩ =
        some ⟨⟨7, 0⟩, 0x1000, 0x2000, "rw-p", "[heap]"⟩ ∧
      parseSmaps ⟨[(["smaps"], .file colonLastBytes)]⟩ { shown := "smaps", parts := ["smaps"] }
        ⟨7, 0⟩ "Z" = .ok [] := by
  refine ⟨by decide, by decide, by decide +kernel⟩

end Smaps
end MemoryRecorder
