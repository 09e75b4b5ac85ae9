import Mathlib
import MemoryRecorder.Proofs.Process.Grouping
import MemoryRecorder.Proofs.Text.ByteOrder
/-!
# The named groups, largest first

`Groups.sortedMappings` lists the named groups of a grouping by merge sort with `Groups.before`:
a larger group first, and of two groups of one size the one whose name comes first. The names of
the groups are the keys of a map, so no two are equal, and no two groups tie. This module shows
that the listing holds every group once, strictly by size from the largest down and, within one
size, by name in byte order (`ListedBefore`); that its sizes, added as checked words, give
`mappingsTotal`, the same total or the same overflow; and so
that its first `n` entries are the `n` largest groups (`sortedMappings_ranked`). Every grouping
`group` returns has distinct names.

`before` is strict, so core's merge-sort lemmas, which ask for a comparison that is total, do not
apply to it. On a list without repeats merge sort never compares an entry with itself
(`mergeSort_congr`), so it sorts alike with `before` and with `beforeOrSame`, which also holds of
a group and itself and is total.
-/

namespace MemoryRecorder

/-! ## Merge sort reads its comparison off the diagonal only -/

section MergeSort

variable {α : Type} {r s : α → α → Bool}

theorem merge_congr :
    ∀ {xs ys : List α}, (∀ a ∈ xs, ∀ b ∈ ys, r a b = s a b) → xs.merge ys r = xs.merge ys s
  | [], _, _ => by simp
  | _ :: _, [], _ => by simp
  | x :: xs, y :: ys, h => by
      rw [List.cons_merge_cons, List.cons_merge_cons, h x (by simp) y (by simp)]
      split
      · rw [merge_congr fun a ha b hb => h a (List.mem_cons_of_mem x ha) b hb]
      · rw [merge_congr fun a ha b hb => h a ha b (List.mem_cons_of_mem y hb)]

/-- On a list without repeats, merge sort by two comparisons that agree on distinct entries
gives one answer: the two halves it merges have no entry in common. -/
theorem mergeSort_congr :
    ∀ {l : List α}, l.Nodup → (∀ a ∈ l, ∀ b ∈ l, a ≠ b → r a b = s a b) →
      l.mergeSort r = l.mergeSort s
  | [], _, _ => by simp
  | [_], _, _ => by simp
  | a :: b :: l, hnd, h => by
      simp only [List.mergeSort, List.MergeSort.Internal.splitInTwo_fst,
        List.MergeSort.Internal.splitInTwo_snd]
      -- the halves are shorter, have no repeats and none in common
      have hfront : (List.take (((a :: b :: l).length + 1) / 2) (a :: b :: l)).length <
          (a :: b :: l).length := by
        simp only [List.length_take, List.length_cons]
        omega
      have hback : (List.drop (((a :: b :: l).length + 1) / 2) (a :: b :: l)).length <
          (a :: b :: l).length := by
        simp only [List.length_drop, List.length_cons]
        omega
      rw [mergeSort_congr (hnd.sublist (List.take_sublist _ _)) fun x hx y hy =>
          h x (List.mem_of_mem_take hx) y (List.mem_of_mem_take hy),
        mergeSort_congr (hnd.sublist (List.drop_sublist _ _)) fun x hx y hy =>
          h x (List.mem_of_mem_drop hx) y (List.mem_of_mem_drop hy)]
      apply merge_congr
      intro x hx y hy
      rw [List.mem_mergeSort] at hx hy
      exact h x (List.mem_of_mem_take hx) y (List.mem_of_mem_drop hy)
        fun hxy => List.disjoint_take_drop hnd (Nat.le_refl _) hx (hxy ▸ hy)
  termination_by l => l.length

end MergeSort

namespace Groups

/-! ## The listing order -/

/-- `a` is listed before `b`: it is larger, or as large with a name that comes first byte by
byte. -/
def ListedBefore (a b : MappingSize) : Prop :=
  b.size < a.size ∨ a.size = b.size ∧ Text.utf8Bytes a.name < Text.utf8Bytes b.name

theorem listedBefore_iff {a b : MappingSize} :
    ListedBefore a b ↔ b.size < a.size ∨ a.size = b.size ∧ a.name < b.name := by
  rw [ListedBefore, Text.utf8Bytes_lt_iff]

theorem before_eq_true_iff {a b : MappingSize} : before a b = true ↔ ListedBefore a b := by
  simp [before, listedBefore_iff]

theorem ListedBefore.trans {a b c : MappingSize} (hab : ListedBefore a b)
    (hbc : ListedBefore b c) : ListedBefore a c := by
  rw [listedBefore_iff] at *
  rcases hab with hab | ⟨hab, hname⟩ <;> rcases hbc with hbc | ⟨hbc, hname'⟩
  · exact .inl (UInt64.lt_trans hbc hab)
  · exact .inl (hbc ▸ hab)
  · exact .inl (hab ▸ hbc)
  · exact .inr ⟨hab.trans hbc, String.lt_trans hname hname'⟩

theorem listedBefore_or_listedBefore {a b : MappingSize} (hne : a ≠ b) :
    ListedBefore a b ∨ ListedBefore b a := by
  rw [listedBefore_iff, listedBefore_iff]
  rcases Nat.lt_trichotomy a.size.toNat b.size.toNat with h | h | h
  · exact .inr (.inl (UInt64.lt_iff_toNat_lt.mpr h))
  · have hsize : a.size = b.size := UInt64.toNat_inj.mp h
    -- one size, so the names differ and the smaller name goes first
    have hname : a.name ≠ b.name := fun hn => hne (by cases a; cases b; simp_all)
    by_cases hn : a.name < b.name
    · exact .inl (.inr ⟨hsize, hn⟩)
    · have hba : b.name ≤ a.name := String.not_lt.mp hn
      have hab : ¬ a.name ≤ b.name := fun hle => hname (String.le_antisymm hle hba)
      exact .inr (.inr ⟨hsize.symm, String.not_le.mp hab⟩)
  · exact .inl (.inl (UInt64.lt_iff_toNat_lt.mpr h))

/-- `before`, or the same group: a total order that merge sort is read against. -/
def beforeOrSame (a b : MappingSize) : Bool :=
  before a b || a == b

theorem beforeOrSame_eq_true_iff {a b : MappingSize} :
    beforeOrSame a b = true ↔ ListedBefore a b ∨ a = b := by
  simp [beforeOrSame, before_eq_true_iff]

theorem beforeOrSame_trans (a b c : MappingSize) :
    beforeOrSame a b = true → beforeOrSame b c = true → beforeOrSame a c = true := by
  simp only [beforeOrSame_eq_true_iff]
  rintro (hab | rfl) (hbc | rfl)
  · exact .inl (hab.trans hbc)
  · exact .inl hab
  · exact .inl hbc
  · exact .inr rfl

theorem beforeOrSame_total (a b : MappingSize) : (beforeOrSame a b || beforeOrSame b a) = true := by
  rw [Bool.or_eq_true, beforeOrSame_eq_true_iff, beforeOrSame_eq_true_iff]
  by_cases hab : a = b
  · exact .inl (.inr hab)
  · rcases listedBefore_or_listedBefore hab with h | h
    · exact .inl (.inl h)
    · exact .inr (.inl h)

/-! ## The listing -/

variable {g : Groups}

/-- With distinct names the listing is the merge sort by the total `beforeOrSame`. -/
theorem sortedMappings_eq_mergeSort (hnd : (g.mappings.map (·.name)).Nodup) :
    g.sortedMappings = g.mappings.mergeSort beforeOrSame := by
  unfold sortedMappings
  apply mergeSort_congr (hnd.of_map _)
  intro a _ b _ hab
  simp [beforeOrSame, hab]

theorem sortedMappings_perm : g.sortedMappings.Perm g.mappings :=
  List.mergeSort_perm _ _

theorem sortedMappings_pairwise (hnd : (g.mappings.map (·.name)).Nodup) :
    g.sortedMappings.Pairwise ListedBefore := by
  have hsorted := List.pairwise_mergeSort beforeOrSame_trans beforeOrSame_total g.mappings
  have hdistinct : (g.mappings.mergeSort beforeOrSame).Nodup :=
    (List.mergeSort_perm _ _).nodup_iff.mpr (hnd.of_map _)
  rw [sortedMappings_eq_mergeSort hnd]
  refine (hsorted.and hdistinct).imp fun ⟨hab, hne⟩ => ?_
  rcases beforeOrSame_eq_true_iff.mp hab with h | h
  · exact h
  · exact absurd h hne

theorem sumChecked_sortedMappings :
    Word.sumChecked (g.sortedMappings.map (·.size)) = g.mappingsTotal :=
  Word.sumChecked_perm (sortedMappings_perm.map _)

theorem listedBefore_of_not_mem_take (hnd : (g.mappings.map (·.name)).Nodup) (n : Nat)
    {a b : MappingSize} (ha : a ∈ g.sortedMappings.take n) (hb : b ∈ g.mappings)
    (hout : b ∉ g.sortedMappings.take n) : ListedBefore a b := by
  have hsorted := sortedMappings_pairwise hnd
  rw [← List.take_append_drop n g.sortedMappings] at hsorted
  have hb' : b ∈ g.sortedMappings.drop n := by
    have hmem := sortedMappings_perm.mem_iff.mpr hb
    rw [← List.take_append_drop n g.sortedMappings, List.mem_append] at hmem
    exact hmem.resolve_left hout
  exact (List.pairwise_append.mp hsorted).2.2 a ha b hb'

end Groups

/-- The listing of the named groups is right. Every grouping has distinct names, and for any
groups with distinct names the listing holds each group once, strictly from the largest down,
groups of one size by name in byte order, its sizes added as checked words giving the total of
the groups or failing as it does; so its first `n` entries are the `n` largest groups, each
listed before every group left out. -/
theorem sortedMappings_ranked :
    (∀ ms statm t gs (g : Groups), group ms statm t gs = .ok g →
      (g.mappings.map (·.name)).Nodup) ∧
    ∀ g : Groups, (g.mappings.map (·.name)).Nodup →
      g.sortedMappings.Perm g.mappings ∧
      g.sortedMappings.Pairwise Groups.ListedBefore ∧
      Word.sumChecked (g.sortedMappings.map (·.size)) = g.mappingsTotal ∧
      ∀ n, ∀ a ∈ g.sortedMappings.take n, ∀ b ∈ g.mappings, b ∉ g.sortedMappings.take n →
        Groups.ListedBefore a b := by
  refine ⟨fun ms statm t gs g hg => ?_, fun g hnd => ?_⟩
  · obtain ⟨s, rfl, h⟩ := group_tallied ms statm t gs hg
    exact h.nodup
  · exact ⟨Groups.sortedMappings_perm, Groups.sortedMappings_pairwise hnd,
      Groups.sumChecked_sortedMappings, fun n _ ha _ hb hout =>
        Groups.listedBefore_of_not_mem_take hnd n ha hb hout⟩

def rankedLayout : List Mapping :=
  [⟨⟨⟨1, 1⟩, 0x1000, 0x2000, "r--p", "small.so"⟩, 1, 0⟩,
    ⟨⟨⟨1, 1⟩, 0x3000, 0x4000, "r--p", "big.so"⟩, 50, 25⟩,
    ⟨⟨⟨1, 1⟩, 0x5000, 0x6000, "r--p", "mid.so"⟩, 10, 5⟩,
    ⟨⟨⟨1, 1⟩, 0x7000, 0x8000, "r--p", "also-mid.so"⟩, 10, 5⟩]

/-- The groups of `rankedLayout` are listed largest first, the two of one size by name. -/
theorem sortedMappings_ranked_libraries :
    group rankedLayout {} .rss true = .ok { sum := 71, mappings :=
      [⟨"small.so", 1⟩, ⟨"big.so", 50⟩, ⟨"mid.so", 10⟩, ⟨"also-mid.so", 10⟩] } ∧
    Groups.sortedMappings { sum := 71, mappings :=
      [⟨"small.so", 1⟩, ⟨"big.so", 50⟩, ⟨"mid.so", 10⟩, ⟨"also-mid.so", 10⟩] } =
      [⟨"big.so", 50⟩, ⟨"also-mid.so", 10⟩, ⟨"mid.so", 10⟩, ⟨"small.so", 1⟩] ∧
    ([⟨"big.so", 50⟩, ⟨"also-mid.so", 10⟩, ⟨"mid.so", 10⟩, ⟨"small.so", 1⟩] :
      List MappingSize).Pairwise Groups.ListedBefore := by
  have h : group rankedLayout {} .rss true = .ok { sum := 71, mappings :=
      [⟨"small.so", 1⟩, ⟨"big.so", 50⟩, ⟨"mid.so", 10⟩, ⟨"also-mid.so", 10⟩] } := by
    cbv
  have hsorted : Groups.sortedMappings { sum := 71, mappings :=
      [⟨"small.so", 1⟩, ⟨"big.so", 50⟩, ⟨"mid.so", 10⟩, ⟨"also-mid.so", 10⟩] } =
      [⟨"big.so", 50⟩, ⟨"also-mid.so", 10⟩, ⟨"mid.so", 10⟩, ⟨"small.so", 1⟩] := by
    simp +decide [Groups.sortedMappings, Groups.before, List.mergeSort,
      List.MergeSort.Internal.splitInTwo_fst, List.MergeSort.Internal.splitInTwo_snd]
  have hranked := (sortedMappings_ranked.2 _ (sortedMappings_ranked.1 _ _ _ _ _ h)).2.1
  rw [hsorted] at hranked
  exact ⟨h, hsorted, hranked⟩

end MemoryRecorder
