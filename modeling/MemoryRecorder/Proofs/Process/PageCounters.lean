import MemoryRecorder.Process.Counters
/-!
# Reading page counters

A `statm` line is read word by word from the left. Each word is read as a page count and turned
into KiB at once, so two things can stop the read early: a word that is no count, and a count of
more than a quarter of the word's range, whose KiB leave the word. Whichever comes first
decides: an overflow stops the read only if it comes before the first word that is no count.

A read that stops at a word that is no count gives no counters. A line of counts only gives
counters when it has at least seven: the first seven, in KiB, and the rest read but unused.

`statm_line_counts` says this for every line, and that reading a `statm` file
applies it to the file's first line, the malformed-file failure standing exactly for a line that
gives no counters.
-/

namespace MemoryRecorder

/-- The counts of the words before the first word that is no count. -/
def leadingCounts : List String → List UInt64
  | [] => []
  | w :: ws =>
      match Text.u64? w with
      | some n => n :: leadingCounts ws
      | none => []

theorem leadingCounts_length_le (ws : List String) : (leadingCounts ws).length ≤ ws.length := by
  induction ws with
  | nil => exact Nat.le_refl 0
  | cons w ws ih =>
      simp only [leadingCounts]
      split
      · simp only [List.length_cons]
        omega
      · exact Nat.zero_le _

theorem mulChecked_pageKiB (n : UInt64) :
    Word.mulChecked n pageKiB =
      if (UInt64.size - 1) / 4 < n.toNat then .error .mul else .ok (4 * n) := by
  have hsize : UInt64.size = 18446744073709551616 := rfl
  have hpage : pageKiB.toNat = 4 := rfl
  unfold Word.mulChecked
  rw [hpage]
  by_cases hn : (UInt64.size - 1) / 4 < n.toNat
  · rw [if_pos hn, if_neg (by omega)]
  · rw [if_neg hn, if_pos (by omega), UInt64.mul_comm]
    rfl

/-- Reading the words of a line into KiB, in closed form: an overflow when a leading count is
too large, nothing when a word is no count, and otherwise every count in KiB. -/
theorem kibOfPages_eq (ws : List String) :
    kibOfPages ws =
      if ∃ n ∈ leadingCounts ws, (UInt64.size - 1) / 4 < n.toNat then .error .mul
      else if (leadingCounts ws).length < ws.length then .ok none
      else .ok (some ((leadingCounts ws).map (4 * ·))) := by
  induction ws with
  | nil => rfl
  | cons w ws ih =>
      cases hw : Text.u64? w with
      | none =>
          -- reading stops here, before any count could overflow
          simp [kibOfPages, leadingCounts, hw]
      | some n =>
          have hlead : leadingCounts (w :: ws) = n :: leadingCounts ws := by
            simp [leadingCounts, hw]
          by_cases hn : (UInt64.size - 1) / 4 < n.toNat
          · have hex : ∃ m ∈ leadingCounts (w :: ws), (UInt64.size - 1) / 4 < m.toNat :=
              ⟨n, hlead ▸ List.mem_cons_self, hn⟩
            simp only [kibOfPages, hw, mulChecked_pageKiB, if_pos hn, if_pos hex]
          · -- the count fits: the rest of the line decides
            rw [hlead]
            have hex : (∃ m ∈ n :: leadingCounts ws, (UInt64.size - 1) / 4 < m.toNat) ↔
                ∃ m ∈ leadingCounts ws, (UInt64.size - 1) / 4 < m.toNat := by
              simp only [List.mem_cons, exists_eq_or_imp, hn, false_or]
            have hlen : (n :: leadingCounts ws).length < (w :: ws).length ↔
                (leadingCounts ws).length < ws.length := by
              simp
            simp only [kibOfPages, hw, mulChecked_pageKiB, if_neg hn, ih, hex, hlen, List.map_cons]
            by_cases hover : ∃ m ∈ leadingCounts ws, (UInt64.size - 1) / 4 < m.toNat
            · simp only [if_pos hover]
            · by_cases hshort : (leadingCounts ws).length < ws.length
              · simp only [if_neg hover, if_pos hshort, Option.map_none]
              · simp only [if_neg hover, if_neg hshort, Option.map_some]

theorem kibOfPages_of_fits {ws : List String}
    (hfit : ∀ n ∈ leadingCounts ws, n.toNat ≤ (UInt64.size - 1) / 4) :
    kibOfPages ws =
      if (leadingCounts ws).length < ws.length then .ok none
      else .ok (some ((leadingCounts ws).map (4 * ·))) := by
  have hno : ¬ ∃ n ∈ leadingCounts ws, (UInt64.size - 1) / 4 < n.toNat := by
    rintro ⟨n, hn, hlt⟩
    exact absurd (hfit n hn) (Nat.not_le.2 hlt)
  rw [kibOfPages_eq, if_neg hno]

section

variable (line : String)

theorem ofLine?_eq_error_iff_kibOfPages (o : Overflow) :
    Statm.ofLine? line = .error o ↔ kibOfPages (Text.words line) = .error o := by
  unfold Statm.ofLine?
  split <;> simp_all

/-- A line fails to read exactly by an overflow, and exactly when a count before the first word
that is no count is too large. -/
theorem ofLine?_eq_error_iff (o : Overflow) :
    Statm.ofLine? line = .error o ↔
      o = .mul ∧ ∃ n ∈ leadingCounts (Text.words line), (UInt64.size - 1) / 4 < n.toNat := by
  rw [ofLine?_eq_error_iff_kibOfPages, kibOfPages_eq]
  by_cases hex : ∃ n ∈ leadingCounts (Text.words line), (UInt64.size - 1) / 4 < n.toNat
  · rw [if_pos hex, Except.error.injEq]
    exact ⟨fun h => ⟨h.symm, hex⟩, fun h => h.1.symm⟩
  · rw [if_neg hex]
    split <;> simp only [reduceCtorEq, false_iff, not_and] <;> exact fun _ => hex

variable {line}

theorem ofLine?_eq_none_iff
    (hfit : ∀ n ∈ leadingCounts (Text.words line), n.toNat ≤ (UInt64.size - 1) / 4) :
    Statm.ofLine? line = .ok none ↔
      (leadingCounts (Text.words line)).length < (Text.words line).length ∨
        (Text.words line).length < 7 := by
  have hle := leadingCounts_length_le (Text.words line)
  unfold Statm.ofLine?
  rw [kibOfPages_of_fits hfit]
  by_cases hshort : (leadingCounts (Text.words line)).length < (Text.words line).length
  · rw [if_pos hshort]
    simp only [hshort, true_or]
  · -- every word is a count: only the number of words decides
    rw [if_neg hshort]
    simp only [hshort, false_or]
    generalize hns : leadingCounts (Text.words line) = ns at hle hshort ⊢
    match ns with
    | [] | [_] | [_, _] | [_, _, _] | [_, _, _, _] | [_, _, _, _, _] | [_, _, _, _, _, _] =>
        simp only [List.length_cons, List.length_nil] at hle hshort
        simp only [List.map_cons, List.map_nil, true_iff]
        omega
    | _ :: _ :: _ :: _ :: _ :: _ :: _ :: rest =>
        simp only [List.length_cons] at hle hshort
        exact ⟨fun h => (by cases h), fun h => (by omega)⟩

/-- A line of counts only, at least seven and none too large, gives its first seven counts in
KiB; the counts after the seventh are read but not used. -/
theorem ofLine?_of_counts {a b c d e f g : UInt64} {rest : List UInt64}
    (hns : leadingCounts (Text.words line) = a :: b :: c :: d :: e :: f :: g :: rest)
    (hall : (leadingCounts (Text.words line)).length = (Text.words line).length)
    (hfit : ∀ n ∈ leadingCounts (Text.words line), n.toNat ≤ (UInt64.size - 1) / 4) :
    Statm.ofLine? line = .ok (some ⟨4 * a, 4 * b, 4 * c, 4 * d, 4 * e, 4 * f, 4 * g⟩) := by
  unfold Statm.ofLine?
  rw [kibOfPages_of_fits hfit, if_neg (by rw [hall]; exact Nat.lt_irrefl _), hns]
  rfl

end

theorem readStatm_malformed_iff (t : FileTree) (path : Location) :
    readStatm t path = .error (.source (.malformed path.shown "expected 7 page counters")) ↔
      ∃ content, t.readText path = .ok content ∧
        Statm.ofLine? (((Text.lines content).head?).getD "") = .ok none := by
  unfold readStatm
  cases h : t.readText path with
  | error e => simp
  | ok content =>
      simp only [Except.ok.injEq, exists_eq_left']
      split <;> simp_all

theorem readStatm_eq_ok_iff (t : FileTree) (path : Location) (s : Statm) :
    readStatm t path = .ok s ↔
      ∃ content, t.readText path = .ok content ∧
        Statm.ofLine? (((Text.lines content).head?).getD "") = .ok (some s) := by
  unfold readStatm
  cases h : t.readText path with
  | error e => simp
  | ok content =>
      simp only [Except.ok.injEq, exists_eq_left']
      split <;> simp_all

/-- Reading the page counters of a line: with `ns` the counts of the words before the first one
that is no count, the read overflows exactly when one of `ns` is more than a quarter of the
word's range, and always by a multiplication. Otherwise it gives nothing exactly when a word is
no count or there are fewer than seven words, and when every word is a count and there are seven
or more, the first seven in KiB. A `statm` file's read applies this to its first line: it gives
counters exactly when that line does, and fails as malformed exactly when that line gives
nothing. -/
theorem statm_line_counts :
    (∀ (line : String) (o : Overflow),
      Statm.ofLine? line = .error o ↔
        o = .mul ∧ ∃ n ∈ leadingCounts (Text.words line), (UInt64.size - 1) / 4 < n.toNat) ∧
    (∀ line : String,
      (∀ n ∈ leadingCounts (Text.words line), n.toNat ≤ (UInt64.size - 1) / 4) →
        (Statm.ofLine? line = .ok none ↔
          (leadingCounts (Text.words line)).length < (Text.words line).length ∨
            (Text.words line).length < 7) ∧
        ∀ a b c d e f g rest,
          leadingCounts (Text.words line) = a :: b :: c :: d :: e :: f :: g :: rest →
          (leadingCounts (Text.words line)).length = (Text.words line).length →
          Statm.ofLine? line = .ok (some ⟨4 * a, 4 * b, 4 * c, 4 * d, 4 * e, 4 * f, 4 * g⟩)) ∧
    (∀ (t : FileTree) (path : Location),
      (readStatm t path = .error (.source (.malformed path.shown "expected 7 page counters")) ↔
        ∃ content, t.readText path = .ok content ∧
          Statm.ofLine? (((Text.lines content).head?).getD "") = .ok none) ∧
      ∀ s, readStatm t path = .ok s ↔
        ∃ content, t.readText path = .ok content ∧
          Statm.ofLine? (((Text.lines content).head?).getD "") = .ok (some s)) :=
  ⟨ofLine?_eq_error_iff,
    fun _ hfit => ⟨ofLine?_eq_none_iff hfit, fun _ _ _ _ _ _ _ _ hns hall =>
      ofLine?_of_counts hns hall hfit⟩,
    fun t path => ⟨readStatm_malformed_iff t path, readStatm_eq_ok_iff t path⟩⟩

/-- A `statm` line with one count past the seventh, which is read and left unused. -/
theorem statm_line_counts_eight_words :
    (∀ n ∈ leadingCounts (Text.words "1000 200 50 10 0 300 0 9"),
        n.toNat ≤ (UInt64.size - 1) / 4) ∧
      Statm.ofLine? "1000 200 50 10 0 300 0 9" = .ok (some ⟨4000, 800, 200, 40, 0, 1200, 0⟩) := by
  have hns : leadingCounts (Text.words "1000 200 50 10 0 300 0 9") =
      [1000, 200, 50, 10, 0, 300, 0, 9] := by decide
  have hfit : ∀ n ∈ leadingCounts (Text.words "1000 200 50 10 0 300 0 9"),
      n.toNat ≤ (UInt64.size - 1) / 4 := by
    rw [hns]
    simp
  exact ⟨hfit, (statm_line_counts.2.1 _ hfit).2 1000 200 50 10 0 300 0 [9] hns (by decide)⟩

end MemoryRecorder
