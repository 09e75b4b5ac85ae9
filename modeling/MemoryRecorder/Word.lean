/-!
# Checked machine words

Sizes are unsigned 64-bit words, and every sum, difference or product of them is checked:
a result that leaves the word is an `Overflow`, never a wrapped value. Signed 64-bit words
only appear where a store keeps an unsigned value under the same bits.

A checked sum succeeds exactly when the true sum is below `2 ^ 64`, and it is then that sum
(`addChecked_eq_ok_iff`, `sumChecked_eq_ok_iff`).
-/

namespace MemoryRecorder

/-- The arithmetic step whose result did not fit into its word. -/
inductive Overflow where
  | add
  | sub
  | mul
  deriving DecidableEq, Repr

namespace Overflow

def message : Overflow → String
  | add => "attempt to add with overflow"
  | sub => "attempt to subtract with overflow"
  | mul => "attempt to multiply with overflow"

end Overflow

namespace Word

def addChecked (a b : UInt64) : Except Overflow UInt64 :=
  if a.toNat + b.toNat < UInt64.size then .ok (a + b) else .error .add

def subChecked (a b : UInt64) : Except Overflow UInt64 :=
  if b.toNat ≤ a.toNat then .ok (a - b) else .error .sub

def mulChecked (a b : UInt64) : Except Overflow UInt64 :=
  if a.toNat * b.toNat < UInt64.size then .ok (a * b) else .error .mul

/-- The sum of a list from the left, failing at the first partial sum that leaves the word. -/
def sumChecked (xs : List UInt64) : Except Overflow UInt64 :=
  xs.foldlM addChecked 0

def subSaturating (a b : UInt64) : UInt64 :=
  if b.toNat ≤ a.toNat then a - b else 0

theorem addChecked_eq_ok_iff (a b c : UInt64) :
    addChecked a b = .ok c ↔ a.toNat + b.toNat < UInt64.size ∧ c.toNat = a.toNat + b.toNat := by
  unfold addChecked
  split
  · rename_i h
    constructor
    · intro hc
      cases hc
      refine ⟨h, ?_⟩
      rw [UInt64.toNat_add]
      exact Nat.mod_eq_of_lt h
    · intro ⟨_, hc⟩
      have : c = a + b := by
        apply UInt64.toNat_inj.mp
        rw [UInt64.toNat_add, Nat.mod_eq_of_lt h, hc]
      rw [this]
  · rename_i h
    constructor
    · intro hc
      cases hc
    · intro ⟨h', _⟩
      exact absurd h' h

theorem addChecked_eq_error_iff (a b : UInt64) :
    addChecked a b = .error .add ↔ UInt64.size ≤ a.toNat + b.toNat := by
  unfold addChecked
  split
  · rename_i h
    constructor
    · intro hc
      cases hc
    · intro h'
      omega
  · rename_i h
    constructor
    · intro _
      omega
    · intro _
      rfl

theorem addChecked_ne_error_sub (a b : UInt64) (o : Overflow) (h : addChecked a b = .error o) :
    o = .add := by
  unfold addChecked at h
  split at h
  · cases h
  · cases h
    rfl

def exactSum (xs : List UInt64) : Nat :=
  xs.foldr (fun x s => x.toNat + s) 0

/-- Folding checked additions from a start value succeeds exactly when the start value plus the
list's sum stays below `2 ^ 64`: every partial sum is at most the whole one. -/
theorem foldlM_addChecked_eq_ok_iff (xs : List UInt64) :
    ∀ (init c : UInt64), xs.foldlM addChecked init = .ok c ↔
      init.toNat + exactSum xs < UInt64.size ∧
        c.toNat = init.toNat + exactSum xs := by
  induction xs with
  | nil =>
      intro init c
      simp only [List.foldlM_nil, exactSum, List.foldr_nil, Nat.add_zero]
      constructor
      · intro h
        cases h
        exact ⟨UInt64.toNat_lt init, rfl⟩
      · intro ⟨_, h⟩
        have : c = init := UInt64.toNat_inj.mp h
        rw [this]
        rfl
  | cons x xs ih =>
      intro init c
      simp only [List.foldlM_cons]
      have hsum : exactSum (x :: xs) = x.toNat + exactSum xs := rfl
      rw [hsum]
      cases hx : addChecked init x with
      | error o =>
          have hover : UInt64.size ≤ init.toNat + x.toNat := by
            have := addChecked_ne_error_sub init x o hx
            subst this
            exact (addChecked_eq_error_iff init x).mp hx
          constructor
          · intro h
            cases h
          · intro ⟨h, _⟩
            omega
      | ok s =>
          have hs := (addChecked_eq_ok_iff init x s).mp hx
          show xs.foldlM addChecked s = .ok c ↔ _
          rw [ih s]
          omega

theorem sumChecked_eq_ok_iff (xs : List UInt64) (c : UInt64) :
    sumChecked xs = .ok c ↔
      exactSum xs < UInt64.size ∧ c.toNat = exactSum xs := by
  have := foldlM_addChecked_eq_ok_iff xs 0 c
  simp only [UInt64.toNat_zero, Nat.zero_add] at this
  exact this

end Word

end MemoryRecorder
