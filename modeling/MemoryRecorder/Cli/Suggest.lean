/-!
# Suggesting a similar word

A mistyped option or value is answered with the most similar valid one, when one is similar
enough. Similarity is the Jaro similarity of the two character sequences: characters match when
they are equal and at most about half the longer length apart, and the score averages the share
of matched characters in each word and the share of matches that are in the same order.

The score is computed in binary floating point, term by term, so that a score on the threshold
compares the same way every time.

Matching marks exactly one flag per character (`matchFlags_length`).
-/

namespace MemoryRecorder
namespace Cli

/-- Marks, for each character of `a` in turn, the first unmarked equal character of `b` within
`range` positions; returns the marks on `a` and on `b`. -/
def matchFlags (range : Nat) (a : List Char) (b : Array Char) : List Bool × Array Bool :=
  let step (acc : List Bool × Array Bool × Nat) (c : Char) : List Bool × Array Bool × Nat :=
    let (aFlags, bFlags, i) := acc
    let lo := i - range
    let hi := min b.size (i + range + 1)
    let j? := (List.range hi).find? fun j =>
      lo ≤ j && b.getD j ' ' == c && !bFlags.getD j true
    match j? with
    | some j => (aFlags ++ [true], bFlags.setIfInBounds j true, i + 1)
    | none => (aFlags ++ [false], bFlags, i + 1)
  let (aFlags, bFlags, _) := a.foldl step ([], Array.replicate b.size false, 0)
  (aFlags, bFlags)

/-- The Jaro similarity of two words, between zero and one. -/
def jaro (a b : String) : Float :=
  let as := a.toList
  let bs := b.toList
  let la := as.length
  let lb := bs.length
  if la = 0 && lb = 0 then 1
  else if la = 0 || lb = 0 then 0
  else
    let range := max la lb / 2 - 1
    let (aFlags, bFlags) := matchFlags range as bs.toArray
    let aMatched := (as.zip aFlags).filterMap fun (c, f) => if f then some c else none
    let bMatched := (bs.zip bFlags.toList).filterMap fun (c, f) => if f then some c else none
    let m := aMatched.length
    let t := ((aMatched.zip bMatched).filter fun (x, y) => x != y).length / 2
    if m = 0 then 0
    else
      let mf := m.toFloat
      (mf / la.toFloat + mf / lb.toFloat + (m - t).toFloat / mf) / 3

def insertByScore (x : Float × String) : List (Float × String) → List (Float × String)
  | [] => [x]
  | y :: ys => if x.1 < y.1 then x :: y :: ys else y :: insertByScore x ys

/-- The candidate most similar to `word`, of those scoring above `0.7`; of equal scores, the one
listed last. -/
def suggest (word : String) (candidates : List String) : Option String :=
  let scored := candidates.filterMap fun c =>
    let s := jaro word c
    if s > 0.7 then some (s, c) else none
  let sorted := scored.foldl (fun acc x => insertByScore x acc) []
  sorted.getLast?.map Prod.snd

theorem matchFlags_length (range : Nat) (a : List Char) (b : Array Char) :
    (matchFlags range a b).1.length = a.length := by
  unfold matchFlags
  suffices h : ∀ (l : List Char) (s : List Bool × Array Bool × Nat),
      (l.foldl (fun acc c =>
        let (aFlags, bFlags, i) := acc
        match (List.range (min b.size (i + range + 1))).find? (fun j =>
            (i - range) ≤ j && b.getD j ' ' == c && !bFlags.getD j true) with
        | some j => (aFlags ++ [true], bFlags.setIfInBounds j true, i + 1)
        | none => (aFlags ++ [false], bFlags, i + 1)) s).1.length = s.1.length + l.length by
    simpa using h a ([], Array.replicate b.size false, 0)
  intro l
  induction l with
  | nil => intro s; simp
  | cons c rest ih =>
      intro s
      rw [List.foldl_cons, ih]
      obtain ⟨aFlags, bFlags, i⟩ := s
      simp only [List.length_cons]
      split <;> simp <;> omega

end Cli
end MemoryRecorder
