/-!
# Padding text to a width

Formatted columns fill a field of a given width with spaces: on the right for left-aligned text,
on the left for right-aligned text, and on both sides for centred text, where the odd space goes
to the right. Widths count characters, and text already as wide as the field is left alone.

Centred text fills its field exactly when it is narrower (`centre_length`).
-/

namespace MemoryRecorder
namespace Text

def padRight (width : Nat) (s : String) : String :=
  s.pushn ' ' (width - s.length)

def padLeft (width : Nat) (s : String) : String :=
  "".pushn ' ' (width - s.length) ++ s

/-- Centred in a field of `width` characters; of an odd number of spaces, the extra one goes
right. -/
def centre (width : Nat) (s : String) : String :=
  let gap := width - s.length
  "".pushn ' ' (gap / 2) ++ s ++ "".pushn ' ' (gap - gap / 2)

theorem length_pushn (s : String) (c : Char) (n : Nat) : (s.pushn c n).length = s.length + n := by
  induction n with
  | zero => rfl
  | succ n ih =>
      show (String.push (s.pushn c n) c).length = _
      rw [String.length_push, ih]
      omega

theorem centre_length (width : Nat) (s : String) (h : s.length ≤ width) :
    (centre width s).length = width := by
  unfold centre
  simp only [String.length_append, length_pushn]
  simp only [String.length_empty]
  omega

end Text
end MemoryRecorder
