/-!
# Blank characters, words and lines

A blank is a character with the Unicode `White_Space` property: the five ASCII controls from
tab to carriage return, the space, U+0085, the no-break space and the blanks of the General
Punctuation and CJK blocks. Words are the maximal runs of non-blanks. Lines end at a line feed,
one carriage return before it goes with the break, and a final line feed opens no empty line.

Splitting never yields an empty word (`wordsFrom_ne_nil`).
-/

namespace MemoryRecorder
namespace Text

/-- Whether a character has the Unicode `White_Space` property. -/
def isBlank (c : Char) : Bool :=
  let n := c.toNat
  (0x09 ≤ n && n ≤ 0x0D) || n = 0x20 || n = 0x85 || n = 0xA0 || n = 0x1680 ||
    (0x2000 ≤ n && n ≤ 0x200A) || n = 0x2028 || n = 0x2029 || n = 0x202F || n = 0x205F ||
    n = 0x3000

def wordsFrom : List Char → List Char → List (List Char)
  | acc, [] => if acc.isEmpty then [] else [acc.reverse]
  | acc, c :: cs =>
      if isBlank c then
        if acc.isEmpty then wordsFrom [] cs else acc.reverse :: wordsFrom [] cs
      else wordsFrom (c :: acc) cs

/-- The words of a text: its maximal runs of non-blank characters, in order. -/
def words (s : String) : List String :=
  (wordsFrom [] s.toList).map String.ofList

def trimBlank (s : String) : String :=
  String.ofList ((s.toList.dropWhile isBlank).reverse.dropWhile isBlank).reverse

def splitFeeds : List Char → List (List Char)
  | [] => [[]]
  | c :: cs =>
      match splitFeeds cs with
      | [] => [[c]]
      | p :: ps => if c = '\n' then [] :: p :: ps else (c :: p) :: ps

def dropReturn (cs : List Char) : List Char :=
  if cs.getLast? = some '\r' then cs.dropLast else cs

/-- The lines of a text. A line ends at a line feed, with one carriage return before it; a
text that ends in a line feed has no empty last line, and an empty text has no line. -/
def lines (s : String) : List String :=
  let pieces := splitFeeds s.toList
  let closed := pieces.dropLast.map dropReturn
  let last := pieces.getLast?.getD []
  (if last.isEmpty then closed else closed ++ [last]).map String.ofList

def splitOnce (c : Char) (s : String) : Option (String × String) :=
  let cs := s.toList
  if c ∈ cs then
    some (String.ofList (cs.takeWhile (· ≠ c)), String.ofList ((cs.dropWhile (· ≠ c)).drop 1))
  else none

theorem wordsFrom_ne_nil (cs acc : List Char) : [] ∉ wordsFrom acc cs := by
  induction cs generalizing acc with
  | nil =>
      intro h
      unfold wordsFrom at h
      split at h
      · simp at h
      · rename_i hne
        simp only [List.mem_singleton] at h
        have : acc = [] := List.reverse_eq_nil_iff.mp h.symm
        simp [this] at hne
  | cons c cs ih =>
      intro h
      unfold wordsFrom at h
      split at h
      · split at h
        · exact ih [] h
        · rename_i hne
          simp only [List.mem_cons] at h
          rcases h with h | h
          · have : acc = [] := List.reverse_eq_nil_iff.mp h.symm
            simp [this] at hne
          · exact ih [] h
      · exact ih (c :: acc) h

end Text
end MemoryRecorder
