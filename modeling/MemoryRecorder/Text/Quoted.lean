import MemoryRecorder.Text.Printable
/-!
# Quoted text

A string is quoted as a debug dump shows it: between double quotes, with quotes, backslashes and
control characters escaped, the characters that extend a grapheme or do not print shown as
`\u{…}` with their code point in hex, and every other character as itself.

Text without characters to escape is only put between quotes (`debugQuote_plain`).
-/

namespace MemoryRecorder

def quoteEscape (c : Char) : Option String :=
  match c with
  | '"' => some "\\\""
  | '\\' => some "\\\\"
  | '\n' => some "\\n"
  | '\r' => some "\\r"
  | '\t' => some "\\t"
  | '\x00' => some "\\0"
  | c =>
      if c.toNat < 32 || c.toNat = 127 || Text.escapesDebug c then
        some ("\\u" ++ "\x7b" ++ String.ofList (Nat.toDigits 16 c.toNat) ++ "\x7d")
      else none

/-- A string as a debug dump shows it. -/
def debugQuote (s : String) : String :=
  "\"" ++ String.join (s.toList.map fun c => (quoteEscape c).getD c.toString) ++ "\""

theorem debugQuote_plain (s : String) (h : ∀ c ∈ s.toList, quoteEscape c = none) :
    debugQuote s = "\"" ++ String.join (s.toList.map Char.toString) ++ "\"" := by
  unfold debugQuote
  have e : s.toList.map (fun c => (quoteEscape c).getD c.toString) = s.toList.map Char.toString :=
    List.map_congr_left fun c hc => by simp [h c hc]
  rw [e]

end MemoryRecorder
