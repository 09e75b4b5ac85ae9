/-!
# Characters of YAML text

The classes of characters that YAML reading and writing tell apart: blanks (space and tab), line
breaks (line feed, carriage return, next line, line and paragraph separators), and the
characters a document may hold at all. The character `'\x00'` stands for the end of the text:
a document cannot contain it, since it is not printable.
-/

namespace MemoryRecorder
namespace Yaml

def isBlank (c : Char) : Bool :=
  c == ' ' || c == '\t'

/-- A line break: line feed, carriage return, next line, line or paragraph separator. -/
def isBreak (c : Char) : Bool :=
  c == '\n' || c == '\r' || c.toNat == 0x85 || c.toNat == 0x2028 || c.toNat == 0x2029

def isEnd (c : Char) : Bool :=
  c.toNat == 0

def isBlankZ (c : Char) : Bool :=
  isBlank c || isBreak c || isEnd c

def isBreakZ (c : Char) : Bool :=
  isBreak c || isEnd c

def isWordChar (c : Char) : Bool :=
  c.isAlphanum && c.toNat < 128 || c == '_' || c == '-'

def isHexDigit (c : Char) : Bool :=
  c.isDigit || ('a' ≤ c && c ≤ 'f') || ('A' ≤ c && c ≤ 'F')

def hexValue (c : Char) : Nat :=
  if c.isDigit then c.toNat - '0'.toNat
  else if 'a' ≤ c && c ≤ 'f' then c.toNat - 'a'.toNat + 10
  else c.toNat - 'A'.toNat + 10

/-- Characters a document may contain: tab, breaks, printable ASCII, and the printable planes of
Unicode. -/
def isAllowed (c : Char) : Bool :=
  let n := c.toNat
  n == 0x09 || n == 0x0A || n == 0x0D || (0x20 ≤ n && n ≤ 0x7E) || n == 0x85 ||
    (0xA0 ≤ n && n ≤ 0xD7FF) || (0xE000 ≤ n && n ≤ 0xFFFD) || (0x10000 ≤ n && n ≤ 0x10FFFF)

/-- Characters a YAML writer may put in a document unescaped: all but tabs and other control
characters, surrogates, the byte order mark and the noncharacters U+FFFE and U+FFFF. -/
def isPrintable (c : Char) : Bool :=
  let n := c.toNat
  n == 0x0A || (0x20 ≤ n && n ≤ 0x7E) || (0xA0 ≤ n && n ≤ 0xD7FF) ||
    (0xE000 ≤ n && n ≤ 0xFFFD && n != 0xFEFF) || 0x10000 ≤ n

end Yaml
end MemoryRecorder
