import SolidityLint.Text.Basic

/-!
# Blank characters

The characters that count as white space in Unicode, together with the four information
separators U+001C to U+001F.  A line that consists of them is blank.  Every character that the
core library calls white space is one of them (`isBlank_of_isWhitespace`).
-/

namespace SolidityLint.Text

/-- Is `c` a white-space character of Unicode or an information separator? -/
def isBlank (c : Char) : Bool :=
  let n := c.toNat
  (9 ≤ n && n ≤ 13) || (0x1C ≤ n && n ≤ 0x20) || n == 0x85 || n == 0xA0 || n == 0x1680 ||
    (0x2000 ≤ n && n ≤ 0x200A) || n == 0x2028 || n == 0x2029 || n == 0x202F || n == 0x205F ||
    n == 0x3000

theorem isBlank_of_isWhitespace {c : Char} (h : c.isWhitespace = true) : isBlank c = true := by
  simp only [Char.isWhitespace, Bool.or_eq_true, decide_eq_true_eq] at h
  rcases h with ((h | h) | h) | h <;> subst h <;> decide

/-- Is `c` a space or a tab? -/
def isSpaceOrTab (c : Char) : Bool :=
  c == ' ' || c == '\t'

theorem isBlank_of_isSpaceOrTab {c : Char} (h : isSpaceOrTab c = true) : isBlank c = true := by
  simp only [isSpaceOrTab, Bool.or_eq_true, beq_iff_eq] at h
  rcases h with h | h <;> subst h <;> decide

/-- Drops the blanks at both ends of a text. -/
def strip (s : Text) : Text :=
  trimEnd isBlank (s.dropWhile isBlank)

end SolidityLint.Text
