import SolidityLint.Text.Blank

/-!
# Line breaks

Two readings of line breaks besides the plain line feed: the universal one, in which a carriage
return with or without a line feed counts as one line feed (`unifyNewlines`), and the Unicode
one, in which ten characters and the pair CR LF end a line (`breakLines`).  Cutting at the
breaks loses nothing (`flatten_breakLines`).
-/

namespace SolidityLint.Text

/-- Does `c` end a line by the Unicode reading? -/
def isBreak (c : Char) : Bool :=
  let n := c.toNat
  (10 ≤ n && n ≤ 13) || (0x1C ≤ n && n ≤ 0x1E) || n == 0x85 || n == 0x2028 || n == 0x2029

/-- The lines of a text by the Unicode reading, each with the break that ends it. -/
def breakLines : Text → List Text
  | [] => []
  | '\r' :: '\n' :: cs => ['\r', '\n'] :: breakLines cs
  | c :: cs =>
      if isBreak c then [c] :: breakLines cs
      else
        match breakLines cs with
        | [] => [[c]]
        | l :: ls => (c :: l) :: ls

theorem flatten_breakLines (s : Text) : (breakLines s).flatten = s := by
  fun_induction breakLines s with
  | case1 => rfl
  | case2 cs ih => simp [ih]
  | case3 c cs _ _ ih => simp [ih]
  | case4 c cs _ _ h ih => simp only [h, List.flatten_nil] at ih; simp [← ih]
  | case5 c cs _ _ l ls h ih => simp only [h, List.flatten_cons] at ih; simp [← ih]

/-- Turns every CR LF pair and every remaining carriage return into one line feed. -/
def unifyNewlines : Text → Text
  | [] => []
  | '\r' :: '\n' :: cs => '\n' :: unifyNewlines cs
  | c :: cs => (if c = '\r' then '\n' else c) :: unifyNewlines cs

end SolidityLint.Text
