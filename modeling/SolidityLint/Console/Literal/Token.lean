import SolidityLint.Console.Literal.Number
import SolidityLint.Console.Literal.Quotation
import SolidityLint.Text.Break

/-!
# Tokens of literals

A literal is cut into tokens.  Blanks, comments and line feeds behind a backslash stand between
tokens, and so do line feeds in brackets.  A line feed outside brackets ends a line, and the next
line must not be indented unless it is blank.  Brackets are not nested more than two hundred deep.
-/

namespace SolidityLint.Console.Literal

/-- The kinds of brackets. -/
inductive Bracket where
  | round
  | curly
  deriving DecidableEq, Repr

/-- The smallest parts of a literal. -/
inductive Token where
  /-- A number; whether it is real. -/
  | number (isReal : Bool)
  /-- A quoted text; whether it holds bytes. -/
  | quotation (isBytes : Bool)
  /-- A truth value or the like. -/
  | constant
  /-- The name behind which a pair of brackets denotes the empty set. -/
  | setName
  | opening (b : Bracket)
  | closing (b : Bracket)
  | comma
  | colon
  | plus
  | minus
  /-- The end of a line outside brackets. -/
  | lineEnd
  deriving DecidableEq, Repr

/-! ## Single tokens -/

/-- The token that is a single character. -/
def ofChar? : Char → Option Token
  | '(' => some (.opening .round)
  | ')' => some (.closing .round)
  | '\x7b' => some (.opening .curly)
  | '\x7d' => some (.closing .curly)
  | ',' => some .comma
  | ':' => some .colon
  | '+' => some .plus
  | '-' => some .minus
  | _ => none

/-- The letters that can stand for a letter of the set's name, by their code points: among them
full-width letters and those of mathematics. -/
def setLetters : List (List Nat) :=
  [[0x73, 0x17F, 0x2E2, 0x209B, 0xFF53, 0x1D42C, 0x1D460, 0x1D494, 0x1D4C8, 0x1D4FC, 0x1D530,
      0x1D564, 0x1D598, 0x1D5CC, 0x1D600, 0x1D634, 0x1D668, 0x1D69C],
    [0x65, 0x1D49, 0x2091, 0x212F, 0x2147, 0xFF45, 0x1D41E, 0x1D452, 0x1D486, 0x1D4EE, 0x1D522,
      0x1D556, 0x1D58A, 0x1D5BE, 0x1D5F2, 0x1D626, 0x1D65A, 0x1D68E],
    [0x74, 0x1D57, 0x209C, 0xFF54, 0x1D42D, 0x1D461, 0x1D495, 0x1D4C9, 0x1D4FD, 0x1D531, 0x1D565,
      0x1D599, 0x1D5CD, 0x1D601, 0x1D635, 0x1D669, 0x1D69D]]

/-- Is a word the name of the empty set? -/
def isSetName (word : Text) : Bool :=
  word.length == setLetters.length &&
    (word.zip setLetters).all fun (c, letters) => letters.contains c.toNat

/-- The words that are constants. -/
def constants : List Text :=
  ["True", "False", "None"].map String.toList

/-- The token that a word is. -/
def ofWord? (word : Text) : Option Token :=
  if constants.contains word then some .constant
  else if isSetName word then some .setName
  else none

/-- Takes a word that is a token. -/
def word? (s : Text) : Option (Token × Text) :=
  match s with
  | [] => none
  | c :: _ =>
      if isWordChar c then
        (ofWord? (s.takeWhile isWordChar)).map (·, s.dropWhile isWordChar)
      else none

/-- Takes three points, which are a constant. -/
def points? : Text → Option (Token × Text)
  | '.' :: '.' :: '.' :: s => some (.constant, s)
  | _ => none

/-- Takes the token at the start of a text. -/
def token? : Text → Option (Token × Text)
  | [] => none
  | c :: s =>
      match ofChar? c with
      | some t => some (t, s)
      | none =>
          ((number? (c :: s)).map fun (isReal, rest) => (.number isReal, rest)).or
            (((quotation? (c :: s)).map fun (isBytes, rest) => (.quotation isBytes, rest)).or
              ((points? (c :: s)).or (word? (c :: s))))

theorem length_rest_of_token? {s rest : Text} {t : Token} (h : token? s = some (t, rest)) :
    rest.length < s.length := by
  unfold token? at h
  split at h
  · simp at h
  · next c s =>
    split at h
    · cases h
      simp
    · rcases Option.or_eq_some_iff.1 h with h | ⟨-, h⟩
      · obtain ⟨⟨b, r⟩, hr, he⟩ := Option.map_eq_some_iff.1 h
        cases he
        exact length_rest_of_number? hr
      rcases Option.or_eq_some_iff.1 h with h | ⟨-, h⟩
      · obtain ⟨⟨b, r⟩, hr, he⟩ := Option.map_eq_some_iff.1 h
        cases he
        exact length_rest_of_quotation? hr
      rcases Option.or_eq_some_iff.1 h with h | ⟨-, h⟩
      · unfold points? at h
        split at h
        · next hs =>
          cases h
          rw [hs]
          simp only [List.length_cons]
          omega
        · simp at h
      · simp only [word?] at h
        split at h
        · next hc =>
          obtain ⟨t', -, he⟩ := Option.map_eq_some_iff.1 h
          cases he
          have := (List.dropWhile_suffix isWordChar (l := s)).length_le
          simp only [List.dropWhile_cons, hc, ↓reduceIte, List.length_cons]
          omega
        · simp at h

/-! ## Lines -/

/-- May `c` stand between tokens? -/
def isGap (c : Char) : Bool :=
  c == ' ' || c == '\t' || c == '\x0c'

/-- Drops the blanks at the start of a line, which must not be indented unless it is blank.  A form
feed takes back the blanks before it, but not those that were followed by a line feed behind a
backslash, of which `isFixed` tells. -/
def lineStart? (isIndented isFixed : Bool) : Text → Option Text
  | [] => some []
  | '\\' :: '\n' :: s => if s.isEmpty then none else lineStart? isIndented (isFixed || isIndented) s
  | c :: s =>
      if c == ' ' || c == '\t' then lineStart? true isFixed s
      else if c == '\x0c' then lineStart? false isFixed s
      else if (isIndented || isFixed) && c != '#' && c != '\n' then none
      else some (c :: s)

theorem length_lineStart? {isIndented isFixed : Bool} {s rest : Text}
    (h : lineStart? isIndented isFixed s = some rest) : rest.length ≤ s.length := by
  fun_induction lineStart? isIndented isFixed s with
  | case1 => cases h; simp
  | case2 => simp at h
  | case3 _ _ s _ ih => have := ih h; simp only [List.length_cons]; omega
  | case4 _ _ _ s _ _ ih => have := ih h; simp only [List.length_cons]; omega
  | case5 _ _ _ s _ _ _ ih => have := ih h; simp only [List.length_cons]; omega
  | case6 => simp at h
  | case7 => cases h; exact Nat.le_refl _

/-! ## All tokens -/

/-- The greatest number of brackets that may be open. -/
def maxDepth : Nat := 200

/-- The number of open brackets behind a token. -/
def depthAfter? (depth : Nat) : Token → Option Nat
  | .opening _ => if depth < maxDepth then some (depth + 1) else none
  | .closing _ => if depth = 0 then none else some (depth - 1)
  | _ => some depth

/-- The tokens of a text that `depth` brackets are open before. -/
def tokensFrom? (depth : Nat) : Text → Option (List Token)
  | [] => some []
  | '\\' :: '\n' :: s => if s.isEmpty then none else tokensFrom? depth s
  | c :: s =>
      if c = '#' then tokensFrom? depth (s.dropWhile (· ≠ '\n'))
      else if isGap c then tokensFrom? depth s
      else if c = '\n' then
        if depth = 0 then
          match h : lineStart? false false s with
          | none => none
          | some next =>
              have : next.length ≤ s.length := length_lineStart? h
              (tokensFrom? depth next).map (.lineEnd :: ·)
        else tokensFrom? depth s
      else
        match h : token? (c :: s) with
        | none => none
        | some (t, rest) =>
            have : rest.length < (c :: s).length := length_rest_of_token? h
            match depthAfter? depth t with
            | none => none
            | some d => (tokensFrom? d rest).map (t :: ·)
termination_by s => s.length
decreasing_by
  · simp only [List.length_cons]; omega
  · exact Nat.lt_succ_of_le (List.dropWhile_suffix _).length_le
  · exact Nat.lt_succ_self _
  · exact Nat.lt_succ_of_le this
  · exact Nat.lt_succ_self _
  · exact this

/-- The tokens of a text. -/
def tokens? (s : Text) : Option (List Token) :=
  (lineStart? false false s.unifyNewlines).bind (tokensFrom? 0)

end SolidityLint.Console.Literal
