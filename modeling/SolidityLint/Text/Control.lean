import SolidityLint.Text.Basic

/-!
# Characters that are not shown

A console drops the bell, the backspace, the vertical tab, the form feed and the carriage return,
which would move its cursor or ring.  The width of a column is measured before they are dropped.
A message that does not go to a terminal is told without its control sequences, each of which
starts with an escape character and an opening bracket and ends with a letter.
-/

namespace SolidityLint.Text

/-- Does a console drop `c`? -/
def isSwallowed (c : Char) : Bool :=
  c == '\x07' || c == '\x08' || c == '\x0b' || c == '\x0c' || c == '\r'

/-- A text without the characters that a console drops. -/
def withoutSwallowed (s : Text) : Text :=
  s.filter (!isSwallowed ·)

theorem withoutSwallowed_append (s t : Text) :
    withoutSwallowed (s ++ t) = withoutSwallowed s ++ withoutSwallowed t :=
  List.filter_append ..

theorem withoutSwallowed_eq_self {s : Text} (h : ∀ c ∈ s, isSwallowed c = false) :
    withoutSwallowed s = s :=
  List.filter_eq_self.2 fun c hc => by simp [h c hc]

/-! ## Control sequences -/

/-- May `c` stand before the letter that ends a control sequence? -/
def isParameter (c : Char) : Bool :=
  c.isDigit || c == ';' || c == '?'

/-- What follows a control sequence, if a text starts with one. -/
def afterSequence? : Text → Option Text
  | '\x1b' :: '[' :: s =>
      match s.dropWhile isParameter with
      | c :: rest => if c.isAlpha then some rest else none
      | [] => none
  | _ => none

theorem length_of_afterSequence? {s rest : Text} (h : afterSequence? s = some rest) :
    rest.length < s.length := by
  unfold afterSequence? at h
  split at h
  · next r =>
    split at h
    · next c rest' hr =>
      split at h
      · have h1 := (List.dropWhile_suffix isParameter (l := r)).length_le
        simp only [hr, Option.some.injEq] at h h1
        subst h
        simp only [List.length_cons] at h1 ⊢
        omega
      · simp at h
    · simp at h
  · simp at h

/-- A text without its control sequences. -/
def withoutSequences : Text → Text
  | [] => []
  | c :: s =>
      match h : afterSequence? (c :: s) with
      | some rest =>
          have : rest.length < (c :: s).length := length_of_afterSequence? h
          withoutSequences rest
      | none => c :: withoutSequences s
termination_by s => s.length
decreasing_by
  · exact this
  · exact Nat.lt_succ_self s.length

end SolidityLint.Text
