import SolidityLint.Text.Digit

/-!
# Numbers in literals

A number is written in decimal, perhaps with a fraction and an exponent, or in hexadecimal, octal or
binary behind a zero and a letter.  A decimal number with the letter `j` behind it is imaginary.  A
number ends before a character that is no part of a word, and what is left behind it is shorter
(`length_rest_of_number?`).
-/

namespace SolidityLint.Console.Literal

/-- Is `c` part of a word?  Every character beyond ASCII is taken for one. -/
def isWordChar (c : Char) : Bool :=
  c.isAlphanum || c == '_' || decide (128 ≤ c.toNat)

/-- The digits that a letter behind a zero announces. -/
def digitsOf? (letter : Char) : Option (Char → Bool) :=
  match letter.toLower with
  | 'x' => some Text.isHexDigit
  | 'o' => some Text.isOctalDigit
  | 'b' => some Text.isBinaryDigit
  | _ => none

/-- What follows the digits of a radix, if a text starts with them. -/
def afterRadix? : Text → Option Text
  | '0' :: letter :: s => do
      let isDigit ← digitsOf? letter
      let (digits, rest) := Text.digitRun isDigit s
      if digits.isEmpty then none else some rest
  | _ => none

/-- What follows an exponent, if a text starts with one. -/
def afterExponent? : Text → Option Text
  | c :: s =>
      if c = 'e' ∨ c = 'E' then
        let digits := match s with
          | '+' :: s | '-' :: s => s
          | s => s
        (Text.digits? Char.isDigit digits).map (·.2)
      else none
  | [] => none

/-- What follows a point and the digits behind it, of which there must be some unless digits stand
before the point. -/
def afterFraction? (hasWhole : Bool) : Text → Option Text
  | '.' :: s =>
      match Text.digits? Char.isDigit s with
      | some (_, rest) => some rest
      | none => if hasWhole then some s else none
  | _ => none

/-- Takes a decimal number: whether it is real, and what follows it.  An integer does not start with
a superfluous zero, unless it is imaginary. -/
def decimal? (s : Text) : Option (Bool × Text) :=
  let (whole, afterWhole) := (Text.digits? Char.isDigit s).getD ([], s)
  let fraction := afterFraction? (!whole.isEmpty) afterWhole
  let afterPoint := fraction.getD afterWhole
  let exponent := if whole.isEmpty && fraction.isNone then none else afterExponent? afterPoint
  let rest := exponent.getD afterPoint
  if whole.isEmpty && fraction.isNone then none
  else
    match rest with
    | 'j' :: rest | 'J' :: rest => some (false, rest)
    | rest =>
        let isInteger := fraction.isNone && exponent.isNone
        if isInteger && whole.head? == some '0' && whole.any (· != '0') then none
        else some (true, rest)

/-- Takes a number: whether it is real, and what follows it. -/
def number? (s : Text) : Option (Bool × Text) :=
  (((afterRadix? s).map (true, ·)).or (decimal? s)).filter fun taken =>
    !taken.2.head?.any isWordChar

/-! ## What is left is shorter -/

theorem length_rest_of_digitRun (isDigit : Char → Bool) (s : Text) :
    (Text.digitRun isDigit s).2.length ≤ s.length := by
  fun_induction Text.digitRun isDigit s with
  | case1 c s _ digits rest he ih => simp_all; omega
  | case2 => simp
  | case3 c s _ _ digits rest he ih => simp_all; omega
  | case4 => simp
  | case5 => simp

theorem length_rest_of_digits? {isDigit : Char → Bool} {s digits rest : Text}
    (h : Text.digits? isDigit s = some (digits, rest)) : rest.length < s.length := by
  unfold Text.digits? at h
  split at h
  · simp at h
  · next c s =>
    split at h
    · have := length_rest_of_digitRun isDigit s
      simp only [Option.some.injEq, Prod.mk.injEq] at h
      rw [← h.2, List.length_cons]
      omega
    · simp at h

theorem length_afterRadix? {s rest : Text} (h : afterRadix? s = some rest) :
    rest.length < s.length := by
  unfold afterRadix? at h
  split at h
  · next letter s =>
    obtain ⟨isDigit, -, h⟩ := Option.bind_eq_some_iff.1 h
    split at h
    next digits r hr =>
    split at h
    · simp at h
    · have := length_rest_of_digitRun isDigit s
      rw [hr] at this
      simp only [Option.some.injEq] at h
      subst h
      simp only [List.length_cons] at this ⊢
      omega
  · simp at h

theorem length_afterExponent? {s rest : Text} (h : afterExponent? s = some rest) :
    rest.length < s.length := by
  unfold afterExponent? at h
  split at h
  · next c s =>
    split at h
    · obtain ⟨⟨digits, r⟩, hr, rfl⟩ := Option.map_eq_some_iff.1 h
      have := length_rest_of_digits? hr
      split at this <;> simp only [List.length_cons] at this ⊢ <;> omega
    · simp at h
  · simp at h

theorem length_afterFraction? {hasWhole : Bool} {s rest : Text}
    (h : afterFraction? hasWhole s = some rest) : rest.length < s.length := by
  unfold afterFraction? at h
  split at h
  · next s =>
    split at h
    · next digits r hr =>
      simp only [Option.some.injEq] at h
      have := length_rest_of_digits? hr
      subst h
      simp only [List.length_cons]
      omega
    · split at h
      · simp only [Option.some.injEq] at h
        subst h
        simp
      · simp at h
  · simp at h

theorem length_getD_le {o : Option Text} {s : Text} (h : ∀ r, o = some r → r.length < s.length) :
    (o.getD s).length ≤ s.length := by
  cases o with
  | none => exact Nat.le_refl _
  | some r => exact Nat.le_of_lt (h r rfl)

theorem length_rest_of_decimal? {s rest : Text} {isReal : Bool}
    (h : decimal? s = some (isReal, rest)) : rest.length < s.length := by
  unfold decimal? at h
  split at h
  next whole afterWhole hw =>
  have hwhole : afterWhole.length ≤ s.length ∧ (whole ≠ [] → afterWhole.length < s.length) := by
    cases hd : Text.digits? Char.isDigit s with
    | none => rw [hd] at hw; cases hw; simp
    | some d =>
      rw [hd] at hw
      have hd : Text.digits? Char.isDigit s = some (whole, afterWhole) :=
        hd.trans (by simpa using hw)
      have := length_rest_of_digits? hd
      exact ⟨Nat.le_of_lt this, fun _ => this⟩
  have hfraction :=
    length_getD_le (o := afterFraction? (!whole.isEmpty) afterWhole) (s := afterWhole)
      fun _ => length_afterFraction?
  generalize hf : afterFraction? (!whole.isEmpty) afterWhole = fraction at h hfraction
  have hpoint : ¬(whole.isEmpty && fraction.isNone) = true →
      (fraction.getD afterWhole).length < s.length := by
    intro hne
    cases fraction with
    | some r =>
      have := length_afterFraction? hf
      simp only [Option.getD_some] at *
      omega
    | none => exact hwhole.2 (by simpa using hne)
  simp only at h
  split at h
  · simp at h
  · next hne =>
    have hp := hpoint hne
    generalize fraction.getD afterWhole = afterPoint at h hp
    have he := length_getD_le (o := afterExponent? afterPoint) (s := afterPoint)
      fun _ => length_afterExponent?
    split at h
    · next hj =>
      simp only [hj, Option.some.injEq, Prod.mk.injEq, List.length_cons] at h he
      rw [← h.2]
      omega
    · next hj =>
      simp only [hj, Option.some.injEq, Prod.mk.injEq, List.length_cons] at h he
      rw [← h.2]
      omega
    · split at h
      · simp at h
      · simp only [Option.some.injEq, Prod.mk.injEq] at h
        rw [← h.2]
        omega

theorem length_rest_of_number? {s rest : Text} {isReal : Bool}
    (h : number? s = some (isReal, rest)) : rest.length < s.length := by
  have h' := (Option.filter_eq_some_iff.1 h).1
  rcases Option.or_eq_some_iff.1 h' with h' | ⟨-, h'⟩
  · obtain ⟨r, hr, he⟩ := Option.map_eq_some_iff.1 h'
    cases he
    exact length_afterRadix? hr
  · exact length_rest_of_decimal? h'

end SolidityLint.Console.Literal
