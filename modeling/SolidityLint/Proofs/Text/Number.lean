import SolidityLint.Text.Basic

/-!
# Reading numbers

What is written for a natural number or an integer is read back as it was (`Text.number?_ofNat`,
`Text.signed?_ofInt`), and no other characters are written than digits and a minus sign.
-/

namespace SolidityLint.Text

/-- The number that decimal digits denote. -/
def number? (s : Text) : Option Nat :=
  if s.isEmpty || !s.all Char.isDigit then none else some (Nat.ofDigitChars 10 s 0)

/-- The integer that decimal digits denote, perhaps after a minus sign. -/
def signed? : Text → Option Int
  | '-' :: s => (number? s).map fun n => -(n : Int)
  | s => (number? s).map Int.ofNat

theorem number?_ofNat (n : Nat) : number? (ofNat n) = some n := by
  have hne : (ofNat n).isEmpty = false := by simp [ofNat]
  have hdigits : (ofNat n).all Char.isDigit = true :=
    List.all_eq_true.2 fun _ => isDigit_of_mem_ofNat
  rw [number?, hne, hdigits, if_neg (by decide), ofNat,
    Nat.ofDigitChars_toDigits (by decide) (by decide)]

theorem notMem_ofNat {c : Char} (hc : c.isDigit = false) (n : Nat) : c ∉ ofNat n := by
  intro hmem
  rw [isDigit_of_mem_ofNat hmem] at hc
  exact Bool.noConfusion hc

theorem signed?_ofInt (n : Int) : signed? (ofInt n) = some n := by
  cases n with
  | negSucc n =>
      rw [ofInt, signed?, number?_ofNat]
      rfl
  | ofNat n =>
      rw [ofInt, signed?, number?_ofNat]
      · rfl
      · intro s heq
        exact notMem_ofNat (by decide) n (heq ▸ List.mem_cons_self ..)

theorem isDigit_or_eq_of_mem_ofInt {n : Int} {c : Char} (h : c ∈ ofInt n) :
    c.isDigit = true ∨ c = '-' := by
  cases n with
  | ofNat n => exact .inl (isDigit_of_mem_ofNat h)
  | negSucc n => exact (List.mem_cons.1 h).symm.imp_left isDigit_of_mem_ofNat

end SolidityLint.Text
