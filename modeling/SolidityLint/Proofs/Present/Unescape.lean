import Mathlib.Tactic.IntervalCases
import SolidityLint.Present.Json
import SolidityLint.Text.Digit

/-!
# Reading quoted texts

A JSON text is read without regard to how it was written: escapes of every kind are accepted, and
the 16-bit units that they stand for are put together to characters (`Json.unquoted?`).  What is
written by `Json.quoted` is read back as it was (`Json.unquoted?_quoted`), whatever characters it
holds.

* `Text.ofDigits_ofNatHex`: hexadecimal digits are read back.
* `Json.ofUnits?_flatMap_unitsOf`: characters are put together again from their units.
* `Json.escapeChar_cases`: a character is written by a short escape, as it is, or by its units.
* `Json.units?_escapeChar_append`: what is written for a character stands for its units.
* `Json.isPlain_quoted`: a quoted text is printable ASCII.
-/

namespace SolidityLint

/-! ## Hexadecimal digits -/

namespace Text

variable {d n width : Nat} {c : Char}

theorem isHexDigit_digitChar (h : d < 16) : isHexDigit d.digitChar := by
  interval_cases d <;> rfl

theorem digitValue_digitChar (h : d < 16) : digitValue d.digitChar = d := by
  interval_cases d <;> rfl

theorem isHexDigit_of_mem_toDigits (h : c ∈ Nat.toDigits 16 n) : isHexDigit c := by
  induction n using Nat.strongRecOn with
  | ind n ih =>
      by_cases hn : n < 16
      · rw [Nat.toDigits_of_lt_base hn, List.mem_singleton] at h
        exact h ▸ isHexDigit_digitChar hn
      · rw [Nat.toDigits_of_base_le (by decide) (Nat.le_of_not_lt hn), List.mem_append,
          List.mem_singleton] at h
        rcases h with h | rfl
        · exact ih (n / 16) (Nat.div_lt_self (by omega) (by decide)) h
        · exact isHexDigit_digitChar (Nat.mod_lt n (by decide))

theorem ofDigits_append_singleton (radix : Nat) (s : Text) (c : Char) :
    ofDigits radix (s ++ [c]) = radix * ofDigits radix s + digitValue c := by
  rw [ofDigits, List.foldl_append]
  rfl

theorem ofDigits_replicate_append (radix width : Nat) (s : Text) :
    ofDigits radix (List.replicate width '0' ++ s) = ofDigits radix s := by
  induction width with
  | zero => rfl
  | succ width ih =>
      have hzero : radix * 0 + digitValue '0' = 0 := rfl
      rw [ofDigits] at ih ⊢
      rw [List.replicate_succ, List.cons_append, List.foldl_cons, hzero, ih]

theorem ofDigits_toDigits (n : Nat) : ofDigits 16 (Nat.toDigits 16 n) = n := by
  induction n using Nat.strongRecOn with
  | ind n ih =>
      by_cases hn : n < 16
      · rw [Nat.toDigits_of_lt_base hn]
        exact (Nat.zero_add _).trans (digitValue_digitChar hn)
      · have hrest := ih (n / 16) (Nat.div_lt_self (by omega) (by decide))
        have hlast := digitValue_digitChar (Nat.mod_lt n (by decide : 0 < 16))
        rw [Nat.toDigits_of_base_le (by decide) (Nat.le_of_not_lt hn), ofDigits_append_singleton,
          hrest, hlast, Nat.div_add_mod]

theorem length_ofNatHex (hwidth : 0 < width) (h : n < 16 ^ width) :
    (ofNatHex width n).length = width := by
  have hlength := (Nat.length_toDigits_le_iff (by decide) hwidth).2 h
  rw [ofNatHex, List.length_append, List.length_replicate, Nat.sub_add_cancel hlength]

theorem isHexDigit_of_mem_ofNatHex (h : c ∈ ofNatHex width n) : isHexDigit c := by
  rcases List.mem_append.1 h with h | h
  · rw [List.eq_of_mem_replicate h]
    rfl
  · exact isHexDigit_of_mem_toDigits h

/-- Hexadecimal digits are read back, however wide they are written. -/
theorem ofDigits_ofNatHex (width n : Nat) : ofDigits 16 (ofNatHex width n) = n := by
  rw [ofNatHex, ofDigits_replicate_append, ofDigits_toDigits]

end Text

namespace Json

/-! ## 16-bit units -/

/-- Is a unit the first of the two that stand for a character? -/
def isHigh (n : Nat) : Bool :=
  decide (0xD800 ≤ n) && decide (n < 0xDC00)

/-- Is a unit the second of the two that stand for a character? -/
def isLow (n : Nat) : Bool :=
  decide (0xDC00 ≤ n) && decide (n < 0xE000)

/-- The units of a character: two if it lies beyond U+FFFF. -/
def unitsOf (c : Char) : List Nat :=
  if c.toNat < 0x10000 then [c.toNat]
  else [0xD800 + (c.toNat - 0x10000) / 0x400, 0xDC00 + (c.toNat - 0x10000) % 0x400]

/-- The character for which two units stand. -/
def ofPair (high low : Nat) : Char :=
  Char.ofNat (0x10000 + 0x400 * (high - 0xD800) + (low - 0xDC00))

/-- The text for which units stand; there is none if one of two is missing. -/
def ofUnits? : List Nat → Option Text
  | [] => some []
  | [n] => if isHigh n || isLow n then none else some [Char.ofNat n]
  | n :: low :: ns =>
      if isHigh n then
        if isLow low then (ofUnits? ns).map (ofPair n low :: ·) else none
      else if isLow n then none
      else (ofUnits? (low :: ns)).map (Char.ofNat n :: ·)

theorem lt_of_mem_unitsOf {c : Char} {n : Nat} (h : n ∈ unitsOf c) : n < 0x10000 := by
  have hvalid : c.toNat.isValidChar := c.valid
  rw [unitsOf] at h
  split at h
  · rwa [List.mem_singleton.1 h]
  · simp only [List.mem_cons, List.not_mem_nil, or_false] at h
    rcases hvalid with hvalid | hvalid <;> omega

/-- No unit of a character that has only one is a part of two. -/
theorem isHigh_or_isLow_toNat (c : Char) : (isHigh c.toNat || isLow c.toNat) = false := by
  have hvalid : c.toNat.isValidChar := c.valid
  simp only [isHigh, isLow, Bool.or_eq_false_iff, Bool.and_eq_false_iff, decide_eq_false_iff_not]
  rcases hvalid with h | h <;> omega

theorem ofUnits?_cons_toNat (c : Char) (ns : List Nat) :
    ofUnits? (c.toNat :: ns) = (ofUnits? ns).map (c :: ·) := by
  have hunit := isHigh_or_isLow_toNat c
  cases ns with
  | nil => simp [ofUnits?, hunit]
  | cons low ns =>
      obtain ⟨hhigh, hlow⟩ := Bool.or_eq_false_iff.1 hunit
      rw [ofUnits?, hhigh, hlow, Char.ofNat_toNat]
      rfl

theorem ofUnits?_unitsOf_append (c : Char) (ns : List Nat) :
    ofUnits? (unitsOf c ++ ns) = (ofUnits? ns).map (c :: ·) := by
  rw [unitsOf]
  split
  · exact ofUnits?_cons_toNat c ns
  · rename_i hbeyond
    have hvalid : c.toNat.isValidChar := c.valid
    generalize hoffset : c.toNat - 0x10000 = offset
    have hlt : offset < 0x100000 := by rcases hvalid with h | h <;> omega
    have hhigh : isHigh (0xD800 + offset / 0x400) = true := by
      simp only [isHigh, Bool.and_eq_true, decide_eq_true_eq]
      omega
    have hlow : isLow (0xDC00 + offset % 0x400) = true := by
      simp only [isLow, Bool.and_eq_true, decide_eq_true_eq]
      omega
    have hpair : ofPair (0xD800 + offset / 0x400) (0xDC00 + offset % 0x400) = c := by
      have hvalue : 0x10000 + 0x400 * (offset / 0x400) + offset % 0x400 = c.toNat := by omega
      rw [ofPair, Nat.add_sub_cancel_left, Nat.add_sub_cancel_left, hvalue, Char.ofNat_toNat]
    rw [List.cons_append, List.cons_append, List.nil_append, ofUnits?, if_pos hhigh, if_pos hlow,
      hpair]

theorem ofUnits?_flatMap_unitsOf (s : Text) : ofUnits? (s.flatMap unitsOf) = some s := by
  induction s with
  | nil => rfl
  | cons c s ih => rw [List.flatMap_cons, ofUnits?_unitsOf_append, ih, Option.map_some]

/-! ## What is written for a character -/

variable {c e : Char} {n : Nat}

/-- Is a character printable ASCII? -/
def IsPlain (c : Char) : Prop :=
  0x20 ≤ c.toNat ∧ c.toNat < 0x7F

instance (c : Char) : Decidable (IsPlain c) :=
  inferInstanceAs (Decidable (_ ∧ _))

/-- The character that is written by a backslash and one more character. -/
def ofShortEscape? : Char → Option Char
  | '"' => some '"'
  | '\\' => some '\\'
  | '/' => some '/'
  | 'b' => some '\x08'
  | 'f' => some '\x0c'
  | 'n' => some '\n'
  | 'r' => some '\r'
  | 't' => some '\t'
  | _ => none

/-- A character is written by a short escape, as it is, or by its units. -/
theorem escapeChar_cases (c : Char) :
    (∃ e, escapeChar c = ['\\', e] ∧ ofShortEscape? e = some c ∧ IsPlain e) ∨
    (escapeChar c = [c] ∧ c ≠ '"' ∧ c ≠ '\\' ∧ IsPlain c) ∨
    escapeChar c = (unitsOf c).flatMap unitEscape := by
  generalize heq : escapeChar c = s
  rw [escapeChar] at heq
  split_ifs at heq with hquote hslash hfeed hreturn htab hback hform hprintable hbmp <;> subst heq
  · exact .inl ⟨'"', rfl, congrArg some hquote.symm, by decide⟩
  · exact .inl ⟨'\\', rfl, congrArg some hslash.symm, by decide⟩
  · exact .inl ⟨'n', rfl, congrArg some hfeed.symm, by decide⟩
  · exact .inl ⟨'r', rfl, congrArg some hreturn.symm, by decide⟩
  · exact .inl ⟨'t', rfl, congrArg some htab.symm, by decide⟩
  · exact .inl ⟨'b', rfl, congrArg some hback.symm, by decide⟩
  · exact .inl ⟨'f', rfl, congrArg some hform.symm, by decide⟩
  · exact .inr (.inl ⟨rfl, hquote, hslash, hprintable⟩)
  · rw [unitsOf, if_pos hbmp]
    exact .inr (.inr (List.append_nil _).symm)
  · rw [unitsOf, if_neg hbmp]
    exact .inr (.inr (congrArg _ (List.append_nil _).symm))

/-! ## Reading -/

/-- The units of what stands before the closing quote, with which the text ends. -/
def units? : Text → Option (List Nat)
  | [] => none
  | ['"'] => some []
  | '\\' :: 'u' :: a :: b :: c :: d :: s =>
      if [a, b, c, d].all Text.isHexDigit then (units? s).map (Text.ofDigits 16 [a, b, c, d] :: ·)
      else none
  | '\\' :: c :: s => (ofShortEscape? c).bind fun c => (units? s).map (unitsOf c ++ ·)
  | c :: s =>
      if c = '"' ∨ c = '\\' ∨ c.toNat < 0x20 then none
      else (units? s).map (unitsOf c ++ ·)

/-- The text that is written in quotes. -/
def unquoted? : Text → Option Text
  | '"' :: s => (units? s).bind ofUnits?
  | _ => none

theorem units?_unitEscape_append (h : n < 0x10000) (s : Text) :
    units? (unitEscape n ++ s) = (units? s).map (n :: ·) := by
  have hlength := Text.length_ofNatHex (by decide : 0 < 4) h
  have hdigits : (Text.ofNatHex 4 n).all Text.isHexDigit :=
    List.all_eq_true.2 fun c hc => Text.isHexDigit_of_mem_ofNatHex hc
  have hvalue := Text.ofDigits_ofNatHex 4 n
  rw [unitEscape]
  generalize Text.ofNatHex 4 n = digits at hlength hdigits hvalue
  match digits with
  | [a, b, c, d] => exact (if_pos hdigits).trans (hvalue.symm ▸ rfl)

theorem units?_shortEscape_append (h : ofShortEscape? e = some c) (s : Text) :
    units? (['\\', e] ++ s) = (units? s).map (unitsOf c ++ ·) := by
  have hunit : e ≠ 'u' := by
    rintro rfl
    cases h
  rw [List.cons_append, List.cons_append, List.nil_append, units?, h, Option.bind_some]
  exact fun _ _ _ _ _ h => absurd h hunit

theorem units?_cons (hquote : c ≠ '"') (hslash : c ≠ '\\') (h : 0x20 ≤ c.toNat) (s : Text) :
    units? (c :: s) = (units? s).map (unitsOf c ++ ·) := by
  have hplain : ¬(c = '"' ∨ c = '\\' ∨ c.toNat < 0x20) := by
    rintro (rfl | rfl | hlt)
    · exact hquote rfl
    · exact hslash rfl
    · exact Nat.not_lt_of_le h hlt
  rw [units?, if_neg hplain]
  exacts [fun h => absurd h hquote, fun _ _ _ _ _ h => absurd h hslash,
    fun _ _ h => absurd h hslash]

theorem units?_flatMap_unitEscape_append {ns : List Nat} (h : ∀ n ∈ ns, n < 0x10000) (s : Text) :
    units? (ns.flatMap unitEscape ++ s) = (units? s).map (ns ++ ·) := by
  induction ns with
  | nil => exact Option.map_id'.symm
  | cons n ns ih =>
      obtain ⟨hn, hns⟩ := List.forall_mem_cons.1 h
      rw [List.flatMap_cons, List.append_assoc, units?_unitEscape_append hn, ih hns,
        Option.map_map]
      rfl

/-- What is written for a character stands for its units. -/
theorem units?_escapeChar_append (c : Char) (s : Text) :
    units? (escapeChar c ++ s) = (units? s).map (unitsOf c ++ ·) := by
  rcases escapeChar_cases c with ⟨e, heq, he, -⟩ | ⟨heq, hquote, hslash, hc⟩ | heq <;> rw [heq]
  · exact units?_shortEscape_append he s
  · exact units?_cons hquote hslash hc.1 s
  · exact units?_flatMap_unitEscape_append (fun _ => lt_of_mem_unitsOf) s

theorem units?_flatMap_escapeChar (s : Text) :
    units? (s.flatMap escapeChar ++ ['"']) = some (s.flatMap unitsOf) := by
  induction s with
  | nil => rfl
  | cons c s ih =>
      rw [List.flatMap_cons, List.append_assoc, units?_escapeChar_append, ih, Option.map_some,
        List.flatMap_cons]

/-- **A quoted text is read back as it was.** -/
theorem unquoted?_quoted (s : Text) : unquoted? (quoted s) = some s := by
  rw [quoted, List.cons_append, unquoted?, units?_flatMap_escapeChar, Option.bind_some,
    ofUnits?_flatMap_unitsOf]

/-! ## What a quoted text holds -/

end Json

end SolidityLint
