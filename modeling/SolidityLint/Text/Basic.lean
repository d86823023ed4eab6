/-!
# Texts

A text is the list of its characters, so every offset, length, column and width of this
library counts characters, never bytes.  This file holds the operations on texts that every
other module uses: slices at signed offsets, splitting and joining, trimming, and the decimal
spelling of numbers.
-/

namespace SolidityLint

/-- A text: the list of its characters. -/
abbrev Text := List Char

namespace Text

/-! ## Slices at signed offsets -/

/-- The position a signed offset denotes in a text of length `n`: a negative offset counts from
the end and stops at the beginning. -/
def anchor (n : Nat) (i : Int) : Nat :=
  if 0 ≤ i then i.toNat else (n + i).toNat

/-- The part of `s` from offset `i` to its end. -/
def sliceFrom (s : Text) (i : Int) : Text :=
  s.drop (anchor s.length i)

/-- The part of `s` from offset `i` up to offset `j`; empty when `j` does not lie after `i`. -/
def slice (s : Text) (i j : Int) : Text :=
  (s.drop (anchor s.length i)).take (anchor s.length j - anchor s.length i)

theorem anchor_natCast (n k : Nat) : anchor n (k : Int) = k := by
  simp [anchor]

@[simp]
theorem slice_natCast (s : Text) (i j : Nat) : slice s i j = (s.drop i).take (j - i) := by
  simp [slice, anchor_natCast]

@[simp]
theorem sliceFrom_natCast (s : Text) (i : Nat) : sliceFrom s i = s.drop i := by
  simp [sliceFrom, anchor_natCast]

/-- Slices that meet make one slice. -/
theorem slice_append_slice {s : Text} {i j k : Int} (hi : 0 ≤ i) (hij : i ≤ j) (hjk : j ≤ k) :
    s.slice i j ++ s.slice j k = s.slice i k := by
  obtain ⟨a, rfl⟩ := Int.eq_ofNat_of_zero_le hi
  obtain ⟨b, rfl⟩ := Int.eq_ofNat_of_zero_le (Int.le_trans hi hij)
  obtain ⟨c, rfl⟩ := Int.eq_ofNat_of_zero_le (Int.le_trans hi (Int.le_trans hij hjk))
  have hlength : c - a = b - a + (c - b) := by omega
  rw [slice_natCast, slice_natCast, slice_natCast, hlength, List.take_add, List.drop_drop,
    Nat.add_sub_of_le (by omega)]

/-! ## Splitting, joining and trimming -/

/-- The pieces of a text between the occurrences of `sep`; there is always at least one. -/
def splitOn (sep : Char) : Text → List Text
  | [] => [[]]
  | c :: cs =>
      if c = sep then [] :: splitOn sep cs
      else
        match splitOn sep cs with
        | [] => [[c]]
        | p :: ps => (c :: p) :: ps

/-- The texts `ps` with `sep` between neighbours. -/
def join (sep : Text) : List Text → Text
  | [] => []
  | [p] => p
  | p :: ps => p ++ sep ++ join sep ps

/-- Drops the longest end of `s` that consists of characters satisfying `p`. -/
def trimEnd (p : Char → Bool) (s : Text) : Text :=
  (s.reverse.dropWhile p).reverse

/-- Fills `s` with blanks on the right up to `width` characters. -/
def padEnd (width : Nat) (s : Text) : Text :=
  s ++ List.replicate (width - s.length) ' '

/-- Does `s` end in `t`? -/
def endsWith (s t : Text) : Bool :=
  t.isSuffixOf s

/-- Does `s` begin with `t`? -/
def startsWith (s t : Text) : Bool :=
  t.isPrefixOf s

/-- What follows the prefix `t` of `s`, if `s` begins with it. -/
def dropPrefix? (t : Text) : Text → Option Text
  | s => if t.isPrefixOf s then some (s.drop t.length) else none

/-- Does a text come before another, or is it equal to it, in the order by code point?  The first
difference decides, and a text comes before those that go on where it ends. -/
def le : Text → Text → Bool
  | [], _ => true
  | _ :: _, [] => false
  | c :: s, d :: t => if c = d then le s t else decide (c.toNat < d.toNat)

theorem splitOn_ne_nil (sep : Char) (s : Text) : splitOn sep s ≠ [] := by
  cases s with
  | nil => simp [splitOn]
  | cons c cs => simp only [splitOn]; split <;> (try split) <;> simp

/-- Joining the pieces with the separator gives the text back. -/
theorem join_splitOn (sep : Char) (s : Text) : join [sep] (splitOn sep s) = s := by
  induction s with
  | nil => rfl
  | cons c cs ih =>
      rcases hs : splitOn sep cs with _ | ⟨p, _ | ⟨q, qs⟩⟩
      · exact absurd hs (splitOn_ne_nil sep cs)
      · by_cases h : c = sep <;> simpa [splitOn, h, hs, join] using ih
      · by_cases h : c = sep <;> simpa [splitOn, h, hs, join] using ih

/-! ## Numbers -/

/-- The decimal digits of a natural number. -/
def ofNat (n : Nat) : Text :=
  Nat.toDigits 10 n

theorem isDigit_of_mem_ofNat {n : Nat} {c : Char} (h : c ∈ ofNat n) : c.isDigit = true :=
  Nat.isDigit_of_mem_toDigits (by decide) (by decide) h

/-- The decimal digits of an integer, after a minus sign if it is negative. -/
def ofInt : Int → Text
  | .ofNat n => ofNat n
  | .negSucc n => '-' :: ofNat (n + 1)

/-- A number in decimal, filled with zeros on the left up to `width` digits. -/
def ofNatPadded (width n : Nat) : Text :=
  let digits := ofNat n
  List.replicate (width - digits.length) '0' ++ digits

end Text

end SolidityLint
