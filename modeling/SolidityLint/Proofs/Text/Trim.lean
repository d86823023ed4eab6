import SolidityLint.Text.Blank
import Mathlib.Data.List.DropRight

/-!
# Trimming

Trimming cuts a text into what it keeps and an end of trimmed characters.  Stripping does not see
blanks at either end, so that a text with blanks put on or taken off there is stripped to the same
text (`strip_append`, `strip_append_of_blank`).
-/

namespace SolidityLint.Text

variable {p : Char → Bool} {s t : Text}

theorem trimEnd_eq_rdropWhile (p : Char → Bool) (s : Text) : trimEnd p s = s.rdropWhile p := rfl

/-- A text is what trimming keeps and an end of trimmed characters. -/
theorem exists_eq_trimEnd_append (p : Char → Bool) (s : Text) :
    ∃ trail : Text, s = trimEnd p s ++ trail ∧ ∀ c ∈ trail, p c = true :=
  ⟨s.rtakeWhile p, (List.rdropWhile_append_rtakeWhile ..).symm,
    fun _ hc => List.mem_rtakeWhile_imp hc⟩

theorem mem_of_mem_trimEnd {c : Char} (h : c ∈ trimEnd p s) : c ∈ s :=
  (List.rdropWhile_prefix p (l := s)).mem h

theorem trimEnd_append (ht : ∀ c ∈ t, p c = true) : trimEnd p (s ++ t) = trimEnd p s := by
  rw [trimEnd, List.reverse_append, List.dropWhile_append_of_pos (by simpa using ht), trimEnd]

theorem trimEnd_trimEnd (p : Char → Bool) (s : Text) :
    trimEnd p (trimEnd p s) = trimEnd p s := by
  rw [trimEnd_eq_rdropWhile, trimEnd_eq_rdropWhile, List.rdropWhile_idempotent]

/-- What trimming keeps does not end in a trimmed character. -/
theorem trimEnd_eq_self_iff : trimEnd p s = s ↔ ∀ c, s.getLast? = some c → p c = false := by
  rw [trimEnd_eq_rdropWhile, List.rdropWhile_eq_self_iff]
  constructor
  · intro h c hc
    have hne : s ≠ [] := by
      rintro rfl
      simp at hc
    have hlast : s.getLast hne = c :=
      Option.some.inj ((List.getLast?_eq_some_getLast hne).symm.trans hc)
    simpa [hlast] using h hne
  · intro h hne
    simpa using h _ (List.getLast?_eq_some_getLast hne)

theorem strip_append_of_blank (hs : ∀ c ∈ s, isBlank c = true) (t : Text) :
    strip (s ++ t) = strip t := by
  rw [strip, List.dropWhile_append_of_pos hs, strip]

theorem strip_append (s : Text) (ht : ∀ c ∈ t, isBlank c = true) : strip (s ++ t) = strip s := by
  rw [strip, strip, List.dropWhile_append]
  split
  · rename_i hnil
    rw [List.isEmpty_iff.1 hnil, List.dropWhile_eq_nil_iff.2 ht]
  · exact trimEnd_append ht

theorem strip_eq_nil_iff : strip s = [] ↔ ∀ c ∈ s, isBlank c = true := by
  constructor
  · intro h
    rw [strip, trimEnd_eq_rdropWhile, List.rdropWhile_eq_nil_iff] at h
    intro c hc
    rw [← List.takeWhile_append_dropWhile (p := isBlank) (l := s)] at hc
    rcases List.mem_append.1 hc with hc | hc
    · exact List.mem_takeWhile_imp hc
    · exact h c hc
  · intro h
    rw [strip, List.dropWhile_eq_nil_iff.2 h]
    rfl

/-- A text is blank when nothing is left of it. -/
theorem all_isBlank (s : Text) : s.all isBlank = (strip s).isEmpty := by
  rw [Bool.eq_iff_iff, List.all_eq_true, List.isEmpty_iff, strip_eq_nil_iff]

end SolidityLint.Text
