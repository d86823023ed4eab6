import SolidityLint.Text.Basic

/-!
# Splitting and joining

A text that is joined from pieces without the separator is split into these pieces
(`Text.splitOn_join`), and the pieces of a split hold no separator.
-/

namespace SolidityLint

namespace Text

variable {sep : Char} {p : Text} {ps : List Text}

theorem splitOn_of_notMem (h : sep ∉ p) : splitOn sep p = [p] := by
  induction p with
  | nil => rfl
  | cons c cs ih =>
      rw [List.mem_cons, not_or] at h
      rw [splitOn, if_neg (Ne.symm h.1), ih h.2]

theorem splitOn_append_cons (h : sep ∉ p) (s : Text) :
    splitOn sep (p ++ sep :: s) = p :: splitOn sep s := by
  induction p with
  | nil => simp [splitOn]
  | cons c cs ih =>
      rw [List.mem_cons, not_or] at h
      rw [List.cons_append, splitOn, if_neg (Ne.symm h.1), ih h.2]

/-- Pieces without the separator are cut where they were joined. -/
theorem splitOn_join (hne : ps ≠ []) (h : ∀ p ∈ ps, sep ∉ p) :
    splitOn sep (join [sep] ps) = ps := by
  induction ps with
  | nil => exact absurd rfl hne
  | cons p ps ih =>
      have hp := h p (List.mem_cons_self ..)
      cases ps with
      | nil => exact splitOn_of_notMem hp
      | cons q qs =>
          have hrest := ih (List.cons_ne_nil _ _) fun x hx => h x (List.mem_cons_of_mem _ hx)
          rw [join, List.append_assoc, List.singleton_append, splitOn_append_cons hp, hrest]
          simp

theorem notMem_of_mem_splitOn {s : Text} (h : p ∈ splitOn sep s) : sep ∉ p := by
  induction s generalizing p with
  | nil => simp [List.mem_singleton.1 h]
  | cons c cs ih =>
      rw [splitOn] at h
      split at h
      · rcases List.mem_cons.1 h with rfl | h
        · simp
        · exact ih h
      · rename_i hne
        split at h
        · rw [List.mem_singleton.1 h, List.mem_singleton]
          exact Ne.symm hne
        · rename_i q qs hsplit
          rw [hsplit] at ih
          rcases List.mem_cons.1 h with rfl | h
          · rw [List.mem_cons, not_or]
            exact ⟨Ne.symm hne, ih (List.mem_cons_self ..)⟩
          · exact ih (List.mem_cons_of_mem _ h)

end Text

end SolidityLint
