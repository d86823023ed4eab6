import SolidityLint.Diff.Hunk
import Mathlib.Data.List.Basic

/-!
# The script of a list and itself

The script from a list to itself keeps the whole list (`Script.make_self`).  This is not plain from
the search for a longest common run: popular elements start no run, and there may be longest runs
that are shifted against each other.  But a run that ends at two different places is no longer than
the stretch of elements that are not popular before either place, and that stretch is itself a run
without a shift (`Diagonal`), which is found first.
-/

namespace SolidityLint.Diff

variable {α : Type} [DecidableEq α]

/-! ## Runs without a shift -/

/-- The number of elements at the end of a list that are not popular. -/
def streak (popular xs : List α) : Nat :=
  (xs.reverse.takeWhile fun x => decide (x ∉ popular)).length

theorem streak_concat (popular xs : List α) (x : α) :
    streak popular (xs ++ [x]) = if x ∈ popular then 0 else streak popular xs + 1 := by
  by_cases hx : x ∈ popular <;> simp [streak, hx]

/-- What is known about the lengths of the runs that end behind `done` in the first list.  They are
those that end behind each shorter start of `done` in the second list (`shorter`), the one that ends
behind `done` itself, and the others (`longer`). -/
structure Diagonal (popular done : List α) (shorter longer : List Nat) : Prop where
  length_eq : shorter.length = done.length
  shorter_le : ∀ j k, shorter[j]? = some k → k ≤ streak popular (done.take j)
  longer_le : ∀ k ∈ longer, k ≤ streak popular done

theorem length_nextRow (popular : List α) (a : α) (bs : List α) (ks : List Nat)
    (h : ks.length = bs.length) : (nextRow popular a bs ks).length = bs.length := by
  induction bs generalizing ks with
  | nil => cases ks <;> rfl
  | cons b bs ih =>
      cases ks with
      | nil => simp at h
      | cons k ks => simpa [nextRow] using ih ks (by simpa using h)

theorem nextRow_append (popular : List α) (a : α) (bs cs : List α) (ks ls : List Nat)
    (h : ks.length = bs.length) :
    nextRow popular a (bs ++ cs) (ks ++ ls) =
      nextRow popular a bs ks ++ nextRow popular a cs ls := by
  induction bs generalizing ks with
  | nil =>
      obtain rfl := List.eq_nil_of_length_eq_zero h
      rfl
  | cons b bs ih =>
      cases ks with
      | nil => simp at h
      | cons k ks => simp [nextRow, ih ks (by simpa using h)]

/-- A run that goes on is longer by one than the run before, and ends in no popular element. -/
theorem exists_of_getElem?_nextRow {popular : List α} {a : α} {bs : List α} {ks : List Nat}
    {j k : Nat} (h : (nextRow popular a bs ks)[j]? = some k) :
    ∃ b m, bs[j]? = some b ∧ ks[j]? = some m ∧
      (k = 0 ∨ a = b ∧ b ∉ popular ∧ k = m + 1) := by
  induction bs generalizing ks j with
  | nil => simp [nextRow] at h
  | cons b bs ih =>
      cases ks with
      | nil => simp [nextRow] at h
      | cons m ks =>
          rw [nextRow] at h
          cases j with
          | zero =>
              refine ⟨b, m, rfl, rfl, ?_⟩
              rw [List.getElem?_cons_zero, Option.some.injEq] at h
              by_cases hb : a = b ∧ b ∉ popular
              · rw [if_pos hb] at h
                exact .inr ⟨hb.1, hb.2, h.symm⟩
              · rw [if_neg hb] at h
                exact .inl h.symm
          | succ j => exact ih h

theorem exists_of_mem_nextRow {popular : List α} {a : α} {bs : List α} {ks : List Nat} {k : Nat}
    (h : k ∈ nextRow popular a bs ks) : k = 0 ∨ a ∉ popular ∧ ∃ m ∈ ks, k = m + 1 := by
  obtain ⟨j, hj⟩ := List.getElem?_of_mem h
  obtain ⟨b, m, -, hm, hzero | ⟨rfl, hb, hk⟩⟩ := exists_of_getElem?_nextRow hj
  · exact .inl hzero
  · exact .inr ⟨hb, m, List.mem_of_getElem? hm, hk⟩

/-- The next element of the first list, which is also the next one of the second. -/
theorem Diagonal.next {popular done : List α} {shorter longer : List Nat}
    (h : Diagonal popular done shorter longer) (a : α) (rest : List α) :
    nextRow popular a (done ++ a :: rest) (shorter ++ streak popular done :: longer) =
        nextRow popular a done shorter ++
          streak popular (done ++ [a]) :: nextRow popular a rest longer ∧
      Diagonal popular (done ++ [a]) (0 :: nextRow popular a done shorter)
        (nextRow popular a rest longer) := by
  have hstreak := streak_concat popular done a
  have hlength := length_nextRow popular a done shorter h.length_eq
  constructor
  · rw [nextRow_append _ _ _ _ _ _ h.length_eq, nextRow, hstreak]
    by_cases ha : a ∈ popular <;> simp [ha]
  · constructor
    · simp [hlength]
    · intro j k hk
      cases j with
      | zero =>
          rw [List.getElem?_cons_zero, Option.some.injEq] at hk
          omega
      | succ j =>
          rw [List.getElem?_cons_succ] at hk
          obtain ⟨b, m, hb, hm, hzero | ⟨rfl, hpopular, rfl⟩⟩ := exists_of_getElem?_nextRow hk
          · omega
          · have hj := (List.getElem?_eq_some_iff.1 hb).1
            have htake : (done ++ [a]).take (j + 1) = done.take j ++ [a] := by
              rw [List.take_append_of_le_length (by omega), List.take_add_one, hb]
              rfl
            rw [htake, streak_concat, if_neg hpopular]
            exact Nat.succ_le_succ (h.shorter_le j m hm)
    · intro k hk
      rcases exists_of_mem_nextRow hk with rfl | ⟨ha, m, hm, rfl⟩
      · exact Nat.zero_le _
      · rw [hstreak, if_neg ha]
        exact Nat.succ_le_succ (h.longer_le m hm)

/-! ## The longest run -/

omit [DecidableEq α] in
/-- Runs that are no longer than the best one do not replace it. -/
theorem bestInRow_append {best : Peak} {ks : List Nat} (h : ∀ k ∈ ks, k ≤ best.length) (i j : Nat)
    (ls : List Nat) : bestInRow i best j (ks ++ ls) = bestInRow i best (j + ks.length) ls := by
  induction ks generalizing j with
  | nil => rfl
  | cons k ks ih =>
      obtain ⟨hk, hks⟩ := List.forall_mem_cons.1 h
      rw [List.cons_append, bestInRow, if_neg (by omega), ih hks, List.length_cons]
      congr 1
      omega

/-- The best peak so far is not shifted, and no run behind a start of `done` is longer. -/
structure Peak.IsUnshifted (popular done : List α) (best : Peak) : Prop where
  unshifted : best.inFirst = best.inSecond
  inFirst_le : best.inFirst ≤ done.length
  streak_le : ∀ j ≤ done.length, streak popular (done.take j) ≤ best.length

theorem Peak.IsUnshifted.next {popular done : List α} {best : Peak}
    (h : best.IsUnshifted popular done) {shorter longer : List Nat} {a : α}
    (hrow : Diagonal popular (done ++ [a]) (0 :: shorter) longer) :
    (bestInRow (done.length + 1) best 1
      (shorter ++ streak popular (done ++ [a]) :: longer)).IsUnshifted popular (done ++ [a]) := by
  have hlength : shorter.length = done.length := by simpa using hrow.length_eq
  have htake : ∀ j ≤ done.length, (done ++ [a]).take j = done.take j := fun j hj =>
    List.take_append_of_le_length hj
  have hshorter : ∀ k ∈ shorter, k ≤ best.length := by
    intro k hk
    obtain ⟨j, hj⟩ := List.getElem?_of_mem hk
    have hlt := (List.getElem?_eq_some_iff.1 hj).1
    have hle := hrow.shorter_le (j + 1) k (by simpa using hj)
    rw [htake (j + 1) (by omega)] at hle
    exact Nat.le_trans hle (h.streak_le (j + 1) (by omega))
  -- a start of `done ++ [a]` is one of `done` or the whole
  have hstarts : ∀ n, best.length ≤ n → streak popular (done ++ [a]) ≤ n →
      ∀ j ≤ (done ++ [a]).length, streak popular ((done ++ [a]).take j) ≤ n := by
    intro n hn hwhole j hj
    rcases Nat.lt_or_ge done.length j with hlt | hle
    · rwa [List.take_of_length_le (by rw [List.length_append, List.length_singleton]; omega)]
    · rw [htake j hle]
      exact Nat.le_trans (h.streak_le j hle) hn
  rw [bestInRow_append hshorter, hlength, bestInRow, ← List.append_nil longer, Nat.add_comm 1]
  split
  · rename_i hlonger
    rw [bestInRow_append fun k hk => hrow.longer_le k hk, bestInRow]
    exact ⟨rfl, by simp, hstarts _ (Nat.le_of_lt hlonger) (Nat.le_refl _)⟩
  · rename_i hshort
    have hshort := Nat.le_of_not_lt hshort
    rw [bestInRow_append fun k hk => Nat.le_trans (hrow.longer_le k hk) hshort, bestInRow]
    exact ⟨h.unshifted, Nat.le_trans h.inFirst_le (by simp), hstarts _ (Nat.le_refl _) hshort⟩

/-- The run over the rest of a list, against the whole of it. -/
theorem isUnshifted_bestPeak {popular done rest : List α} {shorter longer : List Nat} {best : Peak}
    {row : List Nat} (hrow : Diagonal popular done shorter longer)
    (heq : 0 :: row = shorter ++ streak popular done :: longer)
    (hbest : best.IsUnshifted popular done) :
    (bestPeak popular (done ++ rest) done.length row best rest).IsUnshifted popular
      (done ++ rest) := by
  induction rest generalizing done shorter longer best row with
  | nil => rwa [List.append_nil, bestPeak]
  | cons a rest ih =>
      obtain ⟨hnext, hrow'⟩ := hrow.next a rest
      rw [bestPeak, heq, hnext]
      have hstep := ih hrow' rfl (hbest.next hrow')
      rw [List.append_assoc, List.length_append] at hstep
      exact hstep

theorem commonStart_self (xs : List α) : commonStart xs xs = xs := by
  induction xs with
  | nil => rfl
  | cons x xs ih => rw [commonStart, if_pos rfl, ih]

/-- A longest common run of a list and itself is not shifted. -/
theorem runCut_self (popular xs : List α) : runCut popular xs xs = (0, 0) := by
  have hrow : Diagonal popular [] [] (xs.map fun _ => 0) := by
    refine ⟨rfl, by simp, fun k hk => ?_⟩
    obtain ⟨-, -, rfl⟩ := List.mem_map.1 hk
    exact Nat.zero_le _
  have hbest : (⟨0, 0, 0⟩ : Peak).IsUnshifted popular [] :=
    ⟨rfl, Nat.le_refl _, fun j _ => by simp [streak]⟩
  obtain ⟨hunshifted, hle, -⟩ : (bestPeak popular xs 0 (xs.map fun _ => 0) _ xs).IsUnshifted
    popular xs := isUnshifted_bestPeak hrow rfl hbest
  rw [runCut, runStart]
  simp only [← hunshifted, commonEndLength, commonStart_self, List.length_reverse, List.length_take,
    Prod.mk.injEq]
  omega

namespace Script

theorem search_nil (popular : List α) (fuel : Nat) : search popular fuel [] [] = [] := by
  cases fuel <;> rfl

/-- **The script of a list and itself keeps the list.** -/
theorem make_self (xs : List α) : make xs xs = if xs = [] then [] else [.keep xs] := by
  cases xs with
  | nil => rfl
  | cons x xs =>
      rw [if_neg (List.cons_ne_nil x xs), make, List.length_cons, search]
      simp only [runCut_self, List.drop_zero, commonStart_self, Nat.zero_add, List.take_zero,
        List.drop_length, search_nil]
      rfl

end Script

end SolidityLint.Diff
