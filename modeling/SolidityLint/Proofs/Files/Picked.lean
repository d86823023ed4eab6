import SolidityLint.Proofs.Files.Collected

/-!
# Picking from a list of paths

Of the paths in a list that denote one location the first that is not excluded is picked, unless
the location was seen before.

* `exists_pick_append`: what is picked first counts as seen for the rest of the list.
* `exists_mem_pick`: every location of a path that is not excluded is seen or picked.
* `le_of_mem_pick`: in a sorted list it is picked by its least path.
* `pick_eq_self`: everything is picked from what was picked.
-/

namespace SolidityLint

namespace Target

variable {here l : Location} {isExcluded : Path → Bool} {seen : List Location} {p q : Path}
  {ps : List Path}

/-- A path is passed over or picked. -/
theorem pick_cons (here : Location) (isExcluded : Path → Bool) (seen : List Location) (p : Path)
    (ps : List Path) : pick here isExcluded seen (p :: ps) =
      if p.resolve here ∈ seen ∨ isExcluded p = true then pick here isExcluded seen ps
      else p :: pick here isExcluded (p.resolve here :: seen) ps := by
  simp only [pick, Bool.or_eq_true, List.contains_iff_mem]

theorem sublist_pick : (pick here isExcluded seen ps).Sublist ps := by
  induction ps generalizing seen with
  | nil => exact .slnil
  | cons p ps ih =>
      rw [pick_cons]
      split
      · exact ih.cons p
      · exact ih.cons_cons p

theorem not_excluded_of_mem_pick (h : p ∈ pick here isExcluded seen ps) :
    isExcluded p = false := by
  induction ps generalizing seen with
  | nil => simp [pick] at h
  | cons q ps ih =>
      rw [pick_cons] at h
      split at h
      · exact ih h
      · rename_i hnew
        rcases List.mem_cons.1 h with rfl | h
        · exact Bool.eq_false_iff.2 fun hexcluded => hnew (.inr hexcluded)
        · exact ih h

/-- What is picked from a list counts as seen for what follows it. -/
theorem exists_pick_append (xs ys : List Path) : ∃ after,
    pick here isExcluded seen (xs ++ ys) =
        pick here isExcluded seen xs ++ pick here isExcluded after ys ∧
      ∀ l, l ∈ after ↔ l ∈ seen ∨ ∃ p ∈ pick here isExcluded seen xs, p.resolve here = l := by
  induction xs generalizing seen with
  | nil => exact ⟨seen, rfl, by simp [pick]⟩
  | cons p xs ih =>
      rw [List.cons_append, pick_cons, pick_cons]
      split
      · exact ih
      · obtain ⟨after, happend, hmem⟩ := @ih (p.resolve here :: seen)
        refine ⟨after, by rw [happend, List.cons_append], fun l => ?_⟩
        simp only [hmem, List.mem_cons, exists_eq_or_imp, eq_comm (a := l), or_assoc, or_left_comm]

/-- Every location of a path that is not excluded is seen or picked. -/
theorem exists_mem_pick (hq : q ∈ ps) (hkept : isExcluded q = false) :
    q.resolve here ∈ seen ∨
      ∃ p ∈ pick here isExcluded seen ps, p.resolve here = q.resolve here := by
  induction ps generalizing seen with
  | nil => simp at hq
  | cons p ps ih =>
      rw [pick_cons]
      split
      · rename_i hold
        rcases List.mem_cons.1 hq with rfl | hq
        · exact .inl (hold.resolve_right (by simp [hkept]))
        · exact ih hq
      · rcases List.mem_cons.1 hq with rfl | hq
        · exact .inr ⟨q, List.mem_cons_self .., rfl⟩
        · rcases @ih (p.resolve here :: seen) hq with hseen | ⟨r, hr, heq⟩
          · rcases List.mem_cons.1 hseen with heq | hseen
            · exact .inr ⟨p, List.mem_cons_self .., heq.symm⟩
            · exact .inl hseen
          · exact .inr ⟨r, List.mem_cons_of_mem _ hr, heq⟩

/-- From a sorted list a location is picked by its least path that is not excluded. -/
theorem le_of_mem_pick {le : Path → Path → Prop} (hrefl : ∀ p, le p p) (hsorted : ps.Pairwise le)
    (hp : p ∈ pick here isExcluded seen ps) (hq : q ∈ ps) (hkept : isExcluded q = false)
    (heq : q.resolve here = p.resolve here) : le p q := by
  induction ps generalizing seen with
  | nil => simp at hq
  | cons a ps ih =>
      obtain ⟨hfirst, hsorted⟩ := List.pairwise_cons.1 hsorted
      have hnew := (mem_of_mem_pick hp).2
      rw [pick_cons] at hp
      split at hp
      · rename_i hold
        rcases List.mem_cons.1 hq with rfl | hq
        · exact absurd (heq ▸ hold.resolve_right (by simp [hkept])) hnew
        · exact ih hsorted hp hq
      · rcases List.mem_cons.1 hp with rfl | hp
        · rcases List.mem_cons.1 hq with rfl | hq
          · exact hrefl q
          · exact hfirst q hq
        · rcases List.mem_cons.1 hq with rfl | hq
          · exact absurd (heq ▸ List.mem_cons_self ..) (mem_of_mem_pick hp).2
          · exact ih hsorted hp hq

/-- Everything is picked from paths of different locations that are not excluded. -/
theorem pick_eq_self (happart : ps.Pairwise fun p q => p.resolve here ≠ q.resolve here)
    (hkept : ∀ p ∈ ps, isExcluded p = false) (hnew : ∀ p ∈ ps, p.resolve here ∉ seen) :
    pick here isExcluded seen ps = ps := by
  induction ps generalizing seen with
  | nil => rfl
  | cons p ps ih =>
      obtain ⟨hfirst, happart⟩ := List.pairwise_cons.1 happart
      obtain ⟨hp, hps⟩ := List.forall_mem_cons.1 hkept
      obtain ⟨hpnew, hpsnew⟩ := List.forall_mem_cons.1 hnew
      rw [pick_cons, if_neg (by simp [hp, hpnew]), ih happart hps fun q hq => ?_]
      rw [List.mem_cons, not_or]
      exact ⟨(hfirst q hq).symm, hpsnew q hq⟩

end Target

end SolidityLint
