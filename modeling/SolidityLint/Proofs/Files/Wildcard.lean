import Mathlib.Data.List.TakeWhile
import SolidityLint.Files.Exclusion

/-!
# Wildcards in two parts

A pattern in two parts matches a text in two parts (`Wildcard.matches_append`), and the pieces of
a pattern are those of its parts, unless a class is closed between them
(`Wildcard.ofText_append_of_notMem`).  So two stars as the last part of a pattern stand for what
lies below the directories that the pattern in front of them matches
(`Wildcard.textMatches_belowMark`).

* `Wildcard.textMatches_star_append`: a star at the end also matches what goes on.
* `Wildcard.length_of_textMatches`: without stars all texts that are matched are of one length.
-/

namespace SolidityLint

namespace Wildcard

variable {d s t : Text} {ws vs : List Wildcard}

/-! ## The pieces of a pattern in two parts -/

theorem classLead_le (s : Text) : classLead s ≤ s.length := by
  fun_cases classLead s <;> simp

theorem classLead_cons (c : Char) (s : Text) : classLead (c :: s) =
    if c = '!' then if s.head? = some ']' then 2 else 1 else if c = ']' then 1 else 0 := by
  by_cases hc : c = '!'
  · subst hc
    cases s with
    | nil => rfl
    | cons d s => by_cases hd : d = ']' <;> simp [classLead, hd]
  · by_cases hc' : c = ']' <;> simp [classLead, hc, hc']

/-- What is put behind the start of a class leaves it as it is. -/
theorem classLead_append (h : ']' ∉ t) (hne : s ≠ []) : classLead (s ++ t) = classLead s := by
  cases s with
  | nil => exact absurd rfl hne
  | cons c s =>
      have hhead : (s ++ t).head? = some ']' ↔ s.head? = some ']' := by
        cases s with
        | nil => exact iff_of_false (fun heq => h (List.mem_of_mem_head? heq)) (by simp)
        | cons d s => rfl
      rw [List.cons_append, classLead_cons, classLead_cons]
      simp only [hhead]

/-- A class is closed within a text, or only by what is put behind it. -/
theorem splitClass?_append (h : ']' ∉ t) (s : Text) :
    splitClass? (s ++ t) = (splitClass? s).map fun split => (split.1, split.2 ++ t) := by
  have hopen (n : Nat) : (t.drop n).dropWhile (· ≠ ']') = [] := by
    rw [List.dropWhile_eq_nil_iff]
    exact fun c hc => decide_eq_true fun heq : c = ']' => h (heq ▸ List.mem_of_mem_drop hc)
  by_cases hne : s = []
  · subst hne
    rw [List.nil_append, splitClass?, hopen]
    rfl
  · have hle := classLead_le s
    rw [splitClass?, splitClass?, classLead_append h hne, List.drop_append_of_le_length hle,
      List.take_append_of_le_length hle]
    generalize s.drop (classLead s) = tail
    cases htail : tail.dropWhile (· ≠ ']') with
    | nil =>
        rw [List.dropWhile_append, htail, List.isEmpty_nil, if_pos rfl, ← t.drop_zero, hopen]
        rfl
    | cons c rest =>
        have hlength := congrArg List.length (tail.takeWhile_append_dropWhile (p := (· ≠ ']')))
        rw [htail, List.length_append, List.length_cons] at hlength
        have htake : (tail ++ t).takeWhile (· ≠ ']') = tail.takeWhile (· ≠ ']') := by
          rw [List.takeWhile_append, if_neg (by omega)]
        rw [List.dropWhile_append, htail, List.isEmpty_cons, htake]
        rfl

theorem suffix_of_splitClass? {inside rest : Text} (h : splitClass? s = some (inside, rest)) :
    rest <:+ s := by
  have hsuffix := (List.dropWhile_suffix (· ≠ ']')).trans (List.drop_suffix (classLead s) s)
  rw [splitClass?] at h
  split at h
  · cases h
  · next c tail htail =>
    cases h
    exact (List.suffix_cons c rest).trans (htail ▸ hsuffix)

theorem ofText_bracket (cs : Text) : ofText ('[' :: cs) =
    match splitClass? cs with
    | none => .literal '[' :: ofText cs
    | some (inside, rest) => .ofClass inside :: ofText rest := by
  rw [ofText]
  split <;> simp_all

/-- The pieces of a pattern are those of its parts, unless the second part closes a class. -/
theorem ofText_append_of_notMem (h : ']' ∉ t) (d : Text) :
    ofText (d ++ t) = ofText d ++ ofText t := by
  induction d using ofText.induct with
  | case1 => rw [ofText, List.nil_append, List.nil_append]
  | case2 cs ih => rw [List.cons_append, ofText, ih, ofText, List.cons_append]
  | case3 cs ih => rw [List.cons_append, ofText, ih, ofText, List.cons_append]
  | case4 cs hnone ih =>
      rw [List.cons_append, ofText_bracket, splitClass?_append h, hnone, ofText_bracket, hnone]
      exact congrArg _ ih
  | case5 cs inside rest hsome _ ih =>
      rw [List.cons_append, ofText_bracket, splitClass?_append h, hsome, ofText_bracket, hsome]
      exact congrArg _ ih
  | case6 c cs hstar hany hclass ih =>
      rw [List.cons_append, ofText, ih, ofText, List.cons_append] <;> assumption

/-! ## Matching in two parts -/

/-- A pattern in two parts matches a text in two parts. -/
theorem matches_append :
    Matches (ws ++ vs) s ↔ ∃ a b, s = a ++ b ∧ Matches ws a ∧ Matches vs b := by
  constructor
  · intro h
    induction ws generalizing s with
    | nil => exact ⟨[], s, rfl, .nil, h⟩
    | cons w ws ih =>
        cases h with
        | one hc hrest =>
            obtain ⟨a, b, rfl, ha, hb⟩ := ih hrest
            exact ⟨_ :: a, b, rfl, .one hc ha, hb⟩
        | star before hrest =>
            obtain ⟨a, b, rfl, ha, hb⟩ := ih hrest
            exact ⟨before ++ a, b, (List.append_assoc ..).symm, .star before ha, hb⟩
  · rintro ⟨a, b, rfl, ha, hb⟩
    induction ha with
    | nil => exact hb
    | one hc _ ih => exact .one hc ih
    | star before _ ih =>
        rw [List.append_assoc]
        exact .star before ih

theorem matches_star_star (s : Text) : Matches [.star, .star] s := by
  have h : Matches [.star, .star] (s ++ ([] ++ [])) := .star s (.star [] .nil)
  rwa [List.append_nil, List.append_nil] at h

/-- **Two stars as the last part of a pattern stand for what lies below what it matches.** -/
theorem textMatches_belowMark : textMatches (d ++ Exclusion.belowMark) s = true ↔
    ∃ dir rest, s = dir ++ '/' :: rest ∧ textMatches d dir = true := by
  have hmark : ofText Exclusion.belowMark = [.literal '/', .star, .star] := by
    simp [Exclusion.belowMark, ofText]
  simp only [textMatches, accepts_iff]
  rw [ofText_append_of_notMem (by decide), hmark, matches_append]
  constructor
  · rintro ⟨dir, below, rfl, hdir, hbelow⟩
    cases hbelow with
    | one hc hrest =>
        obtain rfl := eq_of_beq hc
        exact ⟨dir, _, rfl, hdir⟩
  · rintro ⟨dir, rest, rfl, hdir⟩
    exact ⟨dir, '/' :: rest, rfl, hdir, .one rfl (matches_star_star rest)⟩

/-- A star at the end of a pattern also matches what goes on. -/
theorem textMatches_star_append (h : textMatches (d ++ ['*']) s = true) (t : Text) :
    textMatches (d ++ ['*']) (s ++ t) = true := by
  have hstar : ofText ['*'] = [.star] := by simp [ofText]
  simp only [textMatches, accepts_iff] at h ⊢
  rw [ofText_append_of_notMem (by decide), hstar, matches_append] at h ⊢
  obtain ⟨a, b, rfl, ha, hb⟩ := h
  refine ⟨a, b ++ t, List.append_assoc .., ha, ?_⟩
  have hall : Matches [.star] (b ++ t ++ []) := .star (b ++ t) .nil
  rwa [List.append_nil] at hall

/-! ## Patterns without stars -/

theorem star_notMem_ofText (h : '*' ∉ d) : .star ∉ ofText d := by
  have hclass (inside : Text) : ofClass inside ≠ .star := by
    rw [ofClass]
    split <;> simp
  induction d using ofText.induct with
  | case1 => rw [ofText]; exact List.not_mem_nil
  | case2 cs ih => exact absurd (List.mem_cons_self ..) h
  | case3 cs ih =>
      rw [ofText, List.mem_cons, not_or]
      exact ⟨by simp, ih fun hmem => h (List.mem_cons_of_mem _ hmem)⟩
  | case4 cs hnone ih =>
      rw [ofText_bracket, hnone]
      simp only [List.mem_cons, not_or]
      exact ⟨by simp, ih fun hmem => h (List.mem_cons_of_mem _ hmem)⟩
  | case5 cs inside rest hsome _ ih =>
      rw [ofText_bracket, hsome]
      simp only [List.mem_cons, not_or]
      have hrest := suffix_of_splitClass? hsome
      exact ⟨(hclass inside).symm, ih fun hmem => h (List.mem_cons_of_mem _ (hrest.mem hmem))⟩
  | case6 c cs hstar hany hopen ih =>
      rw [ofText, List.mem_cons, not_or]
      · exact ⟨by simp, ih fun hmem => h (List.mem_cons_of_mem _ hmem)⟩
      all_goals assumption

theorem length_of_matches (h : Matches ws s) (hstar : .star ∉ ws) : s.length = ws.length := by
  induction h with
  | nil => rfl
  | one hc _ ih =>
      rw [List.length_cons, List.length_cons, ih fun hmem => hstar (List.mem_cons_of_mem _ hmem)]
  | star before _ ih => exact absurd (List.mem_cons_self ..) hstar

theorem length_of_textMatches (hstar : '*' ∉ d) (h : textMatches d s = true) :
    s.length = (ofText d).length :=
  length_of_matches ((accepts_iff ..).1 h) (star_notMem_ofText hstar)

end Wildcard

end SolidityLint
