import SolidityLint.Proofs.Pass.Fixpoint

/-!
# What trimming brings to light

The white space that is removed at the end of a line may have hidden a carriage return, which then
belongs to the line end and exposes the white space before it (`Text.HidesReturn`).  This is the
only way in which what is left of a line can need another repair.

* `tab_notMem_indentOf_tidyBody`: no tabs are left in the indentation.
* `withoutTrailingSpace_tidyBody_iff`: no white space is left at the end, unless the line hid a
  carriage return.
-/

namespace SolidityLint

/-! ## Carriage returns among white space -/

namespace Text

/-- At the end of a line stands white space, before that a carriage return and before that white
space again. -/
def HidesReturn (piece : Text) : Prop :=
  ∃ front w trail, dropLastIf '\n' piece = front ++ w :: '\r' :: trail ∧
    isSpaceOrTab w = true ∧ trail ≠ [] ∧ ∀ c ∈ trail, isSpaceOrTab c = true

theorem withoutTrailingSpace_append {front trail : Text} {c : Char} (hc : isSpaceOrTab c = false)
    (htrail : ∀ d ∈ trail, isSpaceOrTab d = true) :
    Rule.withoutTrailingSpace (front ++ c :: trail) = front ++ [c] := by
  have hself : trimEnd isSpaceOrTab (front ++ [c]) = front ++ [c] := by
    rw [trimEnd_eq_self_iff]
    intro d hd
    rw [List.getLast?_concat, Option.some_inj] at hd
    rwa [← hd]
  rw [Rule.withoutTrailingSpace, List.append_cons, trimEnd_append htrail, hself]

/-- A text has white space at its end exactly if trimming changes it. -/
theorem withoutTrailingSpace_ne_iff {s : Text} : Rule.withoutTrailingSpace s ≠ s ↔
    ∃ front w, s = front ++ [w] ∧ isSpaceOrTab w = true := by
  rw [Rule.withoutTrailingSpace, ne_eq, trimEnd_eq_self_iff]
  constructor
  · intro h
    push Not at h
    obtain ⟨w, hw, hspace⟩ := h
    exact ⟨s.dropLast, w, (List.dropLast_append_getLast? w hw).symm, by simpa using hspace⟩
  · rintro ⟨front, w, rfl, hw⟩ h
    rw [h w List.getLast?_concat] at hw
    exact Bool.noConfusion hw

/-- The same in terms of trimming: what is trimmed ends in a carriage return, and what stands
before that can be trimmed again. -/
theorem hidesReturn_iff {piece : Text} : piece.HidesReturn ↔
    ∃ kept, Rule.withoutTrailingSpace (dropLastIf '\n' piece) = kept ++ ['\r'] ∧
      dropLastIf '\n' piece ≠ kept ++ ['\r'] ∧ Rule.withoutTrailingSpace kept ≠ kept := by
  constructor
  · rintro ⟨front, w, trail, heq, hw, hne, htrail⟩
    have hsplit : dropLastIf '\n' piece = (front ++ [w]) ++ '\r' :: trail := by
      rw [heq, List.append_assoc, List.singleton_append]
    refine ⟨front ++ [w], ?_, ?_, withoutTrailingSpace_ne_iff.2 ⟨front, w, rfl, hw⟩⟩
    · rw [hsplit, withoutTrailingSpace_append (by decide) htrail]
    · rw [hsplit]
      simpa using hne
  · rintro ⟨kept, hkept, hne, hagain⟩
    obtain ⟨front, w, rfl, hw⟩ := withoutTrailingSpace_ne_iff.1 hagain
    obtain ⟨trail, heq, htrail⟩ := exists_eq_trimEnd_append isSpaceOrTab (dropLastIf '\n' piece)
    change dropLastIf '\n' piece = Rule.withoutTrailingSpace _ ++ trail at heq
    rw [hkept] at heq
    refine ⟨front, w, trail, by simpa using heq, hw, ?_, htrail⟩
    rintro rfl
    exact hne (by simpa using heq)

/-- Where trimming brings a carriage return to the end, it was hidden if there is more to trim. -/
theorem hidesReturn_iff_of_trimmed {piece kept : Text}
    (hkept : Rule.withoutTrailingSpace (dropLastIf '\n' piece) = kept ++ ['\r'])
    (hne : dropLastIf '\n' piece ≠ kept ++ ['\r']) :
    piece.HidesReturn ↔ Rule.withoutTrailingSpace kept ≠ kept := by
  rw [hidesReturn_iff]
  constructor
  · rintro ⟨k, hk, -, hagain⟩
    rwa [List.append_left_injective _ (hkept.symm.trans hk)]
  · exact fun hagain => ⟨kept, hkept, hne, hagain⟩

theorem not_hidesReturn_of_getLast?_ne {piece : Text}
    (h : (Rule.withoutTrailingSpace (dropLastIf '\n' piece)).getLast? ≠ some '\r') :
    ¬piece.HidesReturn := by
  rw [hidesReturn_iff]
  rintro ⟨kept, hkept, -⟩
  exact h (by rw [hkept, List.getLast?_concat])

/-- The carriage return of a line end hides nothing. -/
theorem not_hidesReturn_of_getLast?_eq {piece : Text}
    (h : (dropLastIf '\n' piece).getLast? = some '\r') : ¬piece.HidesReturn := by
  have hself : Rule.withoutTrailingSpace (dropLastIf '\n' piece) = dropLastIf '\n' piece :=
    withoutTrailingSpace_eq_self_iff.2 (.inr ⟨_, h, by decide⟩)
  rw [hidesReturn_iff]
  rintro ⟨kept, hkept, hne, -⟩
  exact hne (hself.symm.trans hkept)

instance (piece : Text) : Decidable piece.HidesReturn :=
  let kept := (Rule.withoutTrailingSpace (dropLastIf '\n' piece)).dropLast
  decidable_of_iff (Rule.withoutTrailingSpace (dropLastIf '\n' piece) = kept ++ ['\r'] ∧
      dropLastIf '\n' piece ≠ kept ++ ['\r'] ∧ Rule.withoutTrailingSpace kept ≠ kept) (by
    rw [hidesReturn_iff]
    constructor
    · exact fun h => ⟨kept, h⟩
    · rintro ⟨k, hk, h⟩
      have heq : kept = k := by simp only [kept, hk, List.dropLast_concat]
      rw [heq]
      exact ⟨hk, h⟩)

/-! ## New indentations -/

/-- A character that ends the indentation stays behind the new one. -/
theorem expandIndent_append_singleton (content : Text) {c : Char} (hc : isSpaceOrTab c = false) :
    expandIndent (content ++ [c]) = expandIndent content ++ [c] := by
  have htake : (content ++ [c]).takeWhile isSpaceOrTab = content.takeWhile isSpaceOrTab := by
    rw [List.takeWhile_append]
    split
    · rename_i hlen
      rw [(List.takeWhile_prefix isSpaceOrTab).eq_of_length hlen]
      simp [hc]
    · rfl
  have hdrop : (content ++ [c]).dropWhile isSpaceOrTab = content.dropWhile isSpaceOrTab ++ [c] := by
    rw [List.dropWhile_append]
    split
    · rename_i hnil
      rw [List.isEmpty_iff.1 hnil]
      simp [hc]
    · rfl
  rw [expandIndent, expandIndent, Rule.indentOf, htake, hdrop, Rule.indentOf, List.append_assoc]

/-- The indentation of the beginning of a text is part of that of the text. -/
theorem mem_indentOf_of_isPrefix {c : Char} {a b : Text} (hstart : a <+: b)
    (h : c ∈ Rule.indentOf a) : c ∈ Rule.indentOf b := by
  obtain ⟨rest, rfl⟩ := hstart
  rw [Rule.indentOf, List.takeWhile_append]
  split
  · exact List.mem_append_left _ ((List.takeWhile_prefix _).mem h)
  · exact h

end Text

/-! ## Tidied lines -/

namespace Repairs

variable {r : Repairs} {body piece : Text}

theorem dropLastIf_tidyBody_isPrefix (body : Text) :
    Text.dropLastIf '\r' (r.tidyBody body) <+: r.tidyContent (Text.dropLastIf '\r' body) := by
  rcases Text.eq_append_or_getLast?_ne '\r' body with ⟨content, rfl⟩ | hne
  · refine ⟨[], ?_⟩
    rw [tidyBody_append_carriage, Text.dropLastIf_append_singleton,
      Text.dropLastIf_append_singleton, List.append_nil]
  · rw [tidyBody_of_ne hne, Text.dropLastIf_of_ne hne]
    exact Text.dropLastIf_isPrefix _ _

/-- The indentation of what a pass leaves of a line has no tabs, if these are repaired. -/
theorem tab_notMem_indentOf_tidyBody (hon : r.tabIndent = true) (body : Text) :
    '\t' ∉ Rule.indentOf (Text.dropLastIf '\r' (r.tidyBody body)) :=
  fun h => (quietContent_tidyContent _).2 hon
    (Text.mem_indentOf_of_isPrefix (dropLastIf_tidyBody_isPrefix body) h)

/-- What a pass leaves of a line where trimming brings a carriage return to the end. -/
theorem dropLastIf_tidyBody_of_trimmed {kept : Text} (hon : r.trailingSpace = true)
    (hne : body.getLast? ≠ some '\r') (hkept : Rule.withoutTrailingSpace body = kept ++ ['\r']) :
    Text.dropLastIf '\r' (r.tidyBody body) =
      if r.tabIndent then Text.expandIndent kept else kept := by
  rw [tidyBody_of_ne hne, tidyContent, if_pos hon, hkept]
  split
  · rw [Text.expandIndent_append_singleton kept (by decide), Text.dropLastIf_append_singleton]
  · rw [Text.dropLastIf_append_singleton]

/-- What a pass leaves of a line has no white space at its end, unless the line hid a carriage
return. -/
theorem withoutTrailingSpace_tidyBody_iff (hon : r.trailingSpace = true) :
    Rule.withoutTrailingSpace (Text.dropLastIf '\r' (r.tidyBody (Text.dropLastIf '\n' piece))) =
      Text.dropLastIf '\r' (r.tidyBody (Text.dropLastIf '\n' piece)) ↔ ¬piece.HidesReturn := by
  rcases Text.eq_append_or_getLast?_ne '\r' (Text.dropLastIf '\n' piece) with ⟨content, heq⟩ | hne
  · have hhides : ¬piece.HidesReturn :=
      Text.not_hidesReturn_of_getLast?_eq (by rw [heq, List.getLast?_concat])
    rw [heq, tidyBody_append_carriage, Text.dropLastIf_append_singleton]
    exact iff_of_true ((quietContent_tidyContent content).1 hon) hhides
  rcases Text.eq_append_or_getLast?_ne '\r'
    (Rule.withoutTrailingSpace (Text.dropLastIf '\n' piece)) with ⟨kept, hkept⟩ | hkept
  · -- a carriage return has come to the end of the line
    have hdiffers : Text.dropLastIf '\n' piece ≠ kept ++ ['\r'] := fun heq =>
      hne (by rw [heq, List.getLast?_concat])
    rw [Text.hidesReturn_iff_of_trimmed hkept hdiffers, not_not,
      dropLastIf_tidyBody_of_trimmed hon hne hkept]
    split
    · exact Text.withoutTrailingSpace_expandIndent_iff
    · rfl
  · have hlast : (r.tidyBody (Text.dropLastIf '\n' piece)).getLast? ≠ some '\r' := by
      rw [tidyBody_of_ne hne, tidyContent, if_pos hon]
      split
      · rwa [ne_eq, Text.getLast?_expandIndent (by decide)]
      · exact hkept
    exact iff_of_true ((quietContent_of_tidyBody (.inr hlast)).1 hon)
      (Text.not_hidesReturn_of_getLast?_ne hkept)

end Repairs

end SolidityLint
