import SolidityLint.Diff.Hunk

/-!
# Hunks and the gaps between them

The hunks of a script lie one behind the other in both lists, and what they leave out between
them is the same in both (`Hunk.Tiling`): every change of the script is shown by a hunk, and only
kept elements are left out (`Hunk.tiling_ofScript`).
-/

namespace SolidityLint.Diff

variable {α : Type}

namespace Script

@[simp] theorem before_nil : before ([] : Script α) = [] :=
  rfl

@[simp] theorem after_nil : after ([] : Script α) = [] :=
  rfl

@[simp] theorem before_cons (x : Segment α) (s : Script α) :
    before (x :: s) = x.before ++ before s :=
  rfl

@[simp] theorem after_cons (x : Segment α) (s : Script α) : after (x :: s) = x.after ++ after s :=
  rfl

end Script

namespace Hunk

open Script

@[simp] theorem before_push (h : Hunk α) (x : Segment α) :
    before (h.push x).script = before h.script ++ x.before := by
  simp [push, before]

@[simp] theorem after_push (h : Hunk α) (x : Segment α) :
    after (h.push x).script = after h.script ++ x.after := by
  simp [push, after]

/-- The number of elements of the first list up to the end of the hunk. -/
def beforeStop (h : Hunk α) : Nat :=
  h.beforeStart + h.beforeLength

/-- The number of elements of the second list up to the end of the hunk. -/
def afterStop (h : Hunk α) : Nat :=
  h.afterStart + h.afterLength

/-- Hunks that cover two lists from the places `i` and `j` on, but for gaps that are the same in
both. -/
inductive Tiling : Nat → Nat → List (Hunk α) → List α → List α → Prop where
  /-- What is left after the last hunk is the same in both lists. -/
  | rest (i j : Nat) (gap : List α) : Tiling i j [] gap gap
  /-- A hunk starts behind a gap, and the next one behind its end. -/
  | hunk {i j : Nat} {h : Hunk α} {hs : List (Hunk α)} {as bs : List α} (gap : List α)
      (hbefore : h.beforeStart = i + gap.length) (hafter : h.afterStart = j + gap.length)
      (hrest : Tiling h.beforeStop h.afterStop hs as bs) :
      Tiling i j (h :: hs) (gap ++ before h.script ++ as) (gap ++ after h.script ++ bs)

variable {context i j : Nat} {h : Hunk α}

/-- A long kept stretch is what one hunk shows of it, what the next one does, and a gap. -/
theorem take_append_gap {kept : List α} (hlong : 2 * context < kept.length) :
    kept.take context ++ ((kept.drop context).take (kept.length - 2 * context) ++
      lastElements context kept) = kept := by
  have hlast : lastElements context kept =
      (kept.drop context).drop (kept.length - 2 * context) := by
    rw [lastElements, List.drop_drop]
    congr 1
    omega
  rw [hlast, List.take_append_drop, List.take_append_drop]

theorem length_lastElements (n : Nat) (xs : List α) :
    (lastElements n xs).length = min n xs.length := by
  rw [lastElements, List.length_drop]
  omega

@[simp] theorem script_opening (context i j : Nat) (kept : List α) :
    (opening context i j kept).script = [.keep (lastElements context kept)] :=
  rfl

theorem beforeStop_opening (context i j : Nat) (kept : List α) :
    (opening context i j kept).beforeStop = i + kept.length := by
  have hlength := length_lastElements context kept
  simp only [beforeStop, beforeLength, opening, before_cons, Segment.before, before_nil,
    List.append_nil]
  omega

theorem afterStop_opening (context i j : Nat) (kept : List α) :
    (opening context i j kept).afterStop = j + kept.length := by
  have hlength := length_lastElements context kept
  simp only [afterStop, afterLength, opening, after_cons, Segment.after, after_nil,
    List.append_nil]
  omega

theorem beforeStop_push (h : Hunk α) (x : Segment α) :
    (h.push x).beforeStop = h.beforeStop + x.before.length := by
  simp only [beforeStop, beforeLength, before_push, List.length_append, Nat.add_assoc]
  rfl

theorem afterStop_push (h : Hunk α) (x : Segment α) :
    (h.push x).afterStop = h.afterStop + x.after.length := by
  simp only [afterStop, afterLength, after_push, List.length_append, Nat.add_assoc]
  rfl

/-- The run over the rest of a script: the open hunk and those after it lie behind a gap, if the
open hunk does and the rest goes on where it ends. -/
theorem tiling_collect {s : Script α} {i₀ j₀ : Nat} (gap : List α) (hi : h.beforeStop = i)
    (hj : h.afterStop = j) (hbefore : h.beforeStart = i₀ + gap.length)
    (hafter : h.afterStart = j₀ + gap.length) :
    Tiling i₀ j₀ (collect context h i j s) (gap ++ before h.script ++ before s)
      (gap ++ after h.script ++ after s) := by
  fun_induction collect context h i j s generalizing i₀ j₀ gap with
  | case1 h i j => exact .hunk gap hbefore hafter (.rest ..)
  | case2 h i j old new rest ih =>
      have htail := ih gap (by rw [beforeStop_push, hi]; rfl) (by rw [afterStop_push, hj]; rfl)
        hbefore hafter
      simpa only [before_push, after_push, before_cons, after_cons, List.append_assoc] using htail
  | case3 h i j kept =>
      have htail := Tiling.hunk (h := h.push (.keep (kept.take context))) gap hbefore hafter
        (.rest _ _ (kept.drop context))
      simpa only [before_push, after_push, before_cons, after_cons, before_nil, after_nil,
        Segment.before, Segment.after, List.append_assoc, List.take_append_drop,
        List.append_nil] using htail
  | case4 h i j kept x rest hlong ih =>
      have hlength : ((kept.drop context).take (kept.length - 2 * context)).length =
          kept.length - 2 * context := by
        rw [List.length_take, List.length_drop]
        omega
      have hshown := length_lastElements context kept
      have htail := @ih (h.push (.keep (kept.take context))).beforeStop
        (h.push (.keep (kept.take context))).afterStop
        ((kept.drop context).take (kept.length - 2 * context))
        (beforeStop_opening ..) (afterStop_opening ..)
        (by
          simp only [opening, beforeStop_push, hi, hlength, hshown, Segment.before,
            List.length_take]
          omega)
        (by
          simp only [opening, afterStop_push, hj, hlength, hshown, Segment.after,
            List.length_take]
          omega)
      have hsplit (tail : List α) : kept ++ tail = kept.take context ++
          ((kept.drop context).take (kept.length - 2 * context) ++
            (lastElements context kept ++ tail)) := by
        rw [← List.append_assoc _ (lastElements context kept), ← List.append_assoc,
          take_append_gap hlong]
      have hall := Tiling.hunk (h := h.push (.keep (kept.take context))) gap hbefore hafter htail
      simp only [before_push, after_push, script_opening, before_cons (.keep _),
        after_cons (.keep _), before_nil, after_nil, Segment.before, Segment.after,
        List.append_assoc, List.append_nil] at hall ⊢
      rw [hsplit, hsplit]
      exact hall
  | case5 h i j kept x rest hshort ih =>
      have htail := ih gap (by rw [beforeStop_push, hi]; rfl) (by rw [afterStop_push, hj]; rfl)
        hbefore hafter
      simpa only [before_push, after_push, before_cons (.keep _), after_cons (.keep _),
        List.append_assoc] using htail

/-- **The hunks of a script lie one behind the other, and what they leave out is the same in both
lists.** -/
theorem tiling_ofScript (context : Nat) (s : Script α) :
    Tiling 0 0 (ofScript context s) (before s) (after s) := by
  fun_cases ofScript context s with
  | case1 => exact .rest ..
  | case2 kept =>
      have hrest := Tiling.rest 0 0 kept
      simpa only [before_cons, after_cons, before_nil, after_nil, Segment.before, Segment.after,
        List.append_nil] using hrest
  | case3 kept x rest =>
      have hshown := length_lastElements context kept
      have htail := @tiling_collect α context _ _ (opening context 0 0 kept) (x :: rest) 0 0
        (kept.take (kept.length - context))
        (by rw [beforeStop_opening, Nat.zero_add]) (by rw [afterStop_opening, Nat.zero_add])
        (by simp only [opening, hshown, List.length_take]; omega)
        (by simp only [opening, hshown, List.length_take]; omega)
      simpa only [script_opening, before_cons (.keep _), after_cons (.keep _), before_nil,
        after_nil, Segment.before, Segment.after, List.append_nil, lastElements,
        List.take_append_drop] using htail
  | case4 old new rest =>
      have htail := @tiling_collect α context old.length new.length ⟨0, 0, [.change old new]⟩ rest
        0 0 []
        (by simp [beforeStop, beforeLength, Segment.before])
        (by simp [afterStop, afterLength, Segment.after]) rfl rfl
      simpa only [before_cons, after_cons, before_nil, after_nil, List.append_nil,
        List.nil_append] using htail

/-- There is no hunk only if the script keeps all it covers. -/
theorem before_eq_after_of_ofScript_eq_nil {s : Script α} (h : ofScript context s = []) :
    before s = after s := by
  have htiling := tiling_ofScript context s
  rw [h] at htiling
  generalize before s = as, after s = bs at htiling ⊢
  cases htiling
  rfl

end Hunk

end SolidityLint.Diff
