import SolidityLint.Proofs.Order.Stable
import SolidityLint.Proofs.Pass.Offered
import SolidityLint.Proofs.Repair.Account

/-!
# The edits of all rules in the order of the text

The rules offer their edits one rule after the other, and the linter sorts its diagnostics by
their starts.  The candidates of its report come out line by line.

* `sort_offered`: the sorted edits of all rules (`Repairs.fixes`).
* `Carries.map_fix_candidates`: these are what the candidates of a report do.
* `Carries.sort_candidates`: the candidates are in the order of scanning already.
* `fixableCount_lint`: a report counts as many fixable problems as there are edits.
-/

namespace SolidityLint

/-! ## Sorting edits -/

namespace Fix

/-- Edits in the order of their starts. -/
def sort (xs : List Fix) : List Fix :=
  xs.mergeSort fun a b => decide (a.start ≤ b.start)

theorem isRanking_start : Order.IsRanking fun a b : Fix => decide (a.start ≤ b.start) :=
  Order.isRanking_of_key start

theorem sort_of_pairwise {xs : List Fix} (h : xs.Pairwise (·.start ≤ ·.start)) : sort xs = xs :=
  List.mergeSort_of_pairwise (h.imp fun hab => decide_eq_true hab)

theorem sort_of_start_eq {xs : List Fix} {o : Int} (h : ∀ x ∈ xs, x.start = o) : sort xs = xs :=
  sort_of_pairwise (List.pairwise_of_forall_mem_list fun a ha b hb =>
    Int.le_of_eq (by rw [h a ha, h b hb]))

/-- Lists of which each is cut at one offset are sorted together on each side of it. -/
theorem sort_flatMap (k : Int) (parts : List (List Fix × List Fix))
    (hbefore : ∀ x ∈ parts, ∀ a ∈ x.1, a.start < k)
    (hafter : ∀ x ∈ parts, ∀ a ∈ x.2, k ≤ a.start) :
    sort (parts.flatMap fun x => x.1 ++ x.2) =
      sort (parts.flatMap (·.1)) ++ sort (parts.flatMap (·.2)) := by
  have hcut : (parts.flatMap fun x => x.1 ++ x.2).filter (fun a => decide (a.start < k)) =
        parts.flatMap (·.1) ∧
      (parts.flatMap fun x => x.1 ++ x.2).filter (fun a => !decide (a.start < k)) =
        parts.flatMap (·.2) := by
    induction parts with
    | nil => exact ⟨rfl, rfl⟩
    | cons x parts ih =>
        obtain ⟨ih₁, ih₂⟩ := ih (fun y hy => hbefore y (List.mem_cons_of_mem _ hy))
          fun y hy => hafter y (List.mem_cons_of_mem _ hy)
        have hb := hbefore x (List.mem_cons_self ..)
        have ha := hafter x (List.mem_cons_self ..)
        simp only [List.flatMap_cons, List.filter_append, ih₁, ih₂]
        rw [List.filter_eq_self.2 fun a h => decide_eq_true (hb a h),
          List.filter_eq_nil_iff.2 fun a h => by simpa using ha a h,
          List.filter_eq_nil_iff.2 fun a h => by simpa using hb a h,
          List.filter_eq_self.2 fun a h => by simpa using ha a h]
        exact ⟨by simp, by simp⟩
  rw [sort, Order.mergeSort_eq_append isRanking_start (p := fun a => decide (a.start < k)),
    hcut.1, hcut.2]
  · rfl
  · intro a _ b _ ha hb
    simp only [decide_eq_true_eq, decide_eq_false_iff_not] at ha hb ⊢
    omega

end Fix

namespace Repairs

variable {r : Repairs} {o before : Nat} {piece : Text} {ps : List Text} {x : Fix}

/-- The edits of one line. -/
theorem sort_line (hne : piece ≠ []) :
    Fix.sort (r.trailingFixes o piece ++ (r.tabFixes o piece ++ r.runFixes o before piece ps)) =
      r.leading o before piece ps ++ r.late o piece := by
  have hleading : ∀ x ∈ r.leading o before piece ps, x.start = o :=
    fun x hx => (bounds_of_mem_leading hne hx).1
  by_cases hwhite : isWhite piece = true
  · have hall : r.trailingFixes o piece ++ (r.tabFixes o piece ++ r.runFixes o before piece ps) =
        r.leading o before piece ps := by
      rw [leading, ownLeading, if_pos hwhite, List.append_assoc]
    rw [hall, late, if_pos hwhite, List.append_nil, Fix.sort_of_start_eq hleading]
  · have hlead : r.leading o before piece ps =
        r.tabFixes o piece ++ r.runFixes o before piece ps := by
      rw [leading, ownLeading, if_neg hwhite, List.nil_append]
    have hlate : r.late o piece = r.trailingFixes o piece := by rw [late, if_neg hwhite]
    have hsplit := Fix.sort_flatMap (o + 1)
      [([], r.late o piece), (r.leading o before piece ps, [])]
      (by
        simp only [List.mem_cons, List.not_mem_nil, or_false, forall_eq_or_imp, forall_eq]
        refine ⟨by simp, fun x hx => ?_⟩
        rw [hleading x hx]
        omega)
      (by
        simp only [List.mem_cons, List.not_mem_nil, or_false, forall_eq_or_imp, forall_eq]
        exact ⟨fun x hx => (bounds_of_mem_late hx).1, by simp⟩)
    simp only [List.flatMap_cons, List.flatMap_nil, List.nil_append, List.append_nil] at hsplit
    have hsingle : Fix.sort (r.late o piece) = r.late o piece := by
      rcases late_eq_nil_or_singleton (r := r) o piece with h | ⟨y, h⟩ <;>
        exact Fix.sort_of_pairwise (by simp [h])
    rw [← hlate, ← hlead, hsplit, hsingle, Fix.sort_of_start_eq hleading]

theorem le_start_of_mem_walk {g : Nat → Nat → Text → List Text → List Fix}
    (hg : ∀ o before p ps, ∀ x ∈ g o before p ps, (o : Int) ≤ x.start)
    (h : x ∈ walk g o before ps) : (o : Int) ≤ x.start := by
  induction ps generalizing o before with
  | nil => simp [walk] at h
  | cons p ps ih =>
      rcases List.mem_append.1 h with h | h
      · exact hg o before p ps x h
      · have := ih h
        omega

/-- The edits of a line come before all edits of the lines behind it. -/
theorem sort_walks_cons (hne : piece ≠ []) {closing : List Fix}
    (hclosing : ∀ x ∈ closing, ((o + piece.length : Nat) : Int) ≤ x.start) :
    let next := o + piece.length
    let count := advance before piece
    Fix.sort (walk (fun o _ p _ => r.trailingFixes o p) o before (piece :: ps) ++
      (walk (fun o _ p _ => r.tabFixes o p) o before (piece :: ps) ++
        (walk r.runFixes o before (piece :: ps) ++ closing))) =
      r.leading o before piece ps ++ (r.late o piece ++
        Fix.sort (walk (fun o _ p _ => r.trailingFixes o p) next count ps ++
          (walk (fun o _ p _ => r.tabFixes o p) next count ps ++
            (walk r.runFixes next count ps ++ closing)))) := by
  intro next count
  have htrailing : ∀ {o p}, ∀ x ∈ r.trailingFixes o p, (o : Int) ≤ x.start ∧
      x.start < (o + p.length : Nat) := fun x hx => by
    have := bounds_of_mem_trailingFixes hx
    omega
  have htabs : ∀ {o p}, ∀ x ∈ r.tabFixes o p, (o : Int) ≤ x.start ∧
      x.start < (o + p.length : Nat) := fun x hx => by
    have := bounds_of_mem_tabFixes hx
    omega
  have hruns : ∀ x ∈ r.runFixes o before piece ps, x.start < (o + piece.length : Nat) :=
    fun x hx => by
      have := bounds_of_mem_runFixes hne hx
      have := List.length_pos_of_ne_nil hne
      omega
  have hsplit := Fix.sort_flatMap (o + piece.length : Nat)
    [(r.trailingFixes o piece, walk (fun o _ p _ => r.trailingFixes o p) next count ps),
      (r.tabFixes o piece, walk (fun o _ p _ => r.tabFixes o p) next count ps),
      (r.runFixes o before piece ps, walk r.runFixes next count ps), ([], closing)]
    (by
      simp only [List.mem_cons, List.not_mem_nil, or_false, forall_eq_or_imp, forall_eq]
      exact ⟨fun x hx => (htrailing x hx).2, fun x hx => (htabs x hx).2, hruns, by simp⟩)
    (by
      simp only [List.mem_cons, List.not_mem_nil, or_false, forall_eq_or_imp, forall_eq]
      exact ⟨fun x hx => le_start_of_mem_walk (fun _ _ _ _ y hy => (htrailing y hy).1) hx,
        fun x hx => le_start_of_mem_walk (fun _ _ _ _ y hy => (htabs y hy).1) hx,
        fun x hx => (bounds_of_mem_walk_runFixes hx).1, hclosing⟩)
  simp only [List.flatMap_cons, List.flatMap_nil, List.nil_append, List.append_nil,
    List.append_assoc] at hsplit
  simp only [walk, List.append_assoc]
  rw [hsplit, sort_line hne, List.append_assoc]

/-- The edits of all rules, line by line. -/
theorem sort_walks (h : Text.IsCut ps) :
    Fix.sort (walk (fun o _ p _ => r.trailingFixes o p) o before ps ++
      (walk (fun o _ p _ => r.tabFixes o p) o before ps ++
        (walk r.runFixes o before ps ++
          walk (fun o _ p _ => r.closingFixes o p) o before ps))) =
      r.fixesFrom o before ps := by
  have hstart : ∀ {o p}, ∀ x ∈ r.closingFixes o p, x.start = o + p.length :=
    fun x hx => (bounds_of_mem_closingFixes hx).1
  induction h generalizing o before with
  | nil => exact Fix.sort_of_pairwise .nil
  | @last tail hne _ =>
      have hend : walk (fun o _ p _ => r.closingFixes o p) o before [tail] =
          r.closingFixes o tail := List.append_nil _
      rw [hend, sort_walks_cons hne fun x hx => by rw [hstart x hx]; omega]
      simp only [walk, fixesFrom, List.nil_append, List.append_nil]
      rw [Fix.sort_of_start_eq hstart]
  | @line body ps _ _ ih =>
      have hend : walk (fun o _ p _ => r.closingFixes o p) o before ((body ++ ['\n']) :: ps) =
          walk (fun o _ p _ => r.closingFixes o p) (o + (body ++ ['\n']).length)
            (advance before (body ++ ['\n'])) ps := by
        rw [walk, closingFixes_append_feed, List.nil_append]
      rw [hend, sort_walks_cons (by simp) fun x hx => le_start_of_mem_walk
        (fun o _ p _ y hy => by rw [hstart y hy]; omega) hx, ih, fixesFrom,
        closingFixes_append_feed, List.nil_append]

/-! ## The edits of a text -/

variable (r) in
/-- The removal of the only line of the empty text, where no blank line may stand. -/
def emptyFixes (source : Text) : List Fix :=
  if source = [] then r.runFixes 0 0 [] [] else []

variable (r) in
/-- The edits that the rules offer for a text, in the order of scanning. -/
def fixes (source : Text) : List Fix :=
  r.emptyFixes source ++ r.fixesFrom 0 0 (Text.cutLines source)

theorem sort_offered (source : Text) : Fix.sort (r.offered source) = r.fixes source := by
  rw [offered, fixes, emptyFixes, Text.pieces]
  by_cases h : source = []
  · have hsort : Fix.sort (r.runFixes 0 0 [] []) = r.runFixes 0 0 [] [] := by
      rw [runFixes]
      split
      · exact Fix.sort_of_pairwise (List.pairwise_singleton ..)
      · exact Fix.sort_of_pairwise .nil
    simp [h, walk, trailingFixes, tabFixes, Text.withoutEnd, Text.dropLastIf, Text.cutLines,
      Rule.withoutTrailingSpace, Rule.indentOf, Text.trimEnd, fixesFrom, hsort]
  · rw [if_neg h, if_neg h, List.nil_append]
    exact sort_walks (Text.isCut_cutLines source)

end Repairs

/-! ## The candidates of a report -/

namespace Report

/-- What the candidates of a report do. -/
theorem map_fix_candidates (r : Report) :
    r.candidates.map Candidate.fix = r.diagnostics.filterMap (·.fixFor (.ofText r.source)) := by
  have hfix : ∀ x : Diagnostic × Nat, (x.1.candidate? (.ofText r.source) x.2).map Candidate.fix =
      x.1.fixFor (.ofText r.source) := by
    intro x
    rw [Diagnostic.candidate?, Option.map_map]
    rfl
  rw [candidates, candidatesFor, List.map_filterMap]
  conv_rhs => rw [← List.zipIdx_map_fst 0 r.diagnostics, List.filterMap_map]
  exact congrArg (List.filterMap · _) (funext hfix)

/-- Candidates whose edits are in the order of the text are in the order of scanning. -/
theorem sort_candidates {r : Report}
    (h : (r.candidates.map Candidate.fix).Pairwise (·.start ≤ ·.start)) :
    Candidate.sort r.candidates = r.candidates := by
  rw [List.pairwise_map] at h
  refine List.mergeSort_of_pairwise ((h.and r.pairwise_order_candidates).imp fun {a b} hab => ?_)
  obtain ⟨hstart, horder⟩ := hab
  change a.start ≤ b.start at hstart
  simp only [Candidate.comesBefore, Bool.or_eq_true, Bool.and_eq_true, decide_eq_true_eq,
    beq_iff_eq]
  omega

end Report

namespace Linter

variable {s : Settings} {l : Linter}

/-- The candidates of a report do what the rules offer, in the order of scanning. -/
theorem Carries.map_fix_candidates {r : Repairs} (h : l.Carries r) (path source : Text) :
    (l.lint path source).candidates.map Candidate.fix = r.fixes source := by
  have hoffers := h source
  rw [Report.map_fix_candidates, ← Repairs.sort_offered, ← hoffers.fixes]
  refine Order.filterMap_mergeSort (Order.isRanking_of_key fun d : Diagnostic => d.location.start)
    Fix.isRanking_start fun a ha b hb x y hx hy => ?_
  rw [hoffers.start a ha x hx, hoffers.start b hb y hy]

theorem Carries.sort_candidates {r : Repairs} (h : l.Carries r) (path source : Text) :
    Candidate.sort (l.lint path source).candidates = (l.lint path source).candidates := by
  refine Report.sort_candidates ?_
  rw [h.map_fix_candidates, ← Repairs.sort_offered]
  exact (List.pairwise_mergeSort Fix.isRanking_start.trans Fix.isRanking_start.total _).imp
    of_decide_eq_true

/-- A report counts as many fixable problems as the rules offer edits. -/
theorem fixableCount_lint (h : ofSettings Rule.catalogue s = .ok l) (path source : Text) :
    (l.lint path source).fixableCount = (s.repairs.fixes source).length := by
  rw [← Repairs.sort_offered, Fix.sort, List.length_mergeSort,
    ← (carries_of_ofSettings h source).countP_isFixable]
  exact (List.mergeSort_perm _ _).countP_eq _

end Linter

end SolidityLint
