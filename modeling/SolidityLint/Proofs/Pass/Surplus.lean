import Mathlib.Data.List.Forall2
import SolidityLint.Proofs.Pass.Conflict
import SolidityLint.Proofs.Rule.Located

/-!
# What the rule against blank lines finds and what it removes

The rule gathers the runs of blank lines while it reads a text, and it knows the lines to remove by
their offsets.  Both are said here by the places of the lines.

* `forall₂_reportsRun`: it finds the long runs of a text, each of them once and in order.
* `keepFrom_eq_filter`: a pass that does nothing else keeps the lines that do not lie beyond the
  limit of a run.
* `check_blankRun_spec`: so the repairs of its findings together take exactly the others away.
-/

namespace SolidityLint

namespace Rule

/-- A finding reports a run of blank lines, known by its place and the number of its lines: from
the first line beyond the limit to the end of the last one, and the repair removes these lines. -/
structure ReportsRun (source : Text) (limit : Nat) (x : Finding) (run : Nat × Nat) : Prop where
  location : ∃ first last, source.lines[run.1 + limit]? = some first ∧
    source.lines[run.1 + run.2 - 1]? = some last ∧
      x.location = ⟨(first.start : Int), (last.next : Int)⟩
  message : x.message = "More than ".toList ++ Text.ofNat limit ++
    " blank line(s) not allowed (".toList ++ Text.ofNat run.2 ++ " found)".toList
  fix : ∃ producer, x.fix = some producer ∧
    producer (.ofText source) = .ok (some ⟨x.location, []⟩)

variable {limit i : Nat} {source : Text} {x : Finding}

theorem reportsRun_of_blankRunIn (hadmits : (EditFactory.ofText source).Admits x.location)
    (h : blankRunIn limit (Line.runAt source.lines i) = some x) :
    ReportsRun source limit x (i, (Line.runAt source.lines i).length) := by
  have hlong : limit < (Line.runAt source.lines i).length := by
    rw [← Nat.not_le, ← blankRunIn_eq_none_iff, h]
    exact Option.some_ne_none x
  have hlines : ∀ j, j < (Line.runAt source.lines i).length →
      (Line.runAt source.lines i)[j]? = source.lines[i + j]? := fun _ => Line.getElem?_runAt
  generalize Line.runAt source.lines i = run at *
  obtain ⟨first, rest, hdrop, rfl⟩ := exists_drop_of_blankRunIn h
  have hfirst : run[limit]? = some first := by
    have hhead := congrArg (·[0]?) hdrop
    simpa using hhead
  have hlast : run[run.length - 1]? = some (rest.getLast?.getD first) := by
    have hend := congrArg List.getLast? hdrop
    rw [List.getLast?_cons, List.getLast?_eq_getElem?, List.getElem?_drop,
      List.length_drop] at hend
    rwa [show limit + (run.length - limit - 1) = run.length - 1 by omega] at hend
  refine ⟨⟨first, rest.getLast?.getD first, ?_, ?_, rfl⟩, rfl, _, rfl,
    Finding.answer_replacing hadmits⟩
  · rw [← hlines limit hlong, hfirst]
  · rw [Nat.add_sub_assoc (by omega), ← hlines _ (by omega), hlast]

end Rule

/-- Where elements are chosen and relabelled, they are related to their other labels in order. -/
theorem forall₂_filterMap_filter {α β γ : Type} {R : β → γ → Prop} {f : α → Option β} {g : α → γ}
    {p : γ → Bool} {xs : List α} (hsome : ∀ a ∈ xs, ∀ b, f a = some b → p (g a) = true ∧ R b (g a))
    (hnone : ∀ a ∈ xs, f a = none → p (g a) = false) :
    List.Forall₂ R (xs.filterMap f) ((xs.map g).filter p) := by
  induction xs with
  | nil => exact .nil
  | cons a xs ih =>
      have hrest := ih (fun b hb => hsome b (List.mem_cons_of_mem _ hb))
        fun b hb => hnone b (List.mem_cons_of_mem _ hb)
      rw [List.map_cons]
      cases hf : f a with
      | none =>
          have hp := hnone a (List.mem_cons_self ..) hf
          rwa [List.filterMap_cons_none hf, List.filter_cons_of_neg (by simp [hp])]
      | some b =>
          obtain ⟨hp, hR⟩ := hsome a (List.mem_cons_self ..) b hf
          rw [List.filterMap_cons_some hf, List.filter_cons_of_pos hp]
          exact .cons hR hrest

namespace Rule

variable {source : Text}

/-- The rule finds the long runs of a text, in order. -/
theorem forall₂_reportsRun (limit : Nat) (source : Text) :
    List.Forall₂ (ReportsRun source limit)
      ((Line.blankRuns source.lines).filterMap (blankRunIn limit))
      (Line.longRuns limit source.lines) := by
  have hruns : Line.blankRuns source.lines =
      (Line.runStarts false source.lines).map (Line.runAt source.lines) :=
    Line.blankRuns_eq_map false source.lines
  have horderly := orderly_blankRun limit source
  rw [hruns, List.filterMap_map] at horderly ⊢
  refine forall₂_filterMap_filter (fun i hi x hx => ?_) fun i _ hnone => ?_
  · refine ⟨?_, reportsRun_of_blankRunIn (horderly.admits x (List.mem_filterMap.2 ⟨i, hi, hx⟩)) hx⟩
    rw [decide_eq_true_eq, ← Nat.not_le, ← blankRunIn_eq_none_iff]
    exact fun hnone => Option.some_ne_none x (hx.symm.trans hnone)
  · rw [decide_eq_false_iff_not, Nat.not_lt]
    exact blankRunIn_eq_none_iff.1 hnone

end Rule

/-! ## The lines that are kept -/

/-- Relabelled elements are chosen by their places as they are before. -/
theorem map_filter_zipIdx_map {α β : Type} (f : α → β) (p : Nat → Bool) (xs : List α) :
    ((xs.map f).zipIdx.filter fun x => p x.2).map Prod.fst =
      (xs.zipIdx.filter fun x => p x.2).map fun x => f x.1 := by
  rw [List.zipIdx_map, List.filter_map, List.map_map]
  rfl

namespace Repairs

variable {r : Repairs} {limit k : Nat} {ps : List Text} {source : Text} {ls : List Line}

/-- The blank lines of a text are its blank pieces. -/
theorem map_isBlank_placeLines (n o : Nat) (ps : List Text) :
    (Text.placeLines n o ps).map Line.isBlank = ps.map Text.isBlankPiece := by
  induction ps generalizing n o with
  | nil => rfl
  | cons p ps ih => rw [Text.placeLines, List.map_cons, List.map_cons, isBlank_placed, ih]

theorem blankAt_lines {p : Text} (hp : source.pieces[k]? = some p) :
    Line.blankAt source.lines k = p.isBlankPiece := by
  have hblank := congrArg (·[k]?) (map_isBlank_placeLines 1 0 source.pieces)
  simp only [List.getElem?_map, ← Text.lines_eq_placeLines, hp, Option.map_some] at hblank
  obtain ⟨l, hl, heq⟩ := Option.map_eq_some_iff.1 hblank
  rw [Line.blankAt, hl, Option.any_some, heq]

/-- The lines that do not lie beyond the limit of a run are kept, from a place on. -/
theorem keepFrom_eq_filter (hon : r.blankRun = true)
    (hps : ∀ j p, ps[j]? = some p → Line.blankAt ls (k + j) = p.isBlankPiece) :
    r.keepFrom (Line.blanksBefore ls k) ps =
      ((ps.zipIdx k).filter fun x => !Line.inSurplus r.blankLines ls x.2).map Prod.fst := by
  induction ps generalizing k with
  | nil => rfl
  | cons p ps ih =>
      have hp : Line.blankAt ls k = p.isBlankPiece := hps 0 p rfl
      have hrest := ih (k := k + 1) fun j q hq => by
        rw [Nat.add_assoc, Nat.add_comm 1]
        exact hps (j + 1) q hq
      have hnext : advance (Line.blanksBefore ls k) p = Line.blanksBefore ls (k + 1) := by
        rw [advance, Line.blanksBefore, hp]
      have hsurplus : r.isSurplus (Line.blanksBefore ls k) p =
          Line.inSurplus r.blankLines ls k := by
        rw [isSurplus, hon, Bool.true_and, Line.inSurplus_eq, hp]
      rw [keepFrom, hnext, hsurplus, hrest, List.zipIdx_cons]
      cases hin : Line.inSurplus r.blankLines ls k with
      | false => rw [List.filter_cons_of_pos (by simp [hin])]; rfl
      | true => rw [List.filter_cons_of_neg (by simp [hin])]; rfl

/-- Of a whole text they are given by their offsets. -/
theorem keepFrom_pieces (hon : r.blankRun = true) (source : Text) :
    r.keepFrom 0 source.pieces =
      (source.lines.zipIdx.filter fun x => !Line.inSurplus r.blankLines source.lines x.2).map
        fun x => source.slice x.1.start x.1.next := by
  have hkept : r.keepFrom (Line.blanksBefore source.lines 0) source.pieces =
      (source.pieces.zipIdx.filter fun x => !Line.inSurplus r.blankLines source.lines x.2).map
        Prod.fst := keepFrom_eq_filter hon fun j p hp => by
    rw [Nat.zero_add]
    exact blankAt_lines hp
  rw [← map_filter_zipIdx_map (fun l : Line => source.slice l.start l.next) fun k =>
    !Line.inSurplus r.blankLines source.lines k, Text.map_slice_lines]
  exact hkept

/-! ## The rule alone -/

/-- The repairs that cut long runs of blank lines and do nothing else. -/
def cutting (limit : Nat) : Repairs :=
  ⟨false, false, true, false, limit⟩

theorem settled_cutting (h : Text.IsCut ps) : (cutting limit).Settled ps where
  isCut := h
  quiet _ _ := ⟨fun hoff => Bool.noConfusion hoff, fun hoff => Bool.noConfusion hoff⟩
  closed _ _ := if_neg fun hoff => Bool.noConfusion hoff.1

/-- They offer the removals of the surplus of each run. -/
theorem fixes_cutting (limit : Nat) (source : Text) :
    (cutting limit).fixes source = walk (cutting limit).runFixes 0 0 source.pieces := by
  have htrailing : ∀ ps, walk (fun o _ p _ => (cutting limit).trailingFixes o p) 0 0 ps = [] :=
    fun _ => walk_eq_nil fun _ _ _ _ => by simp [trailingFixes, cutting]
  have htabs : ∀ ps, walk (fun o _ p _ => (cutting limit).tabFixes o p) 0 0 ps = [] :=
    fun _ => walk_eq_nil fun _ _ _ _ => by simp [tabFixes, cutting]
  have hclosing : ∀ ps, walk (fun o _ p _ => (cutting limit).closingFixes o p) 0 0 ps = [] :=
    fun _ => walk_eq_nil fun _ _ _ _ => by simp [closingFixes, cutting]
  have hothers : (cutting limit).offered source =
      walk (cutting limit).runFixes 0 0 source.pieces := by
    rw [offered, htrailing, htabs, hclosing, List.nil_append, List.nil_append, List.append_nil]
  rw [← sort_offered, hothers]
  refine Fix.sort_of_pairwise (((cutting limit).pairwise_walk_runFixes ..).imp_of_mem ?_)
  intro x y hx _ hxy
  exact Int.le_trans (bounds_of_mem_walk_runFixes hx).2.1 hxy

theorem flatten_keepFrom_pieces (r : Repairs) (source : Text) :
    (r.keepFrom 0 source.pieces).flatten = (r.keepFrom 0 (Text.cutLines source)).flatten := by
  rw [Text.pieces]
  split
  · rename_i hempty
    rw [hempty]
    cases hsurplus : r.isSurplus 0 [] <;> simp [keepFrom, Text.cutLines, hsurplus]
  · rfl

/-- The removals can be applied together, and they leave the lines that are kept. -/
theorem applyAll_cutting (limit : Nat) (source : Text) :
    let xs := walk (cutting limit).runFixes 0 0 source.pieces
    Edit.applyAll source (xs.map (·.edit)) =
      .ok ⟨!xs.isEmpty, ((cutting limit).keepFrom 0 source.pieces).flatten⟩ := by
  intro xs
  have hpairs : xs.Pairwise fun x y => x.stop ≤ y.start :=
    (cutting limit).pairwise_walk_runFixes ..
  have hbounds : ∀ x ∈ xs, 0 ≤ x.start ∧ x.start ≤ x.stop ∧ x.stop ≤ (source.length : Int) := by
    intro x hx
    have hx := bounds_of_mem_walk_runFixes hx
    rwa [Nat.zero_add, Text.flatten_pieces] at hx
  have haccepted : (cutting limit).accepted source = xs := by
    have hfixes := fixes_cutting limit source
    refine (accepted_of_pairwise ?_ ?_).1.trans hfixes
    · rw [hfixes]
      exact fun x hx => (hbounds x hx).1
    · rwa [hfixes]
  have horder : Edit.InOrder source.length 0 (xs.map (·.edit)) :=
    Edit.inOrder_of_pairwise (Int.natCast_nonneg _) (List.forall_mem_map.2 hbounds)
      (List.pairwise_map.2 hpairs)
  have hweave : Edit.patched source 0 (xs.map (·.edit)) =
      ((cutting limit).rewrite (Text.cutLines source)).flatten := by
    rw [← weave_accepted, haccepted]
    exact Edit.patched_eq_weave horder
  rw [Edit.applyAll, Edit.sweep_eq_ok horder, hweave,
    rewrite_of_settled (settled_cutting (Text.isCut_cutLines source)), ← flatten_keepFrom_pieces,
    List.isEmpty_map]
  rfl

/-- The removals are the repairs of what the rule finds. -/
theorem map_surplus_blankRun (limit : Nat) (source : Text) :
    ((Line.blankRuns source.lines).filterMap (Rule.blankRunIn limit)).map
        (fun x => (⟨Rule.blankRun.id, ⟨x.location, []⟩⟩ : Fix)) =
      walk (cutting limit).runFixes 0 0 source.pieces := by
  have horderly := Rule.orderly_blankRun limit source
  have hmap : ((Line.blankRuns (Text.placeLines 1 0 source.pieces)).filterMap
      (Rule.blankRunIn limit)).map (·.fixFor Rule.blankRun.id (.ofText source)) =
        (walk (cutting limit).runFixes 0 0 source.pieces).map some :=
    map_fixFor_blankRun (r := cutting limit) rfl
      (by simp [Text.flatten_pieces, EditFactory.ofText])
  rw [← Text.lines_eq_placeLines] at hmap
  have hfix : ∀ x ∈ (Line.blankRuns source.lines).filterMap (Rule.blankRunIn limit),
      x.fixFor Rule.blankRun.id (.ofText source) = some ⟨Rule.blankRun.id, ⟨x.location, []⟩⟩ := by
    intro x hx
    have hadmits := horderly.admits x hx
    obtain ⟨run, -, hcheck⟩ := List.mem_filterMap.1 hx
    obtain ⟨first, rest, -, rfl⟩ := Rule.exists_drop_of_blankRunIn hcheck
    exact Finding.fixFor_removing hadmits
  have hedits := filterMap_of_map_eq ((List.map_congr_left hfix).symm.trans hmap)
  rwa [List.filterMap_eq_map'] at hedits

end Repairs

namespace Rule

/-- **The rule against blank lines is sound and complete.**  What it finds are the maximal runs of
more blank lines than the limit allows, each of them once and in order.  The repairs of all findings
can be applied together, and they leave exactly the lines that do not lie beyond the limit of a
run. -/
theorem check_blankRun_spec (limits : Limits) (source : Text) :
    let limit := limits.blankLines
    let runs := Line.longRuns limit source.lines
    (∀ i n, (i, n) ∈ runs ↔ Line.IsRun source.lines i n ∧ limit < n) ∧
    runs.Pairwise (fun a b => a.1 + a.2 < b.1) ∧
    ∃ findings, blankRun.check limits source = .ok findings ∧
      List.Forall₂ (ReportsRun source limit) findings runs ∧
      Edit.applyAll source (findings.map fun x => ⟨x.location, []⟩) =
        .ok ⟨!findings.isEmpty,
          ((source.lines.zipIdx.filter fun x => !Line.inSurplus limit source.lines x.2).map
            fun x => source.slice x.1.start x.1.next).flatten⟩ := by
  intro limit runs
  refine ⟨fun i n => Line.mem_longRuns_iff, Line.pairwise_longRuns limit source.lines, _, rfl,
    forall₂_reportsRun limit source, ?_⟩
  have happly := Repairs.applyAll_cutting limit source
  simp only [← Repairs.map_surplus_blankRun, List.map_map, List.isEmpty_map] at happly
  rw [Repairs.keepFrom_pieces rfl] at happly
  exact happly

/-- Three blank lines in a row, and two more at the end, the last of them without a line feed. -/
example : Line.longRuns 1 (Text.lines "a\n\n \r\n\t\x0c\nb\n\n ".toList) = [(1, 3), (5, 2)] := by
  decide

end Rule

end SolidityLint
