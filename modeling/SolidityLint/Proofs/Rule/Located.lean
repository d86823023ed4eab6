import SolidityLint.Proofs.Pass.Errors

/-!
# Where the findings of a rule lie

A rule computes the ranges of its findings from the offsets of lines, and a range that does not fit
the text would go unnoticed: its repair would never be asked for again.  All rules of the catalogue
find ranges within the text, one behind the other, and repair exactly these (`Finding.Orderly`).

* `orderly_filterMap_lines`: so does every rule that looks at one line at a time.
* `orderly_blankRun`: so does the rule against long runs of blank lines, which take turns with the
  other lines.
* `exists_orderly_findings`: the rules of the catalogue.
-/

namespace SolidityLint

namespace Finding

/-- The repair of a finding, if it has one, edits the range of the finding and nothing else. -/
def Direct (x : Finding) : Prop :=
  ∀ producer, x.fix = some producer → ∀ f : EditFactory, f.Admits x.location →
    ∃ text, producer f = .ok (some ⟨x.location, text⟩)

/-- The range of a finding lies between two offsets. -/
def Within (x : Finding) (start stop : Nat) : Prop :=
  start ≤ x.location.start ∧ x.location.start ≤ x.location.stop ∧ x.location.stop ≤ stop

/-- Findings in a text: their ranges lie within it, one behind the other, and their repairs edit
these ranges. -/
structure Orderly (source : Text) (xs : List Finding) : Prop where
  admits : ∀ x ∈ xs, (EditFactory.ofText source).Admits x.location
  direct : ∀ x ∈ xs, x.Direct
  apart : xs.Pairwise fun x y => x.location.stop ≤ y.location.start

variable {x : Finding} {message text source : Text} {location : Range}

theorem direct_of_fix_eq_none (h : x.fix = none) : x.Direct := fun producer hfix => by
  rw [h] at hfix
  exact absurd hfix.symm (Option.some_ne_none producer)

theorem answer_replacing {f : EditFactory} (h : f.Admits location) :
    FixProducer.ofFactory (fun f => f.replace location text) f = .ok (some ⟨location, text⟩) := by
  rw [FixProducer.ofFactory, EditFactory.replace, EditFactory.map_checked h]

theorem direct_replacing : (replacing message location text).Direct := by
  intro producer hfix f hadmits
  rw [← Option.some_inj.1 hfix]
  exact ⟨text, answer_replacing hadmits⟩

theorem direct_removing : (removing message location).Direct :=
  direct_replacing

theorem Within.admits {start stop : Nat} (h : x.Within start stop) (hstop : stop ≤ source.length) :
    (EditFactory.ofText source).Admits x.location := by
  obtain ⟨hstart, hle, hend⟩ := h
  exact ⟨by omega, hle, Int.le_trans hend (Int.ofNat_le.2 hstop)⟩

/-- The findings of a rule that looks at one line at a time lie in their lines. -/
theorem orderly_filterMap_lines {check : Line → Option Finding}
    (h : ∀ l x, check l = some x → x.Direct ∧ x.Within l.start l.stop) :
    Orderly source (source.lines.filterMap check) where
  admits x hx := by
    obtain ⟨l, hl, hcheck⟩ := List.mem_filterMap.1 hx
    obtain ⟨hstop, hnext⟩ := Text.bounds_of_mem_lines hl
    exact (h l x hcheck).2.admits (hstop.trans hnext)
  direct x hx := by
    obtain ⟨l, -, hcheck⟩ := List.mem_filterMap.1 hx
    exact (h l x hcheck).1
  apart := by
    refine List.pairwise_filterMap.2 (source.pairwise_lines.imp_of_mem ?_)
    intro a b ha _ hab x hx y hy
    obtain ⟨-, -, hend⟩ := (h a x hx).2
    obtain ⟨hstart, -, -⟩ := (h b y hy).2
    have hstop := (Text.bounds_of_mem_lines ha).1
    omega

end Finding

/-! ## Runs of blank lines -/

namespace Line

/-- The runs of a text lie one behind the other, and so do the lines of a run. -/
theorem pairwise_blankRuns (source : Text) :
    (∀ run ∈ blankRuns source.lines, run.Pairwise fun a b => a.next ≤ b.start) ∧
      (blankRuns source.lines).Pairwise fun run run' =>
        ∀ a ∈ run, ∀ b ∈ run', a.next ≤ b.start := by
  rw [← List.pairwise_flatten, flatten_blankRuns]
  exact source.pairwise_lines.filter _

theorem mem_lines_of_mem_blankRuns {source : Text} {run : List Line} {l : Line}
    (hrun : run ∈ blankRuns source.lines) (hl : l ∈ run) : l ∈ source.lines := by
  have hmem := List.mem_flatten_of_mem hrun hl
  rw [flatten_blankRuns] at hmem
  exact List.mem_of_mem_filter hmem

end Line

namespace Rule

open Finding

variable {limit : Nat} {run : List Line} {rule : Rule} {x : Finding} {source : Text}

/-- What is found in a run reaches from the start of one of its lines to the end of another one,
which does not stand before it. -/
theorem ends_of_blankRunIn (hrun : run ∈ Line.blankRuns source.lines)
    (h : blankRunIn limit run = some x) :
    ∃ first ∈ run, ∃ last ∈ run, x.location = ⟨(first.start : Int), (last.next : Int)⟩ ∧
      first.start ≤ last.next := by
  have hlines : ∀ l ∈ run, l.start ≤ l.next := fun l hl =>
    (Nat.le_add_right ..).trans
      (Text.bounds_of_mem_lines (Line.mem_lines_of_mem_blankRuns hrun hl)).1
  obtain ⟨first, rest, hdrop, rfl⟩ := exists_drop_of_blankRunIn h
  have hsub : (first :: rest).Sublist run := hdrop ▸ List.drop_sublist limit run
  have hfirst := hsub.mem (List.mem_cons_self ..)
  have hpairs := ((Line.pairwise_blankRuns source).1 run hrun).sublist hsub
  cases hlast : rest.getLast? with
  | none => exact ⟨first, hfirst, first, hfirst, by simp [removing, linesRange, hlast],
      hlines first hfirst⟩
  | some last =>
      have hmem := List.mem_of_getLast? hlast
      have hlater := List.rel_of_pairwise_cons hpairs hmem
      have hfirstLine := hlines first hfirst
      have hlastMem := hsub.mem (List.mem_cons_of_mem _ hmem)
      have hlastLine := hlines last hlastMem
      exact ⟨first, hfirst, last, hlastMem, by simp [removing, linesRange, hlast], by omega⟩

theorem orderly_blankRun (limit : Nat) (source : Text) :
    Orderly source ((Line.blankRuns source.lines).filterMap (blankRunIn limit)) where
  admits x hx := by
    obtain ⟨run, hrun, hcheck⟩ := List.mem_filterMap.1 hx
    obtain ⟨first, -, last, hlast, hlocation, hle⟩ := ends_of_blankRunIn hrun hcheck
    have hnext := (Text.bounds_of_mem_lines (Line.mem_lines_of_mem_blankRuns hrun hlast)).2
    rw [hlocation]
    exact ⟨Int.natCast_nonneg _, Int.ofNat_le.2 hle, Int.ofNat_le.2 hnext⟩
  direct x hx := by
    obtain ⟨run, -, hcheck⟩ := List.mem_filterMap.1 hx
    obtain ⟨first, rest, -, rfl⟩ := exists_drop_of_blankRunIn hcheck
    exact direct_removing
  apart := by
    refine List.pairwise_filterMap.2 ((Line.pairwise_blankRuns source).2.imp_of_mem ?_)
    intro run run' hrun hrun' happart x hx y hy
    obtain ⟨_, -, last, hlast, hstop, -⟩ := ends_of_blankRunIn hrun hx
    obtain ⟨first, hfirst, _, -, hstart, -⟩ := ends_of_blankRunIn hrun' hy
    rw [hstop, hstart]
    exact Int.ofNat_le.2 (happart last hlast first hfirst)

/-! ## The other rules -/

theorem within_of_trailingSpaceIn {l : Line} (h : trailingSpaceIn l = some x) :
    x.Direct ∧ x.Within l.start l.stop := by
  have hkept := (Text.withoutTrailingSpace_isPrefix l.content).length_le
  simp only [trailingSpaceIn] at h
  split at h
  · simp at h
  · rw [← Option.some_inj.1 h]
    refine ⟨direct_removing, ?_⟩
    simp only [Within, removing, Line.stop]
    omega

theorem within_of_tabIndentIn {l : Line} (h : tabIndentIn l = some x) :
    x.Direct ∧ x.Within l.start l.stop := by
  have hindent : (indentOf l.content).length ≤ l.content.length :=
    (List.takeWhile_prefix _).length_le
  simp only [tabIndentIn] at h
  split at h
  · rw [← Option.some_inj.1 h]
    refine ⟨direct_replacing, ?_⟩
    simp only [Within, replacing, Line.stop]
    omega
  · simp at h

theorem within_of_longLineIn {l : Line} (h : longLineIn limit l = some x) :
    x.Direct ∧ x.Within l.start l.stop := by
  rw [longLineIn] at h
  split at h
  · rename_i hlong
    rw [← Option.some_inj.1 h]
    refine ⟨direct_of_fix_eq_none rfl, ?_⟩
    simp only [Within, Line.stop]
    omega
  · simp at h

/-- The line feed is asked for at the end of the range of the whole text, and put there. -/
theorem orderly_missingNewlineIn (source : Text) :
    Orderly source (missingNewlineIn source).toList := by
  rw [missingNewlineIn]
  split
  · exact ⟨by simp, by simp, .nil⟩
  · rw [Option.toList_some]
    refine ⟨?_, ?_, List.pairwise_singleton ..⟩
    · rw [List.forall_mem_singleton]
      exact ⟨Int.natCast_nonneg _, Int.le_refl _, Int.le_refl _⟩
    · rw [List.forall_mem_singleton]
      intro producer hfix f hadmits
      have hwhole : f.Admits ⟨0, source.length⟩ :=
        ⟨Int.le_refl 0, Int.natCast_nonneg _, hadmits.2.2⟩
      refine ⟨['\n'], ?_⟩
      rw [← Option.some_inj.1 hfix, FixProducer.ofFactory, EditFactory.insertAfter,
        EditFactory.map_checked hwhole]

/-- The findings of every rule of the catalogue lie within the text, one behind the other, and
their repairs edit just what they report. -/
theorem exists_orderly_findings (hrule : rule ∈ catalogue) (limits : Limits) (source : Text) :
    ∃ findings, rule.check limits source = .ok findings ∧ Orderly source findings := by
  revert rule
  rw [forall_mem_catalogue_iff]
  exact ⟨⟨_, rfl, orderly_filterMap_lines fun _ _ => within_of_trailingSpaceIn⟩,
    ⟨_, rfl, orderly_filterMap_lines fun _ _ => within_of_tabIndentIn⟩,
    ⟨_, rfl, orderly_blankRun limits.blankLines source⟩,
    ⟨_, rfl, orderly_missingNewlineIn source⟩,
    ⟨_, rfl, orderly_filterMap_lines fun _ _ => within_of_longLineIn⟩⟩

end Rule

end SolidityLint
