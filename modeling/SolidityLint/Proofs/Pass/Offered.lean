import SolidityLint.Linter
import SolidityLint.Proofs.Pass.Scan
import SolidityLint.Proofs.Rule.BlankRun

/-!
# The edits that the rules offer

Each rule that can repair what it finds walks over the lines of a text (`Repairs.walk`) and offers
its edits in the order of the text.

* `walk_runFixes`: the rule against blank lines gathers them in runs first, but a count of the
  lines that lie behind in a run finds the same surplus.
* `offers_catalogue`: the edits that the rules of the catalogue offer, rule by rule.  Every
  diagnostic that is called fixable offers one, and the edit starts where the diagnostic does.
* `carries_of_ofSettings`: so do the rules of a linter (`Linter.Carries`), which is all that the
  following needs to know of it.
-/

namespace SolidityLint

/-! ## The edit of a finding -/

/-- An edit is made of a range that the factory lets pass. -/
theorem EditFactory.map_checked {f : EditFactory} {range : Range} (h : f.Admits range)
    (g : Range → Edit) : (f.checked range).map g = .ok (g range) := by
  rw [checked_eq_ok_iff.2 ⟨h, rfl⟩]
  rfl

theorem EditFactory.eq_of_map_checked {f : EditFactory} {range : Range} {g : Range → Edit}
    {e : Edit} (h : (f.checked range).map g = .ok e) : e = g range := by
  cases hrange : f.checked range with
  | error refusal => simp [hrange, Except.map] at h
  | ok checked =>
      rw [hrange] at h
      rw [(checked_eq_ok_iff.1 hrange).2]
      exact (Except.ok.inj h).symm

/-- The edit that a diagnostic offers, if it lies within the text, with the rule it belongs to. -/
def Diagnostic.fixFor (d : Diagnostic) (f : EditFactory) : Option Fix :=
  (d.edit? f).map (Fix.mk d.rule)

namespace Finding

/-- The edit that a finding of a rule offers, if it lies within the text. -/
def fixFor (x : Finding) (rule : Text) (f : EditFactory) : Option Fix :=
  (Diagnostic.mk rule .error x.message x.location x.fix).fixFor f

/-- An edit that a finding offers starts where the finding does. -/
def Anchored (x : Finding) : Prop :=
  ∀ rule f y, x.fixFor rule f = some y → y.start = x.location.start

variable {x : Finding} {e : Edit} {y : Fix} {rule message text : Text} {location : Range}
  {f : EditFactory}

theorem fixFor_of_ok (operation : EditFactory → Except OutOfRange Edit)
    (hfix : x.fix = some (.ofFactory operation)) (hok : operation f = .ok e)
    (h : f.Admits e.range) : x.fixFor rule f = some ⟨rule, e⟩ := by
  simp [fixFor, Diagnostic.fixFor, Diagnostic.edit?, Diagnostic.offer?, hfix,
    FixProducer.ofFactory, hok, Option.filter, h]

theorem ok_of_fixFor (operation : EditFactory → Except OutOfRange Edit)
    (hfix : x.fix = some (.ofFactory operation))
    (h : x.fixFor rule f = some y) : operation f = .ok y.edit := by
  obtain ⟨e, he, rfl⟩ := Option.map_eq_some_iff.1 h
  have hoffer := (Option.filter_eq_some_iff.1 he).1
  cases hop : operation f with
  | ok d =>
      simp only [Diagnostic.offer?, hfix, FixProducer.ofFactory, hop, bind, Option.bind_some,
        Option.some_inj] at hoffer
      rw [hoffer]
  | error refusal =>
      simp [Diagnostic.offer?, hfix, FixProducer.ofFactory, hop] at hoffer

theorem fixFor_replacing (h : f.Admits location) :
    (replacing message location text).fixFor rule f = some ⟨rule, ⟨location, text⟩⟩ :=
  fixFor_of_ok (fun f => f.replace location text) rfl (EditFactory.map_checked h _) h

theorem fixFor_removing (h : f.Admits location) :
    (removing message location).fixFor rule f = some ⟨rule, ⟨location, []⟩⟩ :=
  fixFor_replacing h

theorem anchored_replacing : (replacing message location text).Anchored := by
  intro rule f y hy
  have hop := ok_of_fixFor (fun f => f.replace location text) rfl hy
  rw [Fix.start, EditFactory.eq_of_map_checked hop]
  rfl

theorem anchored_removing : (removing message location).Anchored :=
  anchored_replacing

theorem fixFor_of_fix_eq_none (h : x.fix = none) : x.fixFor rule f = none := by
  simp [fixFor, Diagnostic.fixFor, Diagnostic.edit?, Diagnostic.offer?, h]

end Finding

theorem ActiveRule.fixFor_diagnose (a : ActiveRule) (x : Finding) (f : EditFactory) :
    (a.diagnose x).fixFor f = x.fixFor a.rule.id f :=
  rfl

/-! ## Walking over lines -/

namespace Repairs

/-- Gathers what `g` finds in the lines of a text from offset `o` on, where the run of the first
line starts `before` lines earlier. -/
def walk (g : Nat → Nat → Text → List Text → List Fix) (o before : Nat) : List Text → List Fix
  | [] => []
  | p :: ps => g o before p ps ++ walk g (o + p.length) (advance before p) ps

variable {r : Repairs} {g : Nat → Nat → Text → List Text → List Fix} {o before n : Nat}
  {ps : List Text} {f : EditFactory}

theorem walk_eq_nil (h : ∀ o before p ps, g o before p ps = []) : walk g o before ps = [] := by
  induction ps generalizing o before with
  | nil => rfl
  | cons p ps ih => rw [walk, h, ih, List.append_nil]

/-- A rule that looks at one line at a time offers the edits of the lines. -/
theorem map_fixFor_filterMap_placeLines {check : Line → Option Finding} {rule : Text}
    (h : ∀ n o before p ps, ((o + p.length : Nat) : Int) ≤ f.length →
      ((check ⟨n, o, Text.withoutEnd p, o + p.length⟩).map (·.fixFor rule f)).toList =
        (g o before p ps).map some)
    (hlen : ((o + ps.flatten.length : Nat) : Int) ≤ f.length) :
    ((Text.placeLines n o ps).filterMap check).map (·.fixFor rule f) =
      (walk g o before ps).map some := by
  induction ps generalizing n o before with
  | nil => rfl
  | cons p ps ih =>
      rw [List.flatten_cons, List.length_append] at hlen
      have hhead := h n o before p ps (by omega)
      have hrest : ((o + p.length + ps.flatten.length : Nat) : Int) ≤ f.length := by omega
      rw [Text.placeLines, walk, List.map_append, ← hhead, ← ih (n := n + 1) hrest]
      cases hcheck : check ⟨n, o, Text.withoutEnd p, o + p.length⟩ with
      | none => simp [hcheck]
      | some x => simp [hcheck]

theorem map_fixFor_trailingSpace (hon : r.trailingSpace = true)
    (hlen : ((o + ps.flatten.length : Nat) : Int) ≤ f.length) :
    ((Text.placeLines n o ps).filterMap Rule.trailingSpaceIn).map
        (·.fixFor Rule.trailingSpace.id f) =
      (walk (fun o _ p _ => r.trailingFixes o p) o before ps).map some := by
  refine map_fixFor_filterMap_placeLines (fun n o before p ps hle => ?_) hlen
  have hcontent := Text.length_withoutEnd_le p
  have hkept := length_withoutTrailingSpace_le (Text.withoutEnd p)
  simp only [Rule.trailingSpaceIn, trailingFixes, Line.stop, hon, true_and]
  split
  · rename_i heq
    rw [if_neg (not_not_intro heq)]
    rfl
  · rw [Option.map_some, Finding.fixFor_removing]
    · rfl
    · refine ⟨?_, ?_, ?_⟩ <;> simp only <;> omega

theorem map_fixFor_tabIndent (hon : r.tabIndent = true)
    (hlen : ((o + ps.flatten.length : Nat) : Int) ≤ f.length) :
    ((Text.placeLines n o ps).filterMap Rule.tabIndentIn).map (·.fixFor Rule.tabIndent.id f) =
      (walk (fun o _ p _ => r.tabFixes o p) o before ps).map some := by
  refine map_fixFor_filterMap_placeLines (fun n o before p ps hle => ?_) hlen
  have hcontent := Text.length_withoutEnd_le p
  have hindent : (Rule.indentOf (Text.withoutEnd p)).length ≤ (Text.withoutEnd p).length :=
    (List.takeWhile_prefix _).length_le
  simp only [Rule.tabIndentIn, tabFixes, hon, true_and]
  split
  · rw [Option.map_some, Finding.fixFor_replacing]
    · rfl
    · refine ⟨?_, ?_, ?_⟩ <;> simp only <;> omega
  · rfl

end Repairs

/-! ## Runs of blank lines -/

namespace Line

/-- The removal of the lines of a run beyond the limit. -/
def surplusFix (limit : Nat) (run : List Line) : List Fix :=
  match run.drop limit with
  | [] => []
  | first :: rest => [⟨Rule.blankRun.id, ⟨Rule.linesRange first rest, []⟩⟩]

theorem flatMap_surplusFix_blankRuns (limit : Nat) (ls : List Line) :
    (blankRuns ls).flatMap (surplusFix limit) = surplusFix limit (ls.takeWhile isBlank) ++
      (blankRuns (ls.dropWhile isBlank)).flatMap (surplusFix limit) := by
  conv_lhs => rw [blankRuns_eq]
  rw [List.flatMap_append]
  split
  · rename_i h
    simp [h, surplusFix]
  · simp

theorem map_fixFor_filterMap_blankRunIn {f : EditFactory} {limit : Nat} {runs : List (List Line)}
    (h : ∀ x ∈ runs.flatMap (surplusFix limit), f.Admits x.edit.range) :
    (runs.filterMap (Rule.blankRunIn limit)).map (·.fixFor Rule.blankRun.id f) =
      (runs.flatMap (surplusFix limit)).map some := by
  induction runs with
  | nil => rfl
  | cons run runs ih =>
      simp only [List.flatMap_cons, List.mem_append] at h
      have hrest := ih fun x hx => h x (.inr hx)
      rw [List.flatMap_cons, List.map_append, ← hrest]
      cases hdrop : run.drop limit with
      | nil => simp [Rule.blankRunIn, surplusFix, hdrop]
      | cons first rest =>
          have hadmits : f.Admits (Rule.linesRange first rest) :=
            h ⟨Rule.blankRun.id, ⟨Rule.linesRange first rest, []⟩⟩
              (.inl (by simp [surplusFix, hdrop]))
          simp [Rule.blankRunIn, surplusFix, hdrop, Finding.fixFor_removing hadmits]

end Line

namespace Repairs

variable {r : Repairs} {o before n : Nat} {ps : List Text} {f : EditFactory} {x : Fix}

theorem isBlank_placed (n o next : Nat) (p : Text) :
    Line.isBlank ⟨n, o, Text.withoutEnd p, next⟩ = p.isBlankPiece := by
  rw [Line.isBlank, Text.isBlankPiece, Text.all_isBlank, Text.all_isBlank, strip_withoutEnd]

/-- Where the run ends that a line belongs to. -/
theorem next_getLast?_takeWhile (n : Nat) (ps : List Text) {l : Line} (h : l.next = o) :
    ((((Text.placeLines n o ps).takeWhile Line.isBlank).getLast?).getD l).next =
      o + runLength ps := by
  induction ps generalizing n o l with
  | nil => simp [Text.placeLines, runLength, h]
  | cons p ps ih =>
      rw [Text.placeLines, List.takeWhile_cons, isBlank_placed, runLength_cons]
      split
      · have hrest := ih (n := n + 1) (o := o + p.length)
          (l := ⟨n, o, Text.withoutEnd p, o + p.length⟩) rfl
        rw [List.getLast?_cons, Option.getD_some, hrest, Nat.add_assoc]
      · simpa using h

/-- The edits found by counting are those of the runs: first what is left of the run that
starts `before` lines earlier, then the other runs. -/
theorem walk_runFixes (hon : r.blankRun = true) (n o before : Nat) (ps : List Text) :
    let ls := Text.placeLines n o ps
    walk r.runFixes o before ps =
      (if before ≤ r.blankLines then
        Line.surplusFix (r.blankLines - before) (ls.takeWhile Line.isBlank) else []) ++
      (Line.blankRuns (ls.dropWhile Line.isBlank)).flatMap (Line.surplusFix r.blankLines) := by
  induction ps generalizing n o before with
  | nil => simp [walk, Text.placeLines, Line.surplusFix, Line.blankRuns]
  | cons p ps ih =>
      have hrest := ih (n + 1) (o + p.length) (advance before p)
      simp only [walk, Text.placeLines, List.takeWhile_cons, List.dropWhile_cons, isBlank_placed]
        at hrest ⊢
      generalize hls : Text.placeLines (n + 1) (o + p.length) ps = ls at hrest ⊢
      cases hblank : p.isBlankPiece with
      | false =>
          have hnone : r.runFixes o before p ps = [] := by simp [runFixes, hblank]
          have hzero : advance before p = 0 := by simp [advance, hblank]
          rw [hnone, List.nil_append, hrest, hzero, if_pos (Nat.zero_le _), Nat.sub_zero,
            ← Line.flatMap_surplusFix_blankRuns]
          simp [Line.surplusFix, Line.blankRuns, isBlank_placed, hblank]
      | true =>
          have hnext : advance before p = before + 1 := by simp [advance, hblank]
          simp only [if_true]
          rw [hrest, hnext, ← List.append_assoc]
          congr 1
          rcases Nat.lt_trichotomy before r.blankLines with hlt | heq | hgt
          · -- the surplus starts further on
            have hsucc : r.blankLines - before = (r.blankLines - (before + 1)) + 1 := by omega
            have hnone : r.runFixes o before p ps = [] := by
              simp [runFixes, Nat.ne_of_lt hlt]
            rw [hnone, List.nil_append, if_pos (by omega), if_pos (by omega), hsucc]
            simp [Line.surplusFix]
          · -- the surplus starts here
            have hend := next_getLast?_takeWhile (n + 1) ps
              (l := ⟨n, o, Text.withoutEnd p, o + p.length⟩) (o := o + p.length) rfl
            rw [hls] at hend
            rw [runFixes, if_pos ⟨hon, hblank, heq⟩, if_neg (by omega), if_pos (by omega), heq,
              Nat.sub_self]
            simp [Line.surplusFix, Rule.linesRange, hend]
          · -- the surplus started before
            have hnone : r.runFixes o before p ps = [] := by
              simp [runFixes, Nat.ne_of_gt hgt]
            rw [hnone, if_neg (by omega), if_neg (by omega)]
            rfl

theorem runLength_le (ps : List Text) : runLength ps ≤ ps.flatten.length := by
  rw [runLength]
  conv_rhs => rw [← List.takeWhile_append_dropWhile (p := Text.isBlankPiece) (l := ps)]
  rw [List.flatten_append, List.length_append]
  exact Nat.le_add_right ..

theorem bounds_of_mem_walk_runFixes (h : x ∈ walk r.runFixes o before ps) :
    o ≤ x.start ∧ x.start ≤ x.stop ∧ x.stop ≤ ((o + ps.flatten.length : Nat) : Int) := by
  induction ps generalizing o before with
  | nil => simp [walk] at h
  | cons p ps ih =>
      rw [List.flatten_cons, List.length_append]
      rcases List.mem_append.1 h with h | h
      · have hle := runLength_le ps
        rw [runFixes] at h
        split at h
        · rw [List.mem_singleton.1 h]
          simp only [Fix.start, Fix.stop]
          omega
        · simp at h
      · have := ih h
        omega

theorem map_fixFor_blankRun (hon : r.blankRun = true)
    (hlen : ((o + ps.flatten.length : Nat) : Int) ≤ f.length) :
    ((Line.blankRuns (Text.placeLines n o ps)).filterMap (Rule.blankRunIn r.blankLines)).map
        (·.fixFor Rule.blankRun.id f) =
      (walk r.runFixes o 0 ps).map some := by
  have hwalk : walk r.runFixes o 0 ps =
      (Line.blankRuns (Text.placeLines n o ps)).flatMap (Line.surplusFix r.blankLines) := by
    rw [walk_runFixes hon n o 0 ps, if_pos (Nat.zero_le _), Nat.sub_zero,
      ← Line.flatMap_surplusFix_blankRuns]
  rw [hwalk]
  refine Line.map_fixFor_filterMap_blankRunIn fun x hx => ?_
  rw [← hwalk] at hx
  obtain ⟨hstart, hstop, hle⟩ := bounds_of_mem_walk_runFixes hx
  exact ⟨by simp only [Fix.start] at hstart; omega, hstop, Int.le_trans hle hlen⟩

end Repairs

/-! ## The catalogue -/

theorem filterMap_of_map_eq {α β : Type} {g : α → Option β} {l : List α} {xs : List β}
    (h : l.map g = xs.map some) : l.filterMap g = xs := by
  have hid : (l.map g).filterMap id = xs := by
    rw [h, List.filterMap_map]
    exact List.filterMap_some
  rw [← hid, List.filterMap_map]
  rfl

/-- Diagnostics that offer given edits: each of them offers one if it calls itself fixable, and
the edit starts where the diagnostic does. -/
structure Offers (f : EditFactory) (ds : List Diagnostic) (xs : List Fix) : Prop where
  fixes : ds.filterMap (·.fixFor f) = xs
  fixable : ∀ d ∈ ds, d.isFixable = (d.fixFor f).isSome
  start : ∀ d ∈ ds, ∀ x, d.fixFor f = some x → x.start = d.location.start

namespace Offers

variable {f : EditFactory} {ds es : List Diagnostic} {xs ys : List Fix}

theorem nil : Offers f [] [] :=
  ⟨rfl, by simp, by simp⟩

theorem append (h : Offers f ds xs) (h' : Offers f es ys) : Offers f (ds ++ es) (xs ++ ys) where
  fixes := by rw [List.filterMap_append, h.fixes, h'.fixes]
  fixable d hd := (List.mem_append.1 hd).elim (h.fixable d) (h'.fixable d)
  start d hd := (List.mem_append.1 hd).elim (h.start d) (h'.start d)

theorem fixFor_eq_none {d : Diagnostic} (h : d.isFixable = false) : d.fixFor f = none := by
  have hnone : d.fix = none := by simpa [Diagnostic.isFixable] using h
  simp [Diagnostic.fixFor, Diagnostic.edit?, Diagnostic.offer?, hnone]

/-- Only the diagnostics that call themselves fixable matter. -/
theorem of_filter_eq (h : Offers f ds xs)
    (heq : es.filter (·.isFixable) = ds.filter (·.isFixable)) : Offers f es xs := by
  have hmem : ∀ d ∈ es, d.isFixable = true → d ∈ ds := fun d hd hfixable =>
    List.mem_of_mem_filter (heq ▸ List.mem_filter.2 ⟨hd, hfixable⟩)
  have hfixes : ∀ l : List Diagnostic,
      (l.filter (·.isFixable)).filterMap (·.fixFor f) = l.filterMap (·.fixFor f) := by
    intro l
    induction l with
    | nil => rfl
    | cons d l ih =>
        cases hfixable : d.isFixable with
        | true => simp [hfixable, List.filterMap_cons, ih]
        | false => simp [hfixable, ih, fixFor_eq_none hfixable]
  refine ⟨by rw [← hfixes, heq, hfixes, h.fixes], fun d hd => ?_, fun d hd x hx => ?_⟩
  · cases hfixable : d.isFixable with
    | true => rw [← hfixable, h.fixable d (hmem d hd hfixable)]
    | false => rw [fixFor_eq_none hfixable, Option.isSome_none]
  · cases hfixable : d.isFixable with
    | true => exact h.start d (hmem d hd hfixable) x hx
    | false =>
        rw [fixFor_eq_none hfixable] at hx
        exact absurd hx (Option.some_ne_none x).symm

/-- As many diagnostics are fixable as edits are offered. -/
theorem countP_isFixable (h : Offers f ds xs) : ds.countP (·.isFixable) = xs.length := by
  rw [← h.fixes, List.length_filterMap_eq_countP]
  exact List.countP_congr fun d hd => by rw [h.fixable d hd]

end Offers

namespace Rule

/-- The diagnostics of one rule under given settings. -/
def diagnosticsIn (rule : Rule) (s : Settings) (source : Text) : List Diagnostic :=
  (rule.activate? s).toList.flatMap fun a => a.run s.limits source

variable {rule : Rule} {s : Settings} {source : Text} {findings : List Finding} {xs : List Fix}
  {f : EditFactory}

/-- A rule that is off finds nothing, and one that is on offers what its findings do. -/
theorem diagnosticsIn_cases (hcheck : rule.check s.limits source = .ok findings) :
    (rule.isOn s = false ∧ rule.diagnosticsIn s source = []) ∨
      ∃ severity, rule.isOn s = true ∧
        rule.diagnosticsIn s source = findings.map (ActiveRule.mk rule severity).diagnose := by
  cases hlevel : (rule.levelIn s).severity? with
  | none => exact .inl ⟨by simp [isOn, hlevel], by simp [diagnosticsIn, activate?, hlevel]⟩
  | some severity =>
      refine .inr ⟨severity, by simp [isOn, hlevel], ?_⟩
      simp [diagnosticsIn, activate?, hlevel, ActiveRule.run, hcheck]

theorem offers_diagnosticsIn (hcheck : rule.check s.limits source = .ok findings)
    (hanchored : ∀ x ∈ findings, x.Anchored)
    (hon : rule.isOn s = true → findings.map (·.fixFor rule.id f) = xs.map some)
    (hoff : rule.isOn s = false → xs = []) : Offers f (rule.diagnosticsIn s source) xs := by
  rcases diagnosticsIn_cases hcheck with ⟨hstate, hnone⟩ | ⟨severity, hstate, heq⟩
  · rw [hnone, hoff hstate]
    exact .nil
  · have hmap := hon hstate
    rw [heq]
    refine ⟨?_, fun d hd => ?_, fun d hd x hx => ?_⟩
    · rw [List.filterMap_map]
      exact filterMap_of_map_eq hmap
    · obtain ⟨x, hx, rfl⟩ := List.mem_map.1 hd
      have hmem := List.mem_map_of_mem (f := (·.fixFor rule.id f)) hx
      rw [hmap] at hmem
      obtain ⟨y, -, hy⟩ := List.mem_map.1 hmem
      rw [ActiveRule.fixFor_diagnose, ← hy]
      by_contra hne
      have hfix : x.fix = none := by simpa [Diagnostic.isFixable, ActiveRule.diagnose] using hne
      rw [Finding.fixFor_of_fix_eq_none hfix] at hy
      exact Option.some_ne_none y hy
    · obtain ⟨y, hy, rfl⟩ := List.mem_map.1 hd
      exact hanchored y hy _ _ _ hx

end Rule

namespace Repairs

variable {r : Repairs} {o before : Nat} {ps : List Text}

theorem walk_closingFixes (h : Text.IsCut ps) :
    walk (fun o _ p _ => r.closingFixes o p) o before ps =
      if r.finalNewline = true ∧ ps ≠ [] ∧ ps.flatten.getLast? ≠ some '\n' then
        [⟨Rule.finalNewline.id, ⟨⟨((o + ps.flatten.length : Nat) : Int),
          ((o + ps.flatten.length : Nat) : Int)⟩, ['\n']⟩⟩]
      else [] := by
  induction h generalizing o before with
  | nil => simp [walk]
  | last hne _ => simp [walk, closingFixes]
  | @line body ps _ hrest ih =>
      rw [walk, closingFixes_append_feed, List.nil_append, ih, List.flatten_cons]
      cases ps with
      | nil => simp
      | cons p ps =>
          have hne : (p :: ps).flatten ≠ [] := by
            simp [hrest.ne_nil (List.mem_cons_self ..)]
          have hlast : ((body ++ ['\n']) ++ (p :: ps).flatten).getLast? =
              (p :: ps).flatten.getLast? := List.getLast?_append_of_ne_nil _ hne
          have hlen : o + (body ++ ['\n']).length + (p :: ps).flatten.length =
              o + ((body ++ ['\n']) ++ (p :: ps).flatten).length := by
            simp only [List.length_append]
            omega
          rw [hlast, hlen]
          simp only [ne_eq, reduceCtorEq, not_false_eq_true, true_and]

variable (r) in
/-- The edits that the rules offer for a text, rule by rule. -/
def offered (source : Text) : List Fix :=
  walk (fun o _ p _ => r.trailingFixes o p) 0 0 source.pieces ++
    (walk (fun o _ p _ => r.tabFixes o p) 0 0 source.pieces ++
      (walk r.runFixes 0 0 source.pieces ++
        walk (fun o _ p _ => r.closingFixes o p) 0 0 (Text.cutLines source)))

variable (s : Settings) (source : Text)

theorem offers_trailingSpace : Offers (.ofText source) (Rule.trailingSpace.diagnosticsIn s source)
    (walk (fun o _ p _ => s.repairs.trailingFixes o p) 0 0 source.pieces) := by
  refine Rule.offers_diagnosticsIn rfl (fun x hx => ?_) (fun hon => ?_) fun hoff => ?_
  · obtain ⟨l, -, hl⟩ := List.mem_filterMap.1 hx
    simp only [Rule.trailingSpaceIn] at hl
    split at hl
    · simp at hl
    · rw [← Option.some_inj.1 hl]
      exact Finding.anchored_removing
  · rw [Text.lines_eq_placeLines]
    exact map_fixFor_trailingSpace hon (by simp [Text.flatten_pieces, EditFactory.ofText])
  · exact walk_eq_nil fun _ _ _ _ => if_neg fun hon => by
      rw [Settings.repairs, hoff] at hon
      exact Bool.noConfusion hon.1

theorem offers_tabIndent : Offers (.ofText source) (Rule.tabIndent.diagnosticsIn s source)
    (walk (fun o _ p _ => s.repairs.tabFixes o p) 0 0 source.pieces) := by
  refine Rule.offers_diagnosticsIn rfl (fun x hx => ?_) (fun hon => ?_) fun hoff => ?_
  · obtain ⟨l, -, hl⟩ := List.mem_filterMap.1 hx
    simp only [Rule.tabIndentIn] at hl
    split at hl
    · rw [← Option.some_inj.1 hl]
      exact Finding.anchored_replacing
    · simp at hl
  · rw [Text.lines_eq_placeLines]
    exact map_fixFor_tabIndent hon (by simp [Text.flatten_pieces, EditFactory.ofText])
  · exact walk_eq_nil fun _ _ _ _ => if_neg fun hon => by
      rw [Settings.repairs, hoff] at hon
      exact Bool.noConfusion hon.1

theorem offers_blankRun : Offers (.ofText source) (Rule.blankRun.diagnosticsIn s source)
    (walk s.repairs.runFixes 0 0 source.pieces) := by
  refine Rule.offers_diagnosticsIn rfl (fun x hx => ?_) (fun hon => ?_) fun hoff => ?_
  · obtain ⟨run, -, hrun⟩ := List.mem_filterMap.1 hx
    obtain ⟨first, rest, -, rfl⟩ := Rule.exists_drop_of_blankRunIn hrun
    exact Finding.anchored_removing
  · rw [Text.lines_eq_placeLines]
    exact map_fixFor_blankRun (r := s.repairs) hon
      (by simp [Text.flatten_pieces, EditFactory.ofText])
  · exact walk_eq_nil fun _ _ _ _ => if_neg fun hon => by
      rw [Settings.repairs, hoff] at hon
      exact Bool.noConfusion hon.1

theorem offers_finalNewline : Offers (.ofText source) (Rule.finalNewline.diagnosticsIn s source)
    (walk (fun o _ p _ => s.repairs.closingFixes o p) 0 0 (Text.cutLines source)) := by
  have hcut := Text.isCut_cutLines source
  refine Rule.offers_diagnosticsIn rfl (fun x hx => ?_) (fun hon => ?_) fun hoff => ?_
  · rw [Option.mem_toList, Rule.missingNewlineIn] at hx
    split at hx
    · simp at hx
    · rw [← Option.some_inj.1 hx]
      intro rule f y hy
      have hop := Finding.ok_of_fixFor
        (fun f => f.insertAfter ⟨0, source.length⟩ ['\n']) rfl hy
      rw [Fix.start, EditFactory.eq_of_map_checked hop]
  · have hne : Text.cutLines source ≠ [] ↔ source ≠ [] := not_congr Text.cutLines_eq_nil_iff
    have hon' : s.repairs.finalNewline = true := hon
    rw [walk_closingFixes hcut, Text.flatten_cutLines, Rule.missingNewlineIn]
    split
    · rename_i h
      rw [if_neg fun hcond => h.elim (hne.1 hcond.2.1) hcond.2.2]
      rfl
    · rename_i h
      rw [not_or] at h
      have hadmits : (EditFactory.ofText source).Admits ⟨source.length, source.length⟩ := by
        refine ⟨?_, ?_, ?_⟩ <;> simp [EditFactory.ofText]
      rw [if_pos ⟨hon', hne.2 h.1, h.2⟩, Option.toList_some, List.map_singleton,
        Finding.fixFor_of_ok (fun f => f.insertAfter ⟨0, source.length⟩ ['\n'])
          (e := ⟨⟨source.length, source.length⟩, ['\n']⟩) rfl _ hadmits]
      · simp
      · have hwhole : (EditFactory.ofText source).Admits ⟨0, source.length⟩ :=
          ⟨Int.le_refl 0, Int.natCast_nonneg _, Int.le_refl _⟩
        exact EditFactory.map_checked hwhole _
  · rw [walk_closingFixes hcut, if_neg fun hon => by
      rw [Settings.repairs, hoff] at hon
      exact Bool.noConfusion hon.1]

theorem offers_lineLength :
    Offers (.ofText source) (Rule.lineLength.diagnosticsIn s source) [] := by
  refine Offers.nil.of_filter_eq (List.filter_eq_nil_iff.2 fun d hd => ?_)
  have hcheck : Rule.lineLength.check s.limits source = .ok _ := rfl
  rcases Rule.diagnosticsIn_cases hcheck with ⟨-, hnil⟩ | ⟨severity, -, heq⟩
  · simp [hnil] at hd
  · rw [heq] at hd
    obtain ⟨x, hx, rfl⟩ := List.mem_map.1 hd
    obtain ⟨l, -, hl⟩ := List.mem_filterMap.1 hx
    rw [Rule.longLineIn] at hl
    split at hl
    · rw [← Option.some_inj.1 hl]
      exact Bool.false_ne_true
    · simp at hl

/-- The edits that the rules of the catalogue offer. -/
theorem offers_catalogue : Offers (.ofText source)
    (Rule.catalogue.flatMap (·.diagnosticsIn s source)) (s.repairs.offered source) := by
  have hall := (offers_trailingSpace s source).append ((offers_tabIndent s source).append
    ((offers_blankRun s source).append ((offers_finalNewline s source).append
      (offers_lineLength s source))))
  rw [List.append_nil] at hall
  rw [offered]
  simpa [Rule.catalogue, Rule.fixableRules] using hall

end Repairs

namespace Linter

variable {s : Settings} {l : Linter}

theorem eq_of_ofSettings_eq_ok {catalogue : List Rule} (h : ofSettings catalogue s = .ok l) :
    l = ⟨s.limits, catalogue.filterMap (·.activate? s)⟩ := by
  rw [ofSettings] at h
  split at h
  · exact (Except.ok.inj h).symm
  · simp at h

theorem flatMap_run_active {catalogue : List Rule} (h : ofSettings catalogue s = .ok l)
    (source : Text) : (l.active.flatMap fun a => a.run l.limits source) =
      catalogue.flatMap (·.diagnosticsIn s source) := by
  rw [eq_of_ofSettings_eq_ok h]
  clear h
  induction catalogue with
  | nil => rfl
  | cons rule catalogue ih =>
      rw [List.flatMap_cons, ← ih, Rule.diagnosticsIn]
      simp only [List.filterMap_cons]
      cases rule.activate? s with
      | none => rfl
      | some a => simp

/-- Do the rules of a linter offer the edits of given repairs? -/
def Carries (l : Linter) (r : Repairs) : Prop :=
  ∀ source, Offers (.ofText source) (l.active.flatMap fun a => a.run l.limits source)
    (r.offered source)

/-- The rules of the catalogue offer the edits of the repairs that run. -/
theorem carries_of_ofSettings (h : ofSettings Rule.catalogue s = .ok l) : l.Carries s.repairs := by
  intro source
  rw [flatMap_run_active h]
  exact Repairs.offers_catalogue s source

end Linter

end SolidityLint
