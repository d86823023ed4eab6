import Mathlib.Data.List.DropRight
import SolidityLint.Proofs.Pass.Exposed
import SolidityLint.Proofs.Pass.NormalForm

/-!
# What becomes of each line

A pass removes a line or leaves something of it, and which of the two depends on the edits that are
applied (`Repairs.fatesFrom`).  The edits that a pass leaves say in turn how far it got:

* `forall_mem_rewriteFrom_iff`: the contents of the new lines are those of the tidied survivors.
* `not_hidesReturn_of_dropped`: if no removal of white space is left, then no line that is removed
  had any to remove.
* `keepFrom_rewrite_iff`: if no removal of blank lines is left, then none are too many after
  the pass, unless the text ended in a surplus without a line feed (`Text.EndsInOpenRun`): the
  line feed that is put at the end takes the place of the surplus and is a blank line again.
-/

namespace SolidityLint

namespace Text

/-- The text ends in more than `limit` blank lines, and the last one has no line feed. -/
def EndsInOpenRun (limit : Nat) (source : Text) : Prop :=
  source.getLast? ≠ some '\n' ∧ limit < ((cutLines source).rtakeWhile isBlankPiece).length

instance (limit : Nat) (source : Text) : Decidable (source.EndsInOpenRun limit) :=
  inferInstanceAs (Decidable (_ ∧ _))

theorem IsCut.feed_notMem {ps : List Text} (h : IsCut ps) {p : Text} (hp : p ∈ ps) :
    '\n' ∉ dropLastIf '\n' p := by
  induction h with
  | nil => simp at hp
  | last _ hfeed =>
      rwa [List.mem_singleton.1 hp, dropLastIf_of_ne (getLast?_ne_of_notMem hfeed)]
  | line hfeed _ ih =>
      rcases List.mem_cons.1 hp with rfl | hp
      · rwa [dropLastIf_append_singleton]
      · exact ih hp

theorem withoutEnd_append {body ending : Text} (hfeed : '\n' ∉ body)
    (hending : ending = [] ∨ ending = ['\n']) :
    withoutEnd (body ++ ending) = dropLastIf '\r' body := by
  rcases hending with rfl | rfl
  · rw [List.append_nil, withoutEnd_of_notMem hfeed]
  · exact withoutEnd_append_feed body

end Text

namespace Repairs

variable (r : Repairs)

/-- The lines of a text, each with whether a pass removes it. -/
def fatesFrom (before : Nat) (dropping : Bool) : List Text → List (Text × Bool)
  | [] => []
  | p :: ps =>
      let dropped := r.drops before dropping p
      (p, dropped) :: fatesFrom (advance before p) dropped ps

/-- The lines that a pass does not remove. -/
def survivors (ps : List Text) : List Text :=
  ((r.fatesFrom 0 false ps).filter fun x => !x.2).map (·.1)

variable {r} {o before : Nat} {dropping dropped : Bool} {p : Text} {ps : List Text}

theorem mem_survivors_iff : p ∈ r.survivors ps ↔ (p, false) ∈ r.fatesFrom 0 false ps := by
  simp [survivors]

theorem map_fst_fatesFrom (r : Repairs) (before : Nat) (dropping : Bool) (ps : List Text) :
    (r.fatesFrom before dropping ps).map (·.1) = ps := by
  induction ps generalizing before dropping with
  | nil => rfl
  | cons p ps ih => rw [fatesFrom, List.map_cons, ih]

theorem mem_of_mem_fatesFrom (h : (p, dropped) ∈ r.fatesFrom before dropping ps) : p ∈ ps := by
  rw [← r.map_fst_fatesFrom before dropping ps]
  exact List.mem_map_of_mem h

/-- A line is removed or not. -/
theorem exists_fate (r : Repairs) (before : Nat) (dropping : Bool) (hp : p ∈ ps) :
    ∃ dropped, (p, dropped) ∈ r.fatesFrom before dropping ps := by
  rw [← r.map_fst_fatesFrom before dropping ps] at hp
  obtain ⟨⟨_, dropped⟩, hmem, rfl⟩ := List.mem_map.1 hp
  exact ⟨dropped, hmem⟩

/-! ## The contents of the new lines -/

theorem tidy_eq (piece : Text) :
    r.tidy piece = r.tidyBody (Text.dropLastIf '\n' piece) ++ Text.lastIf '\n' piece := by
  rw [tidy, tidyBody, Text.lineEnd_eq, List.append_assoc, Text.withoutEnd]

theorem withoutEnd_tidy (hfeed : '\n' ∉ Text.dropLastIf '\n' p) :
    Text.withoutEnd (r.tidy p) = Text.dropLastIf '\r' (r.tidyBody (Text.dropLastIf '\n' p)) := by
  rw [tidy_eq]
  exact Text.withoutEnd_append (feed_notMem_tidyBody hfeed) (Text.lastIf_eq_nil_or_singleton ..)

theorem closing_eq_nil_or_singleton (r : Repairs) (piece : Text) :
    r.closing piece = [] ∨ r.closing piece = ['\n'] := by
  rw [closing]
  split
  · exact .inr rfl
  · exact .inl rfl

/-- A line has at most one line feed at its end, also when one is put there. -/
theorem lastIf_append_closing (r : Repairs) (piece : Text) :
    Text.lastIf '\n' piece ++ r.closing piece = [] ∨
      Text.lastIf '\n' piece ++ r.closing piece = ['\n'] := by
  by_cases hlast : piece.getLast? = some '\n'
  · have hclosing : r.closing piece = [] := if_neg fun h => h.2 hlast
    rw [hclosing, List.append_nil]
    exact Text.lastIf_eq_nil_or_singleton ..
  · rw [Text.lastIf_of_ne hlast, List.nil_append]
    exact r.closing_eq_nil_or_singleton piece

/-- A line feed at the end of the text does not count as content. -/
theorem withoutEnd_left (r : Repairs) (dropped : Bool) (hfeed : '\n' ∉ Text.dropLastIf '\n' p) :
    Text.withoutEnd ((if dropped then [] else r.tidy p) ++ r.closing p) =
      if dropped then [] else Text.withoutEnd (r.tidy p) := by
  cases dropped with
  | true => exact Text.withoutEnd_append List.not_mem_nil (r.closing_eq_nil_or_singleton p)
  | false =>
      simp only [Bool.false_eq_true, if_false]
      rw [withoutEnd_tidy hfeed, tidy_eq, List.append_assoc]
      exact Text.withoutEnd_append (feed_notMem_tidyBody hfeed) (r.lastIf_append_closing p)

/-- What is left of a line has the content of the tidied line, unless the line is removed. -/
theorem forall_mem_remainder_iff {P : Text → Prop} (hnil : P [])
    (hfeed : '\n' ∉ Text.dropLastIf '\n' p) :
    (∀ q ∈ r.remainder dropped p, P (Text.withoutEnd q)) ↔
      (dropped = false → P (Text.withoutEnd (r.tidy p))) := by
  have hleft : (∀ q ∈ r.remainder dropped p, P (Text.withoutEnd q)) ↔
      P (if dropped then [] else Text.withoutEnd (r.tidy p)) := by
    rw [← r.withoutEnd_left dropped hfeed, remainder]
    generalize (if dropped then [] else r.tidy p) ++ r.closing p = left
    by_cases h : left = []
    · simpa [h, Text.withoutEnd, Text.dropLastIf] using hnil
    · simp [h]
  rw [hleft]
  cases dropped <;> simp [hnil]

/-- The contents of the new lines are those of the tidied survivors. -/
theorem forall_mem_rewriteFrom_iff {P : Text → Prop} (hnil : P [])
    (hfeed : ∀ p ∈ ps, '\n' ∉ Text.dropLastIf '\n' p) :
    (∀ q ∈ r.rewriteFrom before dropping ps, P (Text.withoutEnd q)) ↔
      ∀ p, (p, false) ∈ r.fatesFrom before dropping ps → P (Text.withoutEnd (r.tidy p)) := by
  induction ps generalizing before dropping with
  | nil => simp [rewriteFrom, fatesFrom]
  | cons p ps ih =>
      have hhead := @forall_mem_remainder_iff r (r.drops before dropping p) p P hnil
        (hfeed p (List.mem_cons_self ..))
      have htail := @ih (advance before p) (r.drops before dropping p)
        fun q hq => hfeed q (List.mem_cons_of_mem _ hq)
      simp only [rewriteFrom, fatesFrom, List.forall_mem_append, hhead, htail, List.mem_cons,
        Prod.mk.injEq]
      constructor
      · rintro ⟨hp, hps⟩ q (⟨rfl, hkept⟩ | hq)
        · exact hp hkept.symm
        · exact hps q hq
      · exact fun h => ⟨fun hkept => h p (.inl ⟨rfl, hkept.symm⟩), fun q hq => h q (.inr hq)⟩

/-! ## Removals of white space -/

theorem mem_leading_or_late {x : Fix} (h : x ∈ r.trailingFixes o p) :
    (isWhite p = true ∧ x ∈ r.ownLeading o p) ∨ x ∈ r.late o p := by
  by_cases hwhite : isWhite p = true
  · exact .inl ⟨hwhite, List.mem_append_left _ (by rwa [if_pos hwhite])⟩
  · exact .inr (by rwa [late, if_neg hwhite])

theorem mem_rejectedFrom_cons {x : Fix}
    (h : x ∈ r.rejectedFrom (o + p.length) (advance before p) (r.drops before dropping p) ps) :
    x ∈ r.rejectedFrom o before dropping (p :: ps) :=
  List.mem_append_right _ h

/-- If no removal of white space is left, then a line that is removed had none to remove. -/
theorem trailingFixes_of_drops (hdropped : r.drops before dropping p = true)
    (hleft : ∀ x ∈ r.rejectedFrom o before dropping (p :: ps), x.rule ≠ Rule.trailingSpace.id) :
    r.trailingFixes o p = [] := by
  rw [List.eq_nil_iff_forall_not_mem]
  intro x hx
  refine hleft x ?_ (rule_of_mem_trailingFixes hx)
  rw [rejectedFrom]
  refine List.mem_append_left _ ?_
  by_cases hin : (dropping && p.isBlankPiece) = true
  · rw [if_pos hin]
    rcases mem_leading_or_late hx with ⟨-, hx⟩ | hx
    · exact List.mem_append_left _ (List.mem_append_left _ hx)
    · exact List.mem_append_right _ hx
  · rw [if_neg hin, if_pos hdropped]
    refine List.mem_append_right _ ?_
    rcases mem_leading_or_late hx with ⟨-, hx⟩ | hx
    · -- an edit at the start of the line would have been in the way of the removal
      rw [((r.drops_of_outside before o (by simpa using hin)).1 hdropped).2] at hx
      simp at hx
    · exact hx

/-- A line from which no white space is to be removed hides nothing. -/
theorem not_hidesReturn_of_trailingFixes_eq_nil (hon : r.trailingSpace = true)
    (h : r.trailingFixes o p = []) : ¬p.HidesReturn := by
  by_cases hlast : (Text.dropLastIf '\n' p).getLast? = some '\r'
  · exact Text.not_hidesReturn_of_getLast?_eq hlast
  · have hcontent : Text.withoutEnd p = Text.dropLastIf '\n' p := Text.dropLastIf_of_ne hlast
    have hlen : (Rule.withoutTrailingSpace (Text.withoutEnd p)).length =
        (Text.withoutEnd p).length := by
      by_contra hlen
      simp [trailingFixes, hon, hlen] at h
    have hself := (Text.withoutTrailingSpace_isPrefix _).eq_of_length hlen
    rw [hcontent] at hself
    exact Text.not_hidesReturn_of_getLast?_ne (by rwa [hself])

/-- If no removal of white space is left, then no line that is removed hid a carriage return. -/
theorem not_hidesReturn_of_dropped (hon : r.trailingSpace = true)
    (hleft : ∀ x ∈ r.rejectedFrom o before dropping ps, x.rule ≠ Rule.trailingSpace.id)
    (hp : (p, true) ∈ r.fatesFrom before dropping ps) : ¬p.HidesReturn := by
  induction ps generalizing o before dropping with
  | nil => simp [fatesFrom] at hp
  | cons q ps ih =>
      rcases List.mem_cons.1 hp with heq | hp
      · obtain ⟨rfl, hdropped⟩ := Prod.mk.inj heq
        exact not_hidesReturn_of_trailingFixes_eq_nil hon
          (trailingFixes_of_drops hdropped.symm hleft)
      · exact ih (fun x hx => hleft x (mem_rejectedFrom_cons hx)) hp

/-- Where no removal of white space is left, the new lines have no white space at their ends
exactly if no line hid a carriage return. -/
theorem forall_withoutTrailingSpace_iff (h : Text.IsCut ps) (hon : r.trailingSpace = true)
    (hleft : ∀ x ∈ r.rejectedFrom o 0 false ps, x.rule ≠ Rule.trailingSpace.id) :
    (∀ q ∈ r.rewrite ps, Rule.withoutTrailingSpace (Text.withoutEnd q) = Text.withoutEnd q) ↔
      ∀ p ∈ ps, ¬p.HidesReturn := by
  have hline : ∀ p ∈ ps, (Rule.withoutTrailingSpace (Text.withoutEnd (r.tidy p)) =
      Text.withoutEnd (r.tidy p) ↔ ¬p.HidesReturn) := fun p hp => by
    rw [withoutEnd_tidy (h.feed_notMem hp)]
    exact withoutTrailingSpace_tidyBody_iff hon
  rw [rewrite, forall_mem_rewriteFrom_iff (P := fun c => Rule.withoutTrailingSpace c = c) rfl
    fun p hp => h.feed_notMem hp]
  constructor
  · intro hnew p hp
    obtain ⟨dropped, hfate⟩ := r.exists_fate 0 false hp
    cases dropped with
    | true => exact not_hidesReturn_of_dropped hon hleft hfate
    | false => exact (hline p hp).1 (hnew p hfate)
  · exact fun hold p hp =>
      (hline p (mem_of_mem_fatesFrom hp)).2 (hold p (mem_of_mem_fatesFrom hp))

/-- No tabs are left in the indentations. -/
theorem tab_notMem_indentOf_of_mem_rewrite (h : Text.IsCut ps) (hon : r.tabIndent = true) :
    ∀ q ∈ r.rewrite ps, '\t' ∉ Rule.indentOf (Text.withoutEnd q) := by
  rw [rewrite, forall_mem_rewriteFrom_iff (P := fun c => '\t' ∉ Rule.indentOf c) (by decide)
    fun p hp => h.feed_notMem hp]
  intro p hp
  rw [withoutEnd_tidy (h.feed_notMem (mem_of_mem_fatesFrom hp))]
  exact tab_notMem_indentOf_tidyBody hon _

/-! ## Removals of blank lines -/

variable (r) in
/-- Behind `before` blank lines the surplus is being removed exactly if it has started. -/
def Steady (before : Nat) (dropping : Bool) : Prop :=
  dropping = (r.blankRun && decide (r.blankLines < before))

theorem steady_zero : r.Steady 0 false := by simp [Steady]

theorem Steady.reached (h : r.Steady before dropping) : r.Reached before dropping := by
  intro hdropping
  rw [hdropping] at h
  simpa using h.symm

theorem steady_advance (before : Nat) (p : Text) :
    r.Steady (advance before p) (r.isSurplus before p) := by
  rw [Steady, isSurplus, advance]
  cases p.isBlankPiece with
  | false => simp
  | true => simp only [if_true, Bool.and_true, Nat.lt_succ_iff]

/-- If no removal of blank lines is left, then exactly the surplus is removed. -/
theorem drops_of_steady (h : r.Steady before dropping)
    (hleft : ∀ x ∈ r.rejectedFrom o before dropping (p :: ps), x.rule ≠ Rule.blankRun.id) :
    r.drops before dropping p = r.isSurplus before p := by
  cases hsurplus : r.isSurplus before p with
  | false =>
      by_contra hdrops
      rw [Bool.not_eq_false] at hdrops
      rw [(le_of_drops h.reached hdrops).2] at hsurplus
      exact Bool.noConfusion hsurplus
  | true =>
      simp only [isSurplus, Bool.and_eq_true, decide_eq_true_eq] at hsurplus
      obtain ⟨⟨hon, hblank⟩, hle⟩ := hsurplus
      rcases Nat.lt_or_eq_of_le hle with hlt | heq
      · have hdropping : dropping = true := by rw [h, hon, decide_eq_true hlt, Bool.and_self]
        exact h.reached.drops (by rw [hdropping, hblank, Bool.and_self])
      · -- the surplus starts here, and no edit at the start of the line is in its way
        have hout : (dropping && p.isBlankPiece) = false := by rw [h, heq]; simp
        refine (r.drops_of_outside before o hout).2 ⟨⟨hon, hblank, heq.symm⟩, ?_⟩
        by_contra hne
        obtain ⟨x, xs, hcons⟩ := List.exists_cons_of_ne_nil hne
        refine hleft ⟨Rule.blankRun.id,
          ⟨⟨(o : Int), ((o + p.length + runLength ps : Nat) : Int)⟩, []⟩⟩ ?_ rfl
        rw [rejectedFrom]
        refine List.mem_append_left _ ?_
        rw [if_neg (by simp [hout]), leading, hcons, runFixes, if_pos ⟨hon, hblank, heq.symm⟩]
        simp

variable (r) in
/-- The line feed that is put in the place of a surplus at the end of the text. -/
def reopening (before : Nat) : List Text → Text
  | [] => []
  | p :: ps =>
      (if r.isSurplus before p then r.closing p else []) ++ reopening (advance before p) ps

/-- If no removal of blank lines is left, then a pass leaves the tidied lines without the surplus,
and the line feed that is put in its place. -/
theorem flatten_rewriteFrom_of_steady (h : Text.IsCut ps) (hsteady : r.Steady before dropping)
    (hleft : ∀ x ∈ r.rejectedFrom o before dropping ps, x.rule ≠ Rule.blankRun.id) :
    (r.rewriteFrom before dropping ps).flatten =
      ((r.keepFrom before ps).map fun p => r.tidy p ++ r.closing p).flatten ++
        r.reopening before ps := by
  induction h generalizing o before dropping with
  | nil => rfl
  | @last tail _ _ =>
      rw [rewriteFrom, rewriteFrom, List.append_nil, flatten_remainder,
        drops_of_steady hsteady hleft, keepFrom, reopening]
      cases r.isSurplus before tail <;> simp [keepFrom, reopening]
  | @line body ps _ _ ih =>
      have hdrops := drops_of_steady hsteady hleft
      have hrest := ih (steady_advance before (body ++ ['\n'])) fun x hx =>
        hleft x (mem_rejectedFrom_cons (by rwa [hdrops]))
      rw [rewriteFrom, hdrops, List.flatten_append, hrest, flatten_remainder, keepFrom, reopening,
        closing_append_feed]
      cases r.isSurplus before (body ++ ['\n']) <;> simp [closing_append_feed]

/-- How many blank lines stand at the end. -/
theorem foldl_advance_zero (ps : List Text) :
    ps.foldl advance 0 = (ps.rtakeWhile Text.isBlankPiece).length := by
  induction ps using List.reverseRecOn with
  | nil => rfl
  | append_singleton ps p ih =>
      rw [List.foldl_concat, ih, advance]
      cases hblank : p.isBlankPiece with
      | false => simp [List.rtakeWhile_concat_neg _ _ _ (by simpa using hblank)]
      | true => simp [List.rtakeWhile_concat_pos _ _ _ hblank]

theorem reopening_ne_nil_iff (h : Text.IsCut ps) : r.reopening before ps ≠ [] ↔
    r.blankRun = true ∧ r.finalNewline = true ∧ ps ≠ [] ∧ ps.flatten.getLast? ≠ some '\n' ∧
      r.blankLines < ps.foldl advance before := by
  induction h generalizing before with
  | nil => simp [reopening]
  | @last tail _ hfeed =>
      have hopen := Text.getLast?_ne_of_notMem hfeed
      simp only [reopening, List.append_nil, isSurplus, closing, List.foldl_cons, List.foldl_nil,
        advance, List.flatten_singleton]
      by_cases hblank : tail.isBlankPiece = true
      · rw [if_pos hblank, Nat.lt_succ_iff]
        simp [hblank, hopen, and_comm]
      · simp [hblank]
  | @line body ps _ hrest ih =>
      rw [reopening, closing_append_feed, ite_self, List.nil_append, ih, List.flatten_cons,
        List.foldl_cons]
      cases ps with
      | nil => simp
      | cons p ps =>
          have hne : (p :: ps).flatten ≠ [] := by
            simp [hrest.ne_nil (List.mem_cons_self ..)]
          rw [List.getLast?_append_of_ne_nil _ hne]
          simp

/-- Where no removal of blank lines is left, the new lines are kept exactly if no line feed was put
in the place of a surplus. -/
theorem reopening_eq_nil_iff (h : Text.IsCut ps)
    (hleft : ∀ x ∈ r.rejectedFrom o 0 false ps, x.rule ≠ Rule.blankRun.id) :
    r.reopening 0 ps = [] ↔ r.keepFrom 0 (r.rewrite ps) = r.rewrite ps := by
  have hflat := flatten_rewriteFrom_of_steady h steady_zero hleft
  have hkept := flatten_keepFrom_rewriteFrom (r := r) h (.inl rfl) (steady_zero (r := r)).reached
  have hnew : Text.IsCut (r.rewriteFrom 0 false ps) := isCut_rewriteFrom h
  rw [← hkept] at hflat
  rw [rewrite]
  constructor
  · intro hnil
    rw [hnil, List.append_nil] at hflat
    rw [← Text.cutLines_flatten (isCut_keepFrom hnew), ← hflat, Text.cutLines_flatten hnew]
  · intro heq
    rw [heq] at hflat
    exact List.self_eq_append_right.1 hflat

/-- Where no removal of blank lines is left, no blank line is too many after the pass unless the
text ended in a surplus without a line feed. -/
theorem keepFrom_rewrite_iff (source : Text)
    (hleft : ∀ x ∈ r.rejected source, x.rule ≠ Rule.blankRun.id) :
    r.keepFrom 0 (r.rewrite (Text.cutLines source)) = r.rewrite (Text.cutLines source) ↔
      ¬(r.blankRun = true ∧ r.finalNewline = true ∧ source.EndsInOpenRun r.blankLines) := by
  have hcut := Text.isCut_cutLines source
  have hends : source.EndsInOpenRun r.blankLines ↔ Text.cutLines source ≠ [] ∧
      source.getLast? ≠ some '\n' ∧
        r.blankLines < ((Text.cutLines source).rtakeWhile Text.isBlankPiece).length := by
    rw [Text.EndsInOpenRun, iff_and_self]
    rintro ⟨-, hlt⟩ hnil
    rw [hnil] at hlt
    exact absurd hlt (by simp)
  rw [← reopening_eq_nil_iff hcut hleft, ← not_ne_iff, reopening_ne_nil_iff hcut,
    Text.flatten_cutLines, foldl_advance_zero, hends]

end Repairs

end SolidityLint
