import SolidityLint.Proofs.Text.Pieces
import SolidityLint.Proofs.Text.Split
import SolidityLint.Text.Break

/-!
# The rows of a text

A line feed is the only end that starts another row.  Lines that are put one behind the other stand
on rows of their own if they end in line feeds, and a line may end in another break, or, at the end
of a text, in none.

* `rows_eq_map_cutLines`: the rows are the lines that are cut off at line feeds, without these.
* `rows_flatten_iff`: lines stand on rows of their own exactly if each of them but the last one ends
  in a line feed.
* `cutLines_eq_breakLines`: where all lines end in line feeds, the two readings of a text agree.
-/

namespace SolidityLint.Text

variable {s l p : Text} {ps ls : List Text}

/-! ## The rows of a text -/

/-- The rows of a text: what stands between its line feeds.  Nothing behind the last one is no
row. -/
def rows (s : Text) : List Text :=
  if (splitOn '\n' s).getLast? = some [] then (splitOn '\n' s).dropLast else splitOn '\n' s

theorem dropLastIf_of_notMem {c : Char} (h : c ∉ s) : dropLastIf c s = s :=
  dropLastIf_of_ne (getLast?_ne_of_notMem h)

theorem dropLastIf_append {c : Char} (hne : p ≠ []) (s : Text) :
    dropLastIf c (s ++ p) = s ++ dropLastIf c p := by
  rw [dropLastIf, dropLastIf, List.getLast?_append_of_ne_nil _ hne,
    List.dropLast_append_of_ne_nil hne]
  split <;> rfl

/-- What a text is split into at the line feeds: its pieces, and nothing at all behind the last
one if it ends there. -/
theorem splitOn_flatten (h : IsCut ps) :
    splitOn '\n' ps.flatten = ps.map (dropLastIf '\n') ++ [[]] ∨
      splitOn '\n' ps.flatten = ps.map (dropLastIf '\n') ∧
        (ps.map (dropLastIf '\n')).getLast? ≠ some [] := by
  induction h with
  | nil => exact .inl rfl
  | last hne hfeed =>
      refine .inr ?_
      simpa [dropLastIf_of_notMem hfeed, splitOn_of_notMem hfeed] using hne
  | @line body ps hfeed hrest ih =>
      have hsplit : splitOn '\n' ((body ++ ['\n']) :: ps).flatten =
          body :: splitOn '\n' ps.flatten := by
        rw [List.flatten_cons, List.append_assoc, List.singleton_append, splitOn_append_cons hfeed]
      rw [hsplit, List.map_cons, dropLastIf_append_singleton]
      refine ih.imp (fun h => by rw [h]; rfl) fun ⟨h, hlast⟩ => ⟨by rw [h], ?_⟩
      -- a split has at least one piece, so the last one stays the last
      have hne := splitOn_ne_nil '\n' ps.flatten
      rw [h] at hne
      rw [List.getLast?_cons_of_ne_nil hne]
      exact hlast

theorem rows_eq_map_cutLines (s : Text) : rows s = (cutLines s).map (dropLastIf '\n') := by
  have hsplit := splitOn_flatten (isCut_cutLines s)
  rw [flatten_cutLines] at hsplit
  rw [rows]
  rcases hsplit with h | ⟨h, hlast⟩
  · rw [h, if_pos (by simp), List.dropLast_concat]
  · rw [h, if_neg hlast]

/-! ## Lines on rows of their own -/

/-- Does a text hold no line feed but at its end, and something before it? -/
structure IsLine (l : Text) : Prop where
  /-- A line feed stands only at the end. -/
  inside : '\n' ∉ l.dropLast
  /-- Something stands before it. -/
  start : ∃ c cs, l = c :: cs ∧ c ≠ '\n'

theorem IsLine.cases (h : IsLine l) : (∃ body, '\n' ∉ body ∧ l = body ++ ['\n']) ∨ '\n' ∉ l := by
  rcases eq_append_or_getLast?_ne '\n' l with ⟨body, rfl⟩ | hlast
  · exact .inl ⟨body, by simpa using h.inside, rfl⟩
  · refine .inr fun hmem => ?_
    have hne : l ≠ [] := List.ne_nil_of_mem hmem
    rw [← List.dropLast_append_getLast hne, List.mem_append, List.mem_singleton] at hmem
    rcases hmem with hmem | hmem
    · exact h.inside hmem
    · exact hlast (by rw [List.getLast?_eq_some_getLast hne, ← hmem])

/-- What is cut off a text goes on with what is put in front of it. -/
theorem cutLines_append (hfeed : '\n' ∉ l) (hs : cutLines s = p :: ps) :
    cutLines (l ++ s) = (l ++ p) :: ps := by
  induction l with
  | nil => exact hs
  | cons c cs ih =>
      rw [List.mem_cons, not_or] at hfeed
      rw [List.cons_append, cutLines, if_neg (Ne.symm hfeed.1), ih hfeed.2]
      rfl

/-- What is cut off a text that does not start with a line feed is not a line feed alone. -/
theorem exists_cutLines_cons (c : Char) (hc : c ≠ '\n') (s : Text) :
    ∃ p ps, cutLines (c :: s) = p :: ps ∧ dropLastIf '\n' p ≠ [] := by
  have hrows (p : Text) : dropLastIf '\n' (c :: p) ≠ [] := by
    rw [dropLastIf]
    split
    · rename_i hlast
      cases p with
      | nil => exact absurd (Option.some_inj.1 hlast) hc
      | cons d ds => simp
    · exact List.cons_ne_nil _ _
  rw [cutLines, if_neg hc]
  split
  · exact ⟨_, _, rfl, hrows []⟩
  · exact ⟨_, _, rfl, hrows _⟩

/-- Lines that end in line feeds, the last one apart, are cut where they were put together. -/
theorem isCut_of_forall (h : ∀ l ∈ ls, IsLine l)
    (hends : ∀ l ∈ ls.dropLast, l.getLast? = some '\n') : IsCut ls := by
  induction ls with
  | nil => exact .nil
  | cons l ls ih =>
      obtain ⟨hl, hls⟩ := List.forall_mem_cons.1 h
      rcases hl.cases with ⟨body, hfeed, rfl⟩ | hfeed
      · refine .line hfeed (ih hls fun q hq => hends q ?_)
        cases ls with
        | nil => cases hq
        | cons next rest => exact List.mem_cons_of_mem _ hq
      · cases ls with
        | nil =>
            obtain ⟨c, cs, rfl, -⟩ := hl.start
            exact .last (List.cons_ne_nil c cs) hfeed
        | cons next rest =>
            exact absurd (hends l (List.mem_cons_self ..)) (getLast?_ne_of_notMem hfeed)

theorem rows_flatten (h : IsCut ls) : rows ls.flatten = ls.map (dropLastIf '\n') := by
  rw [rows_eq_map_cutLines, cutLines_flatten h]

/-- A line that does not end in a line feed shares its row with the next one. -/
theorem rows_append_ne (h : IsLine p) (hfeed : '\n' ∉ l) (s : Text) (qs : List Text) :
    rows (l ++ (p ++ s)) ≠ l :: qs := by
  obtain ⟨c, cs, rfl, hc⟩ := h.start
  obtain ⟨q, ps, hcut, hq⟩ := exists_cutLines_cons c hc (cs ++ s)
  have hne : q ≠ [] := by
    rintro rfl
    exact hq rfl
  intro heq
  rw [rows_eq_map_cutLines, List.cons_append, cutLines_append hfeed hcut, List.map_cons,
    List.cons.injEq, dropLastIf_append hne, List.append_right_eq_self] at heq
  exact hq heq.1

theorem forall_of_rows_flatten (h : ∀ l ∈ ls, IsLine l)
    (heq : rows ls.flatten = ls.map (dropLastIf '\n')) :
    ∀ l ∈ ls.dropLast, l.getLast? = some '\n' := by
  induction ls with
  | nil => simp
  | cons l ls ih =>
      obtain ⟨hl, hls⟩ := List.forall_mem_cons.1 h
      cases ls with
      | nil => simp
      | cons next rest =>
          rcases hl.cases with ⟨body, hfeed, rfl⟩ | hfeed
          · have hrest : rows (next :: rest).flatten = (next :: rest).map (dropLastIf '\n') := by
              rw [rows_eq_map_cutLines] at heq ⊢
              rw [List.flatten_cons, List.append_assoc, List.singleton_append,
                cutLines_append_feed hfeed] at heq
              exact (List.cons.inj heq).2
            exact List.forall_mem_cons.2 ⟨by simp, ih hls hrest⟩
          · rw [List.flatten_cons, List.flatten_cons, List.map_cons,
              dropLastIf_of_notMem hfeed] at heq
            exact absurd heq (rows_append_ne (List.forall_mem_cons.1 hls).1 hfeed _ _)

/-- **Lines stand on rows of their own exactly if each but the last one ends in a line feed.** -/
theorem rows_flatten_iff (h : ∀ l ∈ ls, IsLine l) :
    rows ls.flatten = ls.map (dropLastIf '\n') ↔ ∀ l ∈ ls.dropLast, l.getLast? = some '\n' :=
  ⟨forall_of_rows_flatten h, fun hends => rows_flatten (isCut_of_forall h hends)⟩

/-! ## Lines by the Unicode reading -/

/-- A line by the Unicode reading: a content without breaks, and the break that ends it. -/
theorem exists_of_mem_breakLines (h : l ∈ breakLines s) :
    ∃ content brk : Text, l = content ++ brk ∧ (∀ c ∈ content, isBreak c = false) ∧
      (brk = [] ∨ brk = ['\r', '\n'] ∨ ∃ c, brk = [c]) := by
  fun_induction breakLines s generalizing l with
  | case1 => cases h
  | case2 cs ih =>
      rcases List.mem_cons.1 h with rfl | h
      · exact ⟨[], _, rfl, by simp, .inr (.inl rfl)⟩
      · exact ih h
  | case3 c cs _ _ ih =>
      rcases List.mem_cons.1 h with rfl | h
      · exact ⟨[], _, rfl, by simp, .inr (.inr ⟨c, rfl⟩)⟩
      · exact ih h
  | case4 c cs _ _ _ _ => exact ⟨[], _, rfl, by simp, .inr (.inr ⟨c, List.mem_singleton.1 h⟩)⟩
  | case5 c cs _ hc first rest hcs ih =>
      rw [hcs] at ih
      rcases List.mem_cons.1 h with rfl | h
      · obtain ⟨content, brk, rfl, hcontent, hbrk⟩ := ih (List.mem_cons_self ..)
        refine ⟨c :: content, brk, rfl, List.forall_mem_cons.2 ⟨?_, hcontent⟩, hbrk⟩
        simpa using hc
      · exact ih (List.mem_cons_of_mem _ h)

theorem notMem_of_forall_isBreak {c : Char} (h : ∀ d ∈ s, isBreak d = false)
    (hc : isBreak c = true) : c ∉ s := fun hmem => by
  rw [h c hmem] at hc
  cases hc

theorem notMem_dropLast_of_mem_breakLines (h : l ∈ breakLines s) : '\n' ∉ l.dropLast := by
  obtain ⟨content, brk, rfl, hcontent, hbrk⟩ := exists_of_mem_breakLines h
  have hfeed : '\n' ∉ content := notMem_of_forall_isBreak hcontent (by decide)
  rcases hbrk with rfl | rfl | ⟨c, rfl⟩
  · rw [List.append_nil]
    exact fun hmem => hfeed ((List.dropLast_sublist _).subset hmem)
  · simp [hfeed]
  · rwa [List.dropLast_concat]

/-- A line without any break but the line feed that ends it, perhaps after a carriage return. -/
def IsPlain (l : Text) : Prop :=
  ∃ content : Text, (∀ c ∈ content, isBreak c = false) ∧
    (l = content ++ ['\n'] ∨ l = content ++ ['\r'] ++ ['\n'])

theorem IsPlain.getLast? (h : IsPlain l) : l.getLast? = some '\n' := by
  obtain ⟨content, -, rfl | rfl⟩ := h <;> exact List.getLast?_concat ..

theorem isPlain_of_mem_breakLines (h : l ∈ breakLines s) (hlast : l.getLast? = some '\n') :
    IsPlain l := by
  obtain ⟨content, brk, rfl, hcontent, hbrk⟩ := exists_of_mem_breakLines h
  refine ⟨content, hcontent, ?_⟩
  rcases hbrk with rfl | rfl | ⟨c, rfl⟩
  · rw [List.append_nil] at hlast
    exact absurd (List.mem_of_getLast? hlast) (notMem_of_forall_isBreak hcontent (by decide))
  · exact .inr (by simp)
  · rw [List.getLast?_concat, Option.some.injEq] at hlast
    exact .inl (by rw [hlast])

theorem isCut_of_isPlain (h : ∀ p ∈ ps, IsPlain p) : IsCut ps := by
  induction ps with
  | nil => exact .nil
  | cons p ps ih =>
      obtain ⟨⟨content, hcontent, hp⟩, hps⟩ := List.forall_mem_cons.1 h
      have hfeed : '\n' ∉ content := notMem_of_forall_isBreak hcontent (by decide)
      rcases hp with rfl | rfl
      · exact .line hfeed (ih hps)
      · exact .line (by simp [hfeed]) (ih hps)

theorem breakLines_append (hl : ∀ c ∈ l, isBreak c = false) (hs : breakLines s = p :: ps) :
    breakLines (l ++ s) = (l ++ p) :: ps := by
  induction l with
  | nil => exact hs
  | cons c cs ih =>
      obtain ⟨hc, hcs⟩ := List.forall_mem_cons.1 hl
      rw [List.cons_append, breakLines, hc, if_neg (by decide), ih hcs]
      · rfl
      · rintro _ rfl
        cases hc

theorem breakLines_flatten (h : ∀ p ∈ ps, IsPlain p) : breakLines ps.flatten = ps := by
  induction ps with
  | nil => rfl
  | cons p ps ih =>
      obtain ⟨⟨content, hcontent, hp⟩, hps⟩ := List.forall_mem_cons.1 h
      have hrest := ih hps
      rw [List.flatten_cons]
      rcases hp with rfl | rfl
      · rw [List.append_assoc]
        refine breakLines_append hcontent ?_
        rw [List.singleton_append, breakLines, hrest]
        · rfl
        · simp
      · rw [List.append_assoc, List.append_assoc, List.append_assoc]
        refine breakLines_append hcontent ?_
        rw [List.singleton_append, List.singleton_append, breakLines, hrest]
        rfl

/-- A text whose lines all end in line feeds is cut in the same way by both readings. -/
theorem cutLines_eq_breakLines (h : ∀ l ∈ breakLines s, l.getLast? = some '\n') :
    cutLines s = breakLines s := by
  have hplain : ∀ l ∈ breakLines s, IsPlain l := fun l hl => isPlain_of_mem_breakLines hl (h l hl)
  have hcut := cutLines_flatten (isCut_of_isPlain hplain)
  rwa [flatten_breakLines] at hcut

end SolidityLint.Text
