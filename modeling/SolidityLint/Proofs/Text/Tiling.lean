import Mathlib.Data.List.Chain
import SolidityLint.Proofs.Text.Offset

/-!
# The lines tile the text

The lines of a text lie one behind the other, from its start to its end.  Between the content of a
line and the next line there is a line feed, perhaps with a carriage return before it; behind the
last content there may be none (`Text.Tiles`).  The lines into which a text is cut are of this kind,
and no others are (`Text.tiles_iff`).

* `isCut_iff`: the pieces of a cut text are known by their ends.
* `holds_of_mem_lines`: a line lies where it says.
* `eq_placeLines`: lines in a row are known from what the text holds from each to the next one.
-/

namespace SolidityLint

/-- What a text holds between the content of a line and the next line. -/
def Line.ending (source : Text) (l : Line) : Text :=
  source.slice l.stop l.next

namespace Text

variable {source p : Text} {l : Line} {ls : List Line} {ps : List Text} {n o : Nat}

/-! ## What tiles a text -/

/-- Is a text a line feed, perhaps with a carriage return before it? -/
def IsFeed (s : Text) : Prop :=
  s = ['\n'] ∨ s = ['\r', '\n']

/-- A line lies in a text where it says. -/
structure Holds (source : Text) (l : Line) : Prop where
  /-- The content does not stop before it starts. -/
  start_le : l.start ≤ l.stop
  /-- The next line does not start before the content stops. -/
  stop_le : l.stop ≤ l.next
  /-- The line does not reach beyond the text. -/
  next_le : l.next ≤ source.length
  /-- The content is what the text holds there. -/
  content_eq : l.content = source.slice l.start l.stop
  /-- It holds no line feed. -/
  feed_notMem : '\n' ∉ l.content
  /-- A carriage return at its end would belong to the end of the line. -/
  carriage_mem : l.content.getLast? = some '\r' → '\r' ∈ l.ending source

/-- Lines that lie one behind the other and make up a text. -/
structure Tiles (source : Text) (ls : List Line) : Prop where
  /-- They are numbered from 1 on. -/
  numbered : ls.map (·.number) = List.range' 1 ls.length
  /-- The first one starts at the start of the text. -/
  first : ls.head?.map (·.start) = some 0
  /-- Every other one starts where the one before it leads. -/
  chained : ls.IsChain fun a b => b.start = a.next
  /-- The last one leads to the end of the text. -/
  last : ls.getLast?.map (·.next) = some source.length
  /-- All lie where they say. -/
  holds : ∀ l ∈ ls, source.Holds l
  /-- All but the last end in a line feed. -/
  ending : ∀ l ∈ ls.dropLast, IsFeed (l.ending source)
  /-- The last one may also end in nothing or in a carriage return. -/
  lastEnding : ∀ l ∈ ls.getLast?, IsFeed (l.ending source) ∨ l.ending source = [] ∨
    l.ending source = ['\r']
  /-- Put together they are the text. -/
  joined : (ls.flatMap fun l => source.slice l.start l.next) = source
  /-- None is empty, unless the text is. -/
  nonempty : source ≠ [] → ∀ l ∈ ls, l.start < l.next

/-! ## Pieces and their ends -/

/-- A text whose only line feed is its last character. -/
def EndsInFeed (p : Text) : Prop :=
  ∃ body, '\n' ∉ body ∧ p = body ++ ['\n']

/-- The pieces of a cut text end in their only line feeds; the last one may have none. -/
theorem isCut_iff : IsCut ps ↔ (∀ p ∈ ps.dropLast, EndsInFeed p) ∧
    ∀ p ∈ ps.getLast?, EndsInFeed p ∨ p ≠ [] ∧ '\n' ∉ p := by
  constructor
  · intro h
    induction h with
    | nil => simp
    | last hne hfeed => simp [hne, hfeed]
    | @line body ps hfeed hrest ih =>
        have hline : EndsInFeed (body ++ ['\n']) := ⟨body, hfeed, rfl⟩
        cases ps with
        | nil => simp [hline]
        | cons q qs =>
            rw [List.dropLast_cons_cons, List.getLast?_cons_cons, List.forall_mem_cons]
            exact ⟨⟨hline, ih.1⟩, ih.2⟩
  · rintro ⟨hends, hlast⟩
    induction ps with
    | nil => exact .nil
    | cons p ps ih =>
        cases ps with
        | nil =>
            rcases hlast p rfl with ⟨body, hfeed, rfl⟩ | ⟨hne, hfeed⟩
            · exact .line hfeed .nil
            · exact .last hne hfeed
        | cons q qs =>
            rw [List.dropLast_cons_cons, List.forall_mem_cons] at hends
            rw [List.getLast?_cons_cons] at hlast
            obtain ⟨⟨body, hfeed, rfl⟩, hends⟩ := hends
            exact .line hfeed (ih hends hlast)

theorem IsCut.endsInFeed_or (h : IsCut ps) (hp : p ∈ ps) : EndsInFeed p ∨ '\n' ∉ p := by
  obtain ⟨hends, hlast⟩ := isCut_iff.1 h
  have hne := List.ne_nil_of_mem hp
  rw [← List.dropLast_append_getLast hne, List.mem_append, List.mem_singleton] at hp
  rcases hp with hp | rfl
  · exact .inl (hends p hp)
  · exact (hlast _ (List.getLast?_eq_some_getLast hne)).imp_right And.right

theorem EndsInFeed.lineEnd (h : EndsInFeed p) : IsFeed (lineEnd p) := by
  obtain ⟨body, -, rfl⟩ := h
  rw [lineEnd_append_feed]
  rcases lastIf_eq_nil_or_singleton '\r' body with h | h <;> simp [IsFeed, h]

/-- A carriage return is left at the end of a content only before another one. -/
theorem carriage_mem_lineEnd (h : EndsInFeed p ∨ '\n' ∉ p)
    (hlast : (withoutEnd p).getLast? = some '\r') : '\r' ∈ lineEnd p := by
  have hbody {body : Text} (hlast : (dropLastIf '\r' body).getLast? = some '\r') :
      '\r' ∈ lastIf '\r' body := by
    by_cases h : body.getLast? = some '\r'
    · simp [lastIf, h]
    · rw [dropLastIf_of_ne h] at hlast
      exact absurd hlast h
  rcases h with ⟨body, -, rfl⟩ | hfeed
  · rw [withoutEnd_append_feed] at hlast
    rw [lineEnd_append_feed]
    exact List.mem_append_left _ (hbody hlast)
  · rw [withoutEnd_of_notMem hfeed] at hlast
    rw [lineEnd_of_notMem hfeed]
    exact hbody hlast

theorem endsInFeed_or_of_mem_pieces (hp : p ∈ source.pieces) : EndsInFeed p ∨ '\n' ∉ p := by
  rw [pieces] at hp
  split at hp
  · rw [List.mem_singleton.1 hp]
    exact .inr List.not_mem_nil
  · exact (isCut_cutLines source).endsInFeed_or hp

theorem feed_notMem_of_mem_pieces (hp : p ∈ source.pieces) : '\n' ∉ withoutEnd p := by
  rw [pieces] at hp
  split at hp
  · rw [List.mem_singleton.1 hp]
    exact List.not_mem_nil
  · exact notMem_withoutEnd (isCut_cutLines source) hp

theorem endsInFeed_of_mem_dropLast (hp : p ∈ source.pieces.dropLast) : EndsInFeed p := by
  rw [pieces] at hp
  split at hp
  · simp at hp
  · exact (isCut_iff.1 (isCut_cutLines source)).1 p hp

/-! ## The lines of a text -/

theorem map_number_placeLines (n o : Nat) (ps : List Text) :
    (placeLines n o ps).map (·.number) = List.range' n ps.length := by
  induction ps generalizing n o with
  | nil => rfl
  | cons p ps ih => rw [placeLines, List.map_cons, ih, List.length_cons, List.range'_succ]

theorem isChain_placeLines (n o : Nat) (ps : List Text) :
    (placeLines n o ps).IsChain fun a b => b.start = a.next := by
  induction ps generalizing n o with
  | nil => exact .nil
  | cons p ps ih =>
      refine List.IsChain.cons (ih ..) fun l hl => ?_
      cases ps with
      | nil => cases hl
      | cons q qs => exact (Option.some.inj hl) ▸ rfl

theorem getLast?_next_placeLines (n o : Nat) (hne : ps ≠ []) :
    (placeLines n o ps).getLast?.map (·.next) = some (o + ps.flatten.length) := by
  induction ps generalizing n o with
  | nil => exact absurd rfl hne
  | cons p ps ih =>
      cases ps with
      | nil => simp [placeLines]
      | cons q qs =>
          have hrest := ih (n + 1) (o + p.length) (List.cons_ne_nil q qs)
          rw [placeLines, placeLines, List.getLast?_cons_cons, ← placeLines, hrest]
          simp only [List.flatten_cons, List.length_append, Nat.add_assoc]

theorem content_of_mem_lines (hl : l ∈ source.lines) :
    l.content = withoutEnd (source.slice l.start l.next) := by
  have hcontents : source.lines.map (·.content) =
      source.lines.map fun l => withoutEnd (source.slice l.start l.next) := by
    have hslices := congrArg (List.map withoutEnd) (map_slice_lines source)
    rw [List.map_map] at hslices
    rw [lines_eq_placeLines, map_content_placeLines, ← lines_eq_placeLines]
    exact hslices.symm
  exact List.map_inj_left.1 hcontents l hl

theorem slice_mem_pieces (hl : l ∈ source.lines) :
    source.slice l.start l.next ∈ source.pieces :=
  map_slice_lines source ▸ List.mem_map_of_mem hl

theorem length_slice_of_le {i j : Nat} (hj : j ≤ source.length) :
    (source.slice i j).length = j - i := by
  rw [slice_natCast, List.length_take, List.length_drop]
  omega

/-- A text holds the content of a line and then its end. -/
theorem slice_eq_append (hstop : l.stop ≤ l.next) :
    source.slice l.start l.next = source.slice l.start l.stop ++ l.ending source :=
  (slice_append_slice (Int.natCast_nonneg _) (Int.ofNat_le.2 (Nat.le_add_right ..))
    (Int.ofNat_le.2 hstop)).symm

theorem slice_and_ending_of_mem_lines (hl : l ∈ source.lines) :
    source.slice l.start l.stop = l.content ∧
      l.ending source = lineEnd (source.slice l.start l.next) := by
  obtain ⟨hstop, hnext⟩ := bounds_of_mem_lines hl
  have hsplit := withoutEnd_append_lineEnd (source.slice l.start l.next)
  rw [← content_of_mem_lines hl] at hsplit
  have hlength : (source.slice l.start l.stop).length = l.content.length := by
    rw [length_slice_of_le (hstop.trans hnext), Line.stop, Nat.add_sub_cancel_left]
  exact List.append_inj ((slice_eq_append hstop).symm.trans hsplit.symm) hlength

theorem holds_of_mem_lines (hl : l ∈ source.lines) : source.Holds l := by
  obtain ⟨hslice, hending⟩ := slice_and_ending_of_mem_lines hl
  obtain ⟨hstop, hnext⟩ := bounds_of_mem_lines hl
  have hpiece := slice_mem_pieces hl
  have hcontent := content_of_mem_lines hl
  exact
    { start_le := Nat.le_add_right ..
      stop_le := hstop
      next_le := hnext
      content_eq := hslice.symm
      feed_notMem := hcontent ▸ feed_notMem_of_mem_pieces hpiece
      carriage_mem := fun hlast => by
        rw [hending]
        exact carriage_mem_lineEnd (endsInFeed_or_of_mem_pieces hpiece) (hcontent ▸ hlast) }

theorem tiles_lines (source : Text) : source.Tiles source.lines := by
  have hslices := map_slice_lines source
  have hlines := lines_eq_placeLines source
  have hne : source.pieces ≠ [] := by
    rw [pieces]
    split
    · exact List.cons_ne_nil _ _
    · rename_i h
      exact fun hnil => h (cutLines_eq_nil_iff.1 hnil)
  constructor
  case numbered =>
    have hlength := congrArg List.length hslices
    rw [List.length_map] at hlength
    rw [hlength, hlines, map_number_placeLines]
  case first =>
    rw [hlines]
    cases hpieces : source.pieces with
    | nil => exact absurd hpieces hne
    | cons p ps => rfl
  case chained =>
    rw [hlines]
    exact isChain_placeLines ..
  case last =>
    rw [hlines, getLast?_next_placeLines 1 0 hne, flatten_pieces, Nat.zero_add]
  case holds => exact fun l hl => holds_of_mem_lines hl
  case ending =>
    intro l hl
    rw [(slice_and_ending_of_mem_lines (List.dropLast_subset _ hl)).2]
    have hpiece : source.slice l.start l.next ∈ source.pieces.dropLast := by
      rw [← hslices, ← List.map_dropLast]
      exact List.mem_map_of_mem hl
    exact (endsInFeed_of_mem_dropLast hpiece).lineEnd
  case lastEnding =>
    intro l hl
    have hmem := List.mem_of_getLast? hl
    rw [(slice_and_ending_of_mem_lines hmem).2]
    rcases endsInFeed_or_of_mem_pieces (slice_mem_pieces hmem) with h | h
    · exact .inl h.lineEnd
    · rw [lineEnd_of_notMem h]
      exact .inr (lastIf_eq_nil_or_singleton ..)
  case joined => rw [List.flatMap_def, hslices, flatten_pieces]
  case nonempty =>
    intro hsource l hl
    have hpiece := slice_mem_pieces hl
    rw [pieces, if_neg hsource] at hpiece
    have hlength := List.length_pos_iff.2 ((isCut_cutLines source).ne_nil hpiece)
    rw [length_slice_of_le (bounds_of_mem_lines hl).2] at hlength
    exact Nat.lt_of_sub_pos hlength

/-! ## Lines in a row -/

/-- Lines in a row are known from what the text holds from each to the next one. -/
theorem eq_placeLines (hnumbers : ls.map (·.number) = List.range' n ls.length)
    (hfirst : ∀ l ∈ ls.head?, l.start = o) (hchain : ls.IsChain fun a b => b.start = a.next)
    (hls : ∀ l ∈ ls, l.start ≤ l.next ∧ l.next ≤ source.length ∧
      l.content = withoutEnd (source.slice l.start l.next)) :
    ls = placeLines n o (ls.map fun l => source.slice l.start l.next) := by
  induction ls generalizing n o with
  | nil => rfl
  | cons l ls ih =>
      obtain ⟨⟨hle, hnext, hcontent⟩, hls⟩ := List.forall_mem_cons.1 hls
      obtain ⟨hfirst', hchain⟩ := List.isChain_cons.1 hchain
      rw [List.map_cons, List.length_cons, List.range'_succ, List.cons.injEq] at hnumbers
      obtain rfl : l.start = o := hfirst l rfl
      have hreach : l.start + (source.slice l.start l.next).length = l.next := by
        rw [length_slice_of_le hnext, Nat.add_sub_of_le hle]
      rw [List.map_cons, placeLines, hreach, ← ih hnumbers.2 hfirst' hchain hls, ← hcontent,
        ← hnumbers.1]

theorem Holds.content_eq_withoutEnd (h : source.Holds l)
    (hending : IsFeed (l.ending source) ∨ l.ending source = [] ∨ l.ending source = ['\r']) :
    l.content = withoutEnd (source.slice l.start l.next) := by
  rw [slice_eq_append h.stop_le, ← h.content_eq]
  have hfeed := h.feed_notMem
  have hcarriage := h.carriage_mem
  rcases hending with (heq | heq) | heq | heq <;> rw [heq] at hcarriage ⊢
  · rw [withoutEnd_append_feed, dropLastIf_of_ne fun hlast => by simpa using hcarriage hlast]
  · rw [List.append_cons, withoutEnd_append_feed, dropLastIf_append_singleton]
  · rw [List.append_nil, withoutEnd_of_notMem hfeed,
      dropLastIf_of_ne fun hlast => List.not_mem_nil (hcarriage hlast)]
  · rw [withoutEnd_of_notMem (by simp [hfeed]), dropLastIf_append_singleton]

theorem Holds.endsInFeed (h : source.Holds l) (hending : IsFeed (l.ending source)) :
    EndsInFeed (source.slice l.start l.next) := by
  rw [slice_eq_append h.stop_le, ← h.content_eq]
  rcases hending with heq | heq <;> rw [heq]
  · exact ⟨l.content, h.feed_notMem, rfl⟩
  · exact ⟨l.content ++ ['\r'], by simp [h.feed_notMem], by simp⟩

theorem Holds.endsInFeed_or (h : source.Holds l)
    (hending : IsFeed (l.ending source) ∨ l.ending source = [] ∨ l.ending source = ['\r']) :
    EndsInFeed (source.slice l.start l.next) ∨ '\n' ∉ source.slice l.start l.next := by
  refine hending.imp h.endsInFeed fun hending => ?_
  rw [slice_eq_append h.stop_le, ← h.content_eq]
  rcases hending with heq | heq <;> simp [heq, h.feed_notMem]

theorem Holds.slice_ne_nil (h : source.Holds l) (hlt : l.start < l.next) :
    source.slice l.start l.next ≠ [] := by
  rw [← List.length_pos_iff, length_slice_of_le h.next_le]
  exact Nat.sub_pos_of_lt hlt

theorem Tiles.ending_cases (h : source.Tiles ls) (hl : l ∈ ls) :
    IsFeed (l.ending source) ∨ l.ending source = [] ∨ l.ending source = ['\r'] := by
  have hne := List.ne_nil_of_mem hl
  rw [← List.dropLast_append_getLast hne, List.mem_append, List.mem_singleton] at hl
  rcases hl with hl | rfl
  · exact .inl (h.ending l hl)
  · exact h.lastEnding _ (List.getLast?_eq_some_getLast hne)

/-- From each line to the next one the text holds one of its pieces. -/
theorem Tiles.map_slice (h : source.Tiles ls) :
    (ls.map fun l => source.slice l.start l.next) = source.pieces := by
  rw [pieces]
  split
  · rename_i hsource
    subst hsource
    have hslice (i j : Nat) : slice [] i j = [] := by simp
    have hdropLast : ls.dropLast = [] := by
      refine List.eq_nil_iff_forall_not_mem.2 fun l hl => ?_
      have hending := h.ending l hl
      rw [Line.ending, hslice] at hending
      simp [IsFeed] at hending
    have hfirst := h.first
    cases ls with
    | nil => simp at hfirst
    | cons l ls =>
        obtain rfl : ls = [] := by
          cases ls with
          | nil => rfl
          | cons k ks => simp at hdropLast
        simp
  · rename_i hsource
    have hcut : IsCut (ls.map fun l => source.slice l.start l.next) := by
      refine isCut_iff.2 ⟨fun q hq => ?_, fun q hq => ?_⟩
      · rw [← List.map_dropLast] at hq
        obtain ⟨l, hl, rfl⟩ := List.mem_map.1 hq
        exact (h.holds l (List.dropLast_subset _ hl)).endsInFeed (h.ending l hl)
      · rw [List.getLast?_map] at hq
        obtain ⟨l, hl, rfl⟩ := Option.map_eq_some_iff.1 hq
        have hmem := List.mem_of_getLast? hl
        exact ((h.holds l hmem).endsInFeed_or (h.ending_cases hmem)).imp_right
          (.intro ((h.holds l hmem).slice_ne_nil (h.nonempty hsource l hmem)))
    have hjoined := h.joined
    rw [List.flatMap_def] at hjoined
    rw [← cutLines_flatten hcut, hjoined]

/-- **The lines of a text tile it, and no other lines do.** -/
theorem tiles_iff (source : Text) (ls : List Line) : source.Tiles ls ↔ ls = source.lines := by
  constructor
  · intro h
    rw [lines_eq_placeLines, ← h.map_slice]
    refine eq_placeLines h.numbered (fun l hl => ?_) h.chained fun l hl => ?_
    · simpa [Option.mem_def.1 hl] using h.first
    · have hl' := h.holds l hl
      exact ⟨hl'.start_le.trans hl'.stop_le, hl'.next_le,
        hl'.content_eq_withoutEnd (h.ending_cases hl)⟩
  · rintro rfl
    exact tiles_lines source

end Text

end SolidityLint
