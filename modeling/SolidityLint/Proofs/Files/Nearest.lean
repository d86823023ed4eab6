import SolidityLint.Files.Nearest
import SolidityLint.Proofs.Files.Yields

/-!
# The search for the nearest file of a name

The search for a file of a name looks into one directory after the other, each of them above the one
before (`Tree.Climbs`), and at the root, which lies above itself, it gives up.  What it ends with is
said without the search (`Tree.IsAnswer`): the path of the file in the deepest directory that holds
one, or that there is none, unless a path that is looked up on the way is too long.

* `Tree.isFile_ofLocation`: a path from the root leads to a file if one is there.
* `Tree.climbs_nearest`: the search ends.
* `Tree.isAnswer_of_climbs`: it ends with the answer, since what it passes holds no such file.
* `Tree.nearestFrom_answers`: both, for the search from a start directory.
* `Tree.nearestFrom_deepTree`: a file that is there is not found from deep below it.
-/

namespace SolidityLint

namespace Path

/-! ## The directory above -/

/-- The directory above a location.  The root lies above itself. -/
def above (l : Location) : Location :=
  l.dropLast

/-- A name that denotes an entry of the directory where it is looked up. -/
def IsPlain (name : Text) : Prop :=
  IsName name ∧ name ≠ up

instance (name : Text) : Decidable (IsPlain name) :=
  inferInstanceAs (Decidable (_ ∧ _))

variable {l d a b : Location} {parts : List Text} {name : Text}

theorem above_concat (l : Location) (name : Text) : above (l ++ [name]) = l :=
  List.dropLast_concat

theorem length_above_lt (h : above l ≠ l) : (above l).length < l.length := by
  refine Nat.lt_of_le_of_ne (List.dropLast_prefix l).length_le fun hlength => h ?_
  exact (List.dropLast_prefix l).eq_of_length hlength

/-- Only the root lies above itself; every other location is an entry of the directory above it. -/
theorem root_or_entry (l : Location) :
    l = [] ∧ above l = l ∨ above l ≠ l ∧ ∃ name, l = above l ++ [name] := by
  by_cases hl : l = []
  · exact .inl ⟨hl, by rw [hl]; rfl⟩
  · have hconcat : l = above l ++ [l.getLast hl] := (List.dropLast_concat_getLast hl).symm
    refine .inr ⟨fun htop => ?_, _, hconcat⟩
    have hlength := congrArg List.length hconcat
    rw [htop, List.length_append, List.length_singleton] at hlength
    omega

theorem eq_nil_of_above_eq (h : above l = l) : l = [] :=
  (root_or_entry l).elim (·.1) fun hentry => absurd h hentry.1

/-- What lies at or above a location lies there, or at or above the directory above it. -/
theorem isPrefix_iff_above (h : above l ≠ l) : a <+: l ↔ a = l ∨ a <+: above l := by
  obtain ⟨-, name, hl⟩ := (root_or_entry l).resolve_left fun hroot => h hroot.2
  rw [hl, above_concat]
  exact List.prefix_concat_iff

/-- The deepest location at or above a given one that has a property. -/
structure IsDeepest (P : Location → Prop) (d a : Location) : Prop where
  /-- It lies at or above the given one. -/
  isPrefix : a <+: d
  /-- It has the property. -/
  holds : P a
  /-- No other location with the property that lies there is deeper. -/
  deepest : ∀ b, b <+: d → P b → b.length ≤ a.length

namespace IsDeepest

variable {P Q : Location → Prop}

theorem eq (h : IsDeepest P d a) (h' : IsDeepest P d b) : a = b := by
  have hlength : a.length = b.length :=
    Nat.le_antisymm (h'.deepest a h.isPrefix h.holds) (h.deepest b h'.isPrefix h'.holds)
  have hstem := List.prefix_of_prefix_length_le h.isPrefix h'.isPrefix (Nat.le_of_eq hlength)
  exact hstem.eq_of_length hlength

theorem self (h : P d) : IsDeepest P d d :=
  ⟨List.prefix_rfl, h, fun _ hb _ => hb.length_le⟩

theorem of_above (htop : above d ≠ d) (hd : ¬P d) (h : IsDeepest P (above d) a) :
    IsDeepest P d a := by
  refine ⟨h.isPrefix.trans (List.dropLast_prefix d), h.holds, fun b hb hPb => ?_⟩
  rcases (isPrefix_iff_above htop).1 hb with rfl | hb
  · exact absurd hPb hd
  · exact h.deepest b hb hPb

/-- Only the locations at or above the given one matter. -/
theorem of_iff (hPQ : ∀ b, b <+: d → (P b ↔ Q b)) (h : IsDeepest P d a) : IsDeepest Q d a :=
  ⟨h.isPrefix, (hPQ a h.isPrefix).1 h.holds, fun b hb hQb => h.deepest b hb ((hPQ b hb).2 hQb)⟩

end IsDeepest

theorem selfAndAbove_eq (l : Location) :
    selfAndAbove l = l :: if above l = l then [] else selfAndAbove (above l) := by
  rcases root_or_entry l with ⟨rfl, -⟩ | ⟨hne, name, hl⟩
  · rfl
  · have htake : ∀ n ∈ (List.range ((above l).length + 1)).reverse,
        List.take n (above l ++ [name]) = List.take n (above l) := fun n hn =>
      List.take_append_of_le_length (by simpa [Nat.lt_succ_iff] using hn)
    have hself : List.take ((above l).length + 1) (above l ++ [name]) = above l ++ [name] :=
      List.take_of_length_le (by simp)
    rw [if_neg hne, selfAndAbove, selfAndAbove, hl, above_concat, List.length_append,
      List.length_singleton, List.range_succ, List.reverse_append, List.map_append,
      List.map_congr_left htake, List.reverse_singleton, List.map_singleton, hself]
    rfl

/-! ## Plain names on the way -/

theorem IsPlain.ofText_eq (h : IsPlain name) : ofText name = ⟨.here, [name]⟩ :=
  have hnamed : IsNamed ⟨.here, [name]⟩ := List.forall_mem_singleton.2 h.1
  ofText_text hnamed

/-- The path of a file in a directory. -/
theorem IsPlain.ofLocation_append (h : IsPlain name) (l : Location) :
    ofLocation l ++ ofText name = ofLocation (l ++ [name]) := by
  rw [h.ofText_eq]
  rfl

theorem foldl_step_eq_append (hup : up ∉ parts) : parts.foldl step l = l ++ parts := by
  induction parts generalizing l with
  | nil => exact (List.append_nil l).symm
  | cons part parts ih =>
      rw [List.mem_cons, not_or] at hup
      rw [List.foldl_cons, step, if_neg fun heq => hup.1 heq.symm, ih hup.2, List.append_assoc]
      rfl

theorem up_notMem_above (hup : up ∉ l) : up ∉ above l := fun hmem =>
  hup ((List.dropLast_prefix l).mem hmem)

theorem up_notMem_concat (hup : up ∉ l) (hdown : name ≠ up) : up ∉ l ++ [name] := by
  rw [List.mem_append, List.mem_singleton, not_or]
  exact ⟨hup, hdown.symm⟩

/-- The parts of a path that lead up are no names on the way to its location. -/
theorem up_notMem_foldl_step (hup : up ∉ l) : up ∉ parts.foldl step l := by
  induction parts generalizing l with
  | nil => exact hup
  | cons part parts ih =>
      refine ih ?_
      rw [step]
      split
      · exact up_notMem_above hup
      · rename_i hdown
        exact up_notMem_concat hup hdown

end Path

namespace Tree

variable {t : Tree} {name : Text} {start : Option Path} {p path : Path} {a b d l : Location}
  {parts : List Text} {answer other : Except FileError (Option Path)}

/-! ## Paths that are too long -/

/-- The path of a location is too long to be looked up: as a whole, or in a part that is looked up
in a directory.  A path with a null character is not looked up. -/
def IsTooLong (t : Tree) (l : Location) : Prop :=
  (∀ part ∈ l, '\x00' ∉ part) ∧
    (exceeds maxPathBytes (Path.ofLocation l).text = true ∨
      ∃ d part, d ++ [part] <+: l ∧ t.hasDirectory d = true ∧ exceeds maxPartBytes part = true)

theorem not_isTooLong (hpath : exceeds maxPathBytes (Path.ofLocation l).text = false)
    (hparts : ∀ part ∈ l, exceeds maxPartBytes part = false) : ¬t.IsTooLong l := by
  rintro ⟨-, hlong | ⟨d, part, hstem, -, hlong⟩⟩
  · rw [hpath] at hlong
    cases hlong
  · rw [hparts part (hstem.mem (List.mem_append_right d (List.mem_singleton_self part)))] at hlong
    cases hlong

theorem walk_eq_tooLong_iff (ht : t.IsSound) (hup : Path.up ∉ parts) :
    t.walk l parts = .error .tooLong ↔ ∃ d part, d ++ [part] <+: parts ∧
      t.hasDirectory (l ++ d) = true ∧ exceeds maxPartBytes part = true := by
  induction parts generalizing l with
  | nil => simp [walk]
  | cons first parts ih =>
      rw [List.mem_cons, not_or] at hup
      by_cases hdirectory : t.hasDirectory l = true
      · rw [walk_cons_of_hasDirectory ht hdirectory fun heq => hup.1 heq.symm]
        cases hlong : exceeds maxPartBytes first with
        | true =>
            refine ⟨fun _ => ⟨[], first, ⟨parts, rfl⟩, ?_, hlong⟩, fun _ => rfl⟩
            rwa [List.append_nil]
        | false =>
            rw [if_neg Bool.false_ne_true, ih hup.2]
            constructor
            · rintro ⟨d, part, hstem, hd, hpart⟩
              refine ⟨first :: d, part, List.cons_prefix_cons.2 ⟨rfl, hstem⟩, ?_, hpart⟩
              rwa [List.append_cons]
            · rintro ⟨_ | ⟨next, d⟩, part, hstem, hd, hpart⟩
              · rw [(List.cons_prefix_cons.1 hstem).1, hlong] at hpart
                cases hpart
              · obtain ⟨rfl, hrest⟩ := List.cons_prefix_cons.1 hstem
                exact ⟨d, part, hrest, by rwa [← List.append_cons], hpart⟩
      · -- the walk ends here for another reason, and nothing below is a directory
        constructor
        · intro h
          have hmissing : (!t.hasDirectory l) = true := by simpa using hdirectory
          rw [walk, if_pos hmissing] at h
          split at h <;> cases h
        · rintro ⟨d, -, -, hd, -⟩
          exact absurd (hasDirectory_of_isPrefix hd (List.prefix_append l d)) hdirectory

theorem locate_eq_tooLong_iff (ht : t.IsSound) (hup : Path.up ∉ l) :
    t.locate (.ofLocation l) = .error .tooLong ↔ t.IsTooLong l := by
  have hnull : (Path.ofLocation l).hasNull = false ↔ ∀ part ∈ l, '\x00' ∉ part := by
    simp [Path.hasNull, Path.ofLocation]
  rw [locate, IsTooLong, ← hnull]
  cases (Path.ofLocation l).hasNull with
  | true => simp
  | false =>
      cases exceeds maxPathBytes (Path.ofLocation l).text with
      | true => simp
      | false =>
          have habsolute : (Path.ofLocation l).isAbsolute = true := rfl
          rw [if_neg Bool.false_ne_true, if_neg Bool.false_ne_true, if_pos habsolute, eq_self,
            true_and, or_iff_right Bool.false_ne_true]
          exact walk_eq_tooLong_iff ht hup

/-- **A path from the root leads to a file if one is there**, unless the path is too long. -/
theorem isFile_ofLocation (ht : t.IsSound) (hup : Path.up ∉ l) (hshort : ¬t.IsTooLong l) :
    t.isFile (.ofLocation l) = t.hasFile l := by
  rw [Bool.eq_iff_iff, isFile_iff]
  constructor
  · rintro ⟨m, hm, hfile⟩
    have hplace : m = l := (locate_eq_resolve hm).trans (Path.foldl_step_eq_append hup)
    rwa [← hplace]
  · intro hfile
    have hroot : t.locate ⟨.root, []⟩ = .ok [] := rfl
    have hlocate := (locate_below ht hroot (hasEntry_of_hasFile hfile)).resolve_right fun hlong =>
      hshort ((locate_eq_tooLong_iff ht hup).1 hlong)
    exact ⟨l, hlocate, hfile⟩

theorem checkFile_ofLocation_eq_ok_iff (ht : t.IsSound) (hup : Path.up ∉ l) {found : Bool} :
    t.checkFile (.ofLocation l) = .ok found ↔ ¬t.IsTooLong l ∧ t.hasFile l = found := by
  rw [checkFile_eq_ok_iff, ne_eq, locate_eq_tooLong_iff ht hup]
  exact and_congr_right fun hshort => by rw [isFile_ofLocation ht hup hshort]

theorem checkFile_ofLocation_eq_error_iff (ht : t.IsSound) (hup : Path.up ∉ l) {e : FileError} :
    t.checkFile (.ofLocation l) = .error e ↔ t.IsTooLong l ∧ e = ⟨.tooLong, .ofLocation l⟩ := by
  rw [checkFile_eq_error_iff, locate_eq_tooLong_iff ht hup]

/-! ## The search -/

/-- The search for a file of a name, which goes from a directory to the one above it as long as it
finds none, and ends with an answer. -/
inductive Climbs (t : Tree) (name : Path) : Location → Except FileError (Option Path) → Prop where
  /-- There is a file here. -/
  | finds {l : Location} (h : t.checkFile (.ofLocation l ++ name) = .ok true) :
      Climbs t name l (.ok (some (.ofLocation l ++ name)))
  /-- The path cannot be looked up here. -/
  | fails {l : Location} {e : FileError} (h : t.checkFile (.ofLocation l ++ name) = .error e) :
      Climbs t name l (.error e)
  /-- There is none here, and the directory above is the same one. -/
  | atRoot {l : Location} (h : t.checkFile (.ofLocation l ++ name) = .ok false)
      (htop : Path.above l = l) : Climbs t name l (.ok none)
  /-- There is none here, and the search goes on in the directory above. -/
  | goesUp {l : Location} {answer : Except FileError (Option Path)}
      (h : t.checkFile (.ofLocation l ++ name) = .ok false) (htop : Path.above l ≠ l)
      (hrest : Climbs t name (Path.above l) answer) : Climbs t name l answer

theorem nearest_eq (t : Tree) (name : Path) (l : Location) :
    t.nearest name l = t.checkFile (.ofLocation l ++ name) >>= fun found =>
      if found then .ok (some (.ofLocation l ++ name))
      else if Path.above l = l then .ok none else t.nearest name (Path.above l) := by
  rw [nearest, Path.selfAndAbove_eq, List.map_cons, firstFile]
  congr
  funext found
  cases found with
  | true => rfl
  | false =>
      by_cases htop : Path.above l = l
      · simp only [if_pos htop]
        rfl
      · simp only [if_neg htop]
        rfl

/-- **The search ends**, since the way from the root gets shorter with each directory. -/
theorem climbs_nearest (t : Tree) (name : Path) (l : Location) :
    Climbs t name l (t.nearest name l) := by
  rw [nearest_eq]
  cases hcheck : t.checkFile (.ofLocation l ++ name) with
  | error e => exact .fails hcheck
  | ok found =>
      cases found with
      | true => exact .finds hcheck
      | false =>
          by_cases htop : Path.above l = l
          · show Climbs t name l (if Path.above l = l then .ok none else _)
            rw [if_pos htop]
            exact .atRoot hcheck htop
          · show Climbs t name l (if Path.above l = l then .ok none else _)
            rw [if_neg htop]
            exact .goesUp hcheck htop (climbs_nearest t name (Path.above l))
termination_by l.length
decreasing_by exact Path.length_above_lt htop

/-! ## The answer -/

/-- The search for a file of a name stops in a directory: there is such a file, or the path of one
is too long. -/
def StopsIn (t : Tree) (name : Text) (d : Location) : Prop :=
  t.hasFile (d ++ [name]) = true ∨ t.IsTooLong (d ++ [name])

/-- What the search for the nearest file of a name ends with. -/
inductive IsAnswer (t : Tree) (name : Text) (d : Location) :
    Except FileError (Option Path) → Prop where
  /-- It stops first where there is a file of the name. -/
  | found {a : Location} (h : Path.IsDeepest (t.StopsIn name) d a)
      (hshort : ¬t.IsTooLong (a ++ [name])) :
      IsAnswer t name d (.ok (some (.ofLocation (a ++ [name]))))
  /-- It stops nowhere. -/
  | missing (h : ∀ a, a <+: d → ¬t.StopsIn name a) : IsAnswer t name d (.ok none)
  /-- It stops first where a path is too long. -/
  | tooLong {a : Location} (h : Path.IsDeepest (t.StopsIn name) d a)
      (hlong : t.IsTooLong (a ++ [name])) :
      IsAnswer t name d (.error ⟨.tooLong, .ofLocation (a ++ [name])⟩)

namespace IsAnswer

/-- There is only one answer. -/
theorem eq (h : IsAnswer t name d answer) (h' : IsAnswer t name d other) : answer = other := by
  -- two searches that stop do so in the same directory, and for the same reason
  cases h with
  | found h hshort =>
      cases h' with
      | found h' => rw [h.eq h']
      | missing h' => exact absurd h.holds (h' _ h.isPrefix)
      | tooLong h' hlong => exact absurd hlong (h.eq h' ▸ hshort)
  | missing h =>
      cases h' with
      | found h' => exact absurd h'.holds (h _ h'.isPrefix)
      | missing => rfl
      | tooLong h' => exact absurd h'.holds (h _ h'.isPrefix)
  | tooLong h hlong =>
      cases h' with
      | found h' hshort => exact absurd hlong (h'.eq h ▸ hshort)
      | missing h' => exact absurd h.holds (h' _ h.isPrefix)
      | tooLong h' => rw [h.eq h']

/-- A directory that is passed does not change the answer. -/
theorem of_above (htop : Path.above d ≠ d) (hpassed : ¬t.StopsIn name d)
    (h : IsAnswer t name (Path.above d) answer) : IsAnswer t name d answer := by
  cases h with
  | found h hshort => exact .found (h.of_above htop hpassed) hshort
  | missing h =>
      refine .missing fun a ha => ?_
      rcases (Path.isPrefix_iff_above htop).1 ha with rfl | ha
      · exact hpassed
      · exact h a ha
  | tooLong h hlong => exact .tooLong (h.of_above htop hpassed) hlong

/-- Where no path is too long, the search stops at a file of the name only. -/
theorem some_iff (hshort : ∀ a, a <+: d → ¬t.IsTooLong (a ++ [name])) :
    IsAnswer t name d (.ok (some path)) ↔
      ∃ a, Path.IsDeepest (fun b => t.hasFile (b ++ [name]) = true) d a ∧
        path = .ofLocation (a ++ [name]) := by
  have hstops : ∀ b, b <+: d → (t.StopsIn name b ↔ t.hasFile (b ++ [name]) = true) :=
    fun b hb => or_iff_left (hshort b hb)
  constructor
  · rintro ⟨h, -⟩
    exact ⟨_, h.of_iff hstops, rfl⟩
  · rintro ⟨a, h, rfl⟩
    exact .found (h.of_iff fun b hb => (hstops b hb).symm) (hshort a h.isPrefix)

theorem none_iff (hshort : ∀ a, a <+: d → ¬t.IsTooLong (a ++ [name])) :
    IsAnswer t name d (.ok none) ↔ ¬∃ a, a <+: d ∧ t.hasFile (a ++ [name]) = true := by
  constructor
  · rintro (_ | h) ⟨a, ha, hfile⟩
    exact h a ha (.inl hfile)
  · intro h
    exact .missing fun a ha hstops => hstops.elim (fun hfile => h ⟨a, ha, hfile⟩) (hshort a ha)

end IsAnswer

/-- A directory is passed if it does not stop the search. -/
theorem checkFile_eq_ok_false_iff (ht : t.IsSound) (hname : Path.IsPlain name)
    (hup : Path.up ∉ l) :
    t.checkFile (.ofLocation l ++ .ofText name) = .ok false ↔ ¬t.StopsIn name l := by
  rw [hname.ofLocation_append,
    checkFile_ofLocation_eq_ok_iff ht (Path.up_notMem_concat hup hname.2), StopsIn, not_or,
    and_comm, Bool.not_eq_true]

/-- **The search ends with the answer**, since the directories that it passes do not stop it. -/
theorem isAnswer_of_climbs (ht : t.IsSound) (hname : Path.IsPlain name) (hup : Path.up ∉ d)
    (h : Climbs t (.ofText name) d answer) : IsAnswer t name d answer := by
  induction h with
  | finds h =>
      rw [hname.ofLocation_append] at h ⊢
      obtain ⟨hshort, hfile⟩ :=
        (checkFile_ofLocation_eq_ok_iff ht (Path.up_notMem_concat hup hname.2)).1 h
      exact .found (.self (.inl hfile)) hshort
  | fails h =>
      rw [hname.ofLocation_append] at h
      obtain ⟨hlong, rfl⟩ :=
        (checkFile_ofLocation_eq_error_iff ht (Path.up_notMem_concat hup hname.2)).1 h
      exact .tooLong (.self (.inr hlong)) hlong
  | @atRoot l h htop =>
      obtain rfl : l = [] := Path.eq_nil_of_above_eq htop
      refine .missing fun a ha => ?_
      rw [List.prefix_nil.1 ha]
      exact (checkFile_eq_ok_false_iff ht hname hup).1 h
  | goesUp h htop hrest ih =>
      have hpassed := (checkFile_eq_ok_false_iff ht hname hup).1 h
      exact (ih (Path.up_notMem_above hup)).of_above htop hpassed

/-- The names on the way to the start directory lead down. -/
theorem up_notMem_of_resolve (ht : t.IsSound) (hhere : t.hasDirectory t.here = true)
    (h : t.resolve p = .ok d) : Path.up ∉ d := by
  rw [resolve] at h
  split at h
  · cases h
  · obtain rfl := Except.ok.inj h
    refine Path.up_notMem_foldl_step ?_
    split
    · exact List.not_mem_nil
    · intro hpart
      have hentry : t.hasEntry ([] ++ t.here) = true := Bool.or_eq_true_iff.2 (.inr hhere)
      obtain ⟨k, hk, hpart⟩ := exists_listed_of_mem hentry hpart
      exact ht.down k hk hpart

theorem nearestFrom_eq (name : Path)
    (hstart : t.resolve (start.getD (.ofLocation t.here)) = .ok d) :
    t.nearestFrom name start = t.nearest name d := by
  rw [nearestFrom, hstart]
  rfl

theorem nearestFrom_eq_iff (ht : t.IsSound) (hhere : t.hasDirectory t.here = true)
    (hname : Path.IsPlain name) (hstart : t.resolve (start.getD (.ofLocation t.here)) = .ok d) :
    t.nearestFrom (.ofText name) start = answer ↔ IsAnswer t name d answer := by
  have hanswer := isAnswer_of_climbs ht hname (up_notMem_of_resolve ht hhere hstart)
    (climbs_nearest t (.ofText name) d)
  rw [nearestFrom_eq _ hstart]
  exact ⟨fun heq => heq ▸ hanswer, hanswer.eq⟩

/-- **The search for the nearest file of a name ends with the answer.**  If no path that may be
looked up is too long, this is the path of the file in the deepest directory, at or above the start,
in which there is a file of the name, or that there is no such directory. -/
theorem nearestFrom_answers (ht : t.IsSound) (hhere : t.hasDirectory t.here = true)
    (hname : Path.IsPlain name) (hstart : t.resolve (start.getD (.ofLocation t.here)) = .ok d) :
    Climbs t (.ofText name) d (t.nearestFrom (.ofText name) start) ∧
    (∀ answer, t.nearestFrom (.ofText name) start = answer ↔ IsAnswer t name d answer) ∧
    ((∀ a, a <+: d → ¬t.IsTooLong (a ++ [name])) →
      (∀ path, t.nearestFrom (.ofText name) start = .ok (some path) ↔
        ∃ a, Path.IsDeepest (fun b => t.hasFile (b ++ [name]) = true) d a ∧
          path = .ofLocation (a ++ [name])) ∧
      (t.nearestFrom (.ofText name) start = .ok none ↔
        ¬∃ a, a <+: d ∧ t.hasFile (a ++ [name]) = true)) := by
  have hiff : ∀ answer, t.nearestFrom (.ofText name) start = answer ↔ IsAnswer t name d answer :=
    fun _ => nearestFrom_eq_iff ht hhere hname hstart
  refine ⟨?_, hiff, fun hshort => ⟨fun path => ?_, ?_⟩⟩
  · rw [nearestFrom_eq _ hstart]
    exact climbs_nearest t (.ofText name) d
  · rw [hiff, IsAnswer.some_iff hshort]
  · rw [hiff, IsAnswer.none_iff hshort]

/-- A tree with a directory that has the name of a file further up. -/
def passedTree : Tree where
  files := [([".sollintrc".toList], [])]
  directories := [["a".toList, ".sollintrc".toList], ["a".toList, "b".toList]]
  here := []

/-- The directory is passed, and the file further up is found. -/
theorem nearestFrom_of_passedTree :
    let name := ".sollintrc".toList
    let start := Path.ofText "a/b".toList
    passedTree.IsSound ∧ passedTree.hasDirectory [] = true ∧ Path.IsPlain name ∧
      passedTree.resolve start = .ok ["a".toList, "b".toList] ∧
      passedTree.hasDirectory ["a".toList, name] = true ∧
      passedTree.nearestFrom (.ofText name) (some start) = .ok (some (.ofLocation [name])) := by
  intro name start
  have hsound : passedTree.IsSound := by decide +kernel
  have hname : Path.IsPlain name := by decide +kernel
  have hlengths : ∀ a ∈ Path.selfAndAbove ["a".toList, "b".toList],
      exceeds maxPathBytes (Path.ofLocation (a ++ [name])).text = false ∧
        ∀ part ∈ a ++ [name], exceeds maxPartBytes part = false := by decide +kernel
  have hfiles : ∀ a ∈ Path.selfAndAbove ["a".toList, "b".toList],
      passedTree.hasFile (a ++ [name]) = true → a.length ≤ 0 := by decide +kernel
  have hdeepest : Path.IsDeepest (fun a => passedTree.hasFile (a ++ [name]) = true)
      ["a".toList, "b".toList] [] :=
    ⟨List.nil_prefix, rfl, fun a ha => hfiles a (Path.mem_selfAndAbove_iff.2 ha)⟩
  have hstart : passedTree.resolve ((some start).getD (.ofLocation [])) =
      .ok ["a".toList, "b".toList] := rfl
  obtain ⟨-, -, hplain⟩ := nearestFrom_answers hsound rfl hname hstart
  obtain ⟨hfound, -⟩ := hplain fun a ha =>
    not_isTooLong (hlengths a (Path.mem_selfAndAbove_iff.2 ha)).1
      (hlengths a (Path.mem_selfAndAbove_iff.2 ha)).2
  exact ⟨hsound, rfl, hname, rfl, rfl, (hfound _).2 ⟨[], hdeepest, rfl⟩⟩

/-! ## A place that is too deep -/

/-- A name that is as long as a name can be. -/
def longName : Text :=
  List.replicate 255 'n'

/-- A place whose path is so long that no such name fits behind it. -/
def deepPlace : Location :=
  List.replicate 15 (List.replicate 255 'd')

/-- A tree with a file that has a long name, and with a directory deep below. -/
def deepTree : Tree where
  files := [([longName], [])]
  directories := [deepPlace]
  here := []

/-- The file can be looked up, but from the directory it is not found. -/
theorem nearestFrom_deepTree :
    deepTree.IsSound ∧ deepTree.hasDirectory deepTree.here = true ∧ Path.IsPlain longName ∧
      deepTree.hasDirectory deepPlace = true ∧ deepTree.isFile (.ofLocation [longName]) = true ∧
      Path.IsDeepest (fun a => deepTree.hasFile (a ++ [longName]) = true) deepPlace [] ∧
      deepTree.nearestFrom (.ofText longName) (some (.ofLocation deepPlace)) =
        .error ⟨.tooLong, .ofLocation (deepPlace ++ [longName])⟩ := by
  have hsound : deepTree.IsSound := by decide +kernel
  have hname : Path.IsPlain longName := by decide +kernel
  have hlong : deepTree.IsTooLong (deepPlace ++ [longName]) :=
    ⟨by decide +kernel, .inl (by decide +kernel)⟩
  have hdeepest : Path.IsDeepest (fun a => deepTree.hasFile (a ++ [longName]) = true) deepPlace
      [] := by
    refine ⟨List.nil_prefix, hasFile_iff.2 (List.mem_singleton_self _), fun a _ hfile => ?_⟩
    have hplace : a ++ [longName] = [] ++ [longName] := List.mem_singleton.1 (hasFile_iff.1 hfile)
    exact Nat.le_of_eq (congrArg List.length (List.append_cancel_right hplace))
  have hstart : deepTree.resolve ((some (.ofLocation deepPlace)).getD (.ofLocation [])) =
      .ok deepPlace := by
    rw [Option.getD_some, resolve, if_neg (by decide +kernel)]
    exact congrArg Except.ok (Path.foldl_step_eq_append (by decide +kernel))
  exact ⟨hsound, rfl, hname, by decide +kernel, by decide +kernel, hdeepest,
    (nearestFrom_eq_iff hsound rfl hname hstart).2 (.tooLong (.self (.inr hlong)) hlong)⟩

end Tree

end SolidityLint
