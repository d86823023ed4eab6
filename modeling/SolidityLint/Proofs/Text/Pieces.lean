import SolidityLint.Text.Line
import Mathlib.Data.List.Basic

/-!
# The pieces of a cut text

A text is cut after every line feed.  Its pieces are lines that end in their only line feed and
possibly one last line without (`IsCut`), and such pieces are cut where they were put together
(`cutLines_flatten`).  A piece is the content of its line and the end of the line; the end is a
line feed, a carriage return and a line feed or, on a last line, empty or a carriage return.

Every lemma about a piece is stated for the two forms that `IsCut` knows, a body without line
feed and the same body with a line feed behind it.
-/

namespace SolidityLint.Text

/-! ## Cut texts -/

/-- The pieces of a cut text: lines that end in their only line feed, and a last line without a
line feed where there is one. -/
inductive IsCut : List Text → Prop
  | nil : IsCut []
  | last {tail : Text} (hne : tail ≠ []) (hfeed : '\n' ∉ tail) : IsCut [tail]
  | line {body : Text} {ps : List Text} (hfeed : '\n' ∉ body) (hrest : IsCut ps) :
      IsCut ((body ++ ['\n']) :: ps)

theorem isCut_cutLines (s : Text) : IsCut (cutLines s) := by
  fun_induction cutLines s with
  | case1 => exact .nil
  | case2 cs ih => exact @IsCut.line [] _ (by simp) ih
  | case3 c cs h _ _ => exact .last (by simp) (by simpa using Ne.symm h)
  | case4 c cs h l ls hcs ih =>
      rw [hcs] at ih
      cases ih with
      | last hne hfeed => exact .last (by simp) (by simp [hfeed, Ne.symm h])
      | line hfeed hrest => exact @IsCut.line (c :: _) _ (by simp [hfeed, Ne.symm h]) hrest

theorem cutLines_of_notMem {s : Text} (hne : s ≠ []) (hfeed : '\n' ∉ s) : cutLines s = [s] := by
  induction s with
  | nil => exact absurd rfl hne
  | cons c cs ih =>
      simp only [List.mem_cons, not_or] at hfeed
      cases cs with
      | nil => simp [cutLines, Ne.symm hfeed.1]
      | cons d ds => rw [cutLines, if_neg (Ne.symm hfeed.1), ih (by simp) hfeed.2]

theorem cutLines_append_feed {body : Text} (hfeed : '\n' ∉ body) (s : Text) :
    cutLines (body ++ '\n' :: s) = (body ++ ['\n']) :: cutLines s := by
  induction body with
  | nil => simp [cutLines]
  | cons c cs ih =>
      simp only [List.mem_cons, not_or] at hfeed
      rw [List.cons_append, cutLines, if_neg (Ne.symm hfeed.1), ih hfeed.2]
      rfl

/-- Pieces are cut where they were put together. -/
theorem cutLines_flatten {ps : List Text} (h : IsCut ps) : cutLines ps.flatten = ps := by
  induction h with
  | nil => rfl
  | last hne hfeed => simpa using cutLines_of_notMem hne hfeed
  | line hfeed hrest ih =>
      rw [List.flatten_cons, List.append_assoc, List.singleton_append,
        cutLines_append_feed hfeed, ih]

theorem IsCut.ne_nil {ps : List Text} (h : IsCut ps) {p : Text} (hp : p ∈ ps) : p ≠ [] := by
  induction h with
  | nil => simp at hp
  | last hne _ => simpa [List.mem_singleton.1 hp] using hne
  | line _ _ ih =>
      rcases List.mem_cons.1 hp with rfl | hp
      · simp
      · exact ih hp

theorem cutLines_eq_nil_iff {s : Text} : cutLines s = [] ↔ s = [] := by
  constructor
  · intro h
    rw [← flatten_cutLines s, h]
    rfl
  · rintro rfl
    rfl

/-! ## The two ends of a line -/

/-- The end of the line of a piece. -/
def lineEnd (piece : Text) : Text :=
  piece.drop (withoutEnd piece).length

/-- The last character if it is `c`. -/
def lastIf (c : Char) (s : Text) : Text :=
  if s.getLast? = some c then [c] else []

theorem dropLastIf_append_lastIf (c : Char) (s : Text) : dropLastIf c s ++ lastIf c s = s := by
  rw [dropLastIf, lastIf]
  split
  · rename_i h
    exact List.dropLast_append_getLast? c h
  · exact List.append_nil s

@[simp]
theorem dropLastIf_append_singleton (c : Char) (s : Text) : dropLastIf c (s ++ [c]) = s := by
  simp [dropLastIf]

theorem eq_of_mem_lastIf {c d : Char} {s : Text} (h : d ∈ lastIf c s) : d = c := by
  rw [lastIf] at h
  split at h
  · exact List.mem_singleton.1 h
  · simp at h

@[simp]
theorem lastIf_append_singleton (c : Char) (s : Text) : lastIf c (s ++ [c]) = [c] := by
  simp [lastIf]

theorem lastIf_eq_nil_or_singleton (c : Char) (s : Text) : lastIf c s = [] ∨ lastIf c s = [c] := by
  rw [lastIf]
  split
  · exact .inr rfl
  · exact .inl rfl

theorem getLast?_ne_of_notMem {c : Char} {s : Text} (h : c ∉ s) : s.getLast? ≠ some c :=
  fun hlast => h (List.mem_of_getLast? hlast)

theorem dropLastIf_of_ne {c : Char} {s : Text} (h : s.getLast? ≠ some c) : dropLastIf c s = s :=
  if_neg h

theorem lastIf_of_ne {c : Char} {s : Text} (h : s.getLast? ≠ some c) : lastIf c s = [] :=
  if_neg h

theorem dropLastIf_isPrefix (c : Char) (s : Text) : dropLastIf c s <+: s :=
  ⟨lastIf c s, dropLastIf_append_lastIf c s⟩

/-- A text ends in `c` or it does not. -/
theorem eq_append_or_getLast?_ne (c : Char) (s : Text) :
    (∃ t, s = t ++ [c]) ∨ s.getLast? ≠ some c := by
  by_cases h : s.getLast? = some c
  · exact .inl ⟨s.dropLast, (List.dropLast_append_getLast? c h).symm⟩
  · exact .inr h

@[simp]
theorem withoutEnd_append_feed (body : Text) :
    withoutEnd (body ++ ['\n']) = dropLastIf '\r' body := by
  rw [withoutEnd, dropLastIf_append_singleton]

theorem withoutEnd_of_notMem {body : Text} (hfeed : '\n' ∉ body) :
    withoutEnd body = dropLastIf '\r' body := by
  rw [withoutEnd, dropLastIf_of_ne (getLast?_ne_of_notMem hfeed)]

theorem drop_length_dropLastIf (c : Char) (s t : Text) :
    (s ++ t).drop (dropLastIf c s).length = lastIf c s ++ t := by
  have h : s ++ t = dropLastIf c s ++ (lastIf c s ++ t) := by
    rw [← List.append_assoc, dropLastIf_append_lastIf]
  rw [h, List.drop_left]

/-- The end of a line is a carriage return and a line feed, where they are there. -/
theorem lineEnd_eq (piece : Text) :
    lineEnd piece = lastIf '\r' (dropLastIf '\n' piece) ++ lastIf '\n' piece := by
  have h := drop_length_dropLastIf '\r' (dropLastIf '\n' piece) (lastIf '\n' piece)
  rwa [dropLastIf_append_lastIf] at h

@[simp]
theorem lineEnd_append_feed (body : Text) :
    lineEnd (body ++ ['\n']) = lastIf '\r' body ++ ['\n'] := by
  rw [lineEnd_eq, dropLastIf_append_singleton, lastIf_append_singleton]

theorem lineEnd_of_notMem {body : Text} (hfeed : '\n' ∉ body) :
    lineEnd body = lastIf '\r' body := by
  have hne := getLast?_ne_of_notMem hfeed
  rw [lineEnd_eq, dropLastIf_of_ne hne, lastIf_of_ne hne, List.append_nil]

theorem withoutEnd_append_lineEnd (piece : Text) : withoutEnd piece ++ lineEnd piece = piece :=
  List.prefix_iff_eq_append.1 ((dropLastIf_isPrefix _ _).trans (dropLastIf_isPrefix _ _))

end SolidityLint.Text
