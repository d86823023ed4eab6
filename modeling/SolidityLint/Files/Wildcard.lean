import SolidityLint.Text.Basic

/-!
# Wildcard patterns

In a pattern a star stands for any text, a question mark for any character, and a bracketed class
for one of its characters, or, after an exclamation mark, for one that is not among them.  A
closing bracket right at the start of a class belongs to it, and a bracket that is never closed
stands for itself.  Two characters with a hyphen between them denote a range; a range whose ends
are the wrong way round is left out together with its ends.

Matching is described by the relation `Wildcard.Matches` and decided by `Wildcard.accepts`
(`accepts_iff`), which needs one step for every piece of the pattern and every place of the text.
-/

namespace SolidityLint

/-- One piece of a pattern. -/
inductive Wildcard where
  /-- Stands for itself. -/
  | literal (c : Char)
  /-- Stands for any character. -/
  | anyChar
  /-- Stands for any text. -/
  | star
  /-- Stands for a character within the ranges, or for one outside them. -/
  | oneOf (negated : Bool) (ranges : List (Char × Char))
  deriving DecidableEq, Repr

namespace Wildcard

/-! ## Classes -/

/-- The number of characters at the start of a class that cannot close it. -/
def classLead : Text → Nat
  | '!' :: ']' :: _ => 2
  | '!' :: _ => 1
  | ']' :: _ => 1
  | _ => 0

/-- Splits what follows an opening bracket into the class and the rest, if the class is closed. -/
def splitClass? (s : Text) : Option (Text × Text) :=
  let lead := classLead s
  let tail := s.drop lead
  match tail.dropWhile (· ≠ ']') with
  | [] => none
  | _ :: rest => some (s.take lead ++ tail.takeWhile (· ≠ ']'), rest)

theorem length_rest_of_splitClass? {s inside rest : Text}
    (h : splitClass? s = some (inside, rest)) : rest.length < s.length := by
  simp only [splitClass?] at h
  split at h
  · simp at h
  · next c r hr =>
    simp only [Option.some.injEq, Prod.mk.injEq] at h
    have h1 :=
      (List.dropWhile_suffix (fun x => decide (x ≠ ']')) (l := s.drop (classLead s))).length_le
    rw [hr, h.2] at h1
    simp only [List.length_cons, List.length_drop] at h1
    omega

/-- Cuts a class at the hyphens that make ranges.  The first `skip` characters of a piece cannot
be such a hyphen, and neither can the last character of the class. -/
def cutClass (skip : Nat) (s : Text) : List Text :=
  match h : (s.drop skip).dropWhile (· ≠ '-') with
  | [] => [s]
  | [_] => [s]
  | _ :: c :: rest =>
      have : (c :: rest).length < s.length := by
        have h1 := (List.dropWhile_suffix (fun x => decide (x ≠ '-')) (l := s.drop skip)).length_le
        rw [h] at h1
        simp only [List.length_cons, List.length_drop] at h1 ⊢
        omega
      (s.take skip ++ (s.drop skip).takeWhile (· ≠ '-')) :: cutClass 2 (c :: rest)
termination_by s.length

/-- Leaves out the ranges whose ends are the wrong way round, from the last to the first. -/
def dropReversed : List Text → List Text
  | [] => []
  | piece :: pieces =>
      match dropReversed pieces with
      | [] => [piece]
      | next :: rest =>
          match piece.getLast?, next.head? with
          | some a, some b =>
              if b < a then (piece.dropLast ++ next.tail) :: rest else piece :: next :: rest
          | _, _ => piece :: next :: rest

/-- The range that the hyphen between two neighbouring pieces makes; a hyphen without a
character before it stands for itself. -/
def rangeBetween (piece next : Text) : List (Char × Char) :=
  match piece.getLast?, next.head? with
  | some a, some b => [(a, b)]
  | none, _ => [('-', '-')]
  | _, none => []

/-- The ranges that the pieces of a class denote. -/
def classRanges : List Text → List (Char × Char)
  | [] => []
  | [piece] => piece.map fun c => (c, c)
  | piece :: next :: rest =>
      (piece.map fun c => (c, c)) ++ rangeBetween piece next ++ classRanges (next :: rest)

/-- The piece of a pattern that a class makes. -/
def ofClass (inside : Text) : Wildcard :=
  match dropReversed (cutClass (if inside.head? = some '!' then 2 else 1) inside) with
  | ('!' :: piece) :: rest => .oneOf true (classRanges (piece :: rest))
  | pieces => .oneOf false (classRanges pieces)

/-! ## Patterns -/

/-- The pieces of a pattern. -/
def ofText : Text → List Wildcard
  | [] => []
  | '*' :: cs => .star :: ofText cs
  | '?' :: cs => .anyChar :: ofText cs
  | '[' :: cs =>
      match h : splitClass? cs with
      | none => .literal '[' :: ofText cs
      | some (inside, rest) =>
          have : rest.length < cs.length := length_rest_of_splitClass? h
          .ofClass inside :: ofText rest
  | c :: cs => .literal c :: ofText cs
termination_by s => s.length
decreasing_by all_goals simp_wf <;> omega

/-- Does a text hold a character that has a meaning in patterns? -/
def isMagic (s : Text) : Bool :=
  s.any fun c => c == '*' || c == '?' || c == '['

/-! ## Matching -/

/-- Does a piece that stands for one character stand for `c`? -/
def admits : Wildcard → Char → Bool
  | literal a, c => a == c
  | anyChar, _ => true
  | star, _ => false
  | oneOf negated ranges, c =>
      (ranges.any fun r => decide (r.1 ≤ c) && decide (c ≤ r.2)) != negated

/-- A pattern matches a text. -/
inductive Matches : List Wildcard → Text → Prop where
  | nil : Matches [] []
  | one {w : Wildcard} {c : Char} {ws : List Wildcard} {s : Text} (h : w.admits c = true)
      (rest : Matches ws s) : Matches (w :: ws) (c :: s)
  | star {ws : List Wildcard} (before : Text) {s : Text} (rest : Matches ws s) :
      Matches (.star :: ws) (before ++ s)

/-- Which ends of a text, from the whole of it to the empty one, the empty pattern matches. -/
def emptyEnds : Text → List Bool
  | [] => [true]
  | _ :: s => false :: emptyEnds s

/-- Which ends of a text a pattern matches, given which ends the pattern without its first piece
matches. -/
def stepEnds (w : Wildcard) : Text → List Bool → List Bool
  | [], now => [w == .star && now.headD false]
  | c :: s, now =>
      let later := stepEnds w s now.tail
      (if w = .star then now.headD false || later.headD false
        else w.admits c && now.tail.headD false) :: later

/-- Which ends of a text a pattern matches. -/
def ends : List Wildcard → Text → List Bool
  | [], s => emptyEnds s
  | w :: ws, s => stepEnds w s (ends ws s)

/-- Does a pattern match a text? -/
def accepts (ws : List Wildcard) (s : Text) : Bool :=
  (ends ws s).headD false

/-- Does the pattern that a text names match another text? -/
def textMatches (pattern s : Text) : Bool :=
  Wildcard.accepts (ofText pattern) s

/-! ## Deciding is matching -/

theorem tail_ends (ws : List Wildcard) (c : Char) (s : Text) :
    (ends ws (c :: s)).tail = ends ws s := by
  induction ws with
  | nil => rfl
  | cons w ws ih =>
      show stepEnds w s (ends ws (c :: s)).tail = stepEnds w s (ends ws s)
      rw [ih]

theorem accepts_nil_iff (s : Text) : Wildcard.accepts [] s = true ↔ s = [] := by
  cases s <;> simp [Wildcard.accepts, ends, emptyEnds]

theorem accepts_one {w : Wildcard} (h : w ≠ .star) (ws : List Wildcard) (c : Char) (s : Text) :
    Wildcard.accepts (w :: ws) (c :: s) = (w.admits c && Wildcard.accepts ws s) := by
  simp [Wildcard.accepts, ends, stepEnds, h, tail_ends]

theorem accepts_one_nil {w : Wildcard} (h : w ≠ .star) (ws : List Wildcard) :
    Wildcard.accepts (w :: ws) [] = false := by
  simp [Wildcard.accepts, ends, stepEnds, h]

theorem accepts_star_nil (ws : List Wildcard) :
    Wildcard.accepts (.star :: ws) [] = Wildcard.accepts ws [] := by
  simp [Wildcard.accepts, ends, stepEnds]

theorem accepts_star_cons (ws : List Wildcard) (c : Char) (s : Text) :
    Wildcard.accepts (.star :: ws) (c :: s) =
      (Wildcard.accepts ws (c :: s) || Wildcard.accepts (.star :: ws) s) := by
  simp [Wildcard.accepts, ends, stepEnds, tail_ends]

theorem ne_star_of_admits {w : Wildcard} {c : Char} (h : w.admits c = true) : w ≠ .star := by
  rintro rfl
  simp [admits] at h

theorem accepts_of_star {ws : List Wildcard} {s : Text} (h : Wildcard.accepts ws s = true)
    (before : Text) : Wildcard.accepts (.star :: ws) (before ++ s) = true := by
  induction before with
  | nil => cases s <;> simp_all [accepts_star_nil, accepts_star_cons]
  | cons c before ih => simp [accepts_star_cons, ih]

/-- The decision procedure decides the relation. -/
theorem accepts_iff (ws : List Wildcard) (s : Text) :
    Wildcard.accepts ws s = true ↔ Matches ws s := by
  constructor
  · intro h
    induction ws generalizing s with
    | nil => rw [(accepts_nil_iff s).1 h]; exact .nil
    | cons w ws ih =>
        by_cases hw : w = .star
        · subst hw
          induction s with
          | nil => exact .star [] (ih [] (by rwa [accepts_star_nil] at h))
          | cons c s ihs =>
              rw [accepts_star_cons, Bool.or_eq_true] at h
              rcases h with h | h
              · exact .star [] (ih _ h)
              · generalize hp : Wildcard.star :: ws = p at ihs h
                cases ihs h with
                | nil => simp at hp
                | one hc =>
                  simp only [List.cons.injEq] at hp
                  exact absurd hp.1.symm (ne_star_of_admits hc)
                | star before rest =>
                    simp only [List.cons.injEq, true_and] at hp
                    subst hp
                    exact .star (c :: before) rest
        · cases s with
          | nil => simp [accepts_one_nil hw] at h
          | cons c s =>
              rw [accepts_one hw, Bool.and_eq_true] at h
              exact .one h.1 (ih s h.2)
  · intro h
    induction h with
    | nil => exact (accepts_nil_iff []).2 rfl
    | one hc _ ih => rw [accepts_one (ne_star_of_admits hc), hc, ih]; rfl
    | star before _ ih => exact accepts_of_star ih before

end Wildcard

end SolidityLint
