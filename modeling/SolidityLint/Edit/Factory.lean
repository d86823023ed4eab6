import SolidityLint.Edit.Basic

/-!
# Making edits that fit a text

An edit factory knows the length of the text it makes edits for.  Each of its operations checks
that the range given lies within the text and is not reversed, and refuses it otherwise.

* `checked_eq_ok_iff`: a range passes exactly when it lies within the text.
-/

namespace SolidityLint

/-- A range that does not lie within the text an edit is meant for. -/
structure OutOfRange where
  /-- The range refused. -/
  range : Range
  /-- The length of the text. -/
  length : Int
  deriving DecidableEq, Repr

namespace OutOfRange

/-- The message that reports the refusal. -/
def message (e : OutOfRange) : Text :=
  "Invalid fix range ".toList ++ e.range.describe ++ " for source of length ".toList ++
    Text.ofInt e.length

end OutOfRange

/-- Makes edits for texts of one length. -/
structure EditFactory where
  /-- The length of the text that the edits are for. -/
  length : Int
  deriving DecidableEq, Repr

namespace EditFactory

/-- The factory for a given text. -/
def ofText (source : Text) : EditFactory :=
  ⟨source.length⟩

/-- Does the range lie within the text, its ends in order? -/
def Admits (f : EditFactory) (r : Range) : Prop :=
  0 ≤ r.start ∧ r.start ≤ r.stop ∧ r.stop ≤ f.length

instance (f : EditFactory) (r : Range) : Decidable (f.Admits r) :=
  inferInstanceAs (Decidable (_ ∧ _ ∧ _))

/-- The range itself if it lies within the text. -/
def checked (f : EditFactory) (r : Range) : Except OutOfRange Range :=
  if f.Admits r then .ok r else .error ⟨r, f.length⟩

theorem checked_eq_ok_iff {f : EditFactory} {r s : Range} :
    f.checked r = .ok s ↔ f.Admits r ∧ r = s := by
  unfold checked
  split <;> simp_all

/-- An edit made by hand, if its range lies within the text. -/
def validate (f : EditFactory) (e : Edit) : Except OutOfRange Edit :=
  (f.checked e.range).map fun _ => e

/-- Replaces the characters of `r` by `text`. -/
def replace (f : EditFactory) (r : Range) (text : Text) : Except OutOfRange Edit :=
  (f.checked r).map fun r => ⟨r, text⟩

/-- Inserts `text` at the start of `r`. -/
def insertBefore (f : EditFactory) (r : Range) (text : Text) : Except OutOfRange Edit :=
  (f.checked r).map fun r => ⟨⟨r.start, r.start⟩, text⟩

/-- Inserts `text` at the end of `r`. -/
def insertAfter (f : EditFactory) (r : Range) (text : Text) : Except OutOfRange Edit :=
  (f.checked r).map fun r => ⟨⟨r.stop, r.stop⟩, text⟩

/-- Removes the characters of `r`. -/
def remove (f : EditFactory) (r : Range) : Except OutOfRange Edit :=
  f.replace r []

end EditFactory

end SolidityLint
