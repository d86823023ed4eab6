import SolidityLint.Text.Blank

/-!
# Names of pictures

A console shows a picture for its name between two colons.  The name ends at the nearest colon
and holds no blank; a hyphen and the word `emoji` or `text` behind it choose a variant.  A name
that is not known stays as it is, together with both of its colons.
-/

namespace SolidityLint.Console

/-- The pictures that have a name. -/
def pictures : List (Text × Char) :=
  [("100".toList, '💯'), ("smile".toList, '😄'), ("x".toList, '❌')]

/-- The variants of a picture by their words, with the character that chooses them. -/
def variants : List (Text × Char) :=
  [("-emoji".toList, '\ufe0f'), ("-text".toList, '\ufe0e')]

/-- Splits what stands between two colons into the name and the characters of the variant. -/
def splitVariant (body : Text) : Text × Text :=
  match variants.find? fun v => body.endsWith v.1 with
  | some (word, mark) => (body.take (body.length - word.length), [mark])
  | none => (body, [])

/-- The picture that stands between two colons, if its name is known. -/
def picture? (body : Text) : Option Text :=
  let (name, mark) := splitVariant body
  (pictures.lookup (name.map Char.toLower)).map fun c => c :: mark

/-- May `c` stand between two colons? -/
def isNameChar (c : Char) : Bool :=
  c != ':' && !Text.isBlank c

/-- What stands between a colon and the next one, if there is a next one, and the rest. -/
def upToColon? (s : Text) : Option (Text × Text) :=
  match s.dropWhile isNameChar with
  | ':' :: rest => some (s.takeWhile isNameChar, rest)
  | _ => none

theorem length_rest_of_upToColon? {s body rest : Text} (h : upToColon? s = some (body, rest)) :
    rest.length < s.length := by
  simp only [upToColon?] at h
  split at h
  · next r hr =>
    simp only [Option.some.injEq, Prod.mk.injEq] at h
    have h1 := (List.dropWhile_suffix isNameChar (l := s)).length_le
    rw [hr, h.2, List.length_cons] at h1
    omega
  · simp at h

/-- A text with the pictures for their names. -/
def withPictures : Text → Text
  | [] => []
  | ':' :: s =>
      match h : upToColon? s with
      | none => ':' :: withPictures s
      | some (body, rest) =>
          have : rest.length < s.length := length_rest_of_upToColon? h
          (picture? body).getD (':' :: body ++ [':']) ++ withPictures rest
  | c :: s => c :: withPictures s
termination_by s => s.length
decreasing_by all_goals simp_wf <;> omega

end SolidityLint.Console
