import SolidityLint.Edit.Basic

/-!
# Applying edits

A list of edits is applied to a text in one sweep: what lies between two edits is copied, and a
cursor remembers where the previous edit ended.  An edit that starts before the cursor overlaps
an earlier one, and the sweep stops there.
-/

namespace SolidityLint

/-- An edit that starts before the end of the edit before it. -/
structure Overlap where
  /-- The edit that starts too early. -/
  edit : Edit
  /-- The end of the edit before it. -/
  cursor : Int
  deriving DecidableEq, Repr

namespace Overlap

/-- The message that reports the overlap. -/
def message (o : Overlap) : Text :=
  "Fix at ".toList ++ o.edit.range.describe ++
    " starts before the end of the previous fix at offset ".toList ++ Text.ofInt o.cursor

end Overlap

/-- A text after some edits. -/
structure Patch where
  /-- Was any edit applied? -/
  changed : Bool
  /-- The text after the edits. -/
  output : Text
  deriving DecidableEq, Repr

namespace Edit

/-- Applies the edits to what lies after `cursor`. -/
def sweep (source : Text) (cursor : Int) : List Edit → Except Overlap Text
  | [] => .ok (source.sliceFrom cursor)
  | e :: es =>
      if e.range.start < cursor then .error ⟨e, cursor⟩
      else
        (sweep source e.range.stop es).map fun tail =>
          source.slice cursor e.range.start ++ e.text ++ tail

/-- Applies a list of edits to a text, from the first to the last. -/
def applyAll (source : Text) (edits : List Edit) : Except Overlap Patch :=
  (sweep source 0 edits).map fun output => ⟨!edits.isEmpty, output⟩

end Edit

end SolidityLint
