import SolidityLint.Settings.Value

/-!
# Layers of settings

Settings come in layers, each of which gives some fields a value; of two layers that give a
field a value the later one wins, and a field that is null counts as not given.  Only the tables
of rule levels are merged rule by rule.  Such a table cannot be merged onto a value that is not a
table.
-/

namespace SolidityLint

/-- The fields that settings have. -/
inductive Field where
  | rules
  | excluded
  | extensions
  | lineLength
  | blankLines
  | formatter
  deriving DecidableEq, Repr

namespace Field

/-- The name of a field. -/
def name : Field → Text
  | rules => "rules".toList
  | excluded => "excluded_files".toList
  | extensions => "extensions".toList
  | lineLength => "max_line_length".toList
  | blankLines => "max_empty_lines".toList
  | formatter => "formatter".toList

/-- All fields, in the order in which settings list them. -/
def all : List Field :=
  [rules, excluded, extensions, lineLength, blankLines, formatter]

/-- Is `key` the name of a field? -/
def isName (key : Text) : Bool :=
  all.any fun field => field.name == key

end Field

/-- A table of rule levels was to be merged onto a value that is not a table. -/
inductive MergeError where
  | rulesNotTable
  deriving DecidableEq, Repr

namespace Table

/-- The fields of a table that settings have. -/
def onlyFields (t : Table) : Table :=
  t.filter fun field => Field.isName field.1

/-- A table with one field of a later layer merged onto it. -/
def mergeField (t : Table) (key : Text) : Value → Except MergeError Table
  | .null => .ok t
  | .table levels =>
      if key = Field.rules.name then
        match t.get? key with
        | none => .ok (t.put key (.table levels))
        | some (.table earlier) => .ok (t.put key (.table (Table.putAll earlier levels)))
        | some _ => .error .rulesNotTable
      else .ok (t.put key (.table levels))
  | value => .ok (t.put key value)

/-- A table with a later layer merged onto it. -/
def mergeLayer (t layer : Table) : Except MergeError Table :=
  layer.foldlM (fun t field => t.mergeField field.1 field.2) t

/-- All layers merged, from the first to the last. -/
def merge (layers : List Table) : Except MergeError Table :=
  layers.foldlM mergeLayer []

end Table

end SolidityLint
