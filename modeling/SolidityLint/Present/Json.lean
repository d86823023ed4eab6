import SolidityLint.Present.Row
import SolidityLint.Present.Summary
import SolidityLint.Text.Quoted

/-!
# Reports as JSON

This presentation is a JSON list with one object for each file.  Texts are written in printable
ASCII: every other character is escaped, and one beyond U+FFFF becomes a pair of surrogates.
Everything but an empty list is spread over lines, indented by two blanks.
-/

namespace SolidityLint.Json

/-! ## Texts -/

/-- The escape of a 16-bit unit. -/
def unitEscape (n : Nat) : Text :=
  '\\' :: 'u' :: Text.ofNatHex 4 n

/-- A character inside a JSON text. -/
def escapeChar (c : Char) : Text :=
  if c = '"' then ['\\', '"']
  else if c = '\\' then ['\\', '\\']
  else if c = '\n' then ['\\', 'n']
  else if c = '\r' then ['\\', 'r']
  else if c = '\t' then ['\\', 't']
  else if c = '\x08' then ['\\', 'b']
  else if c = '\x0c' then ['\\', 'f']
  else if 0x20 ≤ c.toNat ∧ c.toNat < 0x7F then [c]
  else if c.toNat < 0x10000 then unitEscape c.toNat
  else
    unitEscape (0xD800 + (c.toNat - 0x10000) / 0x400) ++
      unitEscape (0xDC00 + (c.toNat - 0x10000) % 0x400)

/-- A text in quotes. -/
def quoted (s : Text) : Text :=
  '"' :: s.flatMap escapeChar ++ ['"']

/-! ## Values -/

/-- A JSON value. -/
inductive Item where
  | int (n : Int)
  | bool (b : Bool)
  | text (s : Text)
  | list (items : List Item)
  | object (fields : List (Text × Item))

namespace Item

/-- A natural number. -/
def nat (n : Nat) : Item := int n

/-- The start of a line at a depth. -/
def newLine (depth : Nat) : Text :=
  '\n' :: List.replicate (2 * depth) ' '

mutual

/-- A value as it is written at a depth. -/
def render (depth : Nat) : Item → Text
  | int n => Text.ofInt n
  | bool true => "true".toList
  | bool false => "false".toList
  | text s => quoted s
  | list [] => "[]".toList
  | list (item :: items) =>
      '[' :: newLine (depth + 1) ++ render (depth + 1) item ++ renderItems (depth + 1) items ++
        newLine depth ++ [']']
  | object [] => ['\x7b', '\x7d']
  | object ((name, item) :: fields) =>
      '\x7b' :: newLine (depth + 1) ++ quoted name ++ ": ".toList ++ render (depth + 1) item ++
        renderFields (depth + 1) fields ++ newLine depth ++ ['\x7d']

/-- The remaining elements of a list. -/
def renderItems (depth : Nat) : List Item → Text
  | [] => []
  | item :: items => ',' :: newLine depth ++ render depth item ++ renderItems depth items

/-- The remaining fields of an object. -/
def renderFields (depth : Nat) : List (Text × Item) → Text
  | [] => []
  | (name, item) :: fields =>
      ',' :: newLine depth ++ quoted name ++ ": ".toList ++ render depth item ++
        renderFields depth fields

end

end Item

/-! ## Reports -/

/-- A problem as an object. -/
def ofRow (r : Row) : Item :=
  let range := r.diagnostic.location
  .object [("ruleId".toList, .text r.diagnostic.rule),
    ("severity".toList, .text r.diagnostic.severity.name),
    ("message".toList, .text r.diagnostic.message), ("line".toList, .nat r.line),
    ("column".toList, .nat r.column), ("range".toList, .list [.int range.start, .int range.stop]),
    ("fixable".toList, .bool r.diagnostic.isFixable)]

/-- A report as an object. -/
def ofReport (r : Report) : Item :=
  let summary := Summary.ofReport r
  .object [("filePath".toList, .text r.path), ("messages".toList, .list (r.rows.map ofRow)),
    ("errorCount".toList, .nat summary.errors), ("warningCount".toList, .nat summary.warnings),
    ("fixableErrorCount".toList, .nat summary.fixableErrors),
    ("fixableWarningCount".toList, .nat summary.fixableWarnings)]

/-- The presentation of some reports. -/
def present (rs : List Report) : Text :=
  (Item.list (rs.map ofReport)).render 0

end SolidityLint.Json
