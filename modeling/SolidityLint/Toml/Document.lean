import SolidityLint.Toml.Value

/-!
# Documents

A document is a sequence of lines: fields, headers that open a table, and headers that add a table
to a list.  A table may be opened once; the tables that a key with several names leads through may
not be opened after the header they stand under; what a value in brackets holds may not be changed
at all.
-/

namespace SolidityLint.Toml

/-- What is known of a document up to one of its lines. -/
structure Document where
  /-- The tables read so far. -/
  root : Table
  /-- The table that the last header opened. -/
  header : Key
  /-- The tables that may not be opened again. -/
  opened : List Key
  /-- The tables that may not be opened once the next header is read. -/
  passed : List Key
  /-- The lists and tables that were written in brackets. -/
  frozen : List Key

namespace Document

/-- The document before its first line. -/
def empty : Document :=
  ⟨[], [], [], [], []⟩

/-- A change that is refused if it fails. -/
def accepted {α : Type} : Option α → Except Fault α
  | some a => .ok a
  | none => refuse

/-- The document once another header is read: what was passed may not be opened any more. -/
def closeSection (d : Document) : Document :=
  { d with opened := d.passed ++ d.opened, passed := [] }

/-- Opens a table. -/
def openTable (d : Document) (k : Key) : Except Fault Document :=
  if d.opened.contains k || covers d.frozen k then refuse
  else do
    let root ← accepted (changeAt true k some d.root)
    return { d with root, header := k, opened := k :: d.opened }

/-- Adds a table to a list.  What was known of the tables within the element before it does not
hold for the new one. -/
def addTable (d : Document) (k : Key) : Except Fault Document :=
  if covers d.frozen k then refuse
  else do
    let root ← accepted (changeAt true k.dropLast (addElement (k.getLastD [])) d.root)
    let isOutside (other : Key) : Bool := !k.isPrefixOf other
    return { d with
      root
      header := k
      opened := k :: d.opened.filter isOutside
      frozen := d.frozen.filter isOutside }

/-- The tables that a field with several names leads through. -/
def tablesOnWay (d : Document) (k : Key) : List Key :=
  (List.range (k.length - 1)).map fun n => d.header ++ k.take (n + 1)

/-- Adds a field to the table that the last header opened. -/
def addFieldAt (d : Document) (k : Key) (v : Value) : Except Fault Document :=
  let parent := d.header ++ k.dropLast
  if (d.tablesOnWay k).any d.opened.contains || covers d.frozen parent then refuse
  else do
    let root ← accepted (changeAt true parent (addField (k.getLastD []) v) d.root)
    return { d with
      root
      passed := d.tablesOnWay k ++ d.passed
      frozen := if isContainer v then (d.header ++ k) :: d.frozen else d.frozen }

/-! ## Lines -/

/-- Reads a header after its opening brackets. -/
def headerLine (closing : Text) (change : Document → Key → Except Fault Document) (d : Document) :
    Reader Document := fun s => do
  let (k, rest) ← key (skipBlanks s)
  let d ← change d.closeSection k
  match Text.dropPrefix? closing rest with
  | some rest => return (d, rest)
  | none => refuse

/-- Reads what stands on a line before a comment. -/
def statement (d : Document) : Reader Document
  | '[' :: '[' :: s => headerLine [']', ']'] addTable d s
  | '[' :: s => headerLine [']'] openTable d s
  | c :: s =>
      if startsKey c then do
        let ((k, v), rest) ← fieldOf value (c :: s)
        return (← d.addFieldAt k v, rest)
      else .ok (d, c :: s)
  | [] => .ok (d, [])

/-- Reads lines up to the end of a document; `fuel` bounds their number. -/
def linesWithin : Nat → Document → Text → Except Fault Document
  | 0, _, _ => refuse
  | fuel + 1, d, s => do
      let (d, rest) ← d.statement (skipBlanks s)
      match ← skipComment (skipBlanks rest) with
      | [] => return d
      | '\n' :: rest => linesWithin fuel d rest
      | _ => refuse

/-- A text with every carriage return before a line feed left out. -/
def withoutReturns : Text → Text
  | '\r' :: '\n' :: s => '\n' :: withoutReturns s
  | c :: s => c :: withoutReturns s
  | [] => []

/-- The table that a text describes. -/
def read (s : Text) : Except Fault Table :=
  let s := withoutReturns s
  (linesWithin (s.length + 1) empty s).map (·.root)

end Document

end SolidityLint.Toml
