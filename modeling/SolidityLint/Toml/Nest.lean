import SolidityLint.Toml.Key

/-!
# Tables within tables

A key with several names leads through tables, which are created on the way if they are missing.
The way may also lead into the last element of a list of tables.
-/

namespace SolidityLint.Toml

/-- Changes the table that a key leads to.  The change fails where the way leads to something
that is not a table; `throughLists` says whether it may lead into lists. -/
def changeAt (throughLists : Bool) : Key → (Table → Option Table) → Table → Option Table
  | [], change, t => change t
  | name :: names, change, t =>
      match t.get? name with
      | none => (changeAt throughLists names change []).map fun sub => t.put name (.table sub)
      | some (.table sub) =>
          (changeAt throughLists names change sub).map fun sub => t.put name (.table sub)
      | some (.list elements) =>
          match throughLists, elements.getLast? with
          | true, some (.table sub) =>
              (changeAt throughLists names change sub).map fun sub =>
                t.put name (.list (elements.dropLast ++ [.table sub]))
          | _, _ => none
      | some _ => none

/-- Adds a field to a table that lacks it. -/
def addField (name : Text) (value : Value) (t : Table) : Option Table :=
  match t.get? name with
  | none => some (t.put name value)
  | some _ => none

/-- Adds an empty table to a list of a table; a list that is missing is created. -/
def addElement (name : Text) (t : Table) : Option Table :=
  match t.get? name with
  | none => some (t.put name (.list [.table []]))
  | some (.list elements) => some (t.put name (.list (elements ++ [.table []])))
  | some _ => none

/-- Is a value a list or a table? -/
def isContainer : Value → Bool
  | .list _ => true
  | .table _ => true
  | _ => false

/-- Does one of the keys lead to `k` or to something that holds it? -/
def covers (keys : List Key) (k : Key) : Bool :=
  keys.any fun outer => outer.isPrefixOf k

end SolidityLint.Toml
