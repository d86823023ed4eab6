import SolidityLint.Toml.Moment
import SolidityLint.Toml.Nest
import SolidityLint.Toml.Number

/-!
# Values

A value is a text, a truth value, a number, a moment, a list in square brackets, which may span
lines and hold comments, or a table in curly brackets, which may do neither.  Lists and tables
within each other take up room, a table more than a list, and there is only so much of it.
-/

namespace SolidityLint.Toml

/-- Reads a key, an equals sign and a value. -/
def fieldOf (value : Reader Value) : Reader (Key × Value) := fun s => do
  match ← key s with
  | (k, '=' :: rest) =>
      let (v, rest) ← value (skipBlanks rest)
      return ((k, v), rest)
  | _ => refuse

/-- Reads the elements of a list from the first one on; `fuel` bounds their number. -/
def elementsWithin (value : Reader Value) : Nat → Reader (List Value)
  | 0, _ => refuse
  | fuel + 1, s => do
      match s with
      | ']' :: rest => return ([], rest)
      | _ =>
          let (v, rest) ← value s
          match ← skipLines rest with
          | ']' :: rest => return ([v], rest)
          | ',' :: rest =>
              let (vs, rest) ← elementsWithin value fuel (← skipLines rest)
              return (v :: vs, rest)
          | _ => refuse

/-- Reads a list after its opening bracket. -/
def listOf (value : Reader Value) : Reader Value := fun s => do
  let (vs, rest) ← elementsWithin value (s.length + 1) (← skipLines s)
  return (.list vs, rest)

/-- Reads the fields of a table from the next one on, given those before it and the keys of the
lists and tables among them; `fuel` bounds their number. -/
def fieldsWithin (value : Reader Value) : Nat → Table → List Key → Reader Table
  | 0, _, _, _ => refuse
  | fuel + 1, t, frozen, s => do
      let ((k, v), rest) ← fieldOf value s
      if covers frozen k then refuse
      else
        match changeAt false k.dropLast (addField (k.getLastD []) v) t with
        | none => refuse
        | some t =>
            match skipBlanks rest with
            | '\x7d' :: rest => return (t, rest)
            | ',' :: rest =>
                let frozen := if isContainer v then k :: frozen else frozen
                fieldsWithin value fuel t frozen (skipBlanks rest)
            | _ => refuse

/-- Reads a table after its opening bracket. -/
def tableOf (value : Reader Value) : Reader Value := fun s =>
  match skipBlanks s with
  | '\x7d' :: rest => .ok (.table [], rest)
  | s => (fieldsWithin value (s.length + 1) [] [] s).map fun r => (.table r.1, r.2)

/-- Reads a value that is neither a text nor a list nor a table. -/
def plainValue : Reader Value := fun s => do
  match ← moment? s with
  | some (m, rest) => return (.moment m, rest)
  | none =>
      match ← number? s with
      | some taken => return taken
      | none => refuse

/-- Reads a value that has a certain room for lists and tables within each other. -/
def valueWithin (room : Nat) : Reader Value := fun s =>
  match s with
  | '"' :: '"' :: '"' :: rest => (escapedLines rest).map fun r => (.text r.1, r.2)
  | '"' :: rest => (escapedText rest).map fun r => (.text r.1, r.2)
  | '\'' :: '\'' :: '\'' :: rest => (literalLines rest).map fun r => (.text r.1, r.2)
  | '\'' :: rest => (literalText rest).map fun r => (.text r.1, r.2)
  | 't' :: 'r' :: 'u' :: 'e' :: rest => .ok (.bool true, rest)
  | 'f' :: 'a' :: 'l' :: 's' :: 'e' :: rest => .ok (.bool false, rest)
  | '[' :: rest =>
      match room with
      | inner + 2 => listOf (valueWithin inner) rest
      | _ => .error .tooDeep
  | '\x7b' :: rest =>
      match room with
      | inner + 3 => tableOf (valueWithin inner) rest
      | _ => .error .tooDeep
  | s => plainValue s

/-- The room for lists and tables within each other. -/
def maxRoom : Nat := 980

/-- Reads a value. -/
def value : Reader Value :=
  valueWithin maxRoom

end SolidityLint.Toml
