import SolidityLint.Console.Literal.Token
import SolidityLint.Text.Letter

/-!
# Literals in tags

A tag whose name starts with an at sign may hold a parameter, which must be a literal: a number, a
quoted text, a truth value, or a sequence, a set or a table of literals.  It may be a name with
such a sequence in parentheses behind it, or without one.
-/

namespace SolidityLint.Console.Literal

/-! ## Kinds -/

/-- What matters about an expression where it stands inside another one. -/
inductive Kind where
  /-- A number without a sign; whether it is real tells if it may stand before another one. -/
  | number (isReal : Bool)
  /-- A real number with a sign. -/
  | signed
  /-- Anything else that may be an element of a set or a key of a table. -/
  | constant
  /-- A literal that may not. -/
  | mutableValue
  /-- The name of the empty set, which is no literal by itself. -/
  | setName
  deriving DecidableEq, Repr

namespace Kind

/-- Is an expression a literal? -/
def isValue (k : Kind) : Bool :=
  k != .setName

/-- May an expression be an element of a set or a key of a table? -/
def mayBeKey (k : Kind) : Bool :=
  k.isValue && k != .mutableValue

/-- The kind of an expression with a sign before it. -/
def withSign? : Kind → Option Kind
  | .number true => some .signed
  | .number false => some .constant
  | _ => none

/-- The kind of the sum of two expressions: a real and an imaginary number. -/
def plus? : Kind → Kind → Option Kind
  | .number true, .number false | .signed, .number false => some .constant
  | _, _ => none

end Kind

/-- An expression that was taken from the start of a list of tokens. -/
structure Taken where
  /-- Its kind. -/
  kind : Kind
  /-- What follows it. -/
  rest : List Token
  deriving DecidableEq, Repr

/-! ## Expressions -/

/-- What follows quoted texts, which hold bytes all of them or none. -/
def afterQuotations? (isBytes : Bool) : List Token → Option (List Token)
  | .quotation other :: ts => if other = isBytes then afterQuotations? isBytes ts else none
  | ts => some ts

/-- Takes the pair of brackets that makes the name of the empty set a literal. -/
def Taken.called (taken : Taken) : Taken :=
  match taken.kind, taken.rest with
  | .setName, .opening .round :: .closing .round :: ts => ⟨.mutableValue, ts⟩
  | _, _ => taken

/-- What follows a closing bracket, perhaps with a comma before it. -/
def afterEnd? (b : Bracket) : List Token → Option (List Token)
  | .closing other :: ts | .comma :: .closing other :: ts => if other = b then some ts else none
  | _ => none

mutual

/-- Takes an expression without a sign; `fuel` bounds the depth and the length. -/
def atom? : Nat → List Token → Option Taken
  | 0, _ => none
  | fuel + 1, ts =>
      match ts with
      | .number isReal :: ts => some ⟨.number isReal, ts⟩
      | .constant :: ts => some ⟨.constant, ts⟩
      | .quotation isBytes :: ts => (afterQuotations? isBytes ts).map (⟨.constant, ·⟩)
      | .setName :: ts => some (Taken.called ⟨.setName, ts⟩)
      | .opening .round :: .closing .round :: ts => some ⟨.constant, ts⟩
      | .opening .round :: ts => do
          let first ← expression? fuel ts
          match first.rest with
          | .closing .round :: ts => some (Taken.called ⟨first.kind, ts⟩)
          | ts => if first.kind.isValue then elements? .round first.kind.mayBeKey fuel ts else none
      | .opening .curly :: .closing .curly :: ts => some ⟨.mutableValue, ts⟩
      | .opening .curly :: ts => do
          let first ← (expression? fuel ts).filter (·.kind.mayBeKey)
          match first.rest with
          | .colon :: ts => do
              let value ← (expression? fuel ts).filter (·.kind.isValue)
              fields? fuel value.rest
          | ts => do
              let set ← (elements? .curly true fuel ts).filter (·.kind.mayBeKey)
              some ⟨.mutableValue, set.rest⟩
      | _ => none

/-- Takes an expression: one without a sign, a number with a sign, or the sum or the difference of a
real and an imaginary number. -/
def expression? : Nat → List Token → Option Taken
  | 0, _ => none
  | fuel + 1, ts => do
      let first ← match ts with
        | .plus :: ts | .minus :: ts => do
            let taken ← atom? fuel ts
            taken.kind.withSign?.map (⟨·, taken.rest⟩)
        | ts => atom? fuel ts
      match first.rest with
      | .plus :: ts | .minus :: ts => do
          let second ← atom? fuel ts
          (first.kind.plus? second.kind).map (⟨·, second.rest⟩)
      | _ => some first

/-- Takes the elements of a sequence or a set behind the first one, up to and with the bracket that
ends it.  The whole may be an element of a set if all elements may. -/
def elements? (b : Bracket) (mayBeKey : Bool) : Nat → List Token → Option Taken
  | 0, _ => none
  | fuel + 1, ts =>
      match afterEnd? b ts, ts with
      | some rest, _ => some ⟨if mayBeKey then .constant else .mutableValue, rest⟩
      | none, .comma :: ts => do
          let next ← (expression? fuel ts).filter (·.kind.isValue)
          elements? b (mayBeKey && next.kind.mayBeKey) fuel next.rest
      | none, _ => none

/-- Takes the fields of a table behind the first one, up to and with the bracket that ends it. -/
def fields? : Nat → List Token → Option Taken
  | 0, _ => none
  | fuel + 1, ts =>
      match afterEnd? .curly ts, ts with
      | some rest, _ => some ⟨.mutableValue, rest⟩
      | none, .comma :: ts => do
          let key ← (expression? fuel ts).filter (·.kind.mayBeKey)
          match key.rest with
          | .colon :: ts => do
              let value ← (expression? fuel ts).filter (·.kind.isValue)
              fields? fuel value.rest
          | _ => none
      | none, _ => none

end

/-! ## Literals -/

/-- Tokens without the ends of lines around them. -/
def withoutOuterLineEnds (ts : List Token) : List Token :=
  ((ts.dropWhile (· = .lineEnd)).reverse.dropWhile (· = .lineEnd)).reverse

/-- Are tokens a literal, or several with commas between them?  They are if they are one once they
stand in brackets. -/
def areLiteral (ts : List Token) : Bool :=
  !ts.isEmpty &&
    (atom? (3 * ts.length + 9) (.opening .round :: ts ++ [.closing .round])).any fun taken =>
      taken.kind.isValue && taken.rest.isEmpty

/-- Is a text a literal, or several with commas between them? -/
def isLiteral (s : Text) : Bool :=
  (tokens? s).any fun ts => areLiteral (withoutOuterLineEnds ts)

/-! ## Parameters -/

/-- May `c` stand in the name before a sequence in parentheses? -/
def isNameChar (c : Char) : Bool :=
  Text.isLetterOrNumber c || c == '_' || c == '.'

/-- The part of a parameter that must be a literal: all of it, or what stands in parentheses behind
a name, or nothing if it is a name alone. -/
def checkedPart (parameter : Text) : Option Text :=
  let s := parameter.strip
  match s.dropWhile isNameChar with
  | [] => none
  | '(' :: inside =>
      if inside.getLast? == some ')' && !inside.contains '\n' then some ('(' :: inside) else some s
  | _ => some s

/-- Can a parameter be read? -/
def isParameter (parameter : Text) : Bool :=
  match checkedPart parameter with
  | none => true
  | some s => isLiteral s

end SolidityLint.Console.Literal
