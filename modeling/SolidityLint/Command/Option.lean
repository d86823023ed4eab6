import SolidityLint.Text.Basic

/-!
# Options on a command line

Arguments are options and operands in any order.  A long option starts with two hyphens and may
hold its value behind an equals sign; letters behind a single hyphen are short options, the last of
which may be followed by its value.  An option that takes a value takes the next argument if it
does not hold one, whatever that argument is.  Two hyphens alone end the options.
-/

namespace SolidityLint

/-- Why a command line was refused. -/
inductive UsageError where
  | unknownOption (name : Text)
  | missingValue (name : Text)
  | unexpectedValue (name : Text)
  | notANumber (given : Text)
  | negativeNumber (given : Text)
  | noCommand
  | unknownCommand (name : Text)
  | unexpectedOperand (given : Text)
  deriving DecidableEq, Repr

namespace UsageError

/-- The message that reports a refused command line. -/
def message : UsageError → Text
  | unknownOption name => "No such option: ".toList ++ name
  | missingValue name => "Option requires a value: ".toList ++ name
  | unexpectedValue name => "Option takes no value: ".toList ++ name
  | notANumber given => "Not an integer: ".toList ++ given
  | negativeNumber given => "Not in the range x>=0: ".toList ++ given
  | noCommand => "Missing command".toList
  | unknownCommand name => "No such command: ".toList ++ name
  | unexpectedOperand given => "Unexpected argument: ".toList ++ given

end UsageError

/-- An option that a command knows. -/
structure OptionSpec (α : Type) where
  /-- What the option stands for. -/
  key : α
  /-- The long name, without hyphens. -/
  long : Text
  /-- The letter, if it has one. -/
  letter : Option Char
  /-- Does it take a value? -/
  takesValue : Bool

/-- An option that was given, with its value; the value of a flag is empty. -/
structure GivenOption (α : Type) where
  /-- What the option stands for. -/
  key : α
  /-- The value. -/
  value : Text
  deriving DecidableEq, Repr

/-- What one argument gives: options, and perhaps an option whose value is the next argument. -/
structure ArgumentReading (α : Type) where
  /-- The options that are complete. -/
  given : List (GivenOption α)
  /-- The option that still lacks its value. -/
  pending : Option α

/-- The options and operands of a command line. -/
structure Arguments (α : Type) where
  /-- The options, in the order in which they were given. -/
  given : List (GivenOption α)
  /-- The operands. -/
  operands : List Text

namespace Arguments

variable {α : Type}

/-- Reads a long option without its hyphens. -/
def readLong (specs : List (OptionSpec α)) (body : Text) : Except UsageError (ArgumentReading α) :=
  let name := body.takeWhile (· ≠ '=')
  match specs.find? fun s => s.long == name with
  | none => .error (.unknownOption ('-' :: '-' :: name))
  | some spec =>
      match body.dropWhile (· ≠ '='), spec.takesValue with
      | [], false => .ok ⟨[⟨spec.key, []⟩], none⟩
      | [], true => .ok ⟨[], some spec.key⟩
      | _ :: value, true => .ok ⟨[⟨spec.key, value⟩], none⟩
      | _ :: _, false => .error (.unexpectedValue ('-' :: '-' :: name))

/-- Reads short options without their hyphen. -/
def readLetters (specs : List (OptionSpec α)) : Text → Except UsageError (ArgumentReading α)
  | [] => .ok ⟨[], none⟩
  | c :: cs =>
      match specs.find? fun s => s.letter == some c with
      | none => .error (.unknownOption ['-', c])
      | some spec =>
          if spec.takesValue then
            match cs with
            | [] => .ok ⟨[], some spec.key⟩
            | value => .ok ⟨[⟨spec.key, value⟩], none⟩
          else (readLetters specs cs).map fun r => { r with given := ⟨spec.key, []⟩ :: r.given }

/-- Reads an argument that is an option; nothing if it is an operand. -/
def readOption (specs : List (OptionSpec α)) :
    Text → Option (Except UsageError (ArgumentReading α))
  | '-' :: '-' :: body => some (readLong specs body)
  | '-' :: c :: cs => some (readLetters specs (c :: cs))
  | _ => none

/-- Reads arguments.  Unless options and operands may be mixed, the first operand ends the
options. -/
def read (specs : List (OptionSpec α)) (mixed : Bool) :
    List Text → Except UsageError (Arguments α)
  | [] => .ok ⟨[], []⟩
  | arg :: args =>
      if arg = ['-', '-'] then .ok ⟨[], args⟩
      else
        match readOption specs arg with
        | some (.error e) => .error e
        | some (.ok r) =>
            match r.pending, args with
            | none, args =>
                (read specs mixed args).map fun rest => { rest with given := r.given ++ rest.given }
            | some key, value :: args =>
                (read specs mixed args).map fun rest =>
                  { rest with given := r.given ++ ⟨key, value⟩ :: rest.given }
            | some _, [] => .error (.missingValue arg)
        | none =>
            if mixed then
              (read specs mixed args).map fun rest => { rest with operands := arg :: rest.operands }
            else .ok ⟨[], arg :: args⟩

variable [DecidableEq α]

/-- Was an option given? -/
def has (a : Arguments α) (key : α) : Bool :=
  a.given.any fun g => g.key = key

/-- The value of an option; of several the last one. -/
def value? (a : Arguments α) (key : α) : Option Text :=
  (a.given.reverse.find? fun g => g.key = key).map (·.value)

end Arguments

end SolidityLint
