import SolidityLint.Decimal.Shortest
import SolidityLint.Text.Numeral
import SolidityLint.Text.Quoted

/-!
# Values of settings

A settings file or an override gives each field a value: a text, a number, a date, a list, a
table, and so on.  Messages about a value show it: a text as it is, everything else as it would
be written, with the texts inside lists and tables in quotes.  A value that holds an integer of
more than 4300 digits cannot be shown.
-/

namespace SolidityLint

/-- A calendar date. -/
structure Date where
  year : Nat
  month : Nat
  day : Nat
  deriving DecidableEq, Repr

/-- A time of day. -/
structure TimeOfDay where
  hour : Nat
  minute : Nat
  second : Nat
  microsecond : Nat
  deriving DecidableEq, Repr

/-- A date, a time, or both, with or without the minutes by which they are ahead of universal
time. -/
inductive Moment where
  | date (d : Date)
  | time (t : TimeOfDay)
  | dateTime (d : Date) (t : TimeOfDay) (offset : Option Int)
  deriving DecidableEq, Repr

/-- A value of a settings field. -/
inductive Value where
  | null
  | bool (b : Bool)
  | int (n : Int)
  /-- A binary number of 64 bits, by its bits. -/
  | float (bits : UInt64)
  | text (s : Text)
  | moment (m : Moment)
  | list (elements : List Value)
  | table (fields : List (Text × Value))
  deriving Repr

/-- A table of fields, each key at most once, in the order in which they were given. -/
abbrev Table := List (Text × Value)

namespace Table

/-- The table with a field set: a field that is there keeps its place, a new one comes last. -/
def put (t : Table) (key : Text) (value : Value) : Table :=
  match t with
  | [] => [(key, value)]
  | (k, v) :: rest => if k = key then (k, value) :: rest else (k, v) :: put rest key value

/-- The table with all fields of another set. -/
def putAll (t other : Table) : Table :=
  other.foldl (fun t field => t.put field.1 field.2) t

/-- The value of a field. -/
def get? (t : Table) (key : Text) : Option Value :=
  t.lookup key

end Table

/-! ## The text of a moment -/

namespace Moment

/-- A date as year, month and day with hyphens. -/
def dateText (d : Date) : Text :=
  Text.ofNatPadded 4 d.year ++ '-' :: Text.ofNatPadded 2 d.month ++ '-' ::
    Text.ofNatPadded 2 d.day

/-- A time as hour, minute, second and, unless it is zero, fraction. -/
def timeText (t : TimeOfDay) : Text :=
  Text.ofNatPadded 2 t.hour ++ ':' :: Text.ofNatPadded 2 t.minute ++ ':' ::
    Text.ofNatPadded 2 t.second ++
      if t.microsecond = 0 then [] else '.' :: Text.ofNatPadded 6 t.microsecond

/-- An offset from universal time as sign, hours and minutes. -/
def offsetText (minutes : Int) : Text :=
  (if minutes < 0 then '-' else '+') :: Text.ofNatPadded 2 (minutes.natAbs / 60) ++ ':' ::
    Text.ofNatPadded 2 (minutes.natAbs % 60)

/-- A moment as it is shown by itself. -/
def display : Moment → Text
  | date d => dateText d
  | time t => timeText t
  | dateTime d t offset =>
      dateText d ++ ' ' :: timeText t ++ (offset.map offsetText).getD []

/-- Numbers with commas between them. -/
def numbers (ns : List Nat) : Text :=
  Text.join ", ".toList (ns.map Text.ofNat)

/-- The parts of a time that are shown inside a list: seconds and microseconds only if needed. -/
def timeParts (t : TimeOfDay) : List Nat :=
  if t.microsecond ≠ 0 then [t.hour, t.minute, t.second, t.microsecond]
  else if t.second ≠ 0 then [t.hour, t.minute, t.second]
  else [t.hour, t.minute]

/-- An offset from universal time as it is shown inside a list. -/
def quotedOffset (minutes : Int) : Text :=
  if minutes = 0 then "datetime.timezone.utc".toList
  else if 0 < minutes then
    "datetime.timezone(datetime.timedelta(seconds=".toList ++
      Text.ofNat (60 * minutes.natAbs) ++ "))".toList
  else
    "datetime.timezone(datetime.timedelta(days=-1, seconds=".toList ++
      Text.ofNat (86400 - 60 * minutes.natAbs) ++ "))".toList

/-- A moment as it is shown inside a list. -/
def quoted : Moment → Text
  | date d => "datetime.date(".toList ++ numbers [d.year, d.month, d.day] ++ ")".toList
  | time t => "datetime.time(".toList ++ numbers (timeParts t) ++ ")".toList
  | dateTime d t offset =>
      "datetime.datetime(".toList ++ numbers ([d.year, d.month, d.day] ++ timeParts t) ++
        (match offset with
          | none => []
          | some minutes => ", tzinfo=".toList ++ quotedOffset minutes) ++ ")".toList

end Moment

/-! ## The text of a value -/

namespace Value

/-- Numbers have an exponent from 10¹⁶ on and below 10⁻⁴, and always a point or an exponent. -/
def numberLayout : Decimal.Layout where
  leastPosition := -3
  greatestPosition := 16
  exponentDigits := 2
  wholeSuffix := ".0".toList
  nanText := "nan".toList
  infinityText := "inf".toList

mutual

/-- A value as it is shown inside a list or a table. -/
def quoted : Value → Text
  | null => "None".toList
  | bool true => "True".toList
  | bool false => "False".toList
  | int n => Text.ofInt n
  | float bits => Decimal.render numberLayout bits
  | text s => s.quoted
  | moment m => m.quoted
  | list elements => '[' :: quotedElements elements ++ [']']
  | table fields => '\x7b' :: quotedFields fields ++ ['\x7d']

/-- The elements of a list with commas between them. -/
def quotedElements : List Value → Text
  | [] => []
  | [v] => quoted v
  | v :: vs => quoted v ++ ", ".toList ++ quotedElements vs

/-- The fields of a table with commas between them. -/
def quotedFields : List (Text × Value) → Text
  | [] => []
  | [(k, v)] => k.quoted ++ ": ".toList ++ quoted v
  | (k, v) :: fields => k.quoted ++ ": ".toList ++ quoted v ++ ", ".toList ++ quotedFields fields

end

mutual

/-- Can a value be shown?  An integer of more than 4300 digits cannot. -/
def isShowable : Value → Bool
  | int n => decide (n.natAbs < Nat.pow 10 Text.maxDigits)
  | list elements => areShowable elements
  | table fields => areShowableFields fields
  | _ => true

/-- Can all elements of a list be shown? -/
def areShowable : List Value → Bool
  | [] => true
  | v :: vs => isShowable v && areShowable vs

/-- Can all fields of a table be shown? -/
def areShowableFields : List (Text × Value) → Bool
  | [] => true
  | (_, v) :: fields => isShowable v && areShowableFields fields

end

/-- A value as it is shown by itself. -/
def display : Value → Text
  | text s => s
  | moment m => m.display
  | v => v.quoted

end Value

end SolidityLint
