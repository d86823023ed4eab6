import SolidityLint.Text.Digit
import SolidityLint.Text.NameTable
import SolidityLint.Text.Range

/-!
# Names of characters

A character can be referred to by its name.  Most names stand in a table, where the case of their
letters does not count.  The name of a Han character ends in its number and that of a Hangul
syllable in its sound, and both are written in capital letters.
-/

namespace SolidityLint.Text

/-! ## The table -/

/-- Does a table go on with a name behind the name `current`?  Both are given with the last
character first, and `isWhole` tells whether `current` is complete. -/
def tableHolds (name current : Text) (isWhole : Bool) : Text → Bool
  | [] => isWhole && current == name
  | c :: table =>
      if c.isLower then
        (isWhole && current == name) ||
          tableHolds name (current.drop (c.toNat - 'a'.toNat)) false table
      else tableHolds name (c :: current) true table

/-- Is a name in the table of character names? -/
def isTableName (name : Text) : Bool :=
  tableHolds (name.map Char.toUpper).reverse [] false characterNames

/-! ## Names that follow from the character -/

/-- The ranges of the numbers of Han characters. -/
def hanRanges : List (Nat × Nat) :=
  [(0x3400, 0x4DBF), (0x4E00, 0x9FFF), (0x20000, 0x2A6DF), (0x2A700, 0x2B738), (0x2B740, 0x2B81D),
   (0x2B820, 0x2CEA1), (0x2CEB0, 0x2EBE0), (0x30000, 0x3134A)]

/-- Is a text the number of a Han character, in four or five hexadecimal digits? -/
def isHanNumber (digits : Text) : Bool :=
  (digits.length == 4 || digits.length == 5) && digits.all (fun c => isHexDigit c && !c.isLower) &&
    inRanges hanRanges (ofDigits 16 digits)

/-- The sounds that a Hangul syllable starts with, one of which is none. -/
def initialSounds : List Text :=
  ["G", "GG", "N", "D", "DD", "R", "M", "B", "BB", "S", "SS", "", "J", "JJ", "C", "K", "T", "P",
    "H"].map String.toList

/-- The vowels of Hangul syllables. -/
def vowels : List Text :=
  ["A", "AE", "YA", "YAE", "EO", "E", "YEO", "YE", "O", "WA", "WAE", "OE", "YO", "U", "WEO", "WE",
    "WI", "YU", "EU", "YI", "I"].map String.toList

/-- The sounds that a Hangul syllable ends with, one of which is none. -/
def finalSounds : List Text :=
  ["", "G", "GG", "GS", "N", "NJ", "NH", "D", "L", "LG", "LM", "LB", "LS", "LT", "LP", "LH", "M",
    "B", "BS", "S", "SS", "NG", "J", "C", "K", "T", "P", "H"].map String.toList

/-- Is a text the sound of a Hangul syllable? -/
def isSyllable (sound : Text) : Bool :=
  initialSounds.any fun first =>
    (dropPrefix? first sound).any fun afterFirst =>
      vowels.any fun vowel => (dropPrefix? vowel afterFirst).any finalSounds.contains

/-- Is a text the name of a character? -/
def isCharacterName (name : Text) : Bool :=
  match dropPrefix? "CJK UNIFIED IDEOGRAPH-".toList name with
  | some digits => isHanNumber digits
  | none => (dropPrefix? "HANGUL SYLLABLE ".toList name).any isSyllable || isTableName name

end SolidityLint.Text
