import SolidityLint.Console.Wrap
import SolidityLint.Text.Case
import SolidityLint.Text.Digit
import SolidityLint.Text.Numeral

/-!
# Styles in tags

The name of a tag may define a style: attributes that are set or, after the word `not`, cleared, a
colour, a background after the word `on`, and an address after the word `link`.  Two such names
mean the same style if they have one normal form, in which the parts stand in a fixed order and
every attribute has its long name.
-/

namespace SolidityLint.Console

/-- An attribute of a style. -/
inductive Attribute where
  | bold
  | dim
  | italic
  | underline
  | blink
  | blink2
  | reverse
  | conceal
  | strike
  | underline2
  | frame
  | encircle
  | overline
  deriving DecidableEq, Repr

namespace Attribute

/-- The attributes with their names, in the order of the normal form. -/
def names : List (Attribute × Text) :=
  [(bold, "bold".toList), (dim, "dim".toList), (italic, "italic".toList),
    (underline, "underline".toList), (blink, "blink".toList), (blink2, "blink2".toList),
    (reverse, "reverse".toList), (conceal, "conceal".toList), (strike, "strike".toList),
    (underline2, "underline2".toList), (frame, "frame".toList), (encircle, "encircle".toList),
    (overline, "overline".toList)]

/-- The attributes with their short names, where they have one. -/
def shortNames : List (Attribute × Text) :=
  [(bold, "b".toList), (dim, "d".toList), (italic, "i".toList), (underline, "u".toList),
    (reverse, "r".toList), (conceal, "c".toList), (strike, "s".toList), (underline2, "uu".toList),
    (overline, "o".toList)]

/-- The attribute of a name. -/
def ofName? (s : Text) : Option Attribute :=
  ((names ++ shortNames).find? fun a => a.2 == s).map (·.1)

end Attribute

/-- A style that the name of a tag defines. -/
structure TagStyle where
  /-- The attributes that are set or cleared; the last mention of an attribute counts. -/
  attributes : List (Attribute × Bool) := []
  /-- The colour. -/
  color : Option Text := none
  /-- The colour of the background. -/
  background : Option Text := none
  /-- The address. -/
  link : Option Text := none
  deriving DecidableEq, Repr

/-- Why a name defines no style. -/
inductive TagStyleError where
  /-- It is no definition. -/
  | unknown
  /-- A part of a colour is empty where a number is expected. -/
  | emptyNumber
  deriving DecidableEq, Repr

namespace TagStyle

/-! ## Colours -/

/-- The names of colours. -/
def colorNames : List Text :=
  ["default", "black", "red", "green", "yellow", "blue", "magenta", "cyan", "white", "bright_black",
    "bright_red", "bright_green", "bright_yellow", "bright_blue", "bright_magenta",
    "bright_cyan", "bright_white", "grey0", "gray0", "navy_blue", "dark_blue", "blue3", "blue1",
    "dark_green", "deep_sky_blue4", "dodger_blue3", "dodger_blue2", "green4", "spring_green4",
    "turquoise4", "deep_sky_blue3", "dodger_blue1", "green3", "spring_green3", "dark_cyan",
    "light_sea_green", "deep_sky_blue2", "deep_sky_blue1", "spring_green2", "cyan3",
    "dark_turquoise", "turquoise2", "green1", "spring_green1", "medium_spring_green", "cyan2",
    "cyan1", "dark_red", "deep_pink4", "purple4", "purple3", "blue_violet", "orange4", "grey37",
    "gray37", "medium_purple4", "slate_blue3", "royal_blue1", "chartreuse4", "dark_sea_green4",
    "pale_turquoise4", "steel_blue", "steel_blue3", "cornflower_blue", "chartreuse3",
    "cadet_blue", "sky_blue3", "steel_blue1", "pale_green3", "sea_green3", "aquamarine3",
    "medium_turquoise", "chartreuse2", "sea_green2", "sea_green1", "aquamarine1",
    "dark_slate_gray2", "dark_magenta", "dark_violet", "purple", "light_pink4", "plum4",
    "medium_purple3", "slate_blue1", "yellow4", "wheat4", "grey53", "gray53", "light_slate_grey",
    "light_slate_gray", "medium_purple", "light_slate_blue", "dark_olive_green3",
    "dark_sea_green", "light_sky_blue3", "sky_blue2", "dark_sea_green3", "dark_slate_gray3",
    "sky_blue1", "chartreuse1", "light_green", "pale_green1", "dark_slate_gray1", "red3",
    "medium_violet_red", "magenta3", "dark_orange3", "indian_red", "hot_pink3", "medium_orchid3",
    "medium_orchid", "medium_purple2", "dark_goldenrod", "light_salmon3", "rosy_brown", "grey63",
    "gray63", "medium_purple1", "gold3", "dark_khaki", "navajo_white3", "grey69", "gray69",
    "light_steel_blue3", "light_steel_blue", "yellow3", "dark_sea_green2", "light_cyan3",
    "light_sky_blue1", "green_yellow", "dark_olive_green2", "dark_sea_green1", "pale_turquoise1",
    "deep_pink3", "magenta2", "hot_pink2", "orchid", "medium_orchid1", "orange3", "light_pink3",
    "pink3", "plum3", "violet", "light_goldenrod3", "tan", "misty_rose3", "thistle3", "plum2",
    "khaki3", "light_goldenrod2", "light_yellow3", "grey84", "gray84", "light_steel_blue1",
    "yellow2", "dark_olive_green1", "honeydew2", "light_cyan1", "red1", "deep_pink2",
    "deep_pink1", "magenta1", "orange_red1", "indian_red1", "hot_pink", "dark_orange", "salmon1",
    "light_coral", "pale_violet_red1", "orchid2", "orchid1", "orange1", "sandy_brown",
    "light_salmon1", "light_pink1", "pink1", "plum1", "gold1", "navajo_white1", "misty_rose1",
    "thistle1", "yellow1", "light_goldenrod1", "khaki1", "wheat1", "cornsilk1", "grey100",
    "gray100", "grey3", "gray3", "grey7", "gray7", "grey11", "gray11", "grey15", "gray15",
    "grey19", "gray19", "grey23", "gray23", "grey27", "gray27", "grey30", "gray30", "grey35",
    "gray35", "grey39", "gray39", "grey42", "gray42", "grey46", "gray46", "grey50", "gray50",
    "grey54", "gray54", "grey58", "gray58", "grey62", "gray62", "grey66", "gray66", "grey70",
    "gray70", "grey74", "gray74", "grey78", "gray78", "grey82", "gray82", "grey85", "gray85",
    "grey89", "gray89", "grey93", "gray93"].map String.toList

/-- What stands between an opening text and a closing parenthesis. -/
def between? (opening s : Text) : Option Text := do
  let rest ← Text.dropPrefix? opening s
  if rest.getLast? = some ')' then some rest.dropLast else none

/-- Is a text a number sign with six hexadecimal digits? -/
def isHexColor : Text → Bool
  | '#' :: digits => digits.length == 6 && digits.all Text.isHexDigit
  | _ => false

/-- Is a text the number of a colour in parentheses? -/
def isNumberedColor (s : Text) : Bool :=
  match between? "color(".toList s with
  | none => false
  | some digits =>
      digits.all Char.isDigit && digits.length ≤ 3 &&
        (digits.natural?.any fun n => decide (n ≤ 255))

/-- The parts of a colour that is given by its parts in parentheses. -/
def colorParts? (s : Text) : Option (List Text) := do
  let body ← between? "rgb(".toList s
  if body.all fun c => (Text.digitValue? c).isSome || c == ',' then some (Text.splitOn ',' body)
  else none

/-- The colour that a word names, in lower case. -/
def color? (word : Text) : Except TagStyleError Text :=
  let s := word.lowerCase
  if colorNames.contains s || isHexColor s || isNumberedColor s then .ok s
  else
    match colorParts? s with
    | some [r, g, b] =>
        if [r, g, b].any List.isEmpty then .error .emptyNumber
        else if [r, g, b].all fun part => part.natural?.any fun n => decide (n ≤ 255) then .ok s
        else .error .unknown
    | _ => .error .unknown

/-! ## Definitions -/

/-- Reads the words of a definition after a part of it has been read. -/
def ofWords (st : TagStyle) : List Text → Except TagStyleError TagStyle
  | [] => .ok st
  | word :: ws =>
      let name := word.lowerCase
      if name = "on".toList then
        match ws with
        | [] => .error .unknown
        | c :: ws => do ofWords { st with background := some (← color? c) } ws
      else if name = "not".toList then
        match ws with
        | [] => .error .unknown
        | a :: ws =>
            match Attribute.ofName? a with
            | none => .error .unknown
            | some a => ofWords { st with attributes := (a, false) :: st.attributes } ws
      else if name = "link".toList then
        match ws with
        | [] => .error .unknown
        | address :: ws => ofWords { st with link := some address } ws
      else
        match Attribute.ofName? name with
        | some a => ofWords { st with attributes := (a, true) :: st.attributes } ws
        | none => do ofWords { st with color := some (← color? name) } ws

/-- The style that a name defines. -/
def ofName (s : Text) : Except TagStyleError TagStyle :=
  if s.strip = "none".toList then .ok {} else ofWords {} ((Wrap.words s).map Text.strip)

/-- Does a definition hold a colour a part of which is empty? -/
def hasEmptyNumber (s : Text) : Bool :=
  match ofName s with
  | .error .emptyNumber => true
  | _ => false

/-! ## The normal form -/

/-- The words for an attribute, if it is set or cleared. -/
def attributeWords (st : TagStyle) (a : Attribute × Text) : List Text :=
  match st.attributes.lookup a.1 with
  | none => []
  | some true => [a.2]
  | some false => ["not".toList, a.2]

/-- The words of the normal form of a style. -/
def toWords (st : TagStyle) : List Text :=
  Attribute.names.flatMap st.attributeWords ++ st.color.toList ++
    (match st.background with
      | none => []
      | some c => ["on".toList, c]) ++
    (match st.link with
      | none => []
      | some address => ["link".toList, address])

/-- The normal form of a style. -/
def normalForm (st : TagStyle) : Text :=
  match st.toWords with
  | [] => "none".toList
  | ws => Text.join [' '] ws

/-- The normal form of the name of a tag.  Of a name that defines no style neither the blanks
around it nor the case of letters count. -/
def normalName (s : Text) : Except TagStyleError Text :=
  match ofName s with
  | .ok st => .ok st.normalForm
  | .error .unknown => .ok (s.strip.lowerCase)
  | .error .emptyNumber => .error .emptyNumber

end TagStyle

end SolidityLint.Console
