import Reckoner.Numeral
import Reckoner.Text.Blank
import Reckoner.Text.Lowercase

/-!
Descriptions of styles, and their normal form. A description names attributes, a colour, a colour of
the background and a link, in any order; the normal form names them in a fixed one, and leaves a
text that is no description as it is but for its case. Two tags belong together if their normal
forms are equal.
-/

namespace Reckoner.Console

/-- The attributes of a style in their order, each with the words for it, the full word first. The
order is that in which the normal form names them. -/
def styleAttributes : List (List String) := [
  ["bold", "b"], ["dim", "d"], ["italic", "i"], ["underline", "u"], ["blink"], ["blink2"],
  ["reverse", "r"], ["conceal", "c"], ["strike", "s"], ["underline2", "uu"], ["frame"],
  ["encircle"], ["overline", "o"]]

def attributeOf? (word : String) : Option String :=
  (styleAttributes.find? (·.contains word)).bind List.head?

def colourNames : List String := (Text.words (String.toList (
  "black red green yellow blue magenta cyan white bright_black bright_red bright_green " ++
  "bright_yellow bright_blue bright_magenta bright_cyan bright_white grey0 gray0 navy_blue " ++
  "dark_blue blue3 blue1 dark_green deep_sky_blue4 dodger_blue3 dodger_blue2 green4 " ++
  "spring_green4 turquoise4 deep_sky_blue3 dodger_blue1 green3 spring_green3 dark_cyan " ++
  "light_sea_green deep_sky_blue2 deep_sky_blue1 spring_green2 cyan3 dark_turquoise " ++
  "turquoise2 green1 spring_green1 medium_spring_green cyan2 cyan1 dark_red deep_pink4 " ++
  "purple4 purple3 blue_violet orange4 grey37 gray37 medium_purple4 slate_blue3 royal_blue1 " ++
  "chartreuse4 dark_sea_green4 pale_turquoise4 steel_blue steel_blue3 cornflower_blue " ++
  "chartreuse3 cadet_blue sky_blue3 steel_blue1 pale_green3 sea_green3 aquamarine3 " ++
  "medium_turquoise chartreuse2 sea_green2 sea_green1 aquamarine1 dark_slate_gray2 " ++
  "dark_magenta dark_violet purple light_pink4 plum4 medium_purple3 slate_blue1 yellow4 " ++
  "wheat4 grey53 gray53 light_slate_grey light_slate_gray medium_purple light_slate_blue " ++
  "dark_olive_green3 dark_sea_green light_sky_blue3 sky_blue2 dark_sea_green3 " ++
  "dark_slate_gray3 sky_blue1 chartreuse1 light_green pale_green1 dark_slate_gray1 red3 " ++
  "medium_violet_red magenta3 dark_orange3 indian_red hot_pink3 medium_orchid3 " ++
  "medium_orchid medium_purple2 dark_goldenrod light_salmon3 rosy_brown grey63 gray63 " ++
  "medium_purple1 gold3 dark_khaki navajo_white3 grey69 gray69 light_steel_blue3 " ++
  "light_steel_blue yellow3 dark_sea_green2 light_cyan3 light_sky_blue1 green_yellow " ++
  "dark_olive_green2 dark_sea_green1 pale_turquoise1 deep_pink3 magenta2 hot_pink2 orchid " ++
  "medium_orchid1 orange3 light_pink3 pink3 plum3 violet light_goldenrod3 tan misty_rose3 " ++
  "thistle3 plum2 khaki3 light_goldenrod2 light_yellow3 grey84 gray84 light_steel_blue1 " ++
  "yellow2 dark_olive_green1 honeydew2 light_cyan1 red1 deep_pink2 deep_pink1 magenta1 " ++
  "orange_red1 indian_red1 hot_pink dark_orange salmon1 light_coral pale_violet_red1 " ++
  "orchid2 orchid1 orange1 sandy_brown light_salmon1 light_pink1 pink1 plum1 gold1 " ++
  "navajo_white1 misty_rose1 thistle1 yellow1 light_goldenrod1 khaki1 wheat1 cornsilk1 " ++
  "grey100 gray100 grey3 gray3 grey7 gray7 grey11 gray11 grey15 gray15 grey19 gray19 grey23 " ++
  "gray23 grey27 gray27 grey30 gray30 grey35 gray35 grey39 gray39 grey42 gray42 grey46 " ++
  "gray46 grey50 gray50 grey54 gray54 grey58 gray58 grey62 gray62 grey66 gray66 grey70 " ++
  "gray70 grey74 gray74 grey78 gray78 grey82 gray82 grey85 gray85 grey89 gray89 grey93 " ++
  "gray93"
  ))).map String.ofList

def splitCommas : List Char → List (List Char)
  | [] => [[]]
  | ',' :: rest => [] :: splitCommas rest
  | c :: rest =>
    match splitCommas rest with
    | first :: others => (c :: first) :: others
    | [] => [[c]]

def isChannel (chars : List Char) : Bool :=
  let digits := Text.trim chars
  !digits.isEmpty && digits.all isDigit && digitsValue digits < 256

def insideBrackets? (start : String) (word : String) : Option (List Char) :=
  if word.startsWith start && word.endsWith ")" then
    some ((word.toList.drop start.length).dropLast)
  else none

/-- Is the word a colour: a name, six hexadecimal digits, a number of a palette, or three
channels? -/
def isColour (word : String) : Bool :=
  word = "default" || colourNames.contains word || isHexadecimal word.toList ||
    ((insideBrackets? "color(" word).any fun number =>
      number.length ≤ 3 && !number.any Text.isBlank && isChannel number) ||
    ((insideBrackets? "rgb(" word).any fun channels =>
      (splitCommas channels).length = 3 && (splitCommas channels).all isChannel)
where
  isHexadecimal : List Char → Bool
    | '#' :: digits =>
      digits.length = 6 && digits.all fun c => isDigit c || ('a' ≤ c && c ≤ 'f')
    | _ => false

structure Style where
  /-- The attributes that are set or unset, by their full words. -/
  attributes : List (String × Bool) := []
  colour : Option String := none
  background : Option String := none
  link : Option String := none

/-- Take the words of a description one after the other. Some words need another after them, and a
description that ends before that one is no style. -/
def readStyle (style : Style) : List String → Option Style
  | [] => some style
  | word :: rest =>
    match Text.lowerString word, rest with
    | "on", colour :: rest =>
      let colour := Text.lowerString colour
      if isColour colour then readStyle { style with background := some colour } rest else none
    | "on", [] => none
    | "not", unset :: rest =>
      match attributeOf? unset with
      | some name => readStyle { style with attributes := (name, false) :: style.attributes } rest
      | none => none
    | "not", [] => none
    | "link", link :: rest => readStyle { style with link := some link } rest
    | "link", [] => none
    | lowered, rest =>
      match attributeOf? lowered with
      | some name => readStyle { style with attributes := (name, true) :: style.attributes } rest
      | none =>
        if isColour lowered then readStyle { style with colour := some lowered } rest else none

def Style.words (style : Style) : List String :=
  (styleAttributes.flatMap fun names =>
    match names.head? with
    | none => []
    | some name =>
      match style.attributes.lookup name with
      | none => []
      | some true => [name]
      | some false => ["not", name]) ++
    style.colour.toList ++
    (style.background.map fun colour => ["on", colour]).getD [] ++
    (style.link.map fun link => ["link", link]).getD []

def normalStyle (description : String) : String :=
  let words := (Text.words description.toList).map String.ofList
  match words, readStyle {} words with
  | [], _ | ["none"], _ => "none"
  | _, some style => " ".intercalate style.words
  | _, none => Text.lowerString (String.ofList (Text.trim description.toList))

end Reckoner.Console
