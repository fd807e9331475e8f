import TokenFormula.Text.Blank
import TokenFormula.Text.Case
import TokenFormula.Text.Digit
import TokenFormula.Text.Split

/-!
# Styles of texts

A style is written as words in any order: attributes, `not` with an attribute, a
colour, `on` with a colour for the background, and `link` with an address. A later
word counts more than an earlier one of its kind.

Results:
* `Style.ofWords?`: the style that words describe, if they describe one.
* `Style.text`: a style as words in a fixed order.
* `styleName`: the name under which two descriptions are the same style.
-/

namespace TokenFormula.Text

/-- The attributes of a style. -/
inductive Attribute where
  | bold | dim | italic | underline | blink | fastBlink | reverse | conceal | strike
  | doubleUnderline | frame | encircle | overline
deriving DecidableEq, Repr

namespace Attribute

/-- The attributes in the order in which a style names them. -/
def all : List Attribute :=
  [bold, dim, italic, underline, blink, fastBlink, reverse, conceal, strike, doubleUnderline,
    frame, encircle, overline]

/-- The word for an attribute. -/
def word : Attribute → String
  | bold => "bold"
  | dim => "dim"
  | italic => "italic"
  | underline => "underline"
  | blink => "blink"
  | fastBlink => "blink2"
  | reverse => "reverse"
  | conceal => "conceal"
  | strike => "strike"
  | doubleUnderline => "underline2"
  | frame => "frame"
  | encircle => "encircle"
  | overline => "overline"

/-- The short word for an attribute, if it has one. -/
def short? : Attribute → Option String
  | bold => some "b"
  | dim => some "d"
  | italic => some "i"
  | underline => some "u"
  | reverse => some "r"
  | conceal => some "c"
  | strike => some "s"
  | doubleUnderline => some "uu"
  | overline => some "o"
  | _ => none

/-- The attribute of a word. -/
def ofWord? (s : String) : Option Attribute :=
  all.find? fun a => a.word == s || a.short? == some s

end Attribute

/-! ## Colours -/

/-- The names of colours, several to a line. -/
def colourLines : List String := [
  "aquamarine1 aquamarine3 black blue blue1 blue3 blue_violet bright_black bright_blue",
  "bright_cyan bright_green bright_magenta bright_red bright_white bright_yellow cadet_blue",
  "chartreuse1 chartreuse2 chartreuse3 chartreuse4 cornflower_blue cornsilk1 cyan cyan1 cyan2",
  "cyan3 dark_blue dark_cyan dark_goldenrod dark_green dark_khaki dark_magenta",
  "dark_olive_green1 dark_olive_green2 dark_olive_green3 dark_orange dark_orange3 dark_red",
  "dark_sea_green dark_sea_green1 dark_sea_green2 dark_sea_green3 dark_sea_green4",
  "dark_slate_gray1 dark_slate_gray2 dark_slate_gray3 dark_turquoise dark_violet deep_pink1",
  "deep_pink2 deep_pink3 deep_pink4 deep_sky_blue1 deep_sky_blue2 deep_sky_blue3",
  "deep_sky_blue4 dodger_blue1 dodger_blue2 dodger_blue3 gold1 gold3 gray0 gray100 gray11",
  "gray15 gray19 gray23 gray27 gray3 gray30 gray35 gray37 gray39 gray42 gray46 gray50 gray53",
  "gray54 gray58 gray62 gray63 gray66 gray69 gray7 gray70 gray74 gray78 gray82 gray84 gray85",
  "gray89 gray93 green green1 green3 green4 green_yellow grey0 grey100 grey11 grey15 grey19",
  "grey23 grey27 grey3 grey30 grey35 grey37 grey39 grey42 grey46 grey50 grey53 grey54 grey58",
  "grey62 grey63 grey66 grey69 grey7 grey70 grey74 grey78 grey82 grey84 grey85 grey89 grey93",
  "honeydew2 hot_pink hot_pink2 hot_pink3 indian_red indian_red1 khaki1 khaki3 light_coral",
  "light_cyan1 light_cyan3 light_goldenrod1 light_goldenrod2 light_goldenrod3 light_green",
  "light_pink1 light_pink3 light_pink4 light_salmon1 light_salmon3 light_sea_green",
  "light_sky_blue1 light_sky_blue3 light_slate_blue light_slate_gray light_slate_grey",
  "light_steel_blue light_steel_blue1 light_steel_blue3 light_yellow3 magenta magenta1",
  "magenta2 magenta3 medium_orchid medium_orchid1 medium_orchid3 medium_purple medium_purple1",
  "medium_purple2 medium_purple3 medium_purple4 medium_spring_green medium_turquoise",
  "medium_violet_red misty_rose1 misty_rose3 navajo_white1 navajo_white3 navy_blue orange1",
  "orange3 orange4 orange_red1 orchid orchid1 orchid2 pale_green1 pale_green3 pale_turquoise1",
  "pale_turquoise4 pale_violet_red1 pink1 pink3 plum1 plum2 plum3 plum4 purple purple3 purple4",
  "red red1 red3 rosy_brown royal_blue1 salmon1 sandy_brown sea_green1 sea_green2 sea_green3",
  "sky_blue1 sky_blue2 sky_blue3 slate_blue1 slate_blue3 spring_green1 spring_green2",
  "spring_green3 spring_green4 steel_blue steel_blue1 steel_blue3 tan thistle1 thistle3",
  "turquoise2 turquoise4 violet wheat1 wheat4 white yellow yellow1 yellow2 yellow3 yellow4"]

/-- The names of colours. -/
def colourNames : List String :=
  colourLines.flatMap (splitAt ' ')

/-- A hexadecimal digit in lower case. -/
def isHexDigit (c : Char) : Bool :=
  c.isDigit || ('a' ≤ c && c ≤ 'f')

/-- What stands in brackets behind a name. -/
def bracketed? (name : String) (cs : List Char) : Option (List Char) :=
  let start := name.toList ++ ['(']
  if start.isPrefixOf cs && cs.getLast? = some ')' then some (cs.drop start.length).dropLast
  else none

/-- One of the first two hundred and fifty-six numbers. -/
def isByte (cs : List Char) : Bool :=
  !cs.isEmpty && cs.all isDigit && readDigits 0 cs ≤ 255

/-- A word in lower case is a colour: a name, six hexadecimal digits, or a number
    or three parts in brackets. -/
def isColour (s : String) : Bool :=
  let cs := s.toList
  s == "default" || colourNames.contains s ||
    (match cs with
      | '#' :: ds => ds.length == 6 && ds.all isHexDigit
      | _ => false) ||
    (match bracketed? "color" cs with
      | some ds => ds.length ≤ 3 && ds.all Char.isDigit && isByte ds
      | none => false) ||
    match bracketed? "rgb" cs with
    | some ds => (splitList ',' ds).length == 3 && (splitList ',' ds).all isByte
    | none => false

/-! ## Styles -/

/-- What a style says of a text. -/
structure Style where
  /-- The attributes that are set or taken away, the last first. -/
  attributes : List (Attribute × Bool)
  colour? : Option String
  background? : Option String
  link? : Option String
deriving DecidableEq, Repr

namespace Style

/-- The style that says nothing. -/
def plain : Style := ⟨[], none, none, none⟩

/-- A style with an attribute set or taken away. -/
def withAttribute (a : Attribute) (isSet : Bool) (s : Style) : Style :=
  { s with attributes := (a, isSet) :: s.attributes }

/-- The style that words describe after those that describe `s`, if they describe
    one. -/
def ofWordsFrom? (s : Style) : List String → Option Style
  | [] => some s
  | w :: rest =>
    let word := lower w
    if word = "on" then
      match rest with
      | [] => none
      | next :: rest =>
        if isColour (lower next) then ofWordsFrom? { s with background? := some (lower next) } rest
        else none
    else if word = "not" then
      match rest with
      | [] => none
      | next :: rest =>
        match Attribute.ofWord? next with
        | some a => ofWordsFrom? (s.withAttribute a false) rest
        | none => none
    else if word = "link" then
      match rest with
      | [] => none
      | next :: rest => ofWordsFrom? { s with link? := some next } rest
    else
      match Attribute.ofWord? word with
      | some a => ofWordsFrom? (s.withAttribute a true) rest
      | none => if isColour word then ofWordsFrom? { s with colour? := some word } rest else none

/-- The style that words describe, if they describe one. -/
def ofWords? (ws : List String) : Option Style :=
  if ws = ["none"] then some plain else ofWordsFrom? plain ws

/-- The words for an attribute in a style. -/
def attributeWords (s : Style) (a : Attribute) : List String :=
  match s.attributes.lookup a with
  | none => []
  | some true => [a.word]
  | some false => ["not", a.word]

/-- A style as words in a fixed order. -/
def words (s : Style) : List String :=
  Attribute.all.flatMap s.attributeWords ++ s.colour?.toList ++
    (s.background?.map fun c => ["on", c]).getD [] ++ (s.link?.map fun l => ["link", l]).getD []

/-- A style as a text. -/
def text (s : Style) : String :=
  if s.words.isEmpty then "none" else " ".intercalate s.words

end Style

/-- The words between the blanks of a text. -/
def blankWords (cs : List Char) : List String :=
  ((splitList ' ' (joinBlanks ' ' cs)).filter (!·.isEmpty)).map String.ofList

/-- The name under which two descriptions are the same style. What describes no
    style is the same in upper and lower case. -/
def styleName (cs : List Char) : String :=
  match Style.ofWords? (blankWords cs) with
  | some s => s.text
  | none => lower (String.ofList (trim cs))

end TokenFormula.Text
