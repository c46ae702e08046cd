/-
  Style descriptions.

  A description is a list of words: attributes, each with short forms and a negation, a colour, a
  background and a link.  Two descriptions with the same effect have one normal form, in which the
  attributes stand in a fixed order; a description that cannot be read is its own normal form, in
  small letters.
-/
import SchemaAssist.Number.Reading
import SchemaAssist.Text.Blank
import SchemaAssist.Text.Case
import SchemaAssist.Text.Split

namespace SchemaAssist.Terminal

/-- Attributes in the order of the normal form, each with the words that name it. -/
def attributeWords : List (String × List String) := [
  ("bold", ["bold", "b"]), ("dim", ["dim", "d"]), ("italic", ["italic", "i"]),
  ("underline", ["underline", "u"]), ("blink", ["blink"]), ("blink2", ["blink2"]),
  ("reverse", ["reverse", "r"]), ("conceal", ["conceal", "c"]), ("strike", ["strike", "s"]),
  ("underline2", ["underline2", "uu"]), ("frame", ["frame"]), ("encircle", ["encircle"]),
  ("overline", ["overline", "o"])]

def attribute? (word : String) : Option String :=
  (attributeWords.find? fun a => a.2.contains word).map (·.1)

def colorNames : List String :=
  ["default", "black", "red", "green", "yellow", "blue", "magenta", "cyan", "white", "bright_black",
    "bright_red", "bright_green", "bright_yellow", "bright_blue", "bright_magenta", "bright_cyan",
    "bright_white", "grey0", "gray0", "navy_blue", "dark_blue", "blue3", "blue1", "dark_green",
    "deep_sky_blue4", "dodger_blue3", "dodger_blue2", "green4", "spring_green4", "turquoise4",
    "deep_sky_blue3", "dodger_blue1", "green3", "spring_green3", "dark_cyan", "light_sea_green",
    "deep_sky_blue2", "deep_sky_blue1", "spring_green2", "cyan3", "dark_turquoise", "turquoise2",
    "green1", "spring_green1", "medium_spring_green", "cyan2", "cyan1", "dark_red", "deep_pink4",
    "purple4", "purple3", "blue_violet", "orange4", "grey37", "gray37", "medium_purple4",
    "slate_blue3", "royal_blue1", "chartreuse4", "dark_sea_green4", "pale_turquoise4", "steel_blue",
    "steel_blue3", "cornflower_blue", "chartreuse3", "cadet_blue", "sky_blue3", "steel_blue1",
    "pale_green3", "sea_green3", "aquamarine3", "medium_turquoise", "chartreuse2", "sea_green2",
    "sea_green1", "aquamarine1", "dark_slate_gray2", "dark_magenta", "dark_violet", "purple",
    "light_pink4", "plum4", "medium_purple3", "slate_blue1", "yellow4", "wheat4", "grey53",
      "gray53",
    "light_slate_grey", "light_slate_gray", "medium_purple", "light_slate_blue",
      "dark_olive_green3",
    "dark_sea_green", "light_sky_blue3", "sky_blue2", "dark_sea_green3", "dark_slate_gray3",
    "sky_blue1", "chartreuse1", "light_green", "pale_green1", "dark_slate_gray1", "red3",
    "medium_violet_red", "magenta3", "dark_orange3", "indian_red", "hot_pink3", "medium_orchid3",
    "medium_orchid", "medium_purple2", "dark_goldenrod", "light_salmon3", "rosy_brown", "grey63",
    "gray63", "medium_purple1", "gold3", "dark_khaki", "navajo_white3", "grey69", "gray69",
    "light_steel_blue3", "light_steel_blue", "yellow3", "dark_sea_green2", "light_cyan3",
    "light_sky_blue1", "green_yellow", "dark_olive_green2", "dark_sea_green1", "pale_turquoise1",
    "deep_pink3", "magenta2", "hot_pink2", "orchid", "medium_orchid1", "orange3", "light_pink3",
    "pink3", "plum3", "violet", "light_goldenrod3", "tan", "misty_rose3", "thistle3", "plum2",
    "khaki3", "light_goldenrod2", "light_yellow3", "grey84", "gray84", "light_steel_blue1",
      "yellow2",
    "dark_olive_green1", "honeydew2", "light_cyan1", "red1", "deep_pink2", "deep_pink1", "magenta1",
    "orange_red1", "indian_red1", "hot_pink", "dark_orange", "salmon1", "light_coral",
    "pale_violet_red1", "orchid2", "orchid1", "orange1", "sandy_brown", "light_salmon1",
      "light_pink1",
    "pink1", "plum1", "gold1", "navajo_white1", "misty_rose1", "thistle1", "yellow1",
    "light_goldenrod1", "khaki1", "wheat1", "cornsilk1", "grey100", "gray100"]

def isByteText (s : List Char) : Bool :=
  !s.isEmpty && s.all Char.isDigit && decide (s.length ≤ 3) && decide (Number.natOfDigits s ≤ 255)

/-- What stands between an opening text and the closing bracket. -/
def enclosed? (opening : String) (word : List Char) : Option (List Char) :=
  if opening.toList.isPrefixOf word && word.getLast? == some ')' then
    some ((word.drop opening.length).dropLast)
  else none

/-- Whether a character is a hexadecimal digit in small letters. -/
def isSmallHex (c : Char) : Bool := c.isDigit || (decide ('a' ≤ c) && decide (c ≤ 'f'))

def isColor (word : String) : Bool :=
  let chars := word.toList
  colorNames.contains word ||
    (match chars with
      | '#' :: digits => digits.length == 6 && digits.all isSmallHex
      | _ => false) ||
    (enclosed? "color(" chars).any isByteText ||
    (enclosed? "rgb(" chars).any fun parts =>
      (Text.splitAt ',' parts).length == 3 && (Text.splitAt ',' parts).all isByteText

/-- What a description says. -/
structure Style where
  /-- Attributes that are set or cleared. -/
  attributes : List (String × Bool)
  color : Option String
  background : Option String
  link : Option String
  deriving DecidableEq, Repr

namespace Style

def plain : Style := ⟨[], none, none, none⟩

def put (s : Style) (name : String) (value : Bool) : Style :=
  { s with attributes := (name, value) :: s.attributes.filter (·.1 != name) }

/-- Reads the words of a description, each as written and in small letters. -/
def read (s : Style) : List (String × String) → Option Style
  | [] => some s
  | (_, "on") :: (_, color) :: rest =>
    if isColor color then read { s with background := some color } rest else none
  | (_, "not") :: (_, word) :: rest => do
    let name ← attribute? word
    read (s.put name false) rest
  | (_, "link") :: (target, _) :: rest => read { s with link := some target } rest
  | (_, word) :: rest =>
    match attribute? word with
    | some name => read (s.put name true) rest
    | none => if isColor word then read { s with color := some word } rest else none

def words (s : Style) : List String :=
  (attributeWords.filterMap fun a =>
    (s.attributes.find? (·.1 == a.1)).map fun e => if e.2 then e.1 else "not " ++ e.1) ++
  s.color.toList ++ (s.background.map ("on " ++ ·)).toList ++ (s.link.map ("link " ++ ·)).toList

def render (s : Style) : String :=
  if s.words.isEmpty then "none" else " ".intercalate s.words

end Style

def splitBlanks : List Char → List (List Char)
  | [] => []
  | c :: rest =>
    if Text.isBlank c then splitBlanks rest
    else match rest with
      | [] => [[c]]
      | d :: _ =>
        if Text.isBlank d then [c] :: splitBlanks rest
        else match splitBlanks rest with
          | word :: words => (c :: word) :: words
          | [] => [[c]]

def normalStyle (description : List Char) : String :=
  let lowered := String.ofList (Text.lower (Text.trim description))
  if lowered == "none" then "none"
  else
    let words := (splitBlanks description).map fun w =>
      (String.ofList w, String.ofList (Text.lower w))
    match Style.plain.read words with
    | some s => s.render
    | none => lowered

end SchemaAssist.Terminal
