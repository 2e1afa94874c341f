import CommandAudit.Text.Blank
import CommandAudit.Text.Integer
import CommandAudit.Text.Lowercase

/-!
# Names of styles

A style is named by words: attributes, each of which may be negated, a colour, a colour of the
background and a link. Two names that ask for the same style have the same normal form; a name that
is no style is only put into lower case. A colour given by three components, one of which is no
number, is an error.
-/

namespace CommandAudit

/-- The attributes of a style in the order of its normal form, with their short names. -/
def styleAttributes : List (String × List String) :=
  [("bold", ["b"]), ("dim", ["d"]), ("italic", ["i"]), ("underline", ["u"]), ("blink", []),
   ("blink2", []), ("reverse", ["r"]), ("conceal", ["c"]), ("strike", ["s"]),
   ("underline2", ["uu"]), ("frame", []), ("encircle", []), ("overline", ["o"])]

/-- The names of colours. -/
def colourNames : List String :=
  ["black", "red", "green", "yellow", "blue", "magenta", "cyan", "white", "bright_black",
   "bright_red", "bright_green", "bright_yellow", "bright_blue", "bright_magenta", "bright_cyan",
   "bright_white", "grey0", "gray0", "navy_blue", "dark_blue", "blue3", "blue1", "dark_green",
   "deep_sky_blue4", "dodger_blue3", "dodger_blue2", "green4", "spring_green4", "turquoise4",
   "deep_sky_blue3", "dodger_blue1", "green3", "spring_green3", "dark_cyan", "light_sea_green",
   "deep_sky_blue2", "deep_sky_blue1", "spring_green2", "cyan3", "dark_turquoise", "turquoise2",
   "green1", "spring_green1", "medium_spring_green", "cyan2", "cyan1", "dark_red", "deep_pink4",
   "purple4", "purple3", "blue_violet", "orange4", "grey37", "gray37", "medium_purple4",
   "slate_blue3", "royal_blue1", "chartreuse4", "dark_sea_green4", "pale_turquoise4",
   "steel_blue", "steel_blue3", "cornflower_blue", "chartreuse3", "cadet_blue", "sky_blue3",
   "steel_blue1", "pale_green3", "sea_green3", "aquamarine3", "medium_turquoise", "chartreuse2",
   "sea_green2", "sea_green1", "aquamarine1", "dark_slate_gray2", "dark_magenta", "dark_violet",
   "purple", "light_pink4", "plum4", "medium_purple3", "slate_blue1", "yellow4", "wheat4",
   "grey53", "gray53", "light_slate_grey", "light_slate_gray", "medium_purple",
   "light_slate_blue", "dark_olive_green3", "dark_sea_green", "light_sky_blue3", "sky_blue2",
   "dark_sea_green3", "dark_slate_gray3", "sky_blue1", "chartreuse1", "light_green",
   "pale_green1", "dark_slate_gray1", "red3", "medium_violet_red", "magenta3", "dark_orange3",
   "indian_red", "hot_pink3", "medium_orchid3", "medium_orchid", "medium_purple2",
   "dark_goldenrod", "light_salmon3", "rosy_brown", "grey63", "gray63", "medium_purple1", "gold3",
   "dark_khaki", "navajo_white3", "grey69", "gray69", "light_steel_blue3", "light_steel_blue",
   "yellow3", "dark_sea_green2", "light_cyan3", "light_sky_blue1", "green_yellow",
   "dark_olive_green2", "dark_sea_green1", "pale_turquoise1", "deep_pink3", "magenta2",
   "hot_pink2", "orchid", "medium_orchid1", "orange3", "light_pink3", "pink3", "plum3", "violet",
   "light_goldenrod3", "tan", "misty_rose3", "thistle3", "plum2", "khaki3", "light_goldenrod2",
   "light_yellow3", "grey84", "gray84", "light_steel_blue1", "yellow2", "dark_olive_green1",
   "honeydew2", "light_cyan1", "red1", "deep_pink2", "deep_pink1", "magenta1", "orange_red1",
   "indian_red1", "hot_pink", "dark_orange", "salmon1", "light_coral", "pale_violet_red1",
   "orchid2", "orchid1", "orange1", "sandy_brown", "light_salmon1", "light_pink1", "pink1",
   "plum1", "gold1", "navajo_white1", "misty_rose1", "thistle1", "yellow1", "light_goldenrod1",
   "khaki1", "wheat1", "cornsilk1", "grey100", "gray100", "grey3", "gray3", "grey7", "gray7",
   "grey11", "gray11", "grey15", "gray15", "grey19", "gray19", "grey23", "gray23", "grey27",
   "gray27", "grey30", "gray30", "grey35", "gray35", "grey39", "gray39", "grey42", "gray42",
   "grey46", "gray46", "grey50", "gray50", "grey54", "gray54", "grey58", "gray58", "grey62",
   "gray62", "grey66", "gray66", "grey70", "gray70", "grey74", "gray74", "grey78", "gray78",
   "grey82", "gray82", "grey85", "gray85", "grey89", "gray89", "grey93", "gray93"]

/-- The attribute that a word names. -/
def attribute? (word : String) : Option String :=
  (styleAttributes.find? fun a => a.1 = word || a.2.contains word).map Prod.fst

/-- What a word is among the colours. -/
inductive ColourWord
  /-- A colour. -/
  | colour
  /-- Something else. -/
  | other
  /-- Three components of which one is no number. -/
  | incomplete
  deriving DecidableEq, Repr

/-- The text between the given start and a closing parenthesis at the end. -/
def insideCall? (start : String) (cs : List Char) : Option (List Char) :=
  if start.toList.isPrefixOf cs && cs.getLast? = some ')' then
    some (cs.dropLast.drop start.length)
  else none

/-- Whether the number of a colour in the standard table is given. -/
def isTableNumber (cs : List Char) : Bool :=
  cs.length ≤ 3 && cs.all Char.isDigit && (integer? cs).any (· ≤ 255)

/-- What the components of a colour make of it; they are separated by commas. -/
def ColourWord.ofComponents (cs : List Char) : ColourWord :=
  let components := cs.splitOn ','
  if components.length ≠ 3 || !components.flatten.all fun c => (decimalDigit? c).isSome then .other
  else
    match components.mapM integer? with
    | some numbers => if numbers.all (· ≤ 255) then .colour else .other
    | none => .incomplete

/-- What a word in lower case is: a colour is a name, a number or its three components. -/
def ColourWord.ofWord (word : String) : ColourWord :=
  let cs := word.toList
  let isHex := cs.head? = some '#' && cs.length == 7 &&
    cs.tail.all fun c => c.isDigit || ('a' ≤ c && c ≤ 'f')
  if word = "default" || colourNames.contains word || isHex ||
      (insideCall? "color(" cs).any isTableNumber then .colour
  else ((insideCall? "rgb(" cs).map ofComponents).getD .other

/-- What a style asks for. -/
structure Style where
  /-- The attributes it sets, latest first. -/
  attributes : List (String × Bool) := []
  /-- The colour. -/
  colour : Option String := none
  /-- The colour of the background. -/
  background : Option String := none
  /-- The link. -/
  link : Option String := none
  deriving DecidableEq, Repr

namespace Style

/-- Why words name no style. -/
inductive Fault
  /-- A word is unknown, or one is missing. -/
  | noStyle
  /-- A component of a colour is no number. -/
  | incompleteColour
  deriving DecidableEq, Repr

/-- A colour in lower case. -/
def readColour (word : String) : Except Fault String :=
  let word := lowercase word
  match ColourWord.ofWord word with
  | .colour => .ok word
  | .other => .error .noStyle
  | .incomplete => .error .incompleteColour

/-- Reads the words of a style; `style` holds what was read before. -/
def ofWords (style : Style) : List String → Except Fault Style
  | [] => .ok style
  | word :: rest =>
    let lower := lowercase word
    if lower = "on" then
      match rest with
      | word :: rest => do ofWords { style with background := ← readColour word } rest
      | [] => .error .noStyle
    else if lower = "not" then
      match rest with
      | negated :: rest =>
        match attribute? negated with
        | some a => ofWords { style with attributes := (a, false) :: style.attributes } rest
        | none => .error .noStyle
      | [] => .error .noStyle
    else if lower = "link" then
      match rest with
      | link :: rest => ofWords { style with link := some link } rest
      | [] => .error .noStyle
    else
      match attribute? lower with
      | some a => ofWords { style with attributes := (a, true) :: style.attributes } rest
      | none => do ofWords { style with colour := ← readColour word } rest

/-- The words of a text. -/
def wordsOf (cs : List Char) : List String :=
  ((cs.splitBy fun a b => isBlank a == isBlank b).filter fun run =>
    !run.head?.any isBlank).map String.ofList

/-- Whether a text names a style of which a colour is incomplete. -/
def isIncomplete (cs : List Char) : Bool :=
  match ofWords {} (wordsOf cs) with
  | .error .incompleteColour => true
  | _ => false

/-- The words of the normal form of a style. -/
def toWords (style : Style) : List String :=
  let attributes := styleAttributes.flatMap fun (name, _) =>
    match style.attributes.lookup name with
    | some true => [name]
    | some false => ["not", name]
    | none => []
  attributes ++ style.colour.toList ++
    (style.background.elim [] fun colour => ["on", colour]) ++
    (style.link.elim [] fun link => ["link", link])

/-- The normal form of the name of a style. -/
def normalName (name : List Char) : Except Fault String :=
  let words := wordsOf name
  if words = ["none"] then .ok "none"
  else
    match ofWords {} words with
    | .ok style =>
      let words := style.toWords
      .ok (if words.isEmpty then "none" else String.intercalate " " words)
    | .error .noStyle => .ok (lowercase (String.ofList (trim name)))
    | .error .incompleteColour => .error .incompleteColour

end Style

end CommandAudit
