import DeployOptions.Number.Literal
import DeployOptions.Text.Split

/-! Names of styles, as tags give them, and the form by which tags with one effect match. -/
namespace DeployOptions.Console

/-- Attributes in the order of their canonical form, each with its abbreviation. -/
def styleAttributes : List (String × Option String) := [
  ("bold", some "b"), ("dim", some "d"), ("italic", some "i"), ("underline", some "u"),
  ("blink", none), ("blink2", none), ("reverse", some "r"), ("conceal", some "c"),
  ("strike", some "s"), ("underline2", some "uu"), ("frame", none), ("encircle", none),
  ("overline", some "o")]

def colorNames : List String := [
  "black", "red", "green", "yellow", "blue", "magenta", "cyan", "white", "bright_black",
  "bright_red", "bright_green", "bright_yellow", "bright_blue", "bright_magenta", "bright_cyan",
  "bright_white", "grey0", "gray0", "navy_blue", "dark_blue", "blue3", "blue1", "dark_green",
  "deep_sky_blue4", "dodger_blue3", "dodger_blue2", "green4", "spring_green4", "turquoise4",
  "deep_sky_blue3", "dodger_blue1", "green3", "spring_green3", "dark_cyan", "light_sea_green",
  "deep_sky_blue2", "deep_sky_blue1", "spring_green2", "cyan3", "dark_turquoise", "turquoise2",
  "green1", "spring_green1", "medium_spring_green", "cyan2", "cyan1", "dark_red", "deep_pink4",
  "purple4", "purple3", "blue_violet", "orange4", "grey37", "gray37", "medium_purple4",
  "slate_blue3", "royal_blue1", "chartreuse4", "dark_sea_green4", "pale_turquoise4", "steel_blue",
  "steel_blue3", "cornflower_blue", "chartreuse3", "cadet_blue", "sky_blue3", "steel_blue1",
  "pale_green3", "sea_green3", "aquamarine3", "medium_turquoise", "chartreuse2", "sea_green2",
  "sea_green1", "aquamarine1", "dark_slate_gray2", "dark_magenta", "dark_violet", "purple",
  "light_pink4", "plum4", "medium_purple3", "slate_blue1", "yellow4", "wheat4", "grey53", "gray53",
  "light_slate_grey", "light_slate_gray", "medium_purple", "light_slate_blue", "dark_olive_green3",
  "dark_sea_green", "light_sky_blue3", "sky_blue2", "dark_sea_green3", "dark_slate_gray3",
  "sky_blue1", "chartreuse1", "light_green", "pale_green1", "dark_slate_gray1", "red3",
  "medium_violet_red", "magenta3", "dark_orange3", "indian_red", "hot_pink3", "medium_orchid3",
  "medium_orchid", "medium_purple2", "dark_goldenrod", "light_salmon3", "rosy_brown", "grey63",
  "gray63", "medium_purple1", "gold3", "dark_khaki", "navajo_white3", "grey69", "gray69",
  "light_steel_blue3", "light_steel_blue", "yellow3", "dark_sea_green2", "light_cyan3",
  "light_sky_blue1", "green_yellow", "dark_olive_green2", "dark_sea_green1", "pale_turquoise1",
  "deep_pink3", "magenta2", "hot_pink2", "orchid", "medium_orchid1", "orange3", "light_pink3",
  "pink3", "plum3", "violet", "light_goldenrod3", "tan", "misty_rose3", "thistle3", "plum2",
  "khaki3", "light_goldenrod2", "light_yellow3", "grey84", "gray84", "light_steel_blue1",
  "yellow2", "dark_olive_green1", "honeydew2", "light_cyan1", "red1", "deep_pink2", "deep_pink1",
  "magenta1", "orange_red1", "indian_red1", "hot_pink", "dark_orange", "salmon1", "light_coral",
  "pale_violet_red1", "orchid2", "orchid1", "orange1", "sandy_brown", "light_salmon1",
  "light_pink1", "pink1", "plum1", "gold1", "navajo_white1", "misty_rose1", "thistle1", "yellow1",
  "light_goldenrod1", "khaki1", "wheat1", "cornsilk1", "grey100", "gray100", "grey3", "gray3",
  "grey7", "gray7", "grey11", "gray11", "grey15", "gray15", "grey19", "gray19", "grey23", "gray23",
  "grey27", "gray27", "grey30", "gray30", "grey35", "gray35", "grey39", "gray39", "grey42",
  "gray42", "grey46", "gray46", "grey50", "gray50", "grey54", "gray54", "grey58", "gray58",
  "grey62", "gray62", "grey66", "gray66", "grey70", "gray70", "grey74", "gray74", "grey78",
  "gray78", "grey82", "gray82", "grey85", "gray85", "grey89", "gray89", "grey93", "gray93"]

/-- A style as far as its name goes: attributes switched on or off, colors, and a link. -/
structure Style where
  attributes : List (String × Bool) := []
  color : Option String := none
  background : Option String := none
  link : Option String := none

/-- Why a name stands for no style: it is no such name, or one of its numbers cannot be read. -/
inductive StyleFault
  | unknown
  | badNumber (fault : Literal.IntegerFault)

private def attribute? (word : String) : Option String :=
  (styleAttributes.find? fun a => a.1 = word ∨ a.2 = some word).map (·.1)

private def inBrackets? (word : String) (s : List Char) : Option (List Char) :=
  let opening := word.toList ++ ['(']
  if opening.isPrefixOf s && s.getLast? = some ')' then some ((s.drop opening.length).dropLast)
  else none

private def checkParts (parts : List (List Char)) : Except StyleFault Unit := do
  let numbers ← parts.mapM fun part => (Literal.integer 10 part).mapError .badNumber
  if numbers.any (255 < ·) then throw .unknown

/-- Whether a word in small letters names a color: by name, by number, by six hexadecimal digits
or by three numbers. -/
def checkColor (word : String) : Except StyleFault Unit :=
  let s := word.toList
  if word = "default" || colorNames.contains word then .ok ()
  else
    match s, inBrackets? "color" s, inBrackets? "rgb" s with
    | '#' :: digits, _, _ =>
      if digits.length = 6 && digits.all fun c => c.isDigit || ('a' ≤ c && c ≤ 'f') then .ok ()
      else .error .unknown
    | _, some number, _ =>
      if !number.isEmpty && number.length ≤ 3 && number.all Char.isDigit then checkParts [number]
      else .error .unknown
    | _, _, some numbers =>
      let parts := Text.fields ',' numbers
      let isPart (c : Char) : Bool := (Text.decimalDigit? c).isSome || c = ','
      if !numbers.isEmpty && numbers.all isPart && parts.length = 3 then checkParts parts
      else .error .unknown
    | _, _, _ => .error .unknown

def Style.ofWords (style : Style) : List String → Except StyleFault Style
  | [] => .ok style
  | given :: r =>
    let word := String.ofList (Text.lower given.toList)
    if word = "on" then
      match r with
      | c :: r => do
        let low := String.ofList (Text.lower c.toList)
        checkColor low
        Style.ofWords { style with background := some low } r
      | [] => .error .unknown
    else if word = "not" then
      match r with
      | a :: r =>
        match attribute? a with
        | some a => Style.ofWords { style with attributes := (a, false) :: style.attributes } r
        | none => .error .unknown
      | [] => .error .unknown
    else if word = "link" then
      match r with
      | l :: r => Style.ofWords { style with link := some l } r
      | [] => .error .unknown
    else
      match attribute? word with
      | some a => Style.ofWords { style with attributes := (a, true) :: style.attributes } r
      | none => do
        checkColor word
        Style.ofWords { style with color := some word } r

def Style.ofName (name : List Char) : Except StyleFault Style :=
  if Text.strip name = "none".toList then .ok {}
  else Style.ofWords {} ((Text.splitWords name).map String.ofList)

def Style.words (style : Style) : List String :=
  let attributes := styleAttributes.flatMap fun (name, _) =>
    match style.attributes.find? (·.1 = name) with
    | some (_, true) => [name]
    | some (_, false) => ["not", name]
    | none => []
  let background := match style.background with
    | some c => ["on", c]
    | none => []
  let link := match style.link with
    | some l => ["link", l]
    | none => []
  attributes ++ style.color.toList ++ background ++ link

/-- The form by which style names are compared: canonical for a style, small letters for any
other name. A name with a number that cannot be read has none. -/
def normalizeStyle (name : List Char) : Except Literal.IntegerFault String :=
  match Style.ofName name with
  | .ok style => .ok (if style.words.isEmpty then "none" else " ".intercalate style.words)
  | .error .unknown => .ok (String.ofList (Text.lower (Text.strip name)))
  | .error (.badNumber fault) => .error fault

def styleFault? (name : List Char) : Option Literal.IntegerFault :=
  match Style.ofName name with
  | .error (.badNumber fault) => some fault
  | _ => none

end DeployOptions.Console
