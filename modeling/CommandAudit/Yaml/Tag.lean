/-!
# Tags of YAML values

A tag says what a node stands for. It is written in full, by a short form, or not at all; a plain
scalar without a tag gets one from its form alone, by the rules below. A scalar may be quoted and
still ask for the tag of its form; then a line break at its end does not matter.
-/

namespace CommandAudit.Yaml

/-- What a node stands for. -/
inductive Tag
  | null
  | bool
  | int
  | float
  | text
  | binary
  | time
  | sequence
  | mapping
  | set
  | orderedMapping
  | pairs
  /-- The key under which other mappings are merged. -/
  | merge
  /-- The key of a default value. -/
  | default
  /-- Any other tag. -/
  | unknown (name : String)
  deriving DecidableEq, Repr

/-- What the tags of the language itself start with. -/
def coreTagStart : String :=
  "tag:yaml.org,2002:"

/-- The tags of the language itself. -/
def coreTags : List (String × Tag) :=
  [("null", .null), ("bool", .bool), ("int", .int), ("float", .float), ("str", .text),
    ("binary", .binary), ("timestamp", .time), ("seq", .sequence), ("map", .mapping),
    ("set", .set), ("omap", .orderedMapping), ("pairs", .pairs), ("merge", .merge),
    ("value", .default)]

/-- The tag with the given full name. -/
def Tag.ofName (s : String) : Tag :=
  ((coreTags.find? fun t => coreTagStart ++ t.1 = s).map Prod.snd).getD (.unknown s)

/-! ## The form of numbers -/

/-- Removes a sign at the start. -/
def dropSign : List Char → List Char
  | c :: cs => if c == '+' || c == '-' then cs else c :: cs
  | [] => []

/-- Whether `c` is a digit or an underscore. -/
def isDigitOrUnderscore (c : Char) : Bool :=
  c.isDigit || c == '_'

/-- A digit, and then digits and underscores. -/
def isDigitRun (cs : List Char) : Bool :=
  cs.head?.any Char.isDigit && cs.all isDigitOrUnderscore

/-- Nothing, or an exponent with a sign. -/
def isExponent : List Char → Bool
  | [] => true
  | e :: sign :: digits =>
    (e == 'e' || e == 'E') && (sign == '+' || sign == '-') && !digits.isEmpty &&
      digits.all Char.isDigit
  | _ => false

/-- One or two digits below sixty. -/
def isSixtieth : List Char → Bool
  | [d] => d.isDigit
  | [c, d] => '0' ≤ c && c ≤ '5' && d.isDigit
  | _ => false

/-- A number in base sixty: digits, and then groups below sixty, each after a colon. -/
def isSexagesimal (cs : List Char) : Bool :=
  match cs.splitOn ':' with
  | first :: group :: groups => isDigitRun first && (group :: groups).all isSixtieth
  | _ => false

/-- Whether a plain scalar has the form of a number with a point. -/
def isFloatForm (cs : List Char) : Bool :=
  let unsigned := dropSign cs
  let whole := unsigned.takeWhile (· != '.')
  match unsigned.dropWhile (· != '.') with
  | _ :: fraction =>
    let exponent := fraction.dropWhile isDigitOrUnderscore
    let decimal := isDigitRun whole && isExponent exponent
    let bare := whole.isEmpty && cs.head? == some '.' && fraction.head?.any Char.isDigit &&
      isExponent exponent
    let sexagesimal := isSexagesimal whole && exponent.isEmpty
    let infinite := whole.isEmpty && ["inf", "Inf", "INF"].contains (String.ofList fraction)
    let undefined := cs.head? == some '.' &&
      ["nan", "NaN", "NAN"].contains (String.ofList fraction)
    decimal || bare || sexagesimal || infinite || undefined
  | [] => false

/-- Whether all characters satisfy `p` or are underscores, and there is one. -/
def isRunOf (p : Char → Bool) (cs : List Char) : Bool :=
  !cs.isEmpty && cs.all fun c => p c || c == '_'

/-- Whether a plain scalar has the form of an integer: binary, octal, hexadecimal, decimal or in
base sixty. -/
def isIntForm (cs : List Char) : Bool :=
  match dropSign cs with
  | ['0'] => true
  | '0' :: 'b' :: digits => isRunOf (fun c => c == '0' || c == '1') digits
  | '0' :: 'x' :: digits =>
    isRunOf (fun c => c.isDigit || ('a' ≤ c && c ≤ 'f') || ('A' ≤ c && c ≤ 'F')) digits
  | '0' :: digits => isRunOf (fun c => '0' ≤ c && c ≤ '7') digits
  | cs => isDigitRun cs || isSexagesimal cs

/-! ## The form of times -/

/-- The written parts of a date and, if there is one, of a time. -/
structure TimeParts where
  /-- The digits of the year. -/
  year : List Char
  /-- The digits of the month. -/
  month : List Char
  /-- The digits of the day. -/
  day : List Char
  /-- Hour, minute and second. -/
  clock : Option (List Char × List Char × List Char) := none
  /-- The digits after the point. -/
  fraction : List Char := []
  /-- Universal time is named. -/
  universal : Bool := false
  /-- Sign, hours and minutes of the distance from universal time. -/
  offset : Option (Char × List Char × List Char) := none

/-- Reads between `least` and `most` digits. -/
def takeDigits? (least most : Nat) (cs : List Char) : Option (List Char × List Char) :=
  let digits := (cs.take most).takeWhile Char.isDigit
  if least ≤ digits.length then some (digits, cs.drop digits.length) else none

/-- Reads the character `c`. -/
def takeChar? (c : Char) (cs : List Char) : Option (List Char) :=
  if cs.head? = some c then some cs.tail else none

/-- Reads the distance from universal time at the end of a text. -/
def takeZone? (parts : TimeParts) (cs : List Char) : Option TimeParts := do
  match cs.dropWhile fun c => c == ' ' || c == '\t' with
  | [] => if cs.isEmpty then some parts else none
  | ['Z'] => some { parts with universal := true }
  | sign :: rest =>
    if sign == '+' || sign == '-' then do
      let (hours, rest) ← takeDigits? 1 2 rest
      match rest with
      | [] => some { parts with offset := some (sign, hours, []) }
      | _ =>
        let (minutes, rest) ← takeDigits? 2 2 (← takeChar? ':' rest)
        if rest.isEmpty then some { parts with offset := some (sign, hours, minutes) } else none
    else none

/-- Reads the time of a day at the end of a text, with what stands in front of it. -/
def takeClock? (parts : TimeParts) (cs : List Char) : Option TimeParts := do
  let blanks := cs.takeWhile fun c => c == ' ' || c == '\t'
  let rest ←
    if blanks.isEmpty then (takeChar? 'T' cs <|> takeChar? 't' cs)
    else some (cs.drop blanks.length)
  let (hour, rest) ← takeDigits? 1 2 rest
  let (minute, rest) ← takeDigits? 2 2 (← takeChar? ':' rest)
  let (second, rest) ← takeDigits? 2 2 (← takeChar? ':' rest)
  let parts := { parts with clock := some (hour, minute, second) }
  match takeChar? '.' rest with
  | some rest =>
    takeZone? { parts with fraction := rest.takeWhile Char.isDigit } (rest.dropWhile Char.isDigit)
  | none => takeZone? parts rest

/-- The parts of a date or a time. -/
def timeParts? (cs : List Char) : Option TimeParts := do
  let (year, rest) ← takeDigits? 4 4 cs
  let (month, rest) ← takeDigits? 1 2 (← takeChar? '-' rest)
  let (day, rest) ← takeDigits? 1 2 (← takeChar? '-' rest)
  let parts : TimeParts := { year, month, day }
  if rest.isEmpty then some parts else takeClock? parts rest

/-- Whether a plain scalar has the form of a time; a date alone needs two digits for month and
day. -/
def isTimeForm (cs : List Char) : Bool :=
  match timeParts? cs with
  | some parts => parts.clock.isSome || cs.length == 10
  | none => false

/-! ## Plain scalars -/

/-- The words for truth values, in lower case. -/
def boolWords : List (String × Bool) :=
  [("yes", true), ("no", false), ("true", true), ("false", false), ("on", true), ("off", false)]

/-- Whether a word is written in lower case, in upper case or with one capital. -/
def hasUsualCase (word s : String) : Bool :=
  s == word || s == word.toUpper || s == word.capitalize

/-- Removes a newline at the end. -/
def dropFinalBreak (cs : List Char) : List Char :=
  if cs.getLast? = some '\n' then cs.dropLast else cs

/-- The tag of a scalar by its form. A scalar that is a single sign of the language has a tag of its
own, which stands for nothing. -/
def plainTag (s : String) : Tag :=
  let cs := dropFinalBreak s.toList
  let word := String.ofList cs
  if s = "\n" then .text
  else if boolWords.any fun w => hasUsualCase w.1 word then .bool
  else if isFloatForm cs then .float
  else if isIntForm cs then .int
  else if word = "<<" then .merge
  else if word = "" || word = "~" || hasUsualCase "null" word then .null
  else if isTimeForm cs then .time
  else if word = "=" then .default
  else if word = "!" || word = "&" || word = "*" then .unknown (coreTagStart ++ "yaml")
  else .text

end CommandAudit.Yaml
