import CommandAudit.Text.Integer
import CommandAudit.Value
import CommandAudit.Yaml.Error
import CommandAudit.Yaml.Tag

/-!
# Numbers, times and bytes in YAML

The values of scalars that are tagged as numbers, times or bytes. A tag may be given to any scalar,
so every reader has to refuse what it cannot read. Numbers may have blanks around them, a sign, and
the digits of any script; in base sixty this holds for every part of them.
-/

namespace CommandAudit.Yaml

/-! ## Integers -/

/-- A number in base sixty from its digits, the highest first. -/
def fromSixties (digits : List Int) : Int :=
  digits.foldl (fun acc d => 60 * acc + d) 0

/-- The value of a scalar without underscores and without its sign. -/
def unsignedInt? (cs : List Char) : Option Int :=
  match cs with
  | '0' :: 'b' :: digits => integerIn? 2 'b' digits
  | '0' :: 'x' :: digits => integerIn? 16 'x' digits
  | '0' :: _ => integerIn? 8 'o' cs
  | _ =>
    if cs.contains ':' then ((cs.splitOn ':').mapM integer?).map fromSixties
    else integer? cs

/-- The value of a scalar tagged as an integer. -/
def readInt (text : String) : Except YamlError Int :=
  let cs := text.toList.filter (· != '_')
  let negative := cs.head? = some '-'
  match cs, dropSign cs with
  | [], _ | _, [] => .error .emptyNumber
  | _, unsigned =>
    match unsignedInt? unsigned with
    | some n => .ok (if negative then -n else n)
    | none => .error .outOfRange

/-! ## Decimal numbers -/

/-- A decimal number `digits · 10 ^ exponent`. -/
structure Decimal where
  /-- The digits. -/
  digits : Nat
  /-- The power of ten. -/
  exponent : Int
  deriving Repr

/-- The nearest double-precision number. Numbers far outside its range are not expanded. -/
def Decimal.toBinary64 (negative : Bool) (d : Decimal) : Binary64 :=
  let size : Int := (Nat.toDigits 10 d.digits).length + d.exponent
  if d.digits = 0 ∨ size < -400 then .ofRatio negative 0 1
  else if 400 < size then .infinite negative
  else .ofDecimal negative d.digits d.exponent

/-- A character with a digit of any script replaced by the ASCII digit of the same value. -/
def plainDigit (c : Char) : Char :=
  match decimalDigit? c with
  | some d => Char.ofNat ('0'.toNat + d)
  | none => c

/-- The exponent at the end of a decimal number. -/
def exponent? : List Char → Option Int
  | [] => some 0
  | c :: cs => if c == 'e' then signed? (digitsIn? 10) cs else none

/-- A decimal number with an optional point and an optional exponent. -/
def decimal? (cs : List Char) : Option Decimal :=
  let whole := cs.takeWhile Char.isDigit
  let rest := cs.dropWhile Char.isDigit
  let (fraction, rest) :=
    match rest with
    | '.' :: after => (after.takeWhile Char.isDigit, after.dropWhile Char.isDigit)
    | _ => ([], rest)
  match digitsIn? 10 (whole ++ fraction), exponent? rest with
  | some digits, some e => some ⟨digits, e - fraction.length⟩
  | _, _ => none

/-- The number written in a text in lower case: a decimal number, or a word for a special value. -/
def real? (cs : List Char) : Option Binary64 :=
  let cs := (trimWhere isPadding cs).map plainDigit
  let negative := decide (cs.head? = some '-')
  let unsigned := dropSign cs
  let word := String.ofList unsigned
  if word = "inf" ∨ word = "infinity" then some (.infinite negative)
  else if word = "nan" then some .nan
  else (decimal? unsigned).map (Decimal.toBinary64 negative)

/-- The sum of digits in base sixty, the lowest first; every step is rounded. `weight` is that of
the first digit. It must not be too large for a double-precision number. -/
def sumSixties (acc : Binary64) (weight : Nat) : List Binary64 → Except YamlError Binary64
  | [] => .ok acc
  | digit :: rest =>
    let factor := Binary64.ofInt weight
    if factor.isFinite then sumSixties (acc.add (digit.mul factor)) (60 * weight) rest
    else .error .overflow

/-- The value of a number without its sign. -/
def unsignedReal (cs : List Char) : Except YamlError Binary64 :=
  match (cs.splitOn ':').mapM real? with
  | none => .error .outOfRange
  | some [x] => .ok x
  | some digits => sumSixties (.ofInt 0) 1 digits.reverse

/-- The value of a scalar tagged as a number with a point. All undefined numbers written with a
point are one and the same; any other comes from the given origin. -/
def readFloat (origin : Nat) (text : String) : Except YamlError Value := do
  let cs := (text.toList.filter (· != '_')).map Char.toLower
  let negative := decide (cs.head? = some '-')
  let unsigned := dropSign cs
  if cs.isEmpty then .error .emptyNumber
  else if unsigned = ".inf".toList then .ok (.real (.infinite negative))
  else if unsigned = ".nan".toList then .ok (.undefined 0)
  else
    let x ← unsignedReal unsigned
    .ok (.ofReal origin (if negative then x.neg else x))

/-! ## Times -/

/-- The value of decimal digits; nothing counts as zero. -/
def digitsValue (cs : List Char) : Nat :=
  (digitsIn? 10 cs).getD 0

/-- The distance from universal time in minutes. -/
def TimeParts.offsetMinutes (p : TimeParts) : Option Int :=
  match p.offset with
  | some (sign, hours, minutes) =>
    let n : Int := 60 * digitsValue hours + digitsValue minutes
    some (if sign == '-' then -n else n)
  | none => if p.universal then some 0 else none

/-- The time of the day. -/
def TimeParts.dayTime? (p : TimeParts) : Option DayTime :=
  p.clock.map fun (hour, minute, second) =>
    let fraction := p.fraction.take 6
    { hour := digitsValue hour
      minute := digitsValue minute
      second := digitsValue second
      fraction := digitsValue (fraction ++ List.replicate (6 - fraction.length) '0')
      offset := p.offsetMinutes }

/-- The value of a scalar tagged as a time: a date, and perhaps a time of the day. -/
def readTime (text : String) : Except YamlError (Date × Option DayTime) :=
  match timeParts? (dropFinalBreak text.toList) with
  | none => .error .malformedTime
  | some parts =>
    let date : Date := ⟨digitsValue parts.year, digitsValue parts.month, digitsValue parts.day⟩
    let time := parts.dayTime?
    if date.isValid && time.all DayTime.isValid then .ok (date, time) else .error .outOfRange

/-! ## Bytes -/

/-- The value of a character in base sixty-four. -/
def base64Digit? (c : Char) : Option Nat :=
  if 'A' ≤ c ∧ c ≤ 'Z' then some (c.toNat - 'A'.toNat)
  else if 'a' ≤ c ∧ c ≤ 'z' then some (c.toNat - 'a'.toNat + 26)
  else if c.isDigit then some (c.toNat - '0'.toNat + 52)
  else if c == '+' then some 62
  else if c == '/' then some 63
  else none

/-- Reads characters in groups of four. `place` counts the characters of the present group, `bits`
holds the bits not yet written and `pads` the equal signs met. Other characters are skipped. -/
def base64From (place bits pads : Nat) (acc : List UInt8) : List Char → Option (List UInt8)
  | [] => if place = 0 then some acc.reverse else none
  | c :: cs =>
    if c == '=' then
      if 2 ≤ place ∧ 4 ≤ place + pads + 1 then some acc.reverse
      else base64From place bits (pads + 1) acc cs
    else
      match base64Digit? c with
      | none => base64From place bits pads acc cs
      | some d =>
        match place with
        | 0 => base64From 1 d 0 acc cs
        | 1 => base64From 2 (d % 16) 0 ((bits * 4 + d / 16).toUInt8 :: acc) cs
        | 2 => base64From 3 (d % 4) 0 ((bits * 16 + d / 4).toUInt8 :: acc) cs
        | _ => base64From 0 0 0 ((bits * 64 + d).toUInt8 :: acc) cs

/-- The value of a scalar tagged as bytes. -/
def readBinary (text : String) : Except YamlError (List UInt8) :=
  if text.toList.all fun c => c.toNat < 0x80 then
    match base64From 0 0 0 [] text.toList with
    | some bytes => .ok bytes
    | none => .error .badTag
  else .error .badTag

end CommandAudit.Yaml
