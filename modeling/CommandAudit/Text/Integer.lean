import CommandAudit.Text.Blank
import CommandAudit.Text.DecimalDigit

/-!
# Integers in text

An integer is written as digits, with an optional sign in front; a single underscore may stand
between two digits, and blanks around the whole are ignored. `integerBy?` takes the decimal digits
of all scripts under given rules, `integer?` does so under the usual ones, and `integerIn?` reads
other bases. `Numeral.read` takes ASCII digits only, but is generous with leading zeros and allows a
fraction of zeros. Decimal numerals have a greatest length.
-/

namespace CommandAudit

/-- The greatest number of decimal digits that are read or written. -/
def digitLimit : Nat :=
  4300

/-- The decimal text of an integer, unless it has too many digits. -/
def integerText? (n : Int) : Option String :=
  if n.natAbs < Nat.pow 10 digitLimit then some (toString n) else none

/-- A blank that may stand around a number: the information separators may not. -/
def isPadding (c : Char) : Bool :=
  isBlank c && !(0x1C ≤ c.toNat && c.toNat ≤ 0x1F)

/-! ## Decimal integers in any script -/

/-- Reads digits with single underscores between them; `acc` is the value so far and `afterDigit`
says that the last character was a digit. -/
def digitsFrom? (digit? : Char → Option Nat) (acc : Nat) (afterDigit : Bool) :
    List Char → Option Nat
  | [] => if afterDigit then some acc else none
  | c :: cs =>
    match digit? c with
    | some d => digitsFrom? digit? (acc * 10 + d) true cs
    | none => if c == '_' && afterDigit then digitsFrom? digit? acc false cs else none

/-- Reads an optional sign and what `magnitude?` reads. -/
def signed? (magnitude? : List Char → Option Nat) (cs : List Char) : Option Int :=
  match cs with
  | '-' :: rest => (magnitude? rest).map fun n => -(n : Int)
  | '+' :: rest => (magnitude? rest).map fun n => (n : Int)
  | rest => (magnitude? rest).map fun n => (n : Int)

/-- What may vary in the reading of integers. -/
structure IntegerRules where
  /-- The characters that may stand around an integer. -/
  isPadding : Char → Bool
  /-- The greatest number of digits, if there is one. -/
  limit : Option Nat
  /-- Only blanks may stand around an integer. -/
  isBlank_of_isPadding : ∀ c, isPadding c = true → isBlank c = true

namespace IntegerRules

/-- The usual rules: the information separators do not count as blanks, and numerals have a greatest
length. -/
def usual : IntegerRules where
  isPadding := CommandAudit.isPadding
  limit := some digitLimit
  isBlank_of_isPadding _ h := (Bool.and_eq_true_iff.1 h).1

/-- The most liberal rules: all blanks count, and numerals may have any length. -/
def liberal : IntegerRules where
  isPadding := isBlank
  limit := none
  isBlank_of_isPadding _ h := h

/-- Whether numerals may have `n` digits. -/
def admits (r : IntegerRules) (n : Nat) : Bool :=
  r.limit.all (n ≤ ·)

end IntegerRules

/-- The number of decimal digits in a text. -/
def digitCount (cs : List Char) : Nat :=
  (cs.filter fun c => (decimalDigit? c).isSome).length

/-- The integer written in a text, in the digits of any script. -/
def integerBy? (r : IntegerRules) (cs : List Char) : Option Int :=
  if r.admits (digitCount cs) then
    signed? (digitsFrom? decimalDigit? 0 false) (trimWhere r.isPadding cs)
  else none

/-- The integer written in a text under the usual rules. -/
def integer? (cs : List Char) : Option Int :=
  integerBy? .usual cs

/-! ## Other bases -/

/-- The value of a digit in base sixteen. -/
def hexDigit? (c : Char) : Option Nat :=
  if c.isDigit then some (c.toNat - '0'.toNat)
  else if 'a' ≤ c ∧ c ≤ 'f' then some (c.toNat - 'a'.toNat + 10)
  else if 'A' ≤ c ∧ c ≤ 'F' then some (c.toNat - 'A'.toNat + 10)
  else none

/-- The value of one or more digits in a base up to sixteen; decimal digits may be of any script. -/
def digitsIn? (base : Nat) (cs : List Char) : Option Nat :=
  if cs.isEmpty then none
  else cs.foldl (fun acc c => acc.bind fun a =>
    (decimalDigit? c <|> hexDigit? c).bind fun d =>
      if d < base then some (base * a + d) else none) (some 0)

/-- Removes the letter of a base that follows a zero at the start. -/
def dropBaseMark (letter : Char) (cs : List Char) : List Char :=
  match cs with
  | '0' :: c :: rest => if c == letter || c == letter.toUpper then rest else cs
  | _ => cs

/-- The integer written in a text in the given base, whose letter may stand after a leading zero. -/
def integerIn? (base : Nat) (letter : Char) (cs : List Char) : Option Int :=
  signed? (fun rest => digitsIn? base (dropBaseMark letter rest)) (trimWhere isPadding cs)

/-! ## Numerals of records -/

/-- The outcome of reading a numeral. -/
inductive Numeral
  /-- The text is an integer. -/
  | value (n : Int)
  /-- The text is no integer. -/
  | malformed
  /-- The text starts with more digits than are read. -/
  | tooLong
  deriving DecidableEq, Repr

namespace Numeral

/-- What follows the zeros and underscores after a leading zero; `last` is the character before.
A digit or a minus sign starts the number proper, a point keeps the zero before it, and if nothing
follows, the last character stays. -/
def afterZeros? (last : Char) : List Char → Option (List Char)
  | [] => some [last]
  | c :: cs =>
    if c == '0' || c == '_' then afterZeros? c cs
    else if c.isDigit || c == '-' then some (c :: cs)
    else if c == '.' then some (last :: c :: cs)
    else none

/-- Removes leading zeros; a text that starts with neither a digit nor a minus sign is refused. -/
def dropLeadingZeros? : List Char → Option (List Char)
  | [] => none
  | c :: cs =>
    if c == '0' then afterZeros? c cs
    else if c.isDigit || c == '-' then some (c :: cs)
    else none

/-- Removes a point and the zeros after it, if there are zeros and nothing else. -/
def dropZeroFraction (cs : List Char) : List Char :=
  match cs.dropWhile (· != '.') with
  | _ :: zeros =>
    if !zeros.isEmpty && zeros.all (· == '0') then cs.takeWhile (· != '.') else cs
  | [] => cs

/-- Whether two underscores stand next to each other. -/
def hasDoubleUnderscore : List Char → Bool
  | '_' :: '_' :: _ => true
  | _ :: cs => hasDoubleUnderscore cs
  | [] => false

/-- Removes underscores, provided that each stands alone between two other characters. -/
def dropUnderscores (cs : List Char) : List Char :=
  if cs.head? = some '_' || cs.getLast? = some '_' || hasDoubleUnderscore cs then cs
  else cs.filter (· != '_')

/-- Splits off the sign of a trimmed text: whether it is negative, and the rest. A second sign is
refused. -/
def splitSign? (cs : List Char) : Option (Bool × List Char) :=
  let cs := if cs.head? = some '+' then cs.tail else cs
  match cs with
  | '-' :: rest => if rest.head? = some '-' then none else some (true, rest)
  | rest => some (false, rest)

/-- Whether a plus sign stands directly before a minus sign at the start. -/
def hasMixedSigns : List Char → Bool
  | '+' :: '-' :: _ => true
  | _ => false

/-- The plain form of a numeral: a sign, if it is negative, and digits without leading zeros, where
the text is well formed. -/
def plainForm? (cs : List Char) : Option (List Char) :=
  if hasMixedSigns cs then none
  else do
    let (negative, rest) ← splitSign? cs
    let rest := dropUnderscores (dropZeroFraction (← dropLeadingZeros? rest))
    some (if negative then '-' :: rest else rest)

/-- The value of a numeral in plain form. -/
def ofPlain (cs : List Char) : Numeral :=
  let negative := cs.head? = some '-'
  let unsigned := if negative then cs.tail else cs
  let digits := if unsigned.head? = some '0' then ['0'] else unsigned.takeWhile Char.isDigit
  if digitLimit < digits.length + (if negative then 1 else 0) then .tooLong
  else if digits.isEmpty || digits.length < unsigned.length then .malformed
  else
    let n : Int := (digitsFrom? asciiDigit? 0 false digits).getD 0
    .value (if negative then -n else n)

/-- Reads a numeral; blanks around it are ignored. -/
def read (cs : List Char) : Numeral :=
  match plainForm? (trimWhere isPadding cs) with
  | some plain => ofPlain plain
  | none => .malformed

/-- The integer of a numeral. -/
def toInt? : Numeral → Option Int
  | .value n => some n
  | _ => none

end Numeral

end CommandAudit
