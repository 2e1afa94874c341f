/-!
# Double-precision numbers

Numbers of the form `± m · 2 ^ e` with a mantissa of 53 bits, and the special values. They are read
from exact ratios by rounding to the nearest number, a tie going to the even mantissa; sums and
products are rounded in the same way. They are written with the fewest decimal digits that read back
as the same number.
-/

namespace CommandAudit

/-- A double-precision number. -/
inductive Binary64
  /-- Not a number. -/
  | nan
  /-- An infinity. -/
  | infinite (negative : Bool)
  /-- The number `± mantissa · 2 ^ exponent`. -/
  | finite (negative : Bool) (mantissa : Nat) (exponent : Int)
  deriving DecidableEq, Repr, Hashable

/-- A power of two. -/
def twoTo (n : Nat) : Nat :=
  Nat.pow 2 n

/-- A power of ten. -/
def tenTo (n : Nat) : Nat :=
  Nat.pow 10 n

namespace Binary64

/-! ## Rounding -/

/-- The quotient rounded to the nearest integer, a tie going to the even one. -/
def roundDiv (num den : Nat) : Nat :=
  let q := num / den
  let r := num % den
  if 2 * r < den then q
  else if den < 2 * r then q + 1
  else if q % 2 == 0 then q else q + 1

/-- The ratio `num / (den · 2 ^ e)` as numerator and denominator. -/
def scaleDown (num den : Nat) (e : Int) : Nat × Nat :=
  if e ≤ 0 then (num * twoTo (-e).toNat, den) else (num, den * twoTo e.toNat)

/-- The exponent for which a positive ratio has a mantissa of 53 bits, but not below the least
exponent. -/
def exponentFor (num den : Nat) : Int :=
  let e : Int := (Nat.log2 num : Int) - Nat.log2 den - 52
  let (n, d) := scaleDown num den e
  max (-1074) (if n < d * twoTo 52 then e - 1 else e)

/-- The number nearest to `± num / den`. -/
def ofRatio (negative : Bool) (num den : Nat) : Binary64 :=
  if num = 0 then .finite negative 0 (-1074)
  else
    let e := exponentFor num den
    let (n, d) := scaleDown num den e
    let m := roundDiv n d
    let (m, e) := if m = twoTo 53 then (twoTo 52, e + 1) else (m, e)
    if 971 < e then .infinite negative else .finite negative m e

/-- The number nearest to `± digits · 10 ^ exponent`. -/
def ofDecimal (negative : Bool) (digits : Nat) (exponent : Int) : Binary64 :=
  if exponent ≤ 0 then ofRatio negative digits (tenTo (-exponent).toNat)
  else ofRatio negative (digits * tenTo exponent.toNat) 1

/-- The number nearest to `± mantissa · 2 ^ exponent`. -/
def ofScaled (negative : Bool) (mantissa : Nat) (exponent : Int) : Binary64 :=
  if 0 ≤ exponent then ofRatio negative (mantissa * twoTo exponent.toNat) 1
  else ofRatio negative mantissa (twoTo (-exponent).toNat)

/-! ## Arithmetic -/

/-- The number nearest to an integer. -/
def ofInt (n : Int) : Binary64 :=
  ofRatio (n < 0) n.natAbs 1

/-- The number with the opposite sign. -/
def neg : Binary64 → Binary64
  | .nan => .nan
  | .infinite negative => .infinite !negative
  | .finite negative m e => .finite (!negative) m e

/-- The product, rounded. Zero times an infinity is undefined. -/
def mul : Binary64 → Binary64 → Binary64
  | .nan, _ | _, .nan => .nan
  | .infinite a, .infinite b => .infinite (a != b)
  | .infinite a, .finite b m _ | .finite a m _, .infinite b =>
    if m = 0 then .nan else .infinite (a != b)
  | .finite a m e, .finite b n f => ofScaled (a != b) (m * n) (e + f)

/-- The multiple of `2 ^ e` that equals `± m · 2 ^ f`, where `e` is not above `f`. -/
def shifted (negative : Bool) (m : Nat) (f e : Int) : Int :=
  let n : Int := m * twoTo (f - e).toNat
  if negative then -n else n

/-- The sum, rounded. A sum of zero is negative only if both parts are, and opposite infinities have
no sum. -/
def add : Binary64 → Binary64 → Binary64
  | .nan, _ | _, .nan => .nan
  | .infinite a, .infinite b => if a = b then .infinite a else .nan
  | .infinite a, .finite .. | .finite .., .infinite a => .infinite a
  | .finite a m e, .finite b n f =>
    let least := min e f
    let sum := shifted a m e least + shifted b n f least
    ofScaled (if sum = 0 then a && b else sum < 0) sum.natAbs least

/-! ## Integers -/

/-- The integer equal to a number, if there is one. -/
def toInt? : Binary64 → Option Int
  | .finite negative m e =>
    let n? : Option Nat :=
      if 0 ≤ e then some (m * twoTo e.toNat)
      else if m % twoTo (-e).toNat = 0 then some (m / twoTo (-e).toNat) else none
    n?.map fun n => if negative then -(n : Int) else n
  | _ => none

/-- Whether a number is neither infinite nor undefined. -/
def isFinite : Binary64 → Bool
  | .finite .. => true
  | _ => false

/-! ## Writing -/

/-- The two numbers `digits · 10 ^ power` next to `m · 2 ^ e` among those with `count` digits, where
the leading digit stands for `10 ^ top`; the nearer one comes first. -/
def nearDecimals (m : Nat) (e top : Int) (count : Nat) : List (Nat × Int) :=
  let power := top - count + 1
  let num := if 0 ≤ e then m * twoTo e.toNat else m
  let den := if 0 ≤ e then 1 else twoTo (-e).toNat
  let (num, den) :=
    if 0 ≤ power then (num, den * tenTo power.toNat) else (num * tenTo (-power).toNat, den)
  let below := num / den
  let nearest := roundDiv num den
  [(nearest, power), (if nearest = below then below + 1 else below, power)]

/-- The power of ten of the leading digit of `m · 2 ^ e`, searched upwards from `k`. -/
def leadingPower (m : Nat) (e : Int) : (fuel : Nat) → (k : Int) → Int
  | 0, k => k
  | fuel + 1, k =>
    let (a, b) : Nat × Nat :=
      (if 0 ≤ e then m * twoTo e.toNat else m, if 0 ≤ e then 1 else twoTo (-e).toNat)
    let reached :=
      if 0 ≤ k + 1 then b * tenTo (k + 1).toNat ≤ a else b ≤ a * tenTo (-(k + 1)).toNat
    if reached then leadingPower m e fuel (k + 1) else k

/-- The fewest digits that read back as the number, with their power of ten. -/
def shortestDecimal (m : Nat) (e : Int) : Nat × Int :=
  let start : Int := ((Nat.log2 m : Int) + e) * 30103 / 100000 - 2
  let top := leadingPower m e 8 start
  let candidates := (List.range 17).flatMap fun i => nearDecimals m e top (i + 1)
  (candidates.find? fun (digits, power) => ofDecimal false digits power = .finite false m e).getD
    (0, 0)

/-- Digits with a point after the first `whole` of them; zeros are added where digits are
missing. -/
def placePoint (digits : List Char) (whole : Int) : List Char :=
  if whole ≤ 0 then '0' :: '.' :: List.replicate (-whole).toNat '0' ++ digits
  else if digits.length ≤ whole.toNat then
    digits ++ List.replicate (whole.toNat - digits.length) '0' ++ ['.', '0']
  else digits.take whole.toNat ++ '.' :: digits.drop whole.toNat

/-- Digits in scientific notation; the exponent has a sign and at least two digits. -/
def scientific (digits : List Char) (exponent : Int) : List Char :=
  let fraction := match digits with
    | d :: rest => if rest.isEmpty then [d] else d :: '.' :: rest
    | [] => []
  let size := Nat.toDigits 10 exponent.natAbs
  fraction ++ ['e', if exponent < 0 then '-' else '+'] ++
    (if size.length < 2 then '0' :: size else size)

/-- The text of a number: positional from `10 ^ -4` up to below `10 ^ 16`, scientific elsewhere. -/
def toText : Binary64 → String
  | .nan => "nan"
  | .infinite negative => if negative then "-inf" else "inf"
  | .finite negative m e =>
    let sign := if negative then ['-'] else []
    if m = 0 then String.ofList (sign ++ ['0', '.', '0'])
    else
      let (n, power) := shortestDecimal m e
      let all := Nat.toDigits 10 n
      let digits := (all.reverse.dropWhile (· == '0')).reverse
      let whole : Int := all.length + power
      let text := if -4 < whole ∧ whole ≤ 16 then placePoint digits whole
        else scientific digits (whole - 1)
      String.ofList (sign ++ text)

end Binary64

end CommandAudit
