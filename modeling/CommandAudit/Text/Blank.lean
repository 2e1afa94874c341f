/-!
# Blank characters

The whitespace characters of Unicode, together with the four information separators
U+001C to U+001F. `isBlank` decides membership and `trim` removes blanks at both ends.
-/

namespace CommandAudit

/-- Whether `c` is one of the 29 blank characters. -/
def isBlank (c : Char) : Bool :=
  let n := c.toNat
  (0x09 ≤ n && n ≤ 0x0D) || (0x1C ≤ n && n ≤ 0x20) || n == 0x85 || n == 0xA0 || n == 0x1680 ||
    (0x2000 ≤ n && n ≤ 0x200A) || n == 0x2028 || n == 0x2029 || n == 0x202F || n == 0x205F ||
    n == 0x3000

/-- The text `cs` without the characters of `p` at its two ends. -/
def trimWhere (p : Char → Bool) (cs : List Char) : List Char :=
  ((cs.dropWhile p).reverse.dropWhile p).reverse

/-- The text `cs` without blanks at its two ends. -/
def trim (cs : List Char) : List Char :=
  trimWhere isBlank cs

end CommandAudit
