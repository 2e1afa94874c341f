/-!
# Searching in text

Plain substring search on lists of characters: whether a pattern occurs, and how often it
occurs when occurrences may not overlap.
-/

namespace CommandAudit

/-- Whether `pattern` occurs somewhere in the text. -/
def occursIn (pattern : List Char) : List Char → Bool
  | [] => pattern.isEmpty
  | c :: cs => pattern.isPrefixOf (c :: cs) || occursIn pattern cs

/-- The number of pairs of adjacent `c`, read from the left without overlap. -/
def countPairs (c : Char) : List Char → Nat
  | a :: b :: cs => if a == c && b == c then countPairs c cs + 1 else countPairs c (b :: cs)
  | _ => 0

end CommandAudit
