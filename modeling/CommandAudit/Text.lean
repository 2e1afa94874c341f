/-!
# Texts

A text read from a document may hold surrogates. They are code points but no characters: an escape
can name one, no encoding has a place for it, and two of them next to each other stay two. Every
other text is a string.
-/

namespace CommandAudit

/-- Whether a code point is a surrogate. -/
def isSurrogate (n : Nat) : Bool :=
  0xD800 ≤ n && n ≤ 0xDFFF

/-- A text. -/
inductive Text
  /-- A text without surrogates. -/
  | string (s : String)
  /-- The code points of a text that holds surrogates. -/
  | broken (points : List Nat)
  deriving DecidableEq, Repr, Hashable

namespace Text

instance : Coe String Text :=
  ⟨.string⟩

instance : Inhabited Text :=
  ⟨.string ""⟩

/-- The code points of a text. -/
def points : Text → List Nat
  | .string s => s.toList.map Char.toNat
  | .broken points => points

/-- The text with the given code points. -/
def ofPoints (points : List Nat) : Text :=
  if points.any isSurrogate then .broken points
  else .string (String.ofList (points.map Char.ofNat))

/-- The string equal to a text, if there is one. -/
def toString? : Text → Option String
  | .string s => some s
  | .broken _ => none

/-- Whether a text can be written to a file or a terminal. -/
def isEncodable (t : Text) : Bool :=
  t.toString?.isSome

/-- Whether a text has no code points. -/
def isEmpty : Text → Bool
  | .string s => s.isEmpty
  | .broken points => points.isEmpty

/-! ## Joining -/

/-- One text after the other. -/
def append : Text → Text → Text
  | .string s, .string t => .string (s ++ t)
  | a, b => .ofPoints (a.points ++ b.points)

instance : Append Text :=
  ⟨append⟩

/-- The texts of a list with a separator between them. -/
def join (separator : String) : List Text → Text
  | [] => ""
  | t :: rest => rest.foldl (fun acc u => acc ++ Text.string separator ++ u) t

/-! ## Order -/

/-- The order of sequences of code points: by the first point in which they differ. -/
def pointsLE : List Nat → List Nat → Bool
  | [], _ => true
  | _ :: _, [] => false
  | a :: as, b :: bs => a < b || (a == b && pointsLE as bs)

/-- The order of texts by their code points. -/
def le : Text → Text → Bool
  | .string s, .string t => decide (s ≤ t)
  | a, b => pointsLE a.points b.points

/-! ## Characters in place of surrogates -/

/-- The characters of code points; each surrogate is replaced by three replacement characters, one
for each byte it would take. -/
def lossyChars (points : List Nat) : List Char :=
  points.flatMap fun n =>
    if isSurrogate n then ['\uFFFD', '\uFFFD', '\uFFFD'] else [Char.ofNat n]

/-- The text as a string, with replacement characters for surrogates. -/
def lossy : Text → String
  | .string s => s
  | .broken points => String.ofList (lossyChars points)

end Text

end CommandAudit
