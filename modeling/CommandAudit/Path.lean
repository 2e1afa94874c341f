import CommandAudit.Text

/-!
# Paths

A path is a sequence of names below a root or below the place it is used from. Reading a path drops
empty names and names that are a single point; `..` is kept. Two leading slashes, and only two, are
a root of their own.
-/

namespace CommandAudit

/-- Where a path starts. -/
inductive PathRoot
  /-- At the place it is used from. -/
  | here
  /-- At the root. -/
  | slash
  /-- At the root written with two slashes. -/
  | doubleSlash
  deriving DecidableEq, Repr

/-- The text a path with the given root starts with. -/
def PathRoot.text : PathRoot → String
  | .here => ""
  | .slash => "/"
  | .doubleSlash => "//"

/-- A path. -/
structure Path where
  /-- Where it starts. -/
  root : PathRoot := .here
  /-- The names it goes through. -/
  parts : List Text := []
  deriving DecidableEq, Repr

namespace Path

/-- The root written by the slashes at the start of a text. -/
def rootOf : List Char → PathRoot
  | '/' :: '/' :: '/' :: _ => .slash
  | '/' :: '/' :: _ => .doubleSlash
  | '/' :: _ => .slash
  | _ => .here

/-- The names written in a text. -/
def partsOf (t : Text) : List Text :=
  let parts := match t with
    | .string s => (s.toList.splitOn '/').map fun cs => Text.string (String.ofList cs)
    | .broken points => (points.splitOn '/'.toNat).map Text.ofPoints
  parts.filter fun part => !part.isEmpty && part != "."

/-- The path written in a text. -/
def ofText (t : Text) : Path :=
  { root := rootOf ((t.points.take 3).map Char.ofNat), parts := partsOf t }

/-- The text of a path. -/
def toText (p : Path) : Text :=
  if p.root = .here ∧ p.parts = [] then "." else Text.string p.root.text ++ Text.join "/" p.parts

/-- The text of a path as a string. -/
def toString (p : Path) : String :=
  p.toText.lossy

/-- Whether the path starts at a root. -/
def isAbsolute (p : Path) : Bool :=
  p.root ≠ .here

/-- The path `q` used from `p`. -/
def join (p q : Path) : Path :=
  if q.isAbsolute then q else { p with parts := p.parts ++ q.parts }

/-- The path without its last name. -/
def parent (p : Path) : Path :=
  { p with parts := p.parts.dropLast }

/-- The last name of the path. -/
def name (p : Path) : String :=
  (p.parts.getLast?.getD "").lossy

/-- The last ending of a file name, from its last point on: none if the point stands first or last
in the name. -/
def suffixOf (name : List Char) : List Char :=
  let ending := (name.reverse.takeWhile (· != '.')).reverse
  let stem := name.take (name.length - ending.length - 1)
  if name.contains '.' && !ending.isEmpty && !stem.isEmpty then '.' :: ending else []

end Path

end CommandAudit
