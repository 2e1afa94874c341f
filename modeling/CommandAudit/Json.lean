import CommandAudit.Text.Quoted

/-!
# Canonical JSON

Data is written with sorted keys, two spaces of indentation for each level, one item on a line and
a final newline. Sorting the keys and writing are separate steps: `JsonValue.sortKeys` gives the
normal form of a value, and `JsonValue.render` writes a value as it is.
-/

namespace CommandAudit

/-- JSON data with integers for numbers. -/
inductive JsonValue
  | null
  | bool (b : Bool)
  | int (n : Int)
  | text (s : String)
  | array (items : List JsonValue)
  | object (fields : List (String × JsonValue))
  deriving Repr, Inhabited

namespace JsonValue

/-! ## Normal form -/

/-- Orders fields by the code points of their keys. -/
def sortFields (fields : List (String × JsonValue)) : List (String × JsonValue) :=
  fields.mergeSort fun a b => decide (a.1 ≤ b.1)

mutual

/-- The value with the fields of all its objects in order. -/
def sortKeys : JsonValue → JsonValue
  | .array items => .array (sortKeysItems items)
  | .object fields => .object (sortFields (sortKeysFields fields))
  | v => v

/-- The items with the fields of all their objects in order. -/
def sortKeysItems : List JsonValue → List JsonValue
  | [] => []
  | v :: rest => v.sortKeys :: sortKeysItems rest

/-- The fields, in the given order, with the fields of the objects inside them in order. -/
def sortKeysFields : List (String × JsonValue) → List (String × JsonValue)
  | [] => []
  | (k, v) :: rest => (k, v.sortKeys) :: sortKeysFields rest

end

/-! ## Writing -/

/-- A character inside a JSON string. -/
def renderChar (c : Char) : List Char :=
  if c == '"' then ['\\', '"']
  else if c == '\\' then ['\\', '\\']
  else if c == '\n' then ['\\', 'n']
  else if c == '\r' then ['\\', 'r']
  else if c == '\t' then ['\\', 't']
  else if c == '\x08' then ['\\', 'b']
  else if c == '\x0c' then ['\\', 'f']
  else if c.toNat < 0x20 then '\\' :: 'u' :: hexDigits 4 c.toNat
  else [c]

/-- A JSON string. -/
def renderText (s : String) : List Char :=
  '"' :: s.toList.flatMap renderChar ++ ['"']

/-- An integer in decimal digits. -/
def renderInt (n : Int) : List Char :=
  if n < 0 then '-' :: Nat.toDigits 10 n.natAbs else Nat.toDigits 10 n.natAbs

/-- The start of a new line at the given depth. -/
def newLine (depth : Nat) : List Char :=
  '\n' :: List.replicate (2 * depth) ' '

mutual

/-- The text of a value that starts at the given depth. -/
def render (depth : Nat) : JsonValue → List Char
  | .null => ['n', 'u', 'l', 'l']
  | .bool true => ['t', 'r', 'u', 'e']
  | .bool false => ['f', 'a', 'l', 's', 'e']
  | .int n => renderInt n
  | .text s => renderText s
  | .array [] => ['[', ']']
  | .array (v :: rest) =>
    '[' :: newLine (depth + 1) ++ render (depth + 1) v ++ renderItems (depth + 1) rest ++
      newLine depth ++ [']']
  | .object [] => ['\x7b', '\x7d']
  | .object ((k, v) :: rest) =>
    '\x7b' :: newLine (depth + 1) ++ renderText k ++ [':', ' '] ++ render (depth + 1) v ++
      renderFields (depth + 1) rest ++ newLine depth ++ ['\x7d']

/-- The text of the items after the first. -/
def renderItems (depth : Nat) : List JsonValue → List Char
  | [] => []
  | v :: rest => ',' :: newLine depth ++ render depth v ++ renderItems depth rest

/-- The text of the fields after the first. -/
def renderFields (depth : Nat) : List (String × JsonValue) → List Char
  | [] => []
  | (k, v) :: rest =>
    ',' :: newLine depth ++ renderText k ++ [':', ' '] ++ render depth v ++ renderFields depth rest

end

/-- The canonical text of a value. -/
def canonical (v : JsonValue) : String :=
  String.ofList (v.sortKeys.render 0 ++ ['\n'])

end JsonValue

end CommandAudit
