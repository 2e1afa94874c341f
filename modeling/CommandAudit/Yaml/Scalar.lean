import CommandAudit.Text
import CommandAudit.Text.Integer
import CommandAudit.Yaml.Cursor

/-!
# Lexical elements of YAML

Readers for the elements whose extent depends on nothing but the characters: names, tags, quoted
scalars, block scalars and plain scalars. Each returns the element and the place after it.
-/

namespace CommandAudit.Yaml

/-! ## Names and tags -/

/-- A character of the name of an anchor, a directive or a tag handle. -/
def isHandleChar (c : Char) : Bool :=
  c.isAlphanum || c == '-' || c == '_'

/-- A character of a tag, escapes apart. -/
def isTagChar (c : Char) : Bool :=
  c.isAlphanum || "-;/?:@&=+$,_.!~*'()[]".toList.contains c

/-- The value of exactly `n` digits in base sixteen. -/
def hexValue? (n : Nat) (cs : List Char) : Option Nat :=
  let digits := cs.take n
  if digits.length < n then none
  else digits.foldl (fun acc c => acc.bind fun a => (hexDigit? c).map (16 * a + ·)) (some 0)

/-- The name of an anchor or an alias, after its sign. -/
def readAnchor : Reader String := fun k =>
  let (name, k) := k.advance.takeWhile isHandleChar
  if !name.isEmpty && (isEndOrBlank k.peek || k.peek.any ("?:,]\x7d%@\x60".toList.contains ·)) then
    .ok (String.ofList name, k)
  else k.fail

/-- The bytes of escapes `%XX` that follow each other; `fuel` bounds their number. -/
def readEscapes : (fuel : Nat) → (bytes : List UInt8) → Reader (List Char)
  | 0, _, k => k.fail
  | fuel + 1, bytes, k =>
    if k.peek = some '%' then
      match hexValue? 2 k.advance.rest with
      | some n => readEscapes fuel (n.toUInt8 :: bytes) (k.skip 3)
      | none => k.fail
    else
      match decodeUtf8? bytes.reverse with
      | some cs => .ok (cs, k)
      | none => k.fail

/-- The characters of a tag; `acc` holds those read so far, latest first. -/
def readTagText : (fuel : Nat) → (acc : List Char) → Reader (List Char)
  | 0, _, k => k.fail
  | fuel + 1, acc, k =>
    if k.peek = some '%' then do
      let (cs, k) ← readEscapes k.fuel [] k
      readTagText fuel (cs.reverse ++ acc) k
    else
      match k.takeWhile isTagChar with
      | ([], _) => .ok (acc.reverse, k)
      | (cs, k) => readTagText fuel (cs.reverse ++ acc) k

/-- A tag text that is not empty. -/
def readUri : Reader String := fun k => do
  let (cs, after) ← readTagText k.fuel [] k
  if after.index = k.index then k.fail else .ok (String.ofList cs, after)

/-- A tag handle: an exclamation mark, or a name between two of them. -/
def readHandle : Reader String := fun k =>
  if k.peek ≠ some '!' then k.fail
  else if k.peekAt 1 = some ' ' then .ok ("!", k.advance)
  else
    let (name, k) := k.advance.takeWhile isHandleChar
    if k.peek = some '!' then .ok (String.ofList ('!' :: name ++ ['!']), k.advance)
    else k.fail

/-- A tag as it is written: a handle, if there is one, and the rest. -/
structure TagText where
  /-- The handle. -/
  handle : Option String
  /-- What follows the handle. -/
  rest : String
  deriving DecidableEq, Repr

/-- A tag that starts here. -/
def readTag : Reader TagText := fun k => do
  let (tag, k) ←
    if k.peekAt 1 = some '<' then do
      let (uri, k) ← readUri (k.skip 2)
      if k.peek = some '>' then .ok (TagText.mk none uri, k.advance) else k.fail
    else if isEndOrBlank (k.peekAt 1) then .ok (TagText.mk none "!", k.advance)
    else
      let ahead := (k.advance.rest.takeWhile fun c => !(c == ' ' || isBreak c))
      if ahead.contains '!' then do
        let (handle, k) ← readHandle k
        let (uri, k) ← readUri k
        .ok (TagText.mk (some handle) uri, k)
      else do
        let (uri, k) ← readUri k.advance
        .ok (TagText.mk (some "!") uri, k)
  if isEndOrSpace k.peek then .ok (tag, k) else k.fail

/-! ## Directives -/

/-- A line of instructions in front of a document. -/
inductive Directive
  /-- The version of the language; only the major number matters. -/
  | version (major : Nat)
  /-- A short form for the beginning of tags. -/
  | tag (handle start : String)
  /-- Anything else. -/
  | other
  deriving DecidableEq, Repr

/-- A number of a version. -/
def readVersionNumber : Reader Nat := fun k =>
  match k.takeWhile Char.isDigit with
  | ([], _) => k.fail
  | (digits, after) =>
    match integer? digits with
    | some n => .ok (n.toNat, after)
    | none => k.fail .outOfRange

/-- A directive that starts here, with its line. -/
def readDirective : Reader Directive := fun k => do
  let (name, k) := k.advance.takeWhile isHandleChar
  if name.isEmpty || !isEndOrSpace k.peek then k.fail
  else do
    let (directive, k) ←
      if name = "YAML".toList then do
        let (major, k) ← readVersionNumber k.skipSpaces
        if k.peek ≠ some '.' then k.fail
        else do
          let (_, k) ← readVersionNumber k.advance
          if isEndOrSpace k.peek then .ok (Directive.version major, k) else k.fail
      else if name = "TAG".toList then do
        let (handle, k) ← readHandle k.skipSpaces
        if k.peek ≠ some ' ' then k.fail
        else do
          let (start, k) ← readUri k.skipSpaces
          if isEndOrSpace k.peek then .ok (Directive.tag handle start, k) else k.fail
      else .ok (Directive.other, k.skipWhile fun c => !isBreak c)
    let k ← k.skipIgnoredLine
    .ok (directive, k)

/-! ## Quoted scalars -/

/-- What a one-letter escape stands for. -/
def escapeChar? (c : Char) : Option Char :=
  ([('0', '\x00'), ('a', '\x07'), ('b', '\x08'), ('t', '\t'), ('\t', '\t'), ('n', '\n'),
    ('v', '\x0b'), ('f', '\x0c'), ('r', '\r'), ('e', '\x1b'), (' ', ' '), ('"', '"'), ('\\', '\\'),
    ('/', '/'), ('N', '\x85'), ('_', '\xa0'), ('L', '\u2028'), ('P', '\u2029')] :
    List (Char × Char)).lookup c

/-- How many digits follow the letter of a numeric escape. -/
def escapeWidth? (c : Char) : Option Nat :=
  ([('x', 2), ('u', 4), ('U', 8)] : List (Char × Nat)).lookup c

/-- The code point with the given number, if it is one. -/
def codePoint (n : Nat) : Except YamlError Nat :=
  if n < 0x110000 then .ok n else .error (if n < 0x80000000 then .outOfRange else .overflow)

/-- The line breaks inside a quoted scalar, latest first, with the blanks around them dropped. -/
def readQuotedBreaks : (fuel : Nat) → (acc : List Char) → Reader (List Char)
  | 0, _, k => k.fail
  | fuel + 1, acc, k =>
    if k.atSeparator then k.fail
    else
      let k := k.skipWhile fun c => c == ' ' || c == '\t'
      match k.lineBreak with
      | (some c, k) => readQuotedBreaks fuel (c :: acc) k
      | (none, k) => .ok (acc, k)

/-- A line break is folded: one newline becomes a space, and of several all but the first stay;
`breaks` holds those after the first, latest first. -/
def foldBreaks (first : Char) (breaks : List Char) : List Char :=
  if first ≠ '\n' then breaks ++ [first]
  else if breaks.isEmpty then [' ']
  else breaks

/-- An escape after its backslash: the code points it stands for, latest first. A line break stands
for the line breaks after it. -/
def readEscape : Reader (List Nat) := fun k =>
  match k.rest with
  | [] => k.fail
  | c :: digits =>
    match escapeChar? c, escapeWidth? c with
    | some r, _ => .ok ([r.toNat], k.advance)
    | none, some width =>
      match hexValue? width digits with
      | none => k.fail
      | some n =>
        match codePoint n with
        | .ok point => .ok ([point], k.skip (1 + width))
        | .error e => k.fail e
    | none, none =>
      if isBreak c then do
        let next := k.lineBreak.2
        let (breaks, next) ← readQuotedBreaks next.fuel [] next
        .ok (breaks.map Char.toNat, next)
      else k.fail

/-- The rest of a quoted scalar up to its closing quote; `acc` holds the code points so far, latest
first. -/
def readQuotedRest (double : Bool) : (fuel : Nat) → (acc : List Nat) → Reader (List Nat)
  | 0, _, k => k.fail
  | fuel + 1, acc, k =>
    match k.rest with
    | [] => k.fail
    | c :: after =>
      if c == ' ' || c == '\t' then
        let (blanks, next) := k.takeWhile fun c => c == ' ' || c == '\t'
        match next.peek with
        | none => next.fail
        | some b =>
          if isBreak b then readQuotedRest double fuel acc next
          else readQuotedRest double fuel ((blanks.map Char.toNat).reverse ++ acc) next
      else if isBreak c then do
        let (first, next) := k.lineBreak
        let (breaks, next) ← readQuotedBreaks next.fuel [] next
        let folded := (foldBreaks (first.getD '\n') breaks).map Char.toNat
        readQuotedRest double fuel (folded ++ acc) next
      else if double then
        if c == '"' then .ok (acc.reverse, k.advance)
        else if c == '\\' then do
          let (points, next) ← readEscape k.advance
          readQuotedRest double fuel (points ++ acc) next
        else readQuotedRest double fuel (c.toNat :: acc) k.advance
      else if c == '\'' then
        if after.head? = some '\'' then readQuotedRest double fuel (c.toNat :: acc) (k.skip 2)
        else .ok (acc.reverse, k.advance)
      else readQuotedRest double fuel (c.toNat :: acc) k.advance

/-- A quoted scalar that starts here. -/
def readQuoted (double : Bool) : Reader Text := fun k => do
  let (points, k) ← readQuotedRest double k.fuel [] k.advance
  .ok (.ofPoints points, k)

/-! ## Block scalars -/

/-- What is done with the line breaks at the end of a block scalar. -/
inductive Chomping
  /-- They are dropped. -/
  | strip
  /-- One is kept. -/
  | clip
  /-- All are kept. -/
  | keep
  deriving DecidableEq, Repr

/-- A sign for the final line breaks. -/
def chomping? (c : Option Char) : Option Chomping :=
  if c = some '+' then some .keep else if c = some '-' then some .strip else none

/-- The header of a block scalar: chomping and, if given, the indentation. -/
def readBlockHeader : Reader (Chomping × Option Nat) := fun k => do
  let digit? (k : Cursor) : Option Nat :=
    (k.peek.filter Char.isDigit).map fun c => c.toNat - '0'.toNat
  let (chomping, indent, k) :=
    match chomping? k.peek with
    | some c =>
      match digit? k.advance with
      | some d => (c, some d, k.skip 2)
      | none => (c, none, k.advance)
    | none =>
      match digit? k with
      | some d =>
        match chomping? k.advance.peek with
        | some c => (c, some d, k.skip 2)
        | none => (.clip, some d, k.advance)
      | none => (.clip, none, k)
  if indent = some 0 || !isEndOrSpace k.peek then k.fail
  else do
    let k ← k.skipIgnoredLine
    .ok ((chomping, indent), k)

/-- Leading line breaks of a block scalar, latest first, and its widest indentation. -/
def readLeadingBreaks : (fuel : Nat) → (acc : List Char) → (widest : Nat) → Cursor →
    List Char × Nat × Cursor
  | 0, acc, widest, k => (acc, widest, k)
  | fuel + 1, acc, widest, k =>
    if k.peek = some ' ' then
      let k := k.advance
      readLeadingBreaks fuel acc (max widest k.column) k
    else
      match k.lineBreak with
      | (some c, k) => readLeadingBreaks fuel (c :: acc) widest k
      | (none, k) => (acc, widest, k)

/-- Moves over spaces up to the given column. -/
def skipIndent (indent : Nat) (k : Cursor) : Cursor :=
  k.skip ((k.rest.take (indent - k.column)).takeWhile (· == ' ')).length

/-- Line breaks between the lines of a block scalar, latest first. -/
def readBlockBreaks (indent : Nat) :
    (fuel : Nat) → (acc : List Char) → Cursor → List Char × Cursor
  | 0, acc, k => (acc, k)
  | fuel + 1, acc, k =>
    let k := skipIndent indent k
    match k.lineBreak with
    | (some c, k) => readBlockBreaks indent fuel (c :: acc) k
    | (none, k) => (acc, k)

/-- The lines of a block scalar, latest character first. `breaks` holds the line breaks before the
present line, latest first. The result has the text, the last line break and the breaks after
it. -/
def readBlockLines (folded : Bool) (indent : Nat) :
    (fuel : Nat) → (acc breaks : List Char) → Cursor →
    (List Char × Option Char × List Char) × Cursor
  | 0, acc, breaks, k => ((acc, none, breaks), k)
  | fuel + 1, acc, breaks, k =>
    let startsPlain := !k.peek.any fun c => c == ' ' || c == '\t'
    let (line, k) := k.takeWhile fun c => !isBreak c
    let acc := line.reverse ++ breaks ++ acc
    let (ending, k) := k.lineBreak
    let (breaks, k) := readBlockBreaks indent k.fuel [] k
    if k.column = indent ∧ k.peek.isSome then
      let joins := folded && ending == some '\n' && startsPlain &&
        !k.peek.any fun c => c == ' ' || c == '\t'
      let glue := if joins then (if breaks.isEmpty then [' '] else []) else ending.toList
      readBlockLines folded indent fuel (glue ++ acc) breaks k
    else ((acc, ending, breaks), k)

/-- A block scalar that starts here; `parent` is the indentation of the collection around it. -/
def readBlock (folded : Bool) (parent : Int) : Reader String := fun k => do
  let ((chomping, increment), k) ← readBlockHeader k.advance
  let least := (max 1 (parent + 1)).toNat
  let (breaks, indent, k) :=
    match increment with
    | none =>
      let (breaks, widest, k) := readLeadingBreaks k.fuel [] 0 k
      (breaks, max least widest, k)
    | some n =>
      let indent := least + n - 1
      let (breaks, k) := readBlockBreaks indent k.fuel [] k
      (breaks, indent, k)
  let ((acc, ending, breaks), k) :=
    if k.column = indent ∧ k.peek.isSome then
      readBlockLines folded indent k.fuel [] breaks k
    else (([], none, breaks), k)
  let acc := if chomping = .strip then acc else ending.toList ++ acc
  let acc := if chomping = .keep then breaks ++ acc else acc
  .ok (String.ofList acc.reverse, k)

/-! ## Plain scalars -/

/-- Whether a plain scalar ends in front of `c`, with `next` after it. -/
def endsPlain (flow : Bool) (c : Char) (next : Option Char) : Bool :=
  isEndOrBlank (some c) ||
    (c == ':' && (isEndOrBlank next || flow && next.any (",[]\x7b\x7d".toList.contains ·))) ||
    flow && ",?[]\x7b\x7d".toList.contains c

/-- The characters of a plain scalar up to the next blank or indicator. -/
def plainRun (flow : Bool) : List Char → List Char
  | [] => []
  | c :: cs => if endsPlain flow c cs.head? then [] else c :: plainRun flow cs

/-- Line breaks inside a plain scalar, latest first; none if a separator of documents follows. -/
def readPlainBreaks : (fuel : Nat) → (acc : List Char) → Cursor → Option (List Char) × Cursor
  | 0, acc, k => (some acc, k)
  | fuel + 1, acc, k =>
    if k.peek = some ' ' then readPlainBreaks fuel acc k.advance
    else
      match k.lineBreak with
      | (some c, k) => if k.atSeparator then (none, k) else readPlainBreaks fuel (c :: acc) k
      | (none, k) => (some acc, k)

/-- The outcome of reading the blanks after a part of a plain scalar. -/
structure PlainSpace where
  /-- What the blanks count for if the scalar goes on, latest first; empty if it cannot. -/
  text : List Char
  /-- Whether a line break was passed. -/
  crossed : Bool

/-- The blanks after a part of a plain scalar. -/
def readPlainSpace (k : Cursor) : PlainSpace × Cursor :=
  let (spaces, k) := k.takeWhile (· == ' ')
  match k.lineBreak with
  | (none, k) => (⟨spaces, false⟩, k)
  | (some first, k) =>
    if k.atSeparator then (⟨[], true⟩, k)
    else
      match readPlainBreaks k.fuel [] k with
      | (none, k) => (⟨[], true⟩, k)
      | (some breaks, k) => (⟨foldBreaks first breaks, true⟩, k)

/-- The parts of a plain scalar; `acc` holds the text so far and `space` the blanks before the
present part, both latest first. The result says whether a line break was passed last. -/
def readPlainParts (flow : Bool) (indent : Int) :
    (fuel : Nat) → (acc space : List Char) → (crossed : Bool) → Cursor →
    (List Char × Bool) × Cursor
  | 0, acc, _, crossed, k => ((acc, crossed), k)
  | fuel + 1, acc, space, crossed, k =>
    let run := plainRun flow k.rest
    if k.peek = some '#' ∨ run = [] then ((acc, crossed), k)
    else
      let acc := run.reverse ++ space ++ acc
      let (after, k) := readPlainSpace (k.skip run.length)
      if after.text.isEmpty ∨ k.peek = some '#' ∨ (!flow ∧ (k.column : Int) < indent) then
        ((acc, after.crossed), k)
      else readPlainParts flow indent fuel acc after.text after.crossed k

/-- A plain scalar that starts here, and whether a line break was passed after it. -/
def readPlain (flow : Bool) (parent : Int) (k : Cursor) : (String × Bool) × Cursor :=
  let ((acc, crossed), k) := readPlainParts flow (parent + 1) k.fuel [] [] false k
  ((String.ofList acc.reverse, crossed), k)

end CommandAudit.Yaml
