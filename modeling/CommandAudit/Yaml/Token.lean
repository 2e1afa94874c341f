import CommandAudit.Yaml.Scalar

/-!
# YAML tokens

A document is cut into tokens. Indentation shows as tokens that open and close block collections,
and a key that is not marked by `?` is only known as such when its `:` is met, so places where a key
may have started are remembered until then. Tokens are read when they are asked for, and no further
than is needed to know the first of them: an error later in the text is not met before.
-/

namespace CommandAudit.Yaml

/-- A token of a document. -/
inductive Token
  | directive (directive : Directive)
  | documentStart
  | documentEnd
  | blockSequenceStart
  | blockMappingStart
  | blockEnd
  | flowSequenceStart
  | flowSequenceEnd
  | flowMappingStart
  | flowMappingEnd
  | blockEntry
  | flowEntry
  | key
  | value
  | alias (name : String)
  | anchor (name : String)
  | tag (tag : TagText)
  | scalar (text : Text) (plain : Bool)
  /-- Nothing follows. -/
  | ending
  deriving DecidableEq, Repr

/-- A place where a key may have started. -/
structure KeyPlace where
  /-- The number of tokens before it. -/
  tokens : Nat
  /-- A key must start there, since it stands at the indentation of a block collection. -/
  required : Bool
  /-- The place. -/
  index : Nat
  /-- Its line. -/
  line : Nat
  /-- Its column. -/
  column : Nat
  deriving Repr

/-- The state of the tokenizer. -/
structure Tokenizer where
  /-- The place in the text. -/
  cursor : Cursor
  /-- What is wrong with the text that follows, if anything does. -/
  fault : Option YamlError := none
  /-- The tokens that are read but not yet taken, in order. -/
  tokens : List Token := []
  /-- The number of tokens taken. -/
  taken : Nat := 0
  /-- Whether the end of the text was read. -/
  done : Bool := false
  /-- The number of open flow collections. -/
  flow : Nat := 0
  /-- The column of the innermost block collection. -/
  indent : Int := -1
  /-- The columns of the block collections around it. -/
  indents : List Int := []
  /-- Whether a key may start here. -/
  keyAllowed : Bool := true
  /-- The places where a key may have started, by the number of flow collections around them. -/
  keyPlaces : List (Nat × KeyPlace) := []

namespace Tokenizer

/-! ## Bookkeeping -/

/-- Adds a token at the end. -/
def push (s : Tokenizer) (t : Token) : Tokenizer :=
  { s with tokens := s.tokens ++ [t] }

/-- Adds a token after the first `n` tokens of the document. -/
def insert (s : Tokenizer) (n : Nat) (t : Token) : Tokenizer :=
  { s with tokens := s.tokens.insertIdx (n - s.taken) t }

/-- Fails at the present place. -/
def fail {α : Type} (s : Tokenizer) (error : YamlError := .badToken) : Except Fault α :=
  s.cursor.fail error

/-- Moves the cursor and adds a token. -/
def pushAt (s : Tokenizer) (cursor : Cursor) (t : Token) : Tokenizer :=
  { s with cursor }.push t

/-- Moves over blanks, comments and line breaks. -/
def skipToToken : (fuel : Nat) → Tokenizer → Tokenizer
  | 0, s => s
  | fuel + 1, s =>
    match s.cursor.skipSpaces.skipComment.lineBreak with
    | (some _, cursor) =>
      skipToToken fuel { s with cursor, keyAllowed := s.keyAllowed || s.flow == 0 }
    | (none, cursor) => { s with cursor }

/-- Whether a place is too far back to be the start of a key. -/
def isStale (s : Tokenizer) (p : KeyPlace) : Bool :=
  p.line ≠ s.cursor.line || 1024 < s.cursor.index - p.index

/-- Forgets the places that are too far back. -/
def dropStale (s : Tokenizer) : Except Fault Tokenizer :=
  if s.keyPlaces.any fun p => s.isStale p.2 && p.2.required then s.fail
  else .ok { s with keyPlaces := s.keyPlaces.filter fun p => !s.isStale p.2 }

/-- Forgets the place at the present flow level. -/
def dropKeyPlace (s : Tokenizer) : Except Fault Tokenizer :=
  if (s.keyPlaces.lookup s.flow).any (·.required) then s.fail
  else .ok { s with keyPlaces := s.keyPlaces.filter (·.1 ≠ s.flow) }

/-- Remembers the present place as the possible start of a key. -/
def saveKeyPlace (s : Tokenizer) : Except Fault Tokenizer :=
  if s.keyAllowed then do
    let s ← s.dropKeyPlace
    let place : KeyPlace :=
      { tokens := s.taken + s.tokens.length
        required := s.flow == 0 && s.indent == (s.cursor.column : Int)
        index := s.cursor.index
        line := s.cursor.line
        column := s.cursor.column }
    .ok { s with keyPlaces := (s.flow, place) :: s.keyPlaces }
  else .ok s

/-- Closes the block collections to the right of a column; `opened` lists the columns around
them. -/
def unwind (column : Int) : (opened : List Int) → Tokenizer → Tokenizer
  | [], s => s
  | outer :: rest, s =>
    if column < s.indent then
      unwind column rest { s.push .blockEnd with indent := outer, indents := rest }
    else s

/-- Closes the block collections to the right of a column, outside flow collections. -/
def unwindTo (s : Tokenizer) (column : Int) : Tokenizer :=
  if s.flow = 0 then unwind column s.indents s else s

/-- Opens a block collection at a column if that lies to the right of the present one. -/
def addIndent? (s : Tokenizer) (column : Nat) : Option Tokenizer :=
  if s.indent < column then
    some { s with indents := s.indent :: s.indents, indent := column }
  else none

/-- Opens a block collection at the cursor, if it lies to the right of the present one. -/
def openBlock (s : Tokenizer) (t : Token) : Tokenizer :=
  match s.addIndent? s.cursor.column with
  | some s => s.push t
  | none => s

/-! ## Single tokens -/

/-- A marker of three characters that starts or ends a document. -/
def takeMarker (s : Tokenizer) (t : Token) : Except Fault Tokenizer := do
  let s ← (s.unwindTo (-1)).dropKeyPlace
  .ok ({ s with keyAllowed := false }.pushAt (s.cursor.skip 3) t)

/-- A directive. -/
def takeDirective (s : Tokenizer) : Except Fault Tokenizer := do
  let s ← (s.unwindTo (-1)).dropKeyPlace
  let (directive, cursor) ← readDirective s.cursor
  .ok ({ s with keyAllowed := false }.pushAt cursor (.directive directive))

/-- The start of a flow collection. -/
def takeFlowStart (s : Tokenizer) (t : Token) : Except Fault Tokenizer := do
  let s ← s.saveKeyPlace
  .ok ({ s with flow := s.flow + 1, keyAllowed := true }.pushAt s.cursor.advance t)

/-- The end of a flow collection. -/
def takeFlowEnd (s : Tokenizer) (t : Token) : Except Fault Tokenizer := do
  let s ← s.dropKeyPlace
  if s.flow = 0 then s.fail .badStructure
  else .ok ({ s with flow := s.flow - 1, keyAllowed := false }.pushAt s.cursor.advance t)

/-- A comma. -/
def takeFlowEntry (s : Tokenizer) : Except Fault Tokenizer := do
  let s ← s.dropKeyPlace
  .ok ({ s with keyAllowed := true }.pushAt s.cursor.advance .flowEntry)

/-- A dash. -/
def takeBlockEntry (s : Tokenizer) : Except Fault Tokenizer := do
  if s.flow = 0 && !s.keyAllowed then s.fail
  else
    let s := if s.flow = 0 then s.openBlock .blockSequenceStart else s
    let s ← s.dropKeyPlace
    .ok ({ s with keyAllowed := true }.pushAt s.cursor.advance .blockEntry)

/-- A question mark. -/
def takeKey (s : Tokenizer) : Except Fault Tokenizer := do
  if s.flow = 0 && !s.keyAllowed then s.fail
  else
    let s := if s.flow = 0 then s.openBlock .blockMappingStart else s
    let s ← s.dropKeyPlace
    .ok ({ s with keyAllowed := s.flow == 0 }.pushAt s.cursor.advance .key)

/-- A colon. It makes a key of what started at the remembered place. -/
def takeValue (s : Tokenizer) : Except Fault Tokenizer := do
  match s.keyPlaces.lookup s.flow with
  | some p =>
    let s := { s with keyPlaces := s.keyPlaces.filter (·.1 ≠ s.flow) }.insert p.tokens .key
    let s :=
      if s.flow = 0 then
        match s.addIndent? p.column with
        | some s => s.insert p.tokens .blockMappingStart
        | none => s
      else s
    .ok ({ s with keyAllowed := false }.pushAt s.cursor.advance .value)
  | none =>
    if s.flow = 0 && !s.keyAllowed then s.fail
    else
      let s := if s.flow = 0 then s.openBlock .blockMappingStart else s
      .ok ({ s with keyAllowed := s.flow == 0 }.pushAt s.cursor.advance .value)

/-- An element that may be a key. -/
def takeElement {α : Type} (s : Tokenizer) (reader : Reader α) (token : α → Token) :
    Except Fault Tokenizer := do
  let s ← s.saveKeyPlace
  let (a, cursor) ← reader s.cursor
  .ok ({ s with keyAllowed := false }.pushAt cursor (token a))

/-- A block scalar. -/
def takeBlockScalar (s : Tokenizer) (folded : Bool) : Except Fault Tokenizer := do
  let s ← s.dropKeyPlace
  let (text, cursor) ← readBlock folded s.indent s.cursor
  .ok ({ s with keyAllowed := true }.pushAt cursor (.scalar (.string text) false))

/-- A plain scalar. -/
def takePlain (s : Tokenizer) : Except Fault Tokenizer := do
  let s ← s.saveKeyPlace
  let ((text, crossed), cursor) := readPlain (s.flow ≠ 0) s.indent s.cursor
  .ok ({ s with keyAllowed := crossed }.pushAt cursor (.scalar (.string text) true))

/-- Whether a plain scalar may start with `c`, with `next` after it. -/
def startsPlain (flow : Bool) (c : Char) (next : Option Char) : Bool :=
  !(isEndOrBlank (some c) || "-?:,[]\x7b\x7d#&*!|>'\"%@\x60".toList.contains c) ||
    !isEndOrBlank next && (c == '-' || !flow && (c == '?' || c == ':'))

/-- The next token, which starts with `c`. -/
def takeToken (s : Tokenizer) (c : Char) : Except Fault Tokenizer :=
  let k := s.cursor
  let atStart := k.column = 0
  let next := k.peekAt 1
  let inFlow := s.flow ≠ 0
  if c == '%' && atStart then s.takeDirective
  else if atStart && k.atMarker '-' then s.takeMarker .documentStart
  else if atStart && k.atMarker '.' then s.takeMarker .documentEnd
  else if c == '[' then s.takeFlowStart .flowSequenceStart
  else if c == '\x7b' then s.takeFlowStart .flowMappingStart
  else if c == ']' then s.takeFlowEnd .flowSequenceEnd
  else if c == '\x7d' then s.takeFlowEnd .flowMappingEnd
  else if c == ',' then s.takeFlowEntry
  else if c == '-' && isEndOrBlank next then s.takeBlockEntry
  else if c == '?' && (inFlow || isEndOrBlank next) then s.takeKey
  else if c == ':' && (inFlow || isEndOrBlank next) then s.takeValue
  else if c == '*' then s.takeElement readAnchor .alias
  else if c == '&' then s.takeElement readAnchor .anchor
  else if c == '!' then s.takeElement readTag .tag
  else if c == '|' && !inFlow then s.takeBlockScalar false
  else if c == '>' && !inFlow then s.takeBlockScalar true
  else if c == '\'' then s.takeElement (readQuoted false) (.scalar · false)
  else if c == '"' then s.takeElement (readQuoted true) (.scalar · false)
  else if startsPlain inFlow c next then s.takePlain
  else s.fail

/-! ## Tokens on demand -/

/-- Reads the tokens at the cursor: at least one, and more if block collections are closed. -/
def fetch (s : Tokenizer) : Except Fault Tokenizer := do
  let s ← (s.skipToToken s.cursor.fuel).dropStale
  let s := s.unwindTo s.cursor.column
  match s.cursor.peek with
  | some c => s.takeToken c
  | none =>
    let s ← (s.unwindTo (-1)).dropKeyPlace
    .ok { s.push .ending with done := true, keyPlaces := [] }

/-- Reads the tokens at the cursor, but fails if that needs the faulty text that follows. -/
def fetchReadable (s : Tokenizer) : Except YamlError Tokenizer :=
  let reaches (index : Nat) : Bool := s.cursor.size ≤ index + 1
  match s.fetch, s.fault with
  | .ok s, none => .ok s
  | .ok s, some e => if reaches s.cursor.index then .error e else .ok s
  | .error f, none => .error f.error
  | .error f, some e => .error (if reaches f.index then e else f.error)

/-- Whether the first token is not yet known: there is none, or a key may start with it. -/
def isUndecided (s : Tokenizer) : Bool :=
  !s.done && (s.tokens.isEmpty || s.keyPlaces.any fun p => p.2.tokens == s.taken)

/-- Reads tokens until the first is known. Every step moves forward in the text, so its length
bounds their number. -/
def settle : (fuel : Nat) → Tokenizer → Except YamlError Tokenizer
  | 0, s => .ok s
  | fuel + 1, s =>
    if s.done then .ok s
    else if s.tokens.isEmpty then
      match s.fetchReadable with
      | .ok s => settle fuel s
      | .error e => .error e
    else
      match s.dropStale with
      | .error f => .error f.error
      | .ok s =>
        if s.isUndecided then
          match s.fetchReadable with
          | .ok s => settle fuel s
          | .error e => .error e
        else .ok s

/-- The first token, which stays in place. -/
def peek (s : Tokenizer) : Except YamlError (Token × Tokenizer) := do
  let s ← s.settle (s.cursor.fuel + 1)
  .ok (s.tokens.headD .ending, s)

/-- Passes the first token, which must be known. -/
def take (s : Tokenizer) : Tokenizer :=
  { s with tokens := s.tokens.tail, taken := s.taken + 1 }

/-- The start of a document. A byte-order mark at its start is ignored. -/
def start (source : Source) : Tokenizer :=
  let cursor := Cursor.start source.chars
  { cursor := if cursor.peek = some '\uFEFF' then cursor.advance else cursor
    fault := source.fault }

end Tokenizer

end CommandAudit.Yaml
