import CommandAudit.Yaml.Tag
import CommandAudit.Yaml.Token
import Std.Data.HashMap

/-!
# YAML nodes

The tokens of a document form a graph of tagged nodes, which are numbered in the order in which they
start. An alias stands for the node that carries its anchor, which may be one of the nodes around
it. A text holds one document at most.
-/

namespace CommandAudit.Yaml

/-- What a node consists of. Other nodes are given by their numbers. -/
inductive Content
  | scalar (text : Text)
  | sequence (items : List Nat)
  | mapping (entries : List (Nat × Nat))
  deriving Repr, Inhabited

/-- A node of a document. -/
structure Node where
  /-- What the node stands for. -/
  tag : Tag
  /-- What the node consists of. -/
  content : Content
  deriving Repr

/-- The nodes of a document and the number of its root. -/
structure Graph where
  /-- The nodes. -/
  nodes : Array Node
  /-- The root. -/
  root : Nat
  deriving Repr

/-- How deeply the parts of a document may be nested. The limits are those of the stack, so they
depend on the process and on how much of the stack was in use before. -/
structure Limits where
  /-- Collections in each other. -/
  collections : Nat := 486
  /-- Mappings merged into each other. -/
  merges : Nat := 978
  /-- Mappings that are default values of each other. -/
  defaults : Nat := 976
  deriving DecidableEq, Repr

/-! ## Reading -/

/-- What is known while a document is read. -/
structure Parser where
  /-- The tokens ahead. -/
  tokens : Tokenizer
  /-- The short forms of tags. -/
  handles : List (String × String) := []
  /-- The anchored nodes. -/
  anchors : Std.HashMap String Nat := {}
  /-- The nodes so far. -/
  nodes : Array Node := #[]

/-- A step of reading a document. -/
abbrev Parse (α : Type) :=
  StateT Parser (Except YamlError) α

namespace Parse

/-- The token ahead. -/
def peek : Parse Token := fun s => do
  let (token, tokens) ← s.tokens.peek
  .ok (token, { s with tokens })

/-- Passes the token ahead, which must have been looked at. -/
def pass : Parse Unit :=
  modify fun s => { s with tokens := s.tokens.take }

/-- Whether the token ahead is one of the given ones. -/
def atAny (ts : List Token) : Parse Bool := do
  return ts.contains (← peek)

/-- Passes the given token, or fails. -/
def expect (t : Token) : Parse Unit := do
  if ← atAny [t] then pass else throw .badStructure

end Parse

/-- The anchor and the tag in front of a node. -/
structure Properties where
  /-- The anchor. -/
  anchor : Option String := none
  /-- The full name of the tag; an exclamation mark asks for the tag of a plain scalar. -/
  tag : Option String := none

namespace Properties

/-- Whether there is an anchor or a tag. -/
def any (p : Properties) : Bool :=
  p.anchor.isSome || p.tag.isSome

/-- The tag of a collection with the given properties. -/
def tagOr (p : Properties) (fallback : Tag) : Tag :=
  match p.tag with
  | none => fallback
  | some name => if name = "!" then fallback else .ofName name

/-- The tag of a scalar with the given properties. A text with surrogates has no other form. -/
def scalarTag (p : Properties) (text : Text) (plain : Bool) : Tag :=
  p.tagOr (if plain || p.tag.isSome then text.toString?.elim .text plainTag else .text)

end Properties

namespace Parse

/-- The full name of a tag. -/
def fullTag (t : TagText) : Parse String := do
  match t.handle with
  | none => return t.rest
  | some handle =>
    match (← get).handles.lookup handle with
    | some start => return start ++ t.rest
    | none => throw .badStructure

/-- Reads the anchor and the tag in front of a node, in either order. -/
def properties : Parse Properties := do
  match ← peek with
  | .anchor a =>
    pass
    match ← peek with
    | .tag t =>
      pass
      return { anchor := a, tag := ← fullTag t }
    | _ => return { anchor := a }
  | .tag t =>
    pass
    match ← peek with
    | .anchor a =>
      pass
      return { anchor := a, tag := ← fullTag t }
    | _ => return { tag := ← fullTag t }
  | _ => return {}

/-- Adds a node with the given properties and returns its number. -/
def addNode (p : Properties) (tag : Tag) (content : Content) : Parse Nat := fun s =>
  let id := s.nodes.size
  let anchors := match p.anchor with
    | some a => s.anchors.insert a id
    | none => s.anchors
  .ok (id, { s with nodes := s.nodes.push ⟨tag, content⟩, anchors })

/-- Gives a node its content. -/
def setContent (id : Nat) (content : Content) : Parse Unit :=
  modify fun s => { s with nodes := s.nodes.modify id fun node => { node with content } }

/-- Adds the node of an absent scalar. -/
def addEmpty : Parse Nat :=
  addNode {} .null (.scalar "")

/-- The node with the given anchor. -/
def aliased (name : String) : Parse Nat := do
  match (← get).anchors[name]? with
  | some id => return id
  | none => throw .badAnchor

/-- Refuses an anchor that is given twice. -/
def checkAnchor (p : Properties) : Parse Unit := do
  if let some a := p.anchor then
    if (← get).anchors.contains a then throw .badAnchor

/-- The number of levels left inside a collection; there must be one. -/
def deeper : Nat → Parse Nat
  | 0 => throw .tooDeep
  | levels + 1 => return levels

/-- Reads a sequence: passes its start and then reads its items. -/
def sequenceOf (p : Properties) (levels : Nat) (start : Parse Unit)
    (items : Nat → Parse (List Nat)) : Parse Nat := do
  checkAnchor p
  let id ← addNode p (p.tagOr .sequence) (.sequence [])
  let levels ← deeper levels
  start
  setContent id (.sequence (← items levels))
  return id

/-- Reads a mapping: passes its start and then reads its entries. -/
def mappingOf (p : Properties) (levels : Nat) (start : Parse Unit)
    (entries : Nat → Parse (List (Nat × Nat))) : Parse Nat := do
  checkAnchor p
  let id ← addNode p (p.tagOr .mapping) (.mapping [])
  let levels ← deeper levels
  start
  setContent id (.mapping (← entries levels))
  return id

mutual

/-- Reads a node. `block` allows block collections, and `indentless` a sequence that is not indented
against the mapping around it; `levels` is the number of collections that may be nested in it. -/
def node (block indentless : Bool) (levels : Nat) : (fuel : Nat) → Parse Nat
  | 0 => throw .badStructure
  | fuel + 1 => do
    if let .alias name := ← peek then
      pass
      aliased name
    else
      let p ← properties
      let token ← peek
      match token with
      | .scalar text plain =>
        pass
        checkAnchor p
        addNode p (p.scalarTag text plain) (.scalar text)
      | .flowSequenceStart => sequenceOf p levels pass (flowItems true [] · fuel)
      | .flowMappingStart => mappingOf p levels pass (flowEntries true [] · fuel)
      | _ =>
        if token = .blockEntry ∧ indentless then
          sequenceOf p levels (pure ()) (indentlessItems [] · fuel)
        else if token = .blockSequenceStart ∧ block then
          sequenceOf p levels pass (blockItems [] · fuel)
        else if token = .blockMappingStart ∧ block then
          mappingOf p levels pass (blockEntries [] · fuel)
        else if p.any then
          checkAnchor p
          addNode p (p.scalarTag "" true) (.scalar "")
        else throw .badStructure
termination_by structural fuel => fuel

/-- Reads a node unless one of the given tokens is ahead, which leaves it empty. -/
def nodeUnless (stops : List Token) (block indentless : Bool) (levels : Nat) :
    (fuel : Nat) → Parse Nat
  | 0 => throw .badStructure
  | fuel + 1 => do
    if ← atAny stops then addEmpty else node block indentless levels fuel
termination_by structural fuel => fuel

/-- Reads the value of an entry after its key. -/
def valueUnless (stops : List Token) (block indentless : Bool) (levels : Nat) :
    (fuel : Nat) → Parse Nat
  | 0 => throw .badStructure
  | fuel + 1 => do
    if ← atAny [.value] then
      pass
      nodeUnless stops block indentless levels fuel
    else addEmpty
termination_by structural fuel => fuel

/-- Reads the items of a block sequence; `acc` holds those read so far, latest first. -/
def blockItems (acc : List Nat) (levels : Nat) : (fuel : Nat) → Parse (List Nat)
  | 0 => throw .badStructure
  | fuel + 1 => do
    if ← atAny [.blockEntry] then
      pass
      let item ← nodeUnless [.blockEntry, .blockEnd] true false levels fuel
      blockItems (item :: acc) levels fuel
    else
      expect .blockEnd
      return acc.reverse
termination_by structural fuel => fuel

/-- Reads the items of a sequence that is not indented. -/
def indentlessItems (acc : List Nat) (levels : Nat) : (fuel : Nat) → Parse (List Nat)
  | 0 => throw .badStructure
  | fuel + 1 => do
    if ← atAny [.blockEntry] then
      pass
      let item ← nodeUnless [.blockEntry, .key, .value, .blockEnd] true false levels fuel
      indentlessItems (item :: acc) levels fuel
    else return acc.reverse
termination_by structural fuel => fuel

/-- Reads the entries of a block mapping. -/
def blockEntries (acc : List (Nat × Nat)) (levels : Nat) : (fuel : Nat) → Parse (List (Nat × Nat))
  | 0 => throw .badStructure
  | fuel + 1 => do
    if ← atAny [.key] then
      pass
      let stops := [Token.key, .value, .blockEnd]
      let key ← nodeUnless stops true true levels fuel
      let value ← valueUnless stops true true levels fuel
      blockEntries ((key, value) :: acc) levels fuel
    else
      expect .blockEnd
      return acc.reverse
termination_by structural fuel => fuel

/-- Reads the items of a flow sequence; a single pair may stand for a mapping. -/
def flowItems (first : Bool) (acc : List Nat) (levels : Nat) : (fuel : Nat) → Parse (List Nat)
  | 0 => throw .badStructure
  | fuel + 1 => do
    if ← atAny [.flowSequenceEnd] then
      pass
      return acc.reverse
    unless first do expect .flowEntry
    if ← atAny [.flowSequenceEnd] then
      pass
      return acc.reverse
    else if ← atAny [.key] then
      let id ← addNode {} .mapping (.mapping [])
      let inside ← deeper levels
      pass
      let stops := [Token.flowEntry, .flowSequenceEnd]
      let key ← nodeUnless (.value :: stops) false false inside fuel
      let value ← valueUnless stops false false inside fuel
      setContent id (.mapping [(key, value)])
      flowItems false (id :: acc) levels fuel
    else
      let item ← node false false levels fuel
      flowItems false (item :: acc) levels fuel
termination_by structural fuel => fuel

/-- Reads the entries of a flow mapping. -/
def flowEntries (first : Bool) (acc : List (Nat × Nat)) (levels : Nat) :
    (fuel : Nat) → Parse (List (Nat × Nat))
  | 0 => throw .badStructure
  | fuel + 1 => do
    if ← atAny [.flowMappingEnd] then
      pass
      return acc.reverse
    unless first do expect .flowEntry
    if ← atAny [.flowMappingEnd] then
      pass
      return acc.reverse
    else if ← atAny [.key] then
      pass
      let stops := [Token.flowEntry, .flowMappingEnd]
      let key ← nodeUnless (.value :: stops) false false levels fuel
      let value ← valueUnless stops false false levels fuel
      flowEntries false ((key, value) :: acc) levels fuel
    else
      let key ← node false false levels fuel
      let value ← addEmpty
      flowEntries false ((key, value) :: acc) levels fuel
termination_by structural fuel => fuel

end

/-! ## Documents -/

/-- The short forms of tags that every document has. -/
def defaultHandles : List (String × String) :=
  [("!", "!"), ("!!", coreTagStart)]

/-- Reads the directives of a document: whether a version was given, and the short forms of tags. -/
def directives (hasVersion : Bool) (handles : List (String × String)) :
    (fuel : Nat) → Parse (List (String × String))
  | 0 => throw .badStructure
  | fuel + 1 => do
    match ← peek with
    | .directive (.version major) =>
      pass
      if hasVersion || major ≠ 1 then throw .badStructure else directives true handles fuel
    | .directive (.tag handle start) =>
      pass
      if (handles.lookup handle).isSome then throw .badStructure
      else directives hasVersion ((handle, start) :: handles) fuel
    | .directive .other =>
      pass
      directives hasVersion handles fuel
    | _ => return handles

/-- Reads the start of a document with directives or a marker. -/
def documentStart (fuel : Nat) : Parse Unit := do
  let handles ← directives false [] fuel
  expect .documentStart
  modify fun s => { s with handles := handles ++ defaultHandles }

/-- Reads the content of a document that was opened by a marker. -/
def documentContent (levels fuel : Nat) : Parse Nat := do
  match ← peek with
  | .directive _ | .documentStart | .documentEnd | .ending => addEmpty
  | _ => node true false levels fuel

/-- Passes the markers at the end of a document. -/
def documentEnds : (fuel : Nat) → Parse Unit
  | 0 => throw .badStructure
  | fuel + 1 => do
    if ← atAny [.documentEnd] then
      pass
      documentEnds fuel

/-- Reads the single document of a text; none if the text holds nothing. -/
def document (levels fuel : Nat) : Parse (Option Nat) := do
  match ← peek with
  | .ending => return none
  | token =>
    let root ←
      if token matches .directive _ | .documentStart then do
        documentStart fuel
        documentContent levels fuel
      else do
        modify fun s => { s with handles := defaultHandles }
        node true false levels fuel
    documentEnds fuel
    if ← atAny [.ending] then return some root
    else
      documentStart fuel
      throw .severalDocuments

end Parse

/-- The graph of the document in a text; none if the text holds nothing. Every step of reading
passes a token or goes down one level, and a character makes few tokens, so the length of the text
bounds the steps. -/
def Graph.read (source : Source) (limits : Limits) : Except YamlError (Option Graph) := do
  let tokens := Tokenizer.start source
  let fuel := 16 * tokens.cursor.fuel + 16
  let (root, s) ← (Parse.document limits.collections fuel).run { tokens }
  .ok (root.map fun root => { nodes := s.nodes, root })

end CommandAudit.Yaml
