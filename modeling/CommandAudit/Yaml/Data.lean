import CommandAudit.Yaml.Merge
import CommandAudit.Yaml.Number

/-!
# Data from YAML nodes

Every node of a graph becomes data according to its tag. Nodes are met from the root on, level by
level: a scalar is read when it is met, and a collection is filled after all collections met before
it. So the first error on this way is the one that counts. The data may refer to itself, and it may
refer to one collection many times; as a value it is cut off below a certain depth.
-/

namespace CommandAudit.Yaml

/-! ## Scalars -/

/-- The value of a text with the given tag. An undefined number comes from `origin`. -/
def scalarValue (tag : Tag) (origin : Nat) (text : Text) : Except YamlError Value :=
  match tag, text with
  | .null, _ => .ok .null
  | .text, t => .ok (.text t)
  | .bool, .string s =>
    match boolWords.lookup s.toLower with
    | some b => .ok (.bool b)
    | none => .error .unknownWord
  | .bool, .broken _ => .error .unknownWord
  | .int, .string s => (readInt s).map .int
  | .float, .string s => readFloat origin s
  | .int, .broken _ | .float, .broken _ => .error .outOfRange
  | .time, .string s => (readTime s).map fun (d, t) => t.elim (.date d) (.instant d)
  | .time, .broken _ => .error .malformedTime
  | .binary, .string s => (readBinary s).map .bytes
  | _, _ => .error .badTag

/-- The text of a node that is read as a scalar. A mapping stands for its default value, which may
be a mapping again as long as `levels` are left. -/
def scalarText (nodes : Array Node) : (levels : Nat) → (id : Nat) → Except YamlError Text
  | 0, _ => .error .tooDeep
  | levels + 1, id =>
    match contentOf nodes id with
    | .scalar text => .ok text
    | .sequence _ => .error .badTag
    | .mapping entries =>
      match entries.find? fun e => tagOf nodes e.1 = .default with
      | some (_, value) => scalarText nodes levels value
      | none => .error .badTag

/-- The value of a node that is read as a scalar with the given tag. -/
def readScalar (limits : Limits) (nodes : Array Node) (id : Nat) (tag : Tag) :
    Except YamlError Value := do
  if tag matches .unknown _ | .merge | .default then .error .badTag
  else
    let text ← scalarText nodes (limits.defaults + 1) id
    if tag = .time && (entriesOf? nodes id).isSome then .error .timeOfCollection
    else scalarValue tag (id + 1) text

/-! ## Collections -/

/-- The data of a node. Collections refer to other nodes, but keys are values. -/
inductive Datum
  | scalar (value : Value)
  | list (items : List Nat)
  | pairs (items : List (Nat × Nat))
  | set (items : List Value)
  | mapping (entries : List (Value × Nat))
  deriving Repr

/-- An empty collection of the kind that a tag asks for. -/
def Datum.empty? : Tag → Option Datum
  | .sequence => some (.list [])
  | .orderedMapping | .pairs => some (.pairs [])
  | .set => some (.set [])
  | .mapping => some (.mapping [])
  | _ => none

/-- What is known while nodes become data. -/
structure Builder where
  /-- The nodes. -/
  nodes : Array Node
  /-- The data of the nodes met so far. -/
  data : Array (Option Datum)
  /-- The collections still to be filled, latest first. -/
  waiting : List Nat := []
  /-- The number of merge keys at the start. -/
  merges : Nat
  /-- How deeply merged mappings and default values may be nested. -/
  limits : Limits

namespace Builder

/-- The state before any node is met. -/
def start (limits : Limits) (nodes : Array Node) : Builder :=
  { nodes, data := nodes.map fun _ => none, merges := mergeCount nodes, limits }

/-- Records the data of a node. -/
def put (b : Builder) (id : Nat) (datum : Datum) : Builder :=
  { b with data := b.data.setIfInBounds id (some datum) }

/-- Meets a node: a scalar is read, and a collection is left to be filled later. -/
def visit (b : Builder) (id : Nat) : Except YamlError Builder :=
  match b.data[id]? with
  | some none =>
    let tag := tagOf b.nodes id
    match Datum.empty? tag with
    | some empty => .ok { b.put id empty with waiting := id :: b.waiting }
    | none => do .ok (b.put id (.scalar (← readScalar b.limits b.nodes id tag)))
  | _ => .ok b

/-- The value of a node that was met, as a key. -/
def keyValue (b : Builder) (id : Nat) : Except YamlError Value :=
  match b.data[id]? with
  | some (some (.scalar v)) => .ok v
  | _ => .error .badKey

/-- The items of a sequence. -/
def itemsOf (b : Builder) (id : Nat) : Except YamlError (List Nat) :=
  match contentOf b.nodes id with
  | .sequence items => .ok items
  | _ => .error .badTag

/-- Meets the key and the value of the single entry of an item. -/
def visitPair (b : Builder) (item : Nat) : Except YamlError ((Nat × Nat) × Builder) := do
  match entriesOf? b.nodes item with
  | some [(key, value)] => .ok ((key, value), ← (← b.visit key).visit value)
  | _ => .error .badTag

/-- Meets the items of a sequence of pairs; `acc` holds those met so far, latest first. -/
def visitPairs (b : Builder) (acc : List (Nat × Nat)) :
    List Nat → Except YamlError (List (Nat × Nat) × Builder)
  | [] => .ok (acc.reverse, b)
  | item :: rest =>
    match b.visitPair item with
    | .ok (pair, b) => visitPairs b (pair :: acc) rest
    | .error e => .error e

/-- Meets the entries of a mapping; `acc` holds those met so far, latest first. -/
def visitEntries (b : Builder) (acc : List (Value × Nat)) :
    List (Nat × Nat) → Except YamlError (List (Value × Nat) × Builder)
  | [] => .ok (acc.reverse, b)
  | (key, value) :: rest =>
    match (do
      let b ← b.visit key
      let k ← b.keyValue key
      .ok (k, ← b.visit value) : Except YamlError (Value × Builder)) with
    | .ok (k, b) => visitEntries b ((k, value) :: acc) rest
    | .error e => .error e

/-- The entries of a mapping after its merge keys are resolved, with distinct keys. -/
def fillEntries (b : Builder) (id : Nat) : Except YamlError (List (Value × Nat) × Builder) := do
  if (entriesOf? b.nodes id).isNone then .error .badTag
  else
    let b := { b with nodes := ← resolveMerges id [] b.limits.merges (b.merges + 1) b.nodes }
    let (entries, b) ← b.visitEntries [] ((entriesOf? b.nodes id).getD [])
    .ok (distinctEntries Value.key? entries, b)

/-- Fills a collection that was met. -/
def fill (b : Builder) (id : Nat) : Except YamlError Builder := do
  match tagOf b.nodes id with
  | .sequence =>
    let items ← b.itemsOf id
    let b ← items.foldlM visit b
    .ok (b.put id (.list items))
  | .set =>
    let (entries, b) ← b.fillEntries id
    .ok (b.put id (.set (entries.map Prod.fst)))
  | .mapping =>
    let (entries, b) ← b.fillEntries id
    .ok (b.put id (.mapping entries))
  | _ =>
    let (pairs, b) ← b.visitPairs [] (← b.itemsOf id)
    .ok (b.put id (.pairs pairs))

/-- Fills the waiting collections, and those met on the way after them. Every collection waits once,
so the number of nodes bounds the rounds. -/
def fillAll : (fuel : Nat) → Builder → Except YamlError Builder
  | 0, b => .ok b
  | fuel + 1, b =>
    if b.waiting.isEmpty then .ok b
    else
      match b.waiting.reverse.foldlM fill { b with waiting := [] } with
      | .ok b => fillAll fuel b
      | .error e => .error e

end Builder

/-! ## Values -/

/-- The value of a datum whose parts have the given values. -/
def Datum.value (below : Nat → Value) : Datum → Value
  | .scalar v => v
  | .list items => .list (items.map below)
  | .pairs items => .list (items.map fun (k, v) => .list [below k, below v])
  | .set items => .set items
  | .mapping entries => .mapping (entries.map fun (k, v) => (k, below v))

/-- The value of a datum without its parts. -/
def Datum.bare : Datum → Value
  | .scalar v => v
  | .list _ | .pairs _ => .list []
  | .set _ => .set []
  | .mapping _ => .mapping []

/-- The values of all nodes, cut off at the given depth: what is nested deeper is left out. -/
def valuesTo (data : Array (Option Datum)) : (depth : Nat) → Array Value
  | 0 => data.map fun datum => datum.elim .null Datum.bare
  | depth + 1 =>
    let below := valuesTo data depth
    data.map fun datum => datum.elim .null (Datum.value fun id => below.getD id .null)

/-- The depth of data that any record has room for: a catalogue holds entries in a mapping, each of
them a list of names. -/
def recordDepth : Nat :=
  5

/-- The value of a graph. -/
def Graph.value (g : Graph) (limits : Limits) : Except YamlError Value := do
  let b ← (Builder.start limits g.nodes).visit g.root
  let b ← b.fillAll (g.nodes.size + 1)
  .ok ((valuesTo b.data recordDepth).getD g.root .null)

/-- The data of a YAML text given by its bytes; nothing if the text holds no document. -/
def parse (bytes : List UInt8) (limits : Limits := {}) : Except YamlError Value := do
  match ← Graph.read (.ofBytes bytes) limits with
  | some graph => graph.value limits
  | none => .ok .null

end CommandAudit.Yaml
