import CommandAudit.Yaml.Node

/-!
# Merge keys

A mapping may merge the entries of other mappings. They come before the entries of the mapping
itself, which therefore win; of several mappings merged in one list the earlier ones win. Merging
changes the nodes of a graph: afterwards the mapping, and every mapping merged into it, has no merge
keys. A mapping may even merge itself, since its merge keys are removed one by one.
-/

namespace CommandAudit.Yaml

/-- The tag of a node. -/
def tagOf (nodes : Array Node) (id : Nat) : Tag :=
  (nodes[id]?.map Node.tag).getD .null

/-- The content of a node. -/
def contentOf (nodes : Array Node) (id : Nat) : Content :=
  (nodes[id]?.map Node.content).getD default

/-- The entries of a node; none if it is no mapping. -/
def entriesOf? (nodes : Array Node) (id : Nat) : Option (List (Nat × Nat)) :=
  match contentOf nodes id with
  | .mapping entries => some entries
  | _ => none

/-- Gives a mapping other entries. -/
def setEntries (nodes : Array Node) (id : Nat) (entries : List (Nat × Nat)) : Array Node :=
  nodes.modify id fun node => { node with content := .mapping entries }

/-- Makes an ordinary key of every key of a default value. -/
def retagDefaults (nodes : Array Node) (entries : List (Nat × Nat)) : Array Node :=
  entries.foldl (fun nodes (key, _) =>
    if tagOf nodes key = .default then nodes.modify key fun node => { node with tag := .text }
    else nodes) nodes

/-- The number of merge keys in a graph, which bounds the steps of merging: each removes one. -/
def mergeCount (nodes : Array Node) : Nat :=
  nodes.foldl (fun count node =>
    match node.content with
    | .mapping entries => count + (entries.filter fun e => tagOf nodes e.1 = .merge).length
    | _ => count) 0

/-- Resolves the merge keys of a mapping; `merged` holds the entries merged so far, and `levels` is
the number of mappings that may be merged into each other below it. -/
def resolveMerges (id : Nat) (merged : List (Nat × Nat)) (levels : Nat) :
    (fuel : Nat) → Array Node → Except YamlError (Array Node)
  | 0, _ => .error .tooDeep
  | fuel + 1, nodes => do
    let entries := (entriesOf? nodes id).getD []
    let isOwn (e : Nat × Nat) : Bool := tagOf nodes e.1 ≠ .merge
    let before := entries.takeWhile isOwn
    match entries.drop before.length with
    | [] =>
      let nodes := retagDefaults nodes entries
      .ok (if merged.isEmpty then nodes else setEntries nodes id (merged ++ entries))
    | (_, value) :: after =>
      let nodes := setEntries nodes id (before ++ after)
      let resolveBelow (id : Nat) (nodes : Array Node) : Except YamlError (Array Node) :=
        match levels with
        | 0 => .error .tooDeep
        | levels + 1 => resolveMerges id [] levels fuel nodes
      match contentOf nodes value with
      | .mapping _ =>
        let nodes ← resolveBelow value nodes
        resolveMerges id (merged ++ (entriesOf? nodes value).getD []) levels fuel nodes
      | .sequence items =>
        let (nodes, parts) ← items.foldlM (fun (nodes, parts) item =>
          match contentOf nodes item with
          | .mapping _ => do
            let nodes ← resolveBelow item nodes
            .ok (nodes, (entriesOf? nodes item).getD [] :: parts)
          | _ => .error YamlError.badTag) (nodes, [])
        resolveMerges id (merged ++ parts.flatten) levels fuel nodes
      | .scalar _ => .error .badTag

end CommandAudit.Yaml
