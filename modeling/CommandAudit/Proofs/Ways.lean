import CommandAudit.FileTree
import Mathlib.Data.List.Nodup

/-!
# Ways into a directory

A way of names leads from a node to what stands at its end (`FileNode.LeadsTo`). The items below a
directory are those that ways of one or more names lead to (`FileNode.mem_itemsBelow_iff`), and if
no directory has two entries of one name, no two of them have the same way
(`FileNode.nodup_itemsBelow`).
-/

namespace CommandAudit

namespace FileNode

/-- To prove something of a tree, prove it of what is no directory, and of a directory if it holds
of all its entries. -/
@[elab_as_elim]
theorem inductionOnEntries {motive : FileNode → Prop}
    (leaf : ∀ node : FileNode, node.isDirectory = false → motive node)
    (directory : ∀ entries, (∀ entry ∈ entries, motive entry.2) → motive (.directory entries))
    (node : FileNode) : motive node := by
  match node with
  | .directory entries =>
    exact directory entries fun entry _ => inductionOnEntries leaf directory entry.2
  | .file _ | .unreadable _ | .special => exact leaf _ rfl
termination_by sizeOf node
decreasing_by
  have hentry : sizeOf entry < sizeOf entries := List.sizeOf_lt_of_mem ‹_›
  have hnode : sizeOf entry.2 < sizeOf entry := by
    cases entry
    simp +arith
  simp +arith
  omega

/-! ## Ways -/

/-- The way of names leads from `node` to `found`. -/
inductive LeadsTo : FileNode → List String → FileNode → Prop
  /-- Nothing is passed. -/
  | here (node : FileNode) : LeadsTo node [] node
  /-- The first name is that of an entry. -/
  | through {entries : List (String × FileNode)} {name : String} {next found : FileNode}
      {way : List String} : (name, next) ∈ entries → LeadsTo next way found →
      LeadsTo (.directory entries) (name :: way) found

/-- No directory has two entries of one name. -/
def HasDistinctNames (node : FileNode) : Prop :=
  ∀ way entries, node.LeadsTo way (.directory entries) → (entries.map Prod.fst).Nodup

section

variable {node next found : FileNode} {entries : List (String × FileNode)} {name : String}
  {way : List String}

theorem leadsTo_nil_iff : node.LeadsTo [] found ↔ found = node := by
  refine ⟨fun h => ?_, fun h => h ▸ .here found⟩
  cases h
  rfl

theorem LeadsTo.eq_of_not_directory (h : node.LeadsTo way found)
    (hnode : node.isDirectory = false) : way = [] ∧ found = node := by
  cases h with
  | here => exact ⟨rfl, rfl⟩
  | through => exact absurd hnode (by simp [isDirectory])

theorem hasDistinctNames_directory_iff : (directory entries).HasDistinctNames ↔
    (entries.map Prod.fst).Nodup ∧ ∀ entry ∈ entries, entry.2.HasDistinctNames := by
  constructor
  · intro h
    exact ⟨h [] entries (.here _), fun entry hmem way inner hway =>
      h (entry.1 :: way) inner (.through hmem hway)⟩
  · rintro ⟨hnodup, hbelow⟩ way inner hway
    cases hway with
    | here => exact hnodup
    | through hmem hway => exact hbelow _ hmem _ inner hway

theorem hasDistinctNames_of_not_directory (h : node.isDirectory = false) :
    node.HasDistinctNames := by
  intro way inner hway
  obtain ⟨-, rfl⟩ := hway.eq_of_not_directory h
  exact absurd h (by simp [isDirectory])

end

/-! ## What is below a directory -/

/-- An entry and everything below it. -/
def itemsOfEntry (entry : String × FileNode) : List (List String × FileNode) :=
  ([entry.1], entry.2) :: entry.2.itemsBelow.map fun item => (entry.1 :: item.1, item.2)

theorem itemsOfEntries_eq_flatMap (entries : List (String × FileNode)) :
    itemsOfEntries entries = entries.flatMap itemsOfEntry := by
  induction entries with
  | nil => rfl
  | cons entry rest ih => rw [List.flatMap_cons, ← ih, itemsOfEntries, itemsOfEntry]

theorem itemsBelow_of_not_directory {node : FileNode} (h : node.isDirectory = false) :
    node.itemsBelow = [] := by
  cases node with
  | directory => exact absurd h (by simp [isDirectory])
  | _ => rfl

/-- If the items below an entry are those that ways of one or more names lead to, the entry has
those that start with its name. -/
theorem mem_itemsOfEntry_iff {entry : String × FileNode} {way : List String} {found : FileNode}
    (h : ∀ rest, (rest, found) ∈ entry.2.itemsBelow ↔ rest ≠ [] ∧ entry.2.LeadsTo rest found) :
    (way, found) ∈ itemsOfEntry entry ↔
      ∃ rest, way = entry.1 :: rest ∧ entry.2.LeadsTo rest found := by
  rw [itemsOfEntry, List.mem_cons, List.mem_map]
  constructor
  · rintro (heq | ⟨⟨rest, found'⟩, hmem, heq⟩)
    · obtain ⟨rfl, rfl⟩ := Prod.mk.inj heq
      exact ⟨[], rfl, .here _⟩
    · obtain ⟨rfl, rfl⟩ := Prod.mk.inj heq
      exact ⟨rest, rfl, ((h rest).1 hmem).2⟩
  · rintro ⟨rest, rfl, hrest⟩
    cases rest with
    | nil =>
      obtain rfl := leadsTo_nil_iff.1 hrest
      exact .inl rfl
    | cons name rest =>
      exact .inr ⟨(name :: rest, found), (h _).2 ⟨List.cons_ne_nil _ _, hrest⟩, rfl⟩

/-- The items below a node are those that ways of one or more names lead to. -/
theorem mem_itemsBelow_iff (node : FileNode) {way : List String} {found : FileNode} :
    (way, found) ∈ node.itemsBelow ↔ way ≠ [] ∧ node.LeadsTo way found := by
  induction node using inductionOnEntries generalizing way with
  | leaf node hnode =>
    rw [itemsBelow_of_not_directory hnode]
    refine ⟨fun h => absurd h List.not_mem_nil, fun ⟨hne, h⟩ => ?_⟩
    exact absurd (h.eq_of_not_directory hnode).1 hne
  | directory entries ih =>
    rw [itemsBelow, itemsOfEntries_eq_flatMap, List.mem_flatMap]
    constructor
    · rintro ⟨entry, hmem, h⟩
      obtain ⟨rest, rfl, hrest⟩ := (mem_itemsOfEntry_iff fun _ => ih entry hmem).1 h
      exact ⟨List.cons_ne_nil _ _, .through hmem hrest⟩
    · rintro ⟨hne, h⟩
      cases h with
      | here => exact absurd rfl hne
      | through hmem hrest =>
        exact ⟨_, hmem, (mem_itemsOfEntry_iff fun _ => ih _ hmem).2 ⟨_, rfl, hrest⟩⟩

/-- The ways of an entry start with its name. -/
theorem head?_of_mem_itemsOfEntry {entry : String × FileNode} {way : List String}
    (h : way ∈ (itemsOfEntry entry).map Prod.fst) : way.head? = some entry.1 := by
  obtain ⟨⟨_, found⟩, hmem, rfl⟩ := List.mem_map.1 h
  obtain ⟨rest, rfl, -⟩ := (mem_itemsOfEntry_iff fun _ => mem_itemsBelow_iff entry.2).1 hmem
  rfl

theorem nodup_itemsOfEntry {entry : String × FileNode}
    (h : (entry.2.itemsBelow.map Prod.fst).Nodup) : ((itemsOfEntry entry).map Prod.fst).Nodup := by
  have hways : (itemsOfEntry entry).map Prod.fst =
      [entry.1] :: (entry.2.itemsBelow.map Prod.fst).map (entry.1 :: ·) := by
    rw [itemsOfEntry, List.map_cons, List.map_map, List.map_map]
    rfl
  rw [hways, List.nodup_cons]
  refine ⟨fun hmem => ?_, h.map List.cons_injective⟩
  -- Below the entry there is no item with the empty way.
  obtain ⟨way, hway, heq⟩ := List.mem_map.1 hmem
  obtain ⟨item, hitem, rfl⟩ := List.mem_map.1 hway
  exact ((mem_itemsBelow_iff entry.2).1 hitem).1 (List.cons.inj heq).2

/-- No two items below a directory have the same way. -/
theorem nodup_itemsBelow {node : FileNode} (h : node.HasDistinctNames) :
    (node.itemsBelow.map Prod.fst).Nodup := by
  induction node using inductionOnEntries with
  | leaf node hnode =>
    rw [itemsBelow_of_not_directory hnode]
    exact List.nodup_nil
  | directory entries ih =>
    rw [itemsBelow, itemsOfEntries_eq_flatMap, List.map_flatMap, List.nodup_flatMap]
    obtain ⟨hnodup, hbelow⟩ := hasDistinctNames_directory_iff.1 h
    refine ⟨fun entry hmem => nodup_itemsOfEntry (ih entry hmem (hbelow entry hmem)), ?_⟩
    refine (List.pairwise_map.1 hnodup).imp fun {entry other} hne way hway hother => hne ?_
    rw [← Option.some_inj, ← head?_of_mem_itemsOfEntry hway, head?_of_mem_itemsOfEntry hother]

end FileNode

end CommandAudit
