import CommandAudit.Proofs.Resolution
import Mathlib.Data.List.Lex
import Mathlib.Data.String.Basic

/-!
# The scripts found below a directory

The search lists the ways to the scripts below a directory in strictly increasing order
(`FileNode.pairwise_scripts`). It passes over a script for a name of the ignore list anywhere on its
way, be it the script's own, but it looks at everything below the directory, and what it cannot
reach ends it (`FileTree.discover_eq_scripts`).
-/

namespace CommandAudit

namespace FileNode

/-! ## The search -/

/-- Ways are ordered by the first name in which they differ. -/
theorem wayLE_iff (way way' : List String) : wayLE way way' = true ↔ way ≤ way' := by
  induction way generalizing way' with
  | nil => exact iff_of_true rfl (not_lt.1 (List.not_lt_nil way'))
  | cons name way ih =>
    cases way' with
    | nil => exact iff_of_false Bool.false_ne_true (not_le.2 (List.nil_lt_cons name way))
    | cons name' way' =>
      rw [wayLE, Bool.or_eq_true, Bool.and_eq_true, decide_eq_true_eq, beq_iff_eq, ih,
        le_iff_lt_or_eq, le_iff_lt_or_eq, List.cons_lt_cons_iff, List.cons.injEq, and_or_left,
        or_assoc]

theorem pairwise_scripts {node : FileNode} (h : node.HasDistinctNames) :
    node.scripts.Pairwise (· < ·) := by
  have htrans : ∀ a b c, wayLE a b = true → wayLE b c = true → wayLE a c = true := by
    intro a b c hab hbc
    rw [wayLE_iff] at hab hbc ⊢
    exact hab.trans hbc
  have htotal : ∀ a b, (wayLE a b || wayLE b a) = true := by
    intro a b
    rw [Bool.or_eq_true, wayLE_iff, wayLE_iff]
    exact le_total a b
  have hnodup : node.scripts.Nodup := by
    rw [scripts, (List.mergeSort_perm _ _).nodup_iff]
    exact (nodup_itemsBelow h).sublist (List.filter_sublist.map _)
  refine (List.pairwise_mergeSort htrans htotal _ |>.and hnodup).imp fun {a b} ⟨hle, hne⟩ => ?_
  exact lt_of_le_of_ne ((wayLE_iff a b).1 hle) hne

/-- The way leads to a shell script, and no directory on it has a name of the ignore list. -/
def Offers (node : FileNode) (way : List String) : Prop :=
  (∃ name ∈ way.getLast?, ∃ found, node.LeadsTo way found ∧ found.isFile = true ∧
    isShellScript name found = true) ∧ ∀ name ∈ way.dropLast, name ∉ ignoredNames

theorem mem_scripts_iff {node : FileNode} {way : List String} :
    way ∈ node.scripts ↔ node.Offers way ∧ ∀ name ∈ way.getLast?, name ∉ ignoredNames := by
  have hfound : way ∈ node.scripts ↔ ∃ found, (way, found) ∈ node.itemsBelow ∧
      (found.isFile = true ∧ isIgnored way = false) ∧
        isShellScript (way.getLast?.getD "") found = true := by
    simp [scripts, and_assoc]
  rw [hfound]
  cases hlast : way.getLast? with
  | none =>
    rw [List.getLast?_eq_none_iff] at hlast
    simp [hlast, Offers, mem_itemsBelow_iff]
  | some name =>
    have hway : way = way.dropLast ++ [name] := (List.dropLast_append_getLast? name hlast).symm
    have hne : way ≠ [] := by
      rintro rfl
      exact absurd hlast (by simp)
    have hignored : isIgnored way = false ↔
        (∀ name ∈ way.dropLast, name ∉ ignoredNames) ∧ name ∉ ignoredNames := by
      conv_lhs => rw [hway]
      simp [isIgnored]
    simp only [Offers, hlast, hignored, mem_itemsBelow_iff, Option.getD_some, Option.mem_def,
      Option.some.injEq, exists_eq_left', forall_eq']
    constructor
    · rintro ⟨found, ⟨-, hleads⟩, ⟨hfile, hpassed, hname⟩, hscript⟩
      exact ⟨⟨⟨found, hleads, hfile, hscript⟩, hpassed⟩, hname⟩
    · rintro ⟨⟨⟨found, hleads, hfile, hscript⟩, hpassed⟩, hname⟩
      exact ⟨found, ⟨hne, hleads⟩, ⟨hfile, hpassed, hname⟩, hscript⟩

end FileNode

/-- A directory is searched for scripts, which are listed in strictly increasing order of their
ways. They are the scripts below it, in no directory of the ignore list, whose own names are not on
this list either. If something below the directory cannot be reached, the run ends. -/
theorem FileTree.discover_eq_scripts {t : FileTree} {p : Path} {place : List String}
    {node : FileNode} (h : t.find (t.resolve p) = .ok (place, node))
    (hnode : node.isDirectory = true) (hnames : node.HasDistinctNames) :
    ∃ found : List (List String),
      (t.ReachesBelow (t.resolve p) node →
        t.discover p = .ok (found.map fun way => { parts := way.map .string })) ∧
      (¬t.ReachesBelow (t.resolve p) node →
        ∃ e, t.discover p = .error (.breakdown (.file e))) ∧
      found.Pairwise (· < ·) ∧
      ∀ way, way ∈ found ↔ node.Offers way ∧ ∀ name ∈ way.getLast?, name ∉ ignoredNames := by
  obtain ⟨hfound, hbreaks⟩ := discover_of_find h hnode
  exact ⟨node.scripts, hfound, hbreaks, FileNode.pairwise_scripts hnames,
    fun way => FileNode.mem_scripts_iff⟩

/-- What the directory `d` holds: a script below `lib`, one that is called `build` beside it, and
one below a directory of this name. -/
def builtScripts : FileNode :=
  .directory
    [("lib", .directory
      [("a.sh", .file []),
        ("build", .file [0x23, 0x21, 0x2F, 0x62, 0x69, 0x6E, 0x2F, 0x73, 0x68])]),
    ("build", .directory [("b.sh", .file [])])]

theorem FileTree.reachesBelow_of_built_scripts :
    ReachesBelow { root := .directory [("d", builtScripts)] }
      { root := .slash, parts := ["d"] } builtScripts :=
  reachesBelow_iff.2 (by decide +kernel)

theorem FileTree.discover_of_built_scripts :
    ∃ found : List (List String),
      FileTree.discover { root := .directory [("d", builtScripts)] } { parts := ["d"] } =
        .ok (found.map fun way => { parts := way.map .string }) ∧
      ["lib", "a.sh"] ∈ found ∧ ["build", "b.sh"] ∉ found := by
  have hfile : ∀ content, (FileNode.file content).HasDistinctNames :=
    fun _ => FileNode.hasDistinctNames_of_not_directory rfl
  have hnames : builtScripts.HasDistinctNames := by
    simp [builtScripts, FileNode.hasDistinctNames_directory_iff, hfile]
  obtain ⟨found, hfound, -, -, hmem⟩ := discover_eq_scripts
    (t := { root := .directory [("d", builtScripts)] }) (p := { parts := ["d"] }) rfl rfl hnames
  refine ⟨found, hfound reachesBelow_of_built_scripts, (hmem _).2 ?_, fun h => ?_⟩
  · refine ⟨⟨⟨"a.sh", rfl, .file [], ?_, rfl, by decide +kernel⟩, by decide⟩, by decide⟩
    exact .through (List.mem_cons_self ..) (.through (List.mem_cons_self ..) (.here _))
  · exact ((hmem _).1 h).1.2 "build" (by decide) (by decide)

/-- A script that is in no directory of the ignore list, but is passed over because it has a name of
this list itself. -/
theorem FileTree.discover_passes_over_build :
    builtScripts.Offers ["lib", "build"] ∧
      FileTree.discover { root := .directory [("d", builtScripts)] } { parts := ["d"] } =
        .ok [{ parts := ["lib", "a.sh"] }] := by
  constructor
  · refine ⟨⟨"build", rfl, .file [0x23, 0x21, 0x2F, 0x62, 0x69, 0x6E, 0x2F, 0x73, 0x68], ?_, rfl,
      by decide +kernel⟩, by decide⟩
    exact .through (List.mem_cons_self ..)
      (.through (List.mem_cons_of_mem _ (List.mem_cons_self ..)) (.here _))
  · have hfound : (builtScripts.itemsBelow.filter fun entry =>
        entry.2.isFile && !isIgnored entry.1 &&
          CommandAudit.isShellScript (entry.1.getLast?.getD "") entry.2).map Prod.fst =
        [["lib", "a.sh"]] := by
      decide +kernel
    have hscripts : builtScripts.scripts = [["lib", "a.sh"]] :=
      (congrArg (fun ways => ways.mergeSort wayLE) hfound).trans (List.mergeSort_singleton _)
    have hnode : FileTree.node? { root := .directory [("d", builtScripts)] } { parts := ["d"] } =
        .ok (some builtScripts) := rfl
    rw [discover_of_checkPath hnode rfl (by decide +kernel) reachesBelow_of_built_scripts, hscripts]
    rfl

end CommandAudit
