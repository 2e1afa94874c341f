import CommandAudit.Discovery
import CommandAudit.Proofs.Ways
import Mathlib.Tactic.SplitIfs

/-!
# Resolved paths

Following names from the root leaves a trail of directories (`FileTree.Trail`), and `..` takes back
the last step of it. So the names of the trail lead to the same file, and these are the names of the
resolved path (`follow_normalize`): a directory is found under its resolved path, unless no file can
have this path. It is searched if everything below it can be reached (`FileTree.ReachesBelow`), and
otherwise the run ends (`discover_of_directory`).
-/

namespace CommandAudit.FileTree

/-- Following the names of the trail from `root`, earliest name last, leads to `node`. -/
inductive Trail (root : FileNode) : List (String × FileNode) → FileNode → Prop
  | start : Trail root [] root
  | step {trail : List (String × FileNode)} {entries : List (String × FileNode)} {name : String}
      {next : FileNode} : Trail root trail (.directory entries) → name ≠ ".." →
      name.utf8ByteSize ≤ nameLimit → entries.lookup name = some next →
      Trail root ((name, .directory entries) :: trail) next

/-- The names of a trail, latest first. -/
def trailNames (trail : List (String × FileNode)) : List Text :=
  trail.map fun step => .string step.1

theorem Trail.follow_eq {root node : FileNode} {trail : List (String × FileNode)}
    (h : Trail root trail node) (rest : List Text) :
    follow [] root ((trailNames trail).reverse ++ rest) = follow trail node rest := by
  induction h generalizing rest with
  | start => rfl
  | @step trail entries name next _ hname hsize hlookup ih =>
    have hparent : Text.string name ≠ Text.string ".." := fun h => hname (Text.string.inj h)
    rw [trailNames, List.map_cons, List.reverse_cons, List.append_assoc, List.singleton_append]
    refine (ih (.string name :: rest)).trans ?_
    simp only [follow, if_neg hparent, if_neg (Nat.not_lt.2 hsize), hlookup]

/-- One step of `normalize`. -/
def normalizeStep (acc : List Text) (part : Text) : List Text :=
  if part = ".." then acc.tail else part :: acc

/-- What is found has a trail of its own, with the names that `normalize` leaves. -/
theorem Trail.exists_of_follow {root node found : FileNode} {trail : List (String × FileNode)}
    {parts : List Text} {way : List String} (htrail : Trail root trail node)
    (h : follow trail node parts = .ok (way, found)) :
    ∃ last, Trail root last found ∧ (last.map Prod.fst).reverse = way ∧
      trailNames last = parts.foldl normalizeStep (trailNames trail) := by
  fun_induction follow trail node parts with
  | case1 trail node =>
    obtain ⟨rfl, rfl⟩ := Prod.mk.inj (Except.ok.inj h)
    exact ⟨trail, htrail, rfl, rfl⟩
  | case2 rest entries step above trail ih =>
    cases htrail with
    | step habove => exact ih habove h
  | case3 rest entries ih => exact ih htrail h
  | case6 trail rest entries name hsize next hlookup hparent ih =>
    have hname : name ≠ ".." := fun h => hparent (congrArg Text.string h)
    rw [List.foldl_cons, normalizeStep, if_neg hparent]
    exact ih (.step htrail hname (Nat.not_lt.1 hsize) hlookup) h
  | case4 | case5 | case7 | case8 => exact absurd h (by simp)

theorem exists_trail_of_follow {root found : FileNode} {parts : List Text} {way : List String}
    (h : follow [] root parts = .ok (way, found)) :
    ∃ trail, Trail root trail found ∧ (trail.map Prod.fst).reverse = way ∧
      normalize parts = (trailNames trail).reverse := by
  obtain ⟨trail, htrail, hway, hnames⟩ := Trail.exists_of_follow .start h
  exact ⟨trail, htrail, hway, congrArg List.reverse hnames.symm⟩

/-- The normal form of a sequence of names leads to the same file. -/
theorem follow_normalize {root found : FileNode} {parts : List Text} {way : List String}
    (h : follow [] root parts = .ok (way, found)) :
    follow [] root (normalize parts) = .ok (way, found) := by
  obtain ⟨trail, htrail, rfl, hnames⟩ := exists_trail_of_follow h
  have hfollow := htrail.follow_eq []
  rwa [List.append_nil, ← hnames] at hfollow

/-! ## Directories -/

theorem hasOnlyByteMarks_string (s : String) : hasOnlyByteMarks (.string s) = true := by
  have hchar : ∀ c : Char, isSurrogate c.toNat = false := by
    intro c
    have hvalid := c.valid
    simp only [UInt32.isValidChar, Nat.isValidChar] at hvalid
    simp only [isSurrogate, Bool.and_eq_false_iff, decide_eq_false_iff_not]
    simp only [Char.toNat]
    omega
  simp [hasOnlyByteMarks, Text.points, hchar]

theorem exists_follow_of_node? {t : FileTree} {p : Path} {node : FileNode}
    (h : t.node? p = .ok (some node)) :
    ∃ way, follow [] t.root (t.fromRoot p) = .ok (way, node) := by
  unfold node? at h
  split at h
  · next way node' hfind =>
    obtain rfl := Option.some.inj (Except.ok.inj h)
    cases hcheck : checkPath p with
    | ok =>
      simp only [find, hcheck, bind, Except.bind] at hfind
      exact ⟨way, hfind⟩
    | error => simp [find, hcheck, bind, Except.bind] at hfind
  · simp at h
  · simp at h

/-- A search of the node, whose path is `directory`, reaches everything below it. -/
structure ReachesBelow (t : FileTree) (directory : Path) (node : FileNode) : Prop where
  /-- No directory lies too deep. -/
  entered : ∀ way found, node.LeadsTo way found → found.isDirectory = true →
    ∀ limit ∈ t.searchDepth, way.length ≤ limit
  /-- No path is too long. -/
  located : ∀ way found, way ≠ [] → node.LeadsTo way found →
    t.find (directory.join { parts := way.map .string }) ≠ .error .tooLong

theorem isOutOfReach_iff {t : FileTree} {p : Path} :
    t.isOutOfReach p = true ↔ t.find p = .error .tooLong := by
  unfold isOutOfReach
  split
  · next h => exact iff_of_true rfl h
  · next h => exact iff_of_false Bool.false_ne_true h

theorem isTooDeep_iff {t : FileTree} {way : List String} {found : FileNode} :
    t.isTooDeep way found = true ↔
      found.isDirectory = true ∧ ∃ limit ∈ t.searchDepth, limit < way.length := by
  simp [isTooDeep, Option.any_eq_true]

theorem reachesBelow_iff {t : FileTree} {directory : Path} {node : FileNode} :
    t.ReachesBelow directory node ↔
      (node.itemsBelow.any fun (way, found) => t.isTooDeep way found) = false ∧
      (node.itemsBelow.any fun (way, _) =>
        t.isOutOfReach (directory.join { parts := way.map .string })) = false := by
  rw [List.any_eq_false, List.any_eq_false]
  constructor
  · intro h
    refine ⟨?_, ?_⟩
    · rintro ⟨way, found⟩ hmem hdeep
      obtain ⟨hfound, limit, hlimit, hlong⟩ := isTooDeep_iff.1 hdeep
      obtain ⟨-, hleads⟩ := (FileNode.mem_itemsBelow_iff node).1 hmem
      exact absurd (h.entered way found hleads hfound limit hlimit) (Nat.not_le.2 hlong)
    · rintro ⟨way, found⟩ hmem hout
      obtain ⟨hne, hleads⟩ := (FileNode.mem_itemsBelow_iff node).1 hmem
      exact h.located way found hne hleads (isOutOfReach_iff.1 hout)
  · rintro ⟨hdepth, hlength⟩
    refine ⟨fun way found hleads hfound limit hlimit => Nat.not_lt.1 fun hlong => ?_, ?_⟩
    · have hne : way ≠ [] := List.ne_nil_of_length_pos (Nat.zero_lt_of_lt hlong)
      exact hdepth (way, found) ((FileNode.mem_itemsBelow_iff node).2 ⟨hne, hleads⟩)
        (isTooDeep_iff.2 ⟨hfound, limit, hlimit, hlong⟩)
    · intro way found hne hleads hlong
      exact hlength (way, found) ((FileNode.mem_itemsBelow_iff node).2 ⟨hne, hleads⟩)
        (isOutOfReach_iff.2 hlong)

/-- A directory that is found under its resolved path is searched if everything below it can be
reached; otherwise the run ends. -/
theorem discover_of_find {t : FileTree} {p : Path} {way : List String} {node : FileNode}
    (h : t.find (t.resolve p) = .ok (way, node)) (hnode : node.isDirectory = true) :
    (t.ReachesBelow (t.resolve p) node →
      t.discover p = .ok (node.scripts.map fun way => { parts := way.map .string })) ∧
    (¬t.ReachesBelow (t.resolve p) node → ∃ e, t.discover p = .error (.breakdown (.file e))) := by
  have hdiscover : t.discover p =
      if (node.itemsBelow.any fun (way, found) => t.isTooDeep way found) = true then
        .error (.breakdown (.file (.failed "maximum recursion depth exceeded")))
      else if (node.itemsBelow.any fun (way, _) =>
        t.isOutOfReach ((t.resolve p).join { parts := way.map .string })) = true then
        .error (.breakdown (.file .tooLong))
      else .ok (node.scripts.map fun way => { parts := way.map .string }) := by
    simp only [discover, node?, h, hnode, bind, Except.bind, ofFile, Bool.not_true,
      Bool.false_eq_true, if_false]
  rw [hdiscover, reachesBelow_iff]
  constructor
  · rintro ⟨hdepth, hlength⟩
    rw [hdepth, hlength, if_neg Bool.false_ne_true, if_neg Bool.false_ne_true]
  · intro hnot
    split_ifs with hdepth hlength
    · exact ⟨_, rfl⟩
    · exact ⟨_, rfl⟩
    · exact absurd ⟨eq_false_of_ne_true hdepth, eq_false_of_ne_true hlength⟩ hnot

/-- A directory is searched unless no file can have its resolved path, or something below it cannot
be reached, and then the run ends. -/
theorem discover_of_directory {t : FileTree} {p : Path} {node : FileNode}
    (h : t.node? p = .ok (some node)) (hnode : node.isDirectory = true) :
    ((checkPath (t.resolve p) = .ok () ∧ t.ReachesBelow (t.resolve p) node) ∧
      t.discover p = .ok (node.scripts.map fun way => { parts := way.map .string })) ∨
    (¬(checkPath (t.resolve p) = .ok () ∧ t.ReachesBelow (t.resolve p) node) ∧
      ∃ fault, t.discover p = .error (.breakdown fault)) := by
  obtain ⟨way, hfollow⟩ := exists_follow_of_node? h
  have hresolved : follow [] t.root (t.fromRoot (t.resolve p)) = .ok (way, node) :=
    follow_normalize hfollow
  cases hcheck : checkPath (t.resolve p) with
  | ok =>
    have hfind : t.find (t.resolve p) = .ok (way, node) := by
      simp only [find, hcheck, hresolved, bind, Except.bind]
    obtain ⟨hfound, hbreaks⟩ := discover_of_find hfind hnode
    by_cases hreach : t.ReachesBelow (t.resolve p) node
    · exact .inl ⟨⟨rfl, hreach⟩, hfound hreach⟩
    · obtain ⟨e, he⟩ := hbreaks hreach
      exact .inr ⟨fun h => hreach h.2, _, he⟩
  | error e =>
    right
    refine ⟨fun h => absurd h.1 (by simp), ?_⟩
    have hfind : t.find (t.resolve p) = .error e := by
      simp only [find, hcheck, bind, Except.bind]
    -- The names that were followed hold no surrogates.
    have hmarks : (t.resolve p).parts.all hasOnlyByteMarks = true := by
      obtain ⟨trail, -, -, hnames⟩ := exists_trail_of_follow hfollow
      rw [resolve, hnames, List.all_reverse, trailNames, List.all_map]
      exact List.all_eq_true.2 fun step _ => hasOnlyByteMarks_string step.1
    rw [checkPath, hmarks, if_neg (by simp)] at hcheck
    split_ifs at hcheck
    · obtain rfl := Except.error.inj hcheck
      exact ⟨_, by simp only [discover, hfind]; rfl⟩
    · obtain rfl := Except.error.inj hcheck
      exact ⟨_, by simp only [discover, node?, hfind]; rfl⟩

theorem discover_of_checkPath {t : FileTree} {p : Path} {node : FileNode}
    (h : t.node? p = .ok (some node)) (hnode : node.isDirectory = true)
    (hcheck : checkPath (t.resolve p) = .ok ()) (hreach : t.ReachesBelow (t.resolve p) node) :
    t.discover p = .ok (node.scripts.map fun way => { parts := way.map .string }) := by
  rcases discover_of_directory h hnode with ⟨-, hfound⟩ | ⟨hnot, -⟩
  · exact hfound
  · exact absurd ⟨hcheck, hreach⟩ hnot

end CommandAudit.FileTree
