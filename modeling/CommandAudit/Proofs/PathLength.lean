import CommandAudit.Proofs.Resolution
import Mathlib.Algebra.GroupWithZero.Nat

/-!
# The length of a path

The text of a path has its names and slashes between them (`Path.utf8ByteSize_toString`), and only
its length keeps a path of plain names from being looked up (`FileTree.checkPath_of_strings`). So a
path that leads into a directory and back some times leads where it would lead directly, until it is
too long (`FileTree.find_detours`).
-/

namespace CommandAudit

/-! ## The text of a path -/

theorem Text.foldl_append_string (separator : String) (xs : List String) (s : String) :
    (xs.map Text.string).foldl (fun acc u => acc ++ Text.string separator ++ u) (.string s) =
      .string (xs.foldl (fun acc x => acc ++ separator ++ x) s) := by
  induction xs generalizing s with
  | nil => rfl
  | cons x xs ih => exact ih (s ++ separator ++ x)

theorem utf8ByteSize_foldl_append (separator : String) (xs : List String) (s : String) :
    (xs.foldl (fun acc x => acc ++ separator ++ x) s).utf8ByteSize =
      s.utf8ByteSize + (xs.map fun x => separator.utf8ByteSize + x.utf8ByteSize).sum := by
  induction xs generalizing s with
  | nil => rfl
  | cons x xs ih =>
    rw [List.foldl_cons, ih, List.map_cons, List.sum_cons, String.utf8ByteSize_append,
      String.utf8ByteSize_append]
    omega

/-- The text of a path has its names and a slash between any two of them. -/
theorem Path.utf8ByteSize_toString {xs : List String} (h : xs ≠ []) :
    ({ parts := xs.map .string } : Path).toString.utf8ByteSize + 1 =
      (xs.map fun x => 1 + x.utf8ByteSize).sum := by
  obtain ⟨x, xs, rfl⟩ := List.exists_cons_of_ne_nil h
  have htext : ({ parts := (x :: xs).map .string } : Path).toString =
      "" ++ xs.foldl (fun acc y => acc ++ "/" ++ y) x := by
    rw [toString, toText, if_neg (by simp), List.map_cons, Text.join, Text.foldl_append_string]
    rfl
  have hslash : "/".utf8ByteSize = 1 := by decide
  rw [htext, String.utf8ByteSize_append, utf8ByteSize_foldl_append, hslash, List.map_cons,
    List.sum_cons, String.utf8ByteSize_empty]
  omega

/-- A path of names without null characters is only refused for its length. -/
theorem FileTree.checkPath_of_strings {xs : List String} (h : xs ≠ [])
    (hnull : ∀ x ∈ xs, 0 ∉ (Text.string x).points) :
    checkPath { parts := xs.map .string } =
      if pathLimit + 1 < (xs.map fun x => 1 + x.utf8ByteSize).sum then .error .tooLong
      else .ok () := by
  have hmarks : (xs.map Text.string).all hasOnlyByteMarks = true := by
    rw [List.all_map]
    exact List.all_eq_true.2 fun x _ => hasOnlyByteMarks_string x
  have hzero : ((xs.map Text.string).any fun part => part.points.contains 0) = false := by
    rw [List.any_map, List.any_eq_false]
    intro x hx
    simpa using hnull x hx
  rw [checkPath, hmarks, hzero, ← Path.utf8ByteSize_toString h]
  simp only [Nat.add_lt_add_iff_right]
  rfl

/-! ## Detours -/

/-- Names that lead into a directory and back, some times. -/
def FileTree.detours (k : Nat) (name : String) : List String :=
  (List.replicate k [name, ".."]).flatten

theorem FileTree.follow_detours {trail : List (String × FileNode)} {name : String}
    {entries inner : List (String × FileNode)} (hname : name ≠ "..")
    (hsize : name.utf8ByteSize ≤ nameLimit)
    (hlookup : entries.lookup name = some (.directory inner)) (k : Nat) (rest : List Text) :
    follow trail (.directory entries) ((detours k name).map .string ++ rest) =
      follow trail (.directory entries) rest := by
  have hparent : Text.string name ≠ Text.string ".." := fun h => hname (Text.string.inj h)
  induction k with
  | zero => rfl
  | succ k ih =>
    rw [detours, List.replicate_succ, List.flatten_cons, List.map_append, List.append_assoc]
    simp only [List.map_cons, List.map_nil, List.cons_append, List.nil_append]
    rw [← ih]
    simp only [follow, if_neg hparent, if_neg (Nat.not_lt.2 hsize), hlookup, if_true]
    rfl

theorem FileTree.sum_detours (k : Nat) (name : String) :
    ((detours k name).map fun y => 1 + y.utf8ByteSize).sum = k * (name.utf8ByteSize + 4) := by
  have hparent : "..".utf8ByteSize = 2 := by decide
  induction k with
  | zero => simp [detours]
  | succ k ih =>
    have hdetours : detours (k + 1) name = name :: ".." :: detours k name := rfl
    rw [hdetours, List.map_cons, List.map_cons, List.sum_cons, List.sum_cons, ih, hparent,
      Nat.add_mul]
    omega

theorem FileTree.mem_detours {k : Nat} {name y : String} (h : y ∈ detours k name) :
    y = name ∨ y = ".." := by
  obtain ⟨l, hl, hy⟩ := List.mem_flatten.1 h
  rw [List.eq_of_mem_replicate hl] at hy
  simpa using hy

theorem FileTree.fromRoot_of_here {t : FileTree} (hhere : t.here = []) (names : List Text) :
    t.fromRoot { parts := names } = names := by
  rw [fromRoot, hhere]
  rfl

/-- Detours do not change what a path leads to, until its text is too long. -/
theorem FileTree.find_detours {t : FileTree} {entries inner : List (String × FileNode)}
    {name : String} (hroot : t.root = .directory entries) (hhere : t.here = [])
    (hlookup : entries.lookup name = some (.directory inner)) (hname : name ≠ "..")
    (hsize : name.utf8ByteSize ≤ nameLimit) {rest : List String}
    (hnull : ∀ x ∈ name :: rest, 0 ∉ (Text.string x).points) (k : Nat) :
    t.find { parts := (detours k name ++ name :: rest).map .string } =
      if pathLimit + 1 < k * (name.utf8ByteSize + 4) +
        ((name :: rest).map fun x => 1 + x.utf8ByteSize).sum then .error .tooLong
      else follow [] t.root ((name :: rest).map .string) := by
  have hnull' : ∀ x ∈ detours k name ++ name :: rest, 0 ∉ (Text.string x).points := by
    intro x hx
    rcases List.mem_append.1 hx with hx | hx
    · rcases mem_detours hx with rfl | rfl
      · exact hnull x List.mem_cons_self
      · decide
    · exact hnull x hx
  have hsum : ((detours k name ++ name :: rest).map fun x => 1 + x.utf8ByteSize).sum =
      k * (name.utf8ByteSize + 4) + ((name :: rest).map fun x => 1 + x.utf8ByteSize).sum := by
    rw [List.map_append, List.sum_append, sum_detours]
  have hcheck := checkPath_of_strings (by simp) hnull'
  rw [hsum] at hcheck
  have hfollow : follow [] t.root ((detours k name ++ name :: rest).map .string) =
      follow [] t.root ((name :: rest).map .string) := by
    rw [hroot, List.map_append, follow_detours hname hsize hlookup]
  rw [find, hcheck, fromRoot_of_here hhere, hfollow]
  split <;> rfl

/-- Detours leave no mark on the resolved path. -/
theorem FileTree.resolve_detours {t : FileTree} (hhere : t.here = []) {name : String}
    (hname : name ≠ "..") (rest : List String) (k : Nat) :
    t.resolve { parts := (detours k name ++ rest).map .string } =
      t.resolve { parts := rest.map .string } := by
  have hparent : Text.string name ≠ Text.string ".." := fun h => hname (Text.string.inj h)
  have hfold : ∀ acc : List Text,
      ((detours k name).map Text.string).foldl normalizeStep acc = acc := by
    intro acc
    induction k with
    | zero => rfl
    | succ k ih =>
      have hdetours : detours (k + 1) name = name :: ".." :: detours k name := rfl
      rw [hdetours, List.map_cons, List.map_cons, List.foldl_cons, List.foldl_cons]
      refine Eq.trans (congrArg (fun acc => List.foldl normalizeStep acc _) ?_) ih
      rw [normalizeStep, if_pos rfl, normalizeStep, if_neg hparent, List.tail_cons]
  have hnormalize : normalize ((detours k name ++ rest).map .string) =
      normalize (rest.map .string) := by
    refine congrArg List.reverse ?_
    rw [List.map_append, List.foldl_append]
    exact congrArg (fun acc => List.foldl normalizeStep acc _) (hfold [])
  rw [resolve, resolve, fromRoot_of_here hhere, fromRoot_of_here hhere, hnormalize]

/-- The text of a path that leads into the directory `d` and back, some times, and then into it. -/
def detourText (k : Nat) : String :=
  String.ofList ((List.replicate k ['d', '/', '.', '.', '/']).flatten ++ ['d'])

theorem Path.ofText_detourText (k : Nat) :
    Path.ofText (detourText k) = { parts := (FileTree.detours k "d" ++ ["d"]).map .string } := by
  have hparts : partsOf (.string (detourText k)) =
      (FileTree.detours k "d" ++ ["d"]).map .string := by
    unfold partsOf detourText
    simp only [String.toList_ofList]
    induction k with
    | zero => decide
    | succ k ih =>
      have hsplit : ∀ cs : List Char, (['d', '/', '.', '.', '/'] ++ cs).splitOn '/' =
          [['d'], ['.', '.']] ++ cs.splitOn '/' := by
        intro cs
        refine (List.splitOn_append_cons_self ['d'] (['.', '.'] ++ '/' :: cs)).trans ?_
        rw [List.splitOn_append_cons_self]
        rfl
      rw [List.replicate_succ, List.flatten_cons, List.append_assoc, hsplit, List.map_append,
        List.filter_append, ih]
      rfl
  have hroot : rootOf (((Text.string (detourText k)).points.take 3).map Char.ofNat) = .here := by
    cases k with
    | zero => rfl
    | succ k =>
      rw [Text.points, detourText, String.toList_ofList, List.replicate_succ, List.flatten_cons]
      rfl
  rw [ofText, hroot, hparts]

end CommandAudit
