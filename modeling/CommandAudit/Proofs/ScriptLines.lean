import CommandAudit.Script
import Mathlib.Algebra.GroupWithZero.Nat
import Mathlib.Data.List.Basic

/-!
# The lines of a text

The pieces of a text between newlines: how many there are, how long they are together, and what they
become when two texts are joined by a newline. `Script.excerpt` joins some of the lines of a script
to a text of its own, whose pieces are these lines again (`Script.pieces_excerpt`);
`Script.cutLine` shortens one of them.
-/

namespace CommandAudit

/-! ## Splitting at a character -/

section

variable (c : Char) (cs : List Char)

theorem length_splitOn : (cs.splitOn c).length = cs.count c + 1 := by
  induction cs with
  | nil => rfl
  | cons d cs ih =>
    rw [List.splitOn_cons_eq_if_modifyHead, List.count_cons]
    split_ifs with h
    · rw [List.length_cons, ih]
    · rw [List.length_modifyHead, ih, Nat.add_zero]

/-- Every piece with the character after it, and one character more for the end of the text. -/
theorem sum_length_splitOn : ((cs.splitOn c).map fun piece => piece.length + 1).sum =
    cs.length + 1 := by
  induction cs with
  | nil => rfl
  | cons d cs ih =>
    rw [List.splitOn_cons_eq_if_modifyHead]
    split_ifs with h
    · rw [List.map_cons, List.sum_cons, ih, List.length_cons, List.length_nil]
      omega
    · obtain ⟨first, rest, hsplit⟩ := List.exists_cons_of_ne_nil (List.splitOn_ne_nil c cs)
      rw [hsplit, List.map_cons, List.sum_cons] at ih
      rw [hsplit, List.modifyHead_cons, List.map_cons, List.sum_cons, List.length_cons,
        List.length_cons]
      omega

/-- The last piece of a text that ends in another character ends in that character. -/
theorem getLast?_splitOn_concat {d : Char} (hd : d ≠ c) :
    ∃ piece, ((cs ++ [d]).splitOn c).getLast? = some (piece ++ [d]) := by
  induction cs with
  | nil =>
    refine ⟨[], ?_⟩
    rw [List.nil_append, List.splitOn_cons_eq_if_modifyHead, if_neg (by simpa using hd)]
    rfl
  | cons e cs ih =>
    obtain ⟨piece, hpiece⟩ := ih
    obtain ⟨first, rest, hsplit⟩ := List.exists_cons_of_ne_nil (List.splitOn_ne_nil c (cs ++ [d]))
    rw [hsplit] at hpiece
    rw [List.cons_append, List.splitOn_cons_eq_if_modifyHead, hsplit]
    split_ifs with he
    · exact ⟨piece, by rw [List.getLast?_cons_cons, hpiece]⟩
    · rw [List.modifyHead_cons]
      cases rest with
      | nil =>
        obtain rfl : first = piece ++ [d] := by simpa using hpiece
        exact ⟨e :: piece, rfl⟩
      | cons next rest => exact ⟨piece, by rw [List.getLast?_cons_cons] at hpiece ⊢; exact hpiece⟩

/-- The last piece of a text is empty exactly if the text is empty or ends in the character. -/
theorem getLast?_splitOn_eq_nil_iff :
    (cs.splitOn c).getLast? = some [] ↔ cs.getLast?.all (· == c) = true := by
  rcases List.eq_nil_or_concat cs with rfl | ⟨cs, d, rfl⟩
  · exact iff_of_true rfl rfl
  · rw [List.concat_eq_append, List.getLast?_concat, Option.all_some, beq_iff_eq]
    by_cases hd : d = c
    · subst hd
      rw [List.splitOn_append_cons_self]
      simp
    · obtain ⟨piece, hpiece⟩ := getLast?_splitOn_concat c cs hd
      rw [hpiece]
      simp [hd]

/-- Where pieces start that stand one after the other with one character between two of them, if the
first starts at `i`. -/
def pieceStarts (i : Nat) : List (List Char) → List Nat
  | [] => []
  | piece :: rest => i :: pieceStarts (i + piece.length + 1) rest

theorem length_pieceStarts (i : Nat) (pieces : List (List Char)) :
    (pieceStarts i pieces).length = pieces.length := by
  induction pieces generalizing i with
  | nil => rfl
  | cons piece rest ih => exact congrArg (· + 1) (ih _)

theorem pieceStarts_append (i : Nat) (before after : List (List Char)) :
    pieceStarts i (before ++ after) = pieceStarts i before ++
      pieceStarts (i + (before.map fun piece => piece.length + 1).sum) after := by
  induction before generalizing i with
  | nil => rfl
  | cons piece rest ih =>
    rw [List.cons_append, pieceStarts, ih, pieceStarts, List.map_cons, List.sum_cons,
      List.cons_append, ← Nat.add_assoc i, ← Nat.add_assoc i]

/-- A piece starts at the start of the text and after every character at which it is split. -/
theorem cons_filterMap_zipIdx (i : Nat) :
    (i :: (cs.zipIdx i).filterMap fun (d, j) => if d = c then some (j + 1) else none) =
      pieceStarts i (cs.splitOn c) := by
  induction cs generalizing i with
  | nil => rfl
  | cons d cs ih =>
    obtain ⟨first, rest, hsplit⟩ := List.exists_cons_of_ne_nil (List.splitOn_ne_nil c cs)
    have ih := ih (i + 1)
    rw [List.zipIdx_cons, List.filterMap_cons, List.splitOn_cons_eq_if_modifyHead]
    by_cases hd : d = c
    · simp only [hd, if_true, beq_self_eq_true]
      rw [ih]
      rfl
    · rw [hsplit, pieceStarts] at ih
      simp only [hd, if_false, beq_iff_eq]
      rw [hsplit, List.modifyHead_cons, pieceStarts, (List.cons.inj ih).2, List.length_cons,
        Nat.add_right_comm i 1, Nat.add_assoc i]

/-- A piece stands behind the pieces before it, each with the character after it. -/
theorem exists_intercalate_append (before : List (List Char)) (piece : List Char)
    (after : List (List Char)) :
    ∃ rest, [c].intercalate (before ++ piece :: after) =
      before.flatMap (· ++ [c]) ++ (piece ++ rest) := by
  induction before with
  | nil =>
    cases after with
    | nil => exact ⟨[], by simp⟩
    | cons next after => exact ⟨c :: [c].intercalate (next :: after), by simp⟩
  | cons first before ih =>
    obtain ⟨rest, hrest⟩ := ih
    obtain ⟨second, others, hothers⟩ : ∃ second others, before ++ piece :: after =
        second :: others := List.exists_cons_of_ne_nil (by simp)
    refine ⟨rest, ?_⟩
    rw [List.flatMap_cons, List.append_assoc, ← hrest, List.cons_append, hothers,
      List.intercalate_cons_cons]

variable {c cs}

theorem not_mem_of_mem_splitOn {piece : List Char} (h : piece ∈ cs.splitOn c) : c ∉ piece := by
  induction cs generalizing piece with
  | nil =>
    obtain rfl := List.mem_singleton.1 h
    exact List.not_mem_nil
  | cons d cs ih =>
    rw [List.splitOn_cons_eq_if_modifyHead] at h
    split_ifs at h with hd
    · rcases List.mem_cons.1 h with rfl | h
      · exact List.not_mem_nil
      · exact ih h
    · obtain ⟨first, rest, hsplit⟩ := List.exists_cons_of_ne_nil (List.splitOn_ne_nil c cs)
      rw [hsplit, List.modifyHead_cons, List.mem_cons] at h
      rcases h with rfl | h
      · have hfirst : c ∉ first := ih (by rw [hsplit]; exact List.mem_cons_self)
        have hne : c ≠ d := fun he => hd (by rw [he, beq_self_eq_true])
        exact fun hmem => (List.mem_cons.1 hmem).elim hne hfirst
      · exact ih (by rw [hsplit]; exact List.mem_cons_of_mem _ h)

end

namespace Script

variable (s : Script)

/-! ## Pieces -/

theorem length_pieces : s.pieces.length = s.text.toList.count '\n' + 1 :=
  length_splitOn ..

theorem sum_length_pieces : (s.pieces.map fun line => line.length + 1).sum = s.text.length + 1 := by
  rw [← String.length_toList]
  exact sum_length_splitOn ..

theorem lineTexts_prefix : s.lineTexts <+: s.pieces := by
  unfold lineTexts
  split_ifs
  · exact List.dropLast_prefix _
  · exact List.prefix_rfl

theorem length_lineTexts : s.lineTexts.length = s.text.toList.count '\n' +
    if s.text.toList.getLast?.all (· == '\n') then 0 else 1 := by
  have hlast := getLast?_splitOn_eq_nil_iff '\n' s.text.toList
  have hlength := s.length_pieces
  unfold lineTexts
  unfold pieces at *
  simp only [hlast]
  split_ifs
  · rw [List.length_dropLast, hlength]
    rfl
  · exact hlength

/-- The lines of two texts joined by a newline are those of the one and those of the other. -/
theorem pieces_append (u : String) : { s with text := s.text ++ "\n" ++ u }.pieces =
    s.pieces ++ (Script.mk u s.name).pieces := by
  unfold pieces
  rw [String.toList_append, String.toList_append, List.append_assoc]
  exact List.splitOn_append_cons_self ..

/-! ## The index of lines -/

theorem lineStarts_eq : s.lineStarts = pieceStarts 0 s.pieces :=
  cons_filterMap_zipIdx ..

theorem length_lineStarts : s.lineStarts.length = s.text.toList.count '\n' + 1 := by
  rw [lineStarts_eq, length_pieceStarts, length_pieces]

/-- The number of lines: one for each newline, and one more if the text does not end with one. -/
theorem lineCount_eq : s.lineCount = s.text.toList.count '\n' +
    if s.text.toList.getLast?.all (· == '\n') then 0 else 1 := by
  unfold lineCount
  rw [length_lineStarts, Nat.add_sub_cancel]
  cases s.text.toList.getLast? with
  | none => rfl
  | some c => by_cases hc : c = '\n' <;> simp [hc]

section

variable {s} {before after : List (List Char)} {line : List Char}

/-- The lines with their newlines, and one character more for the end of the text. -/
theorem sum_width_add (h : s.pieces = before ++ line :: after) :
    (before.map fun piece => piece.length + 1).sum + (line.length + 1) +
      (after.map fun piece => piece.length + 1).sum = s.length + 1 := by
  rw [length, ← sum_length_pieces, h, List.map_append, List.sum_append, List.map_cons,
    List.sum_cons, Nat.add_assoc]

theorem lineStarts_of_pieces (h : s.pieces = before ++ line :: after) :
    s.lineStarts[before.length]? = some (before.map fun piece => piece.length + 1).sum := by
  rw [lineStarts_eq, h, pieceStarts_append,
    List.getElem?_append_right (Nat.le_of_eq (length_pieceStarts ..)), length_pieceStarts,
    Nat.sub_self, Nat.zero_add]
  rfl

/-- The start of the next line stands behind the newline. -/
theorem lineEnd_of_pieces (h : s.pieces = before ++ line :: after) :
    s.lineEnd (before.length + 1) =
      (before.map fun piece => piece.length + 1).sum + line.length := by
  unfold lineEnd
  cases after with
  | nil =>
    have hwidth := sum_width_add h
    have hnone : s.lineStarts[before.length + 1]? = none := by
      rw [List.getElem?_eq_none_iff, lineStarts_eq, length_pieceStarts, h]
      simp
    simp only [List.map_nil, List.sum_nil] at hwidth
    simp only [hnone]
    omega
  | cons next rest =>
    have hpieces : s.pieces = (before ++ [line]) ++ next :: rest := by
      rw [h, List.append_assoc]
      rfl
    have hnext := lineStarts_of_pieces hpieces
    rw [List.length_append, List.length_singleton] at hnext
    rw [hnext, List.map_append, List.sum_append]
    simp only [List.map_cons, List.map_nil, List.sum_cons, List.sum_nil]
    omega

/-- A line is the piece with as many pieces before it as there are lines above. -/
theorem line_of_pieces (h : s.pieces = before ++ line :: after) :
    s.line (before.length + 1 : Nat) = String.ofList line := by
  obtain ⟨rest, hrest⟩ := exists_intercalate_append '\n' before line after
  have htext : s.text.toList = before.flatMap (· ++ ['\n']) ++ (line ++ rest) := by
    rw [← hrest, ← h]
    exact (List.intercalate_splitOn '\n').symm
  have hwidth : (before.map fun piece => piece.length + 1).sum =
      (before.flatMap (· ++ ['\n'])).length := by
    rw [List.length_flatMap]
    simp
  unfold Script.line
  rw [if_neg (by omega), Int.toNat_natCast, Nat.add_sub_cancel, lineStarts_of_pieces h,
    lineEnd_of_pieces h]
  dsimp only
  rw [List.extract_eq_take_drop, Nat.add_sub_cancel_left, htext, hwidth, List.drop_left,
    List.take_left]

end

/-- Line `n + 1` is the piece with `n` pieces before it. -/
theorem toList_line_succ (n : Nat) : (s.line (n + 1 : Nat)).toList = s.pieces.getD n [] := by
  by_cases hn : n < s.pieces.length
  · have hpieces : s.pieces = s.pieces.take n ++ s.pieces[n] :: s.pieces.drop (n + 1) := by
      rw [List.getElem_cons_drop, List.take_append_drop]
    have hline := line_of_pieces hpieces
    rw [List.length_take, Nat.min_eq_left (Nat.le_of_lt hn)] at hline
    rw [hline, String.toList_ofList]
    exact List.getElem_eq_getD []
  · have hnone : s.lineStarts[n]? = none := by
      rw [List.getElem?_eq_none_iff, lineStarts_eq, length_pieceStarts]
      exact Nat.not_lt.1 hn
    unfold line
    rw [if_neg (by omega), Int.toNat_natCast, Nat.add_sub_cancel, hnone, List.getD_eq_getElem?_getD,
      List.getElem?_eq_none (Nat.not_lt.1 hn)]
    rfl

variable {s} in
/-- A line with characters stands below some lines, latest first, and above others. -/
theorem exists_pieces_of_line {n i : Nat} {c : Char} (h : (s.line n).toList[i]? = some c) :
    ∃ (before : List (List Char)) (line : List Char) (after : List (List Char)),
      s.pieces = before.reverse ++ line :: after ∧ n = before.length + 1 := by
  obtain ⟨m, rfl⟩ : ∃ m, n = m + 1 := by
    refine Nat.exists_eq_succ_of_ne_zero fun hzero => ?_
    rw [hzero] at h
    exact absurd h (by simp [line])
  have hm : m < s.pieces.length := by
    by_contra hge
    rw [toList_line_succ, List.getD_eq_getElem?_getD, List.getElem?_eq_none (Nat.not_lt.1 hge)] at h
    exact absurd h (by simp)
  refine ⟨(s.pieces.take m).reverse, s.pieces[m], s.pieces.drop (m + 1), ?_, ?_⟩
  · rw [List.reverse_reverse, List.getElem_cons_drop, List.take_append_drop]
  · rw [List.length_reverse, List.length_take, Nat.min_eq_left (Nat.le_of_lt hm)]

/-! ## Excerpts -/

/-- The lines from `first` to `last`, joined by newlines. -/
def excerpt (s : Script) (first last : Int) : String :=
  "\n".intercalate ((List.range (last + 1 - first).toNat).map fun (i : Nat) => s.line (first + i))

/-- The lines of an excerpt are the lines it was made of. -/
theorem pieces_excerpt {first last : Nat} (hfirst : first < last) (hlast : last ≤ s.pieces.length) :
    (Script.mk (s.excerpt (first + 1 : Nat) last) s.name).pieces =
      (s.pieces.take last).drop first := by
  have hlen : ((last : Int) + 1 - (first + 1 : Nat)).toNat = last - first := by omega
  have hlines : (List.range (last - first)).map
      (String.toList ∘ fun i => s.line ((first + 1 : Nat) + (i : Nat))) =
        (s.pieces.take last).drop first := by
    apply List.ext_getElem
    · simp only [List.length_map, List.length_range, List.length_drop, List.length_take]
      omega
    · intro i hi hi'
      simp only [List.length_map, List.length_range] at hi
      have hplace : ((first + 1 : Nat) : Int) + (i : Nat) = (first + i + 1 : Nat) := by omega
      simp only [List.getElem_map, List.getElem_range, Function.comp_apply, hplace,
        toList_line_succ, List.getElem_drop, List.getElem_take]
      exact (List.getElem_eq_getD []).symm
  unfold pieces excerpt
  dsimp only
  rw [String.toList_intercalate, List.map_map, hlen, hlines]
  apply List.splitOn_intercalate
  · intro line hline
    exact not_mem_of_mem_splitOn (List.mem_of_mem_take (List.mem_of_mem_drop hline))
  · apply List.ne_nil_of_length_pos
    rw [List.length_drop, List.length_take]
    omega

/-! ## Shorter lines -/

/-- The script with line `n`, counted from one, cut off after `i` characters. Its newline stays. -/
def cutLine (s : Script) (n i : Nat) : Script :=
  { s with text := String.ofList (['\n'].intercalate (s.pieces.modify (n - 1) (List.take i))) }

theorem pieces_cutLine (n i : Nat) :
    (s.cutLine n i).pieces = s.pieces.modify (n - 1) (List.take i) := by
  change (String.ofList _).toList.splitOn '\n' = _
  rw [String.toList_ofList]
  apply List.splitOn_intercalate
  · intro line hline
    obtain ⟨j, hj, rfl⟩ := List.getElem_of_mem hline
    rw [List.length_modify] at hj
    have hnone : '\n' ∉ s.pieces[j] := not_mem_of_mem_splitOn (List.getElem_mem hj)
    rw [List.getElem_modify]
    split_ifs
    · exact fun hmem => hnone (List.mem_of_mem_take hmem)
    · exact hnone
  · apply List.ne_nil_of_length_pos
    rw [List.length_modify, length_pieces]
    exact Nat.succ_pos _

variable {s} in
theorem pieces_cutLine_of_pieces {before after : List (List Char)} {line : List Char}
    (h : s.pieces = before.reverse ++ line :: after) (i : Nat) :
    (s.cutLine (before.length + 1) i).pieces = before.reverse ++ line.take i :: after := by
  rw [pieces_cutLine, Nat.add_sub_cancel, h, List.modify_eq_take_drop, ← List.length_reverse,
    List.take_left, List.drop_left]
  rfl

end Script

end CommandAudit
