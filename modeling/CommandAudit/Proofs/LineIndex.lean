import CommandAudit.Proofs.ScriptLines

/-!
# The lines of a script by their numbers

The index of a script gives the pieces of its text between newlines under their numbers, and the
numbered lines are as many of them as the script has lines. Joined again, they are the text
(`Script.lines_exact`).
-/

namespace CommandAudit

/-- Counting that stops at the last number, if at all. -/
theorem takeWhile_range'_succ (n : Nat) (isOver : Bool) :
    (List.range' 1 (n + 1)).takeWhile (fun k => !(k == n + 1 && isOver)) =
      List.range' 1 (if isOver then n else n + 1) := by
  have hbefore : ∀ k ∈ List.range' 1 n, (!(k == n + 1 && isOver)) = true := by
    intro k hk
    have hne : (k == n + 1) = false := by
      rw [List.mem_range'_1] at hk
      exact beq_false_of_ne (by omega)
    rw [hne]
    rfl
  rw [List.range'_concat, List.takeWhile_append_of_pos hbefore, Nat.mul_comm, Nat.mul_one,
    Nat.add_comm 1 n]
  cases isOver <;> simp [List.range'_concat, Nat.add_comm]

/-- An empty piece at the end stands for a character at the end of the text. -/
theorem intercalate_concat_nil (c : Char) {pieces : List (List Char)} (h : pieces ≠ []) :
    [c].intercalate (pieces ++ [[]]) = [c].intercalate pieces ++ [c] := by
  induction pieces with
  | nil => exact absurd rfl h
  | cons piece rest ih =>
    cases rest with
    | nil => simp
    | cons next rest =>
      have hrest := ih (by simp)
      rw [List.cons_append, List.intercalate_cons_of_ne_nil (by simp), hrest,
        List.intercalate_cons_cons, List.append_assoc _ _ [c]]

namespace Script

variable (s : Script)

theorem exists_pieces_concat : ∃ before last, s.pieces = before ++ [last] :=
  ⟨_, _, (List.dropLast_concat_getLast (List.splitOn_ne_nil '\n' s.text.toList)).symm⟩

/-- A line starts at the end of the text if nothing stands behind its last newline. -/
theorem getLast?_lineStarts_eq_iff :
    s.lineStarts.getLast? = some s.length ↔ s.pieces.getLast? = some [] := by
  obtain ⟨before, last, hpieces⟩ := s.exists_pieces_concat
  have hwidth := sum_width_add hpieces
  have hstart := lineStarts_of_pieces hpieces
  have hlength : s.lineStarts.length = before.length + 1 := by
    rw [lineStarts_eq, length_pieceStarts, hpieces, List.length_append, List.length_singleton]
  rw [List.getLast?_eq_getElem?, hlength, Nat.add_sub_cancel, hstart, hpieces,
    List.getLast?_concat, Option.some.injEq, Option.some.injEq, ← List.length_eq_zero_iff]
  simp only [List.map_nil, List.sum_nil] at hwidth
  omega

/-- The lines have the numbers from one to their count. -/
theorem lines_eq : s.lines = (List.range' 1 s.lineCount).map fun (n : Nat) => (n, s.line n) := by
  have hover : (s.lineStarts.getLast? == some s.length) =
      s.text.toList.getLast?.all (· == '\n') := by
    rw [Bool.eq_iff_iff, beq_iff_eq, getLast?_lineStarts_eq_iff]
    exact getLast?_splitOn_eq_nil_iff ..
  unfold lines
  dsimp only
  rw [hover, length_lineStarts, takeWhile_range'_succ, lineCount_eq]
  congr 2
  split_ifs <;> rfl

/-- The numbered lines are the pieces that count as lines. -/
theorem map_lines : s.lines.map (fun l => l.2.toList) = s.lineTexts := by
  rw [lines_eq, List.map_map]
  apply List.ext_getElem
  · rw [List.length_map, List.length_range', lineCount_eq, length_lineTexts]
  · intro i hi hi'
    have hpiece := List.prefix_iff_getElem?.1 s.lineTexts_prefix i hi'
    rw [List.getElem_map, List.getElem_range', Function.comp_apply, Nat.one_mul, Nat.add_comm 1 i,
      toList_line_succ, List.getD_eq_getElem?_getD, hpiece]
    rfl

/-- The lines joined by newlines are the text up to a last newline. -/
theorem intercalate_lineTexts : ['\n'].intercalate s.lineTexts ++
    (if s.text.toList.getLast? = some '\n' then ['\n'] else []) = s.text.toList := by
  have hall : ['\n'].intercalate s.pieces = s.text.toList := List.intercalate_splitOn '\n'
  have hlast : s.pieces.getLast? = some [] ↔ s.text.toList.getLast?.all (· == '\n') = true :=
    getLast?_splitOn_eq_nil_iff ..
  unfold lineTexts
  cases htext : s.text.toList.getLast? with
  | none =>
    rw [List.getLast?_eq_none_iff] at htext
    rw [pieces, htext]
    rfl
  | some c =>
    rw [htext] at hlast
    by_cases hc : c = '\n'
    · subst hc
      rw [if_pos (hlast.2 rfl), if_pos rfl, ← hall]
      obtain ⟨before, last, hpieces⟩ := s.exists_pieces_concat
      obtain rfl : last = [] := by simpa [hpieces] using hlast.2 rfl
      have hbefore : before ≠ [] := by
        rintro rfl
        rw [← hall, hpieces] at htext
        simp at htext
      rw [hpieces, List.dropLast_concat, intercalate_concat_nil '\n' hbefore]
    · rw [if_neg (by simpa [hlast] using hc), if_neg (by simpa using hc), List.append_nil, hall]

/-- The line under a number is the piece at this place, and empty if there is none. -/
theorem line_eq (n : Int) : s.line n =
    if 1 ≤ n ∧ n ≤ (s.text.toList.count '\n' + 1 : Nat) then
      String.ofList (s.pieces.getD (n - 1).toNat [])
    else "" := by
  by_cases hfirst : n < 1
  · rw [line, if_pos hfirst, if_neg (by omega)]
  · obtain ⟨k, rfl⟩ : ∃ k : Nat, n = (k + 1 : Nat) := ⟨(n - 1).toNat, by omega⟩
    have hplace : (((k + 1 : Nat) : Int) - 1).toNat = k := by omega
    rw [← String.ofList_toList (s := s.line _), toList_line_succ, hplace]
    split_ifs with hlast
    · rfl
    · rw [List.getD_eq_getElem?_getD, List.getElem?_eq_none (by rw [length_pieces]; omega)]
      rfl

/-- The index gives the pieces of the text between newlines under their numbers and nothing under
any other number. The numbered lines are those with the numbers from one to the number of lines, and
joined by newlines, with one more if the text ends with one, they are the text. -/
theorem lines_exact :
    (∀ n : Int, s.line n = if 1 ≤ n ∧ n ≤ (s.text.toList.count '\n' + 1 : Nat) then
        String.ofList ((s.text.toList.splitOn '\n').getD (n - 1).toNat []) else "") ∧
      (s.text.toList.splitOn '\n').length = s.text.toList.count '\n' + 1 ∧
      s.lines = (List.range' 1 s.lineCount).map (fun (n : Nat) => (n, s.line n)) ∧
      "\n".intercalate (s.lines.map Prod.snd) ++
        (if s.text.toList.getLast? = some '\n' then "\n" else "") = s.text := by
  refine ⟨s.line_eq, s.length_pieces, s.lines_eq, ?_⟩
  have hlines : s.lines.map (String.toList ∘ Prod.snd) = s.lineTexts := s.map_lines
  rw [← String.toList_inj, String.toList_append, String.toList_intercalate, List.map_map, hlines]
  refine Eq.trans ?_ s.intercalate_lineTexts
  split_ifs <;> rfl

end Script

end CommandAudit
