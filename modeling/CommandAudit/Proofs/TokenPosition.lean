import CommandAudit.Proofs.CommandWord
import CommandAudit.Proofs.Continuation

/-!
# Positions of tokens

Every token is a whole word of its line and stands at its column (`Token.StandsOn`), and of two
tokens the earlier one ends before the later one begins (`Token.Precedes`). On one line this follows
from what is known of the kept runs (`ReadLine.placed_tokensFor`); over the lines it is carried
along together with a bound on the room that the tokens take (`placed_tokensOf`).
-/

namespace CommandAudit

namespace Token

/-- The token is a whole word of the line `text`, with two or more characters, the first of them a
letter. -/
structure StandsOn (t : Token) (text : List Char) : Prop where
  /-- Columns are counted from one. -/
  column_pos : 0 < t.column
  /-- Its text stands at its column. -/
  slice : (text.drop (t.column - 1)).take t.text.length = t.text.toList
  /-- It begins with a letter. -/
  letter : t.text.toList.head?.any Char.isAlpha = true
  /-- It has more than one character. -/
  two_le : 2 ≤ t.text.length
  /-- It holds word characters only. -/
  isWordChar : ∀ c ∈ t.text.toList, isWordChar c = true
  /-- No word character stands directly before it. -/
  left : (text.take (t.column - 1)).getLast?.any CommandAudit.isWordChar = false
  /-- No word character stands directly after it. -/
  right : text[t.column - 1 + t.text.length]?.any CommandAudit.isWordChar = false

/-- The first token stands on an earlier line than the second, or on the same line with a character
between them. -/
def Precedes (t u : Token) : Prop :=
  t.line < u.line ∨ t.line = u.line ∧ t.column + t.text.length < u.column

/-- The characters of a token and one more after them. -/
def room (t : Token) : Nat :=
  t.text.length + 1

theorem StandsOn.end_le {t : Token} {text : List Char} (h : t.StandsOn text) :
    t.column - 1 + t.text.length ≤ text.length := by
  have hlen := congrArg List.length h.slice
  have htwo := h.two_le
  rw [List.length_take, List.length_drop, String.length_toList] at hlen
  omega

end Token

/-! ## One line -/

/-- Tokens of line `n`, in their order. -/
structure PlacedOn (n : Nat) (text : List Char) (tokens : List Token) : Prop where
  /-- They bear the number of the line. -/
  line : ∀ t ∈ tokens, t.line = n
  /-- They stand on it. -/
  stands : ∀ t ∈ tokens, t.StandsOn text
  /-- Each one ends before the next one begins. -/
  precedes : tokens.Pairwise Token.Precedes

theorem PlacedOn.nil (n : Nat) (text : List Char) : PlacedOn n text [] where
  line := fun _ ht => absurd ht List.not_mem_nil
  stands := fun _ ht => absurd ht List.not_mem_nil
  precedes := List.Pairwise.nil

/-- Tokens that begin after the first `start` characters of a line fit into the rest of it. -/
theorem PlacedOn.sum_room_add_le {n : Nat} {text : List Char} {tokens : List Token}
    (h : PlacedOn n text tokens) (start : Nat) (hstart : start ≤ text.length + 1)
    (hafter : ∀ t ∈ tokens, start < t.column) :
    (tokens.map Token.room).sum + start ≤ text.length + 1 := by
  induction tokens generalizing start with
  | nil =>
    rw [List.map_nil, List.sum_nil]
    omega
  | cons t tokens ih =>
    obtain ⟨hline, hstands, hprecedes⟩ := h
    obtain ⟨hfirst, hrest⟩ := List.pairwise_cons.1 hprecedes
    have hpos := (hstands t List.mem_cons_self).column_pos
    have hend := (hstands t List.mem_cons_self).end_le
    have hcolumn := hafter t List.mem_cons_self
    have hplaced : PlacedOn n text tokens :=
      ⟨fun u hu => hline u (List.mem_cons_of_mem _ hu),
        fun u hu => hstands u (List.mem_cons_of_mem _ hu), hrest⟩
    have hroom := ih hplaced (t.column + t.text.length) (by omega) ?_
    · rw [List.map_cons, List.sum_cons, Token.room]
      omega
    · intro u hu
      rcases hfirst u hu with hlt | ⟨-, hlt⟩
      · rw [hline t List.mem_cons_self, hline u (List.mem_cons_of_mem _ hu)] at hlt
        exact absurd hlt (Nat.lt_irrefl _)
      · exact hlt

namespace ReadLine

variable {l : ReadLine} {R R' : Span}

theorem toList_word : (l.word R).toList = (l.text.take R.stop).drop R.start := by
  unfold word
  rw [String.toList_ofList]

theorem length_word (h : R.stop ≤ l.text.length) : (l.word R).length = R.stop - R.start := by
  rw [← String.length_toList, toList_word, List.length_drop, List.length_take]
  omega

/-- Two runs never touch each other. -/
theorem IsRun.stop_lt_start (h : l.IsRun R) (h' : l.IsRun R') (hlt : R.stop < R'.stop) :
    R.stop < R'.start := by
  by_contra hle
  have hword := h'.isWordChar R.stop (by omega) hlt
  rw [h.right] at hword
  exact absurd hword (by simp)

/-- A kept run of more than one character, taken as a token, stands on its line. -/
theorem standsOn_of_mem_kept (hR : R ∈ l.kept l.text.length) (hlong : R.start + 1 < R.stop)
    (n : Nat) : Token.StandsOn ⟨l.word R, n, R.start + 1⟩ l.text := by
  obtain ⟨hrun, hstop, ⟨hletter, -⟩, -⟩ := (l.mem_kept_iff (Nat.le_refl _) R).1 hR
  have hlen := length_word hstop
  have hget : ∀ j, R.start + j < R.stop → (l.word R).toList[j]? = l.text[R.start + j]? := by
    intro j hj
    rw [toList_word, List.getElem?_drop, List.getElem?_take_of_lt hj]
  refine ⟨Nat.succ_pos _, ?_, ?_, ?_, ?_, ?_, ?_⟩
  · change (l.text.drop R.start).take (l.word R).length = _
    rw [hlen, toList_word, List.drop_take]
  · change (l.word R).toList.head?.any Char.isAlpha = true
    rw [List.head?_eq_getElem?, hget 0 (by omega)]
    exact hletter.1
  · change 2 ≤ (l.word R).length
    omega
  · intro c hc
    obtain ⟨j, hj⟩ := List.mem_iff_getElem?.1 hc
    have hj' : j < (l.word R).toList.length := (List.getElem?_eq_some_iff.1 hj).1
    rw [String.length_toList, hlen] at hj'
    rw [hget j (by omega)] at hj
    simpa [hj] using hrun.isWordChar (R.start + j) (by omega) (by omega)
  · change (l.text.take R.start).getLast?.any isWordChar = false
    rw [← List.head?_reverse]
    exact hrun.left
  · change l.text[R.start + (l.word R).length]?.any isWordChar = false
    rw [hlen, Nat.add_sub_cancel' (Nat.le_of_lt hrun.lt)]
    exact hrun.right

theorem mem_tokensFor_iff {n : Nat} {K : List Span} {t : Token} : t ∈ l.tokensFor n K ↔
    ∃ R ∈ K, R.start + 1 < R.stop ∧ t = ⟨l.word R, n, R.start + 1⟩ := by
  simp only [tokensFor, List.mem_map, List.mem_filter, List.mem_reverse, decide_eq_true_eq,
    and_assoc, eq_comm (a := t)]

/-- The tokens of a line, whatever the lines before it. -/
theorem placed_tokensFor (l : ReadLine) (n : Nat) :
    PlacedOn n l.text (l.tokensFor n (l.kept l.text.length)) := by
  refine ⟨?_, ?_, ?_⟩
  · intro t ht
    obtain ⟨R, -, -, rfl⟩ := mem_tokensFor_iff.1 ht
    rfl
  · intro t ht
    obtain ⟨R, hR, hlong, rfl⟩ := mem_tokensFor_iff.1 ht
    exact standsOn_of_mem_kept hR hlong n
  · have horder := List.pairwise_reverse.2 (l.pairwise_kept (Nat.le_refl _))
    refine List.pairwise_map.2 ((horder.filter _).imp_of_mem ?_)
    intro R R' hR hR' hlt
    rw [List.mem_filter, List.mem_reverse, l.mem_kept_iff (Nat.le_refl _)] at hR hR'
    have hstart := hR.1.1.stop_lt_start hR'.1.1 hlt
    refine Or.inr ⟨rfl, ?_⟩
    change R.start + 1 + (l.word R).length < R'.start + 1
    rw [length_word hR.1.2.1]
    have hle := hR.1.1.lt
    omega

end ReadLine

/-- The tokens found on a line after the lines `before`. -/
theorem placed_lineTokens (o : ScanOptions) (before : List (List Char)) (line : List Char) :
    PlacedOn (before.length + 1) line
      (lineTokens o (before.length + 1) (stateAfter o before) line) := by
  by_cases h : IsRead o before line
  · rw [(lineTokens_of_isRead line (tokensOf_eq_commandWords o before).2 h).1]
    exact (readLine o before (commandWords o before) line).placed_tokensFor _
  · rw [(scanLine_of_pass (mt (isRead_iff o before line).2 h)).2]
    exact PlacedOn.nil ..

/-! ## All lines -/

/-- The tokens found on the lines `before`, latest first, stand in order and fit into the lines, a
further character for each line included. -/
theorem placed_tokensOf (o : ScanOptions) (before : List (List Char)) :
    (tokensOf o before).Pairwise Token.Precedes ∧
      ((tokensOf o before).map Token.room).sum ≤ (before.map fun line => line.length + 1).sum := by
  induction before with
  | nil => exact ⟨List.Pairwise.nil, Nat.le_refl _⟩
  | cons line before ih =>
    have hplaced := placed_lineTokens o before line
    have hroom := hplaced.sum_room_add_le 0 (Nat.zero_le _)
      fun t ht => (hplaced.stands t ht).column_pos
    rw [tokensOf_cons, List.pairwise_append, List.map_append, List.sum_append, List.map_cons,
      List.sum_cons]
    refine ⟨⟨ih.1, hplaced.precedes, fun t ht u hu => Or.inl ?_⟩, by omega⟩
    rw [hplaced.line u hu]
    exact Nat.lt_succ_of_le (line_of_mem_tokensOf ht).2

namespace Script

/-- Every token stands on its line at its column as a whole word, the tokens are in the order of the
text with a character between any two of a line, and together they take no more than the text. -/
theorem tokens_placed (s : Script) (o : ScanOptions) :
    (∀ t ∈ s.tokens o, 0 < t.line ∧ t.StandsOn (s.line t.line).toList) ∧
      (s.tokens o).Pairwise Token.Precedes ∧
      ((s.tokens o).map fun t => t.text.length + 1).sum ≤ s.text.length + 1 := by
  have hplaced := placed_tokensOf o s.pieces.reverse
  rw [← tokens_eq_tokensOf, List.map_reverse, List.sum_reverse, sum_length_pieces] at hplaced
  refine ⟨fun t ht => ?_, hplaced.1, hplaced.2⟩
  obtain ⟨before, line, -, hline, ht⟩ := exists_line_of_mem_tokens ht
  have hstands := (placed_lineTokens o before line).stands t ht
  have hnumber := (placed_lineTokens o before line).line t ht
  rw [hnumber, toList_line_succ, List.getD_eq_getElem?_getD, hline]
  exact ⟨Nat.succ_pos _, hstands⟩

end Script

end CommandAudit
