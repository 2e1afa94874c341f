import CommandAudit.Proofs.Region
import CommandAudit.Proofs.ScriptLines

/-!
# Scans that go on

What a scan finds on further lines is added to what it found before (`tokensOf_append`), and it
depends on the lines before only through the state they leave: two scans that are in the same state
find the same tokens on the same lines, however far apart the two places are (`tokensAfter_add`).
So lines that are added to a script change none of its tokens (`Script.tokens_append_lines`).
-/

namespace CommandAudit

/-! ## Further lines -/

/-- The tokens found on `lines`, which come after the lines `before`; both are latest first. -/
def tokensAfter (o : ScanOptions) (before : List (List Char)) : List (List Char) → List Token
  | [] => []
  | line :: lines =>
    tokensAfter o before lines ++
      lineTokens o ((lines ++ before).length + 1) (stateAfter o (lines ++ before)) line

section

variable (o : ScanOptions) (before : List (List Char))

theorem tokensOf_append (lines : List (List Char)) :
    tokensOf o (lines ++ before) = tokensOf o before ++ tokensAfter o before lines := by
  induction lines with
  | nil => rw [List.nil_append, tokensAfter, List.append_nil]
  | cons line lines ih =>
    rw [List.cons_append, tokensOf_cons, ih, tokensAfter, List.append_assoc]

/-- A line without characters holds no token. -/
theorem lineTokens_of_nil :
    lineTokens o (before.length + 1) (stateAfter o before) [] = [] := by
  apply List.eq_nil_iff_forall_not_mem.2
  intro t ht
  obtain ⟨-, -, -, hlen, hs⟩ := spelled_of_mem_lineTokens o before [] ht
  have hpos : 0 < t.text.toList.length := by
    rw [String.length_toList]
    omega
  exact absurd (hs 0 _ (List.getElem?_eq_getElem hpos)).1 (by simp)

variable {o before}

/-- The tokens found on further lines stand on these lines. -/
theorem line_of_mem_tokensAfter {lines : List (List Char)} {t : Token}
    (ht : t ∈ tokensAfter o before lines) :
    before.length < t.line ∧ t.line ≤ before.length + lines.length := by
  induction lines with
  | nil => exact absurd ht List.not_mem_nil
  | cons line lines ih =>
    rw [List.length_cons]
    rw [tokensAfter, List.mem_append] at ht
    rcases ht with ht | ht
    · have hline := ih ht
      omega
    · have hline := (spelled_of_mem_lineTokens o _ line ht).2.1
      rw [List.length_append] at hline
      omega

theorem line_of_mem_tokensOf {t : Token} (ht : t ∈ tokensOf o before) :
    0 < t.line ∧ t.line ≤ before.length := by
  rw [← List.append_nil before, tokensOf_append, tokensOf_nil, List.nil_append] at ht
  simpa using line_of_mem_tokensAfter ht

end

namespace Script

/-- The tokens of a script with a newline and the text `u` added. -/
theorem tokens_append (s : Script) (u : String) (o : ScanOptions) :
    tokens { s with text := s.text ++ "\n" ++ u } o =
      s.tokens o ++ tokensAfter o s.pieces.reverse (Script.mk u s.name).pieces.reverse := by
  rw [tokens_eq_tokensOf, tokens_eq_tokensOf, pieces_append, List.reverse_append, tokensOf_append]

/-- With a newline and further lines added, a script keeps its tokens: they are those of the longer
script that stand on its own lines, and they come first. A newline alone adds none. -/
theorem tokens_append_lines (s : Script) (u : String) (o : ScanOptions) :
    let longer : Script := { s with text := s.text ++ "\n" ++ u }
    (longer.tokens o).filter (fun t => t.line ≤ s.text.toList.count '\n' + 1) = s.tokens o ∧
      s.tokens o <+: longer.tokens o ∧
      tokens { s with text := s.text ++ "\n" } o = s.tokens o := by
  intro longer
  refine ⟨?_, ?_, ?_⟩
  · rw [tokens_append, List.filter_append, ← length_pieces, List.filter_eq_self.2,
      List.filter_eq_nil_iff.2, List.append_nil]
    · intro t ht
      have hline := (line_of_mem_tokensAfter ht).1
      rw [List.length_reverse] at hline
      simpa using hline
    · intro t ht
      rw [tokens_eq_tokensOf] at ht
      have hline := (line_of_mem_tokensOf ht).2
      rw [List.length_reverse] at hline
      simpa using hline
  · rw [tokens_append]
    exact List.prefix_append ..
  · have hempty := tokens_append s "" o
    rw [String.append_empty] at hempty
    rw [hempty]
    change s.tokens o ++ ([] ++ lineTokens _ _ _ []) = _
    rw [List.nil_append, lineTokens_of_nil, List.append_nil]

end Script

/-! ## The same lines elsewhere -/

/-- The token `d` lines further down. -/
def Token.moveDown (d : Nat) (t : Token) : Token :=
  { t with line := t.line + d }

namespace ScanState

/-- The number of the line plays no part in the state after a word. -/
theorem closeWord_add (s : ScanState) (n d : Nat) :
    (s.closeWord (n + d)).1 = (s.closeWord n).1 := by
  rcases h : s.word with _ | w
  · rw [closeWord_of_none h, closeWord_of_none h]
  · by_cases hw : w.isSkipped = true
    · rw [closeWord_of_skipped h hw, closeWord_of_skipped h hw]
    · rw [closeWord_of_kept h (by simpa using hw), closeWord_of_kept h (by simpa using hw)]

theorem closedTokens_add (s : ScanState) (n d : Nat) :
    s.closedTokens (n + d) = (s.closedTokens n).map (Token.moveDown d) := by
  rcases h : s.word with _ | w
  · rw [closedTokens_of_none h, closedTokens_of_none h]
    rfl
  · rw [closedTokens_of_some h, closedTokens_of_some h]
    split_ifs <;> rfl

theorem breakAt_add (s : ScanState) (n d : Nat) (c : Char) :
    s.breakAt (n + d) c = s.breakAt n c := by
  unfold breakAt
  rw [closeWord_add]

end ScanState

section

variable {o o' : ScanOptions} {n d : Nat} (hmode : o.escapeMode = o'.escapeMode)

include hmode

/-- Reading a line does not depend on its number, apart from the lines of its tokens. -/
theorem readPart_add (hread : o.inWindow (n + d) = o'.inWindow n) (s : ScanState) (text : List Char)
    {i : Nat} (hi : i ≤ text.length) :
    (readPart o (n + d) s text i).state = (readPart o' n s text i).state ∧
      (readPart o (n + d) s text i).found =
        (readPart o' n s text i).found.map (Token.moveDown d) := by
  induction i with
  | zero =>
    rw [readPart_zero, readPart_zero, hread]
    exact ⟨rfl, rfl⟩
  | succ i ih =>
    obtain ⟨hstate, hfound⟩ := ih (by omega)
    have hc := List.getElem?_eq_getElem (l := text) (i := i) (by omega)
    rw [readPart_succ o _ s hc, readPart_succ o' _ s hc, hmode]
    constructor
    · rw [LineScan.state_step, LineScan.state_step, hstate, past_readPart, past_readPart,
        width_readPart o _ s (by omega), width_readPart o' _ s (by omega), ScanState.breakAt_add]
    · rw [LineScan.found_step, LineScan.found_step, hfound, hstate, List.map_append,
        ScanState.closedTokens_add]
      split_ifs <;> rfl

/-- Two lines with the same text, read or passed over from the same state. -/
theorem scanLine_add (hread : o.inWindow (n + d) = o'.inWindow n) (s : ScanState)
    (text : List Char) : (scanLine o (n + d) s text).1 = (scanLine o' n s text).1 ∧
      lineTokens o (n + d) s text = (lineTokens o' n s text).map (Token.moveDown d) := by
  by_cases h : o'.inWindow n = true ∧ s.waiting.filter (!·.closedBy text) = none
  · obtain ⟨hstate, hfound⟩ := readPart_add hmode hread s text (Nat.le_refl _)
    obtain ⟨hs, ht⟩ := scanLine_of_read (hread.trans h.1) h.2
    obtain ⟨hs', ht'⟩ := scanLine_of_read h.1 h.2
    rw [hs, hs', ht, ht', hstate, hfound, List.map_append, ScanState.closeWord_add,
      ScanState.closedTokens_add]
    exact ⟨rfl, rfl⟩
  · obtain ⟨hs', ht'⟩ := scanLine_of_pass h
    rw [← hread] at h hs'
    obtain ⟨hs, ht⟩ := scanLine_of_pass h
    rw [hs, hs', ht, ht']
    exact ⟨rfl, rfl⟩

/-- Two scans that are in the same state after the lines before find the same tokens on the same
further lines and stay in the same state. -/
theorem tokensAfter_add (before before' : List (List Char))
    (hlen : before.length = before'.length + d)
    (hstate : stateAfter o before = stateAfter o' before')
    {lines : List (List Char)} (hread : ∀ n, before'.length < n →
      n ≤ before'.length + lines.length → o.inWindow (n + d) = o'.inWindow n) :
    stateAfter o (lines ++ before) = stateAfter o' (lines ++ before') ∧
      tokensAfter o before lines = (tokensAfter o' before' lines).map (Token.moveDown d) := by
  induction lines with
  | nil => exact ⟨hstate, rfl⟩
  | cons line lines ih =>
    rw [List.length_cons] at hread
    obtain ⟨hs, ht⟩ := ih fun n hn hn' => hread n hn (by omega)
    have hnumber : (lines ++ before).length + 1 = (lines ++ before').length + 1 + d := by
      rw [List.length_append, List.length_append]
      omega
    obtain ⟨hs', ht'⟩ := scanLine_add hmode (n := (lines ++ before').length + 1) (d := d)
      (hread _ (by rw [List.length_append]; omega) (by rw [List.length_append]; omega))
      (stateAfter o' (lines ++ before')) line
    rw [List.cons_append, List.cons_append, stateAfter_cons, stateAfter_cons, tokensAfter,
      tokensAfter, hs, ht, hnumber, hs', ht', List.map_append]
    exact ⟨rfl, rfl⟩

/-- The same further lines after equally many lines that leave the same state. -/
theorem tokensAfter_congr (before before' : List (List Char))
    (hlen : before.length = before'.length)
    (hstate : stateAfter o before = stateAfter o' before')
    {lines : List (List Char)} (hread : ∀ n, before'.length < n →
      n ≤ before'.length + lines.length → o.inWindow n = o'.inWindow n) :
    tokensAfter o before lines = tokensAfter o' before' lines := by
  have hmove : Token.moveDown 0 = id := rfl
  have hsame := (tokensAfter_add (d := 0) hmode before before' hlen hstate hread).2
  rwa [hmove, List.map_id] at hsame

end

end CommandAudit
