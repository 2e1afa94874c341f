import CommandAudit.Proofs.Continuation
import CommandAudit.Proofs.StringContent

/-!
# The rest of a line

The tokens of a line as they follow from the scan of its beginning: `LineScan.tokensAtEnd` reads the
rest and ends the last word. Two scans of a line that come to the same state at the same place find
the same tokens from there on (`LineScan.tokensAtEnd_add`), and a scan that reads no word at some
place finds only tokens further right (`LineScan.column_of_mem_tokensAtEnd`).
-/

namespace CommandAudit

namespace LineScan

/-- Ends the word being read. -/
def close (k : LineScan) (n : Nat) : LineScan :=
  k.apply (k.state.closeWord n)

/-- The tokens of line `n` once `text`, the rest of the line, is read. -/
def tokensAtEnd (mode : EscapeMode) (n : Nat) (hasParen : Bool) (k : LineScan) (text : List Char) :
    List Token :=
  ((k.run mode n hasParen text).close n).found

variable (mode : EscapeMode) (n : Nat) (hasParen : Bool) (k : LineScan) (text : List Char)

theorem found_close : (k.close n).found = k.found ++ k.state.closedTokens n :=
  found_apply k _

theorem tokensAtEnd_nil : tokensAtEnd mode n hasParen k [] = k.found ++ k.state.closedTokens n :=
  found_close n k

theorem tokensAtEnd_cons (c : Char) : tokensAtEnd mode n hasParen k (c :: text) =
    tokensAtEnd mode n hasParen (k.step mode n hasParen c) text := rfl

/-- A line that is read gives the tokens that are found at its end. -/
theorem lineTokens_eq_tokensAtEnd {o : ScanOptions} {n : Nat} {s : ScanState} {line : List Char}
    (hw : o.inWindow n = true) (hb : s.waiting.filter (!·.closedBy line) = none) :
    lineTokens o n s line = tokensAtEnd o.escapeMode n (line.contains ')')
      { state := s.enterLine (o.inWindow n) line } line := by
  rw [(scanLine_of_read hw hb).2, ← found_close]
  unfold readPart
  rw [List.take_length]
  rfl

theorem close_of_none {k : LineScan} (h : k.state.word = none) (n : Nat) : k.close n = k := by
  unfold close
  rw [ScanState.closeWord_of_none h]
  rfl

/-- A word may be ended early where it cannot go on. -/
theorem tokensAtEnd_close (h : text.head?.any isWordChar = false) :
    tokensAtEnd mode n hasParen (k.close n) text = tokensAtEnd mode n hasParen k text := by
  have hclosed : (k.close n).close n = k.close n := close_of_none (k.state.word_closeWord n) n
  cases text with
  | nil => exact congrArg found hclosed
  | cons c text =>
    have hc : isWordChar c = false := by simpa using h
    have hbreak : (k.close n).breakWord n c = k.breakWord n c := by
      unfold breakWord
      rw [if_neg (by simp [hc]), if_neg (by simp [hc])]
      exact hclosed
    rw [tokensAtEnd_cons, tokensAtEnd_cons]
    unfold step
    rw [hbreak]

variable {mode n hasParen k text}

theorem mem_tokensAtEnd {t : Token} (ht : t ∈ k.found) : t ∈ tokensAtEnd mode n hasParen k text := by
  induction text generalizing k with
  | nil =>
    rw [tokensAtEnd_nil]
    exact List.mem_append_left _ ht
  | cons c text ih =>
    apply ih
    rw [found_step]
    exact List.mem_append_left _ ht

/-- Two scans in the same state find the same tokens, whatever the numbers of their lines. -/
theorem tokensAtEnd_add {k' : LineScan} {d : Nat} (hstate : k.state = k'.state)
    (hpast : k.past = k'.past) (hwidth : k.width = k'.width)
    (hfound : k.found = k'.found.map (Token.moveDown d)) :
    tokensAtEnd mode (n + d) hasParen k text =
      (tokensAtEnd mode n hasParen k' text).map (Token.moveDown d) := by
  induction text generalizing k k' with
  | nil =>
    rw [tokensAtEnd_nil, tokensAtEnd_nil, hstate, hfound, ScanState.closedTokens_add,
      List.map_append]
  | cons c text ih =>
    apply ih
    · rw [state_step, state_step, hstate, hpast, hwidth, ScanState.breakAt_add]
    · rw [past_step, past_step, hpast]
    · rw [width_step, width_step, hwidth]
    · rw [found_step, found_step, hstate, hfound, ScanState.closedTokens_add, List.map_append]
      split_ifs <;> rfl

/-- If the word being read and all tokens begin after the offset `m`, then so do all tokens of the
line. -/
theorem column_of_mem_tokensAtEnd {m : Nat} (hm : m ≤ k.width)
    (hword : ∀ w, k.state.word = some w → m < w.column) (hfound : ∀ t ∈ k.found, m < t.column)
    {t : Token} (ht : t ∈ tokensAtEnd mode n hasParen k text) : m < t.column := by
  have hclosed : ∀ k : LineScan, (∀ w, k.state.word = some w → m < w.column) →
      ∀ t ∈ k.state.closedTokens n, m < t.column := by
    intro k hword t ht
    rcases hw : k.state.word with _ | w
    · rw [ScanState.closedTokens_of_none hw] at ht
      exact absurd ht List.not_mem_nil
    · rw [ScanState.closedTokens_of_some hw] at ht
      split_ifs at ht
      · exact absurd ht List.not_mem_nil
      · obtain rfl := List.mem_singleton.1 ht
        exact hword w hw
  induction text generalizing k with
  | nil =>
    rw [tokensAtEnd_nil, List.mem_append] at ht
    exact ht.elim (hfound t) (hclosed k hword t)
  | cons c text ih =>
    refine ih (k := k.step mode n hasParen c) ?_ ?_ ?_ ht
    · rw [width_step]
      omega
    · intro w hw
      rcases word_step mode n hasParen k c hw with ⟨-, -, hv⟩ | ⟨-, ⟨v, -, hv, rfl⟩ | ⟨-, -, hcol⟩⟩
      · exact hword w hv
      · exact hword v hv
      · omega
    · intro t ht
      rw [found_step, List.mem_append] at ht
      rcases ht with ht | ht
      · exact hfound t ht
      · split_ifs at ht
        · exact absurd ht List.not_mem_nil
        · exact hclosed k hword t ht

/-! ## Words that go on -/

variable {w : OpenWord}

theorem closedTokens_of_word (hword : k.state.word = some w) (hpattern : w.isPattern = false)
    (hlen : 2 ≤ w.chars.length) : k.state.closedTokens n = [⟨w.text, n, w.column⟩] := by
  rw [ScanState.closedTokens_of_some hword, if_neg]
  simp only [OpenWord.isSkipped, hpattern, Bool.false_and, Bool.false_eq_true, false_or]
  omega

/-- A word character in code goes on with the word being read. -/
theorem word_step_of_word (mode : EscapeMode) (n : Nat) (hasParen : Bool)
    (hword : k.state.word = some w) (hcode : k.state.context = .code) {c : Char}
    (hc : isWordChar c = true) :
    (k.step mode n hasParen c).state.word = some { w with chars := c :: w.chars } ∧
      (k.step mode n hasParen c).state.context = .code := by
  obtain ⟨hstate, -⟩ := step_of_isWordChar mode n hasParen hcode hc
  rw [hstate, ScanState.readCode_eq]
  refine ⟨?_, hcode⟩
  simp only [ScanState.wordAt, hword]

/-- A word of two or more characters outside case patterns becomes a token. -/
theorem exists_token_of_word (hword : k.state.word = some w) (hcode : k.state.context = .code)
    (hpattern : w.isPattern = false) (hlen : 2 ≤ w.chars.length) (text : List Char) :
    ∃ t ∈ k.tokensAtEnd mode n hasParen text, t.column = w.column := by
  induction text generalizing k w with
  | nil =>
    rw [tokensAtEnd_nil, closedTokens_of_word hword hpattern hlen]
    exact ⟨_, List.mem_append_right _ List.mem_cons_self, rfl⟩
  | cons c text ih =>
    rw [tokensAtEnd_cons]
    by_cases hc : isWordChar c = true
    · obtain ⟨hword', hcode'⟩ := word_step_of_word mode n hasParen hword hcode hc
      exact ih (w := { w with chars := c :: w.chars }) hword' hcode' hpattern
        (Nat.le_succ_of_le hlen)
    · refine ⟨⟨w.text, n, w.column⟩, mem_tokensAtEnd ?_, rfl⟩
      rw [found_step, if_neg hc, closedTokens_of_word hword hpattern hlen]
      exact List.mem_append_right _ List.mem_cons_self

end LineScan

end CommandAudit
