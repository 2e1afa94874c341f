import CommandAudit.Proofs.TokenPosition

/-!
# Patterns of case statements

After every character the scanner is inside a case statement exactly if the last of the tokens
`case` and `esac` that it has found is `case`: ending a word is the only step that changes either
side (`ScanState.block_closeWord_iff`), and a line is a run of such steps (`block_pointAt_iff`).
Inside a case statement a token other than `esac` never stands in a pattern: on a line with `)` one
of them ends the pattern before the token, and no `;;` starts another pattern in between.
-/

namespace CommandAudit

/-! ## The scanner between two characters -/

/-- Where a scan stands: its state, and the tokens found so far. -/
structure ScanPoint where
  /-- The state. -/
  state : ScanState
  /-- The tokens, in the order of the text. -/
  tokens : List Token

/-- The scan after the first `i` characters of the line after the lines `before`. A line that is not
read leaves nothing but the here-documents to change. -/
def pointAt (o : ScanOptions) (before : List (List Char)) (line : List Char) (i : Nat) :
    ScanPoint :=
  if IsRead o before line then
    let k := readPart o (before.length + 1) (stateAfter o before) line i
    { state := k.state, tokens := tokensOf o before ++ k.found }
  else
    { state := ((stateAfter o before).lookAhead (o.inWindow (before.length + 1)) line).1
      tokens := tokensOf o before }

/-- The scan after the first `i` characters of line `n`, counted from one. The newline before the
line is read, and a word that it ends is found. -/
def Script.pointAt (s : Script) (o : ScanOptions) (n i : Nat) : ScanPoint :=
  CommandAudit.pointAt o (s.pieces.take (n - 1)).reverse (s.pieces.getD (n - 1) []) i

/-- The last of the tokens that opens or closes a case statement. -/
def lastCaseToken? (tokens : List Token) : Option Token :=
  tokens.reverse.find? fun t => t.text == "case" || t.text == "esac"

theorem caseLeftOpen_eq (tokens : List Token) :
    caseLeftOpen tokens = (lastCaseToken? tokens).any (·.text == "case") := rfl

/-! ## Inside and outside -/

/-- Ending a word enters or leaves a case statement together with the tokens. -/
theorem ScanState.block_closeWord_iff {s : ScanState} {tokens : List Token}
    (h : s.block = .outside ↔ caseLeftOpen tokens = false) (n : Nat) :
    (s.closeWord n).1.block = .outside ↔
      caseLeftOpen (tokens ++ s.closedTokens n) = false := by
  rcases hword : s.word with _ | w
  · rw [closeWord_of_none hword, closedTokens_of_none hword, List.append_nil]
    exact h
  · cases hskip : w.isSkipped with
    | true =>
      rw [closeWord_of_skipped hword hskip, closedTokens_of_some hword, if_pos (Or.inl hskip),
        List.append_nil]
      exact h
    | false =>
      rw [block_closeWord_of_kept hword hskip, closedTokens_of_some hword, hskip]
      simp only [Bool.false_eq_true, false_or]
      by_cases hlong : w.chars.length ≤ 1
      · have hlen : w.text.length ≤ 1 := by simpa [OpenWord.text] using hlong
        have hcase : w.text ≠ "case" := fun he => absurd (he ▸ hlen) (by decide)
        have hesac : w.text ≠ "esac" := fun he => absurd (he ▸ hlen) (by decide)
        rw [if_pos hlong, List.append_nil, if_neg hcase, if_neg hesac]
        exact h
      · rw [if_neg hlong, caseLeftOpen_concat]
        dsimp only
        split_ifs
        · simp
        · simp
        · exact h

theorem ScanState.blockAt_eq_outside_iff (s : ScanState) (hasParen : Bool) (past : List Char)
    (c : Char) : s.blockAt hasParen past c = .outside ↔ s.block = .outside := by
  unfold blockAt
  cases s.block with
  | outside => simp
  | pattern | body =>
    dsimp only
    split_ifs <;> simp

/-- A character enters or leaves a case statement only by ending a word. -/
theorem LineScan.block_step_iff {k : LineScan} {tokens : List Token} {n : Nat}
    (h : k.state.block = .outside ↔ caseLeftOpen (tokens ++ k.found) = false) (mode : EscapeMode)
    (hasParen : Bool) (c : Char) :
    (k.step mode n hasParen c).state.block = .outside ↔
      caseLeftOpen (tokens ++ (k.step mode n hasParen c).found) = false := by
  have hbreak : (k.state.breakAt n c).block = .outside ↔ caseLeftOpen (tokens ++
      (k.found ++ if isWordChar c then [] else k.state.closedTokens n)) = false := by
    unfold ScanState.breakAt
    split_ifs
    · rw [List.append_nil]
      exact h
    · rw [← List.append_assoc]
      exact ScanState.block_closeWord_iff h n
  rw [found_step, ← hbreak, state_step]
  dsimp only
  split_ifs
  · rw [ScanState.readCode_eq]
    exact ScanState.blockAt_eq_outside_iff ..
  · rfl

section

variable (o : ScanOptions) (before : List (List Char)) (line : List Char)

theorem block_stateAfter_iff :
    (stateAfter o before).block = .outside ↔ caseLeftOpen (tokensOf o before) = false := by
  obtain ⟨htokens, hblock⟩ := tokensOf_eq_commandWords o before
  rw [htokens, hblock]
  cases caseLeftOpen (commandWords o before) <;> simp

theorem block_readPart_iff (i : Nat) :
    (readPart o (before.length + 1) (stateAfter o before) line i).state.block = .outside ↔
      caseLeftOpen (tokensOf o before ++
        (readPart o (before.length + 1) (stateAfter o before) line i).found) = false := by
  induction i with
  | zero =>
    have hfound : (readPart o (before.length + 1) (stateAfter o before) line 0).found = [] := rfl
    rw [hfound, List.append_nil, ← block_stateAfter_iff, readPart_zero, ScanState.enterLine_eq]
    dsimp only
    split_ifs with hpass
    · exact iff_of_false (by simp) (by simp [hpass.2.1])
    · rfl
  | succ i ih =>
    rcases hc : (line)[i]? with _ | c
    · have htake : line.take (i + 1) = line.take i := by rw [List.take_add_one, hc]; simp
      unfold readPart at ih ⊢
      rwa [htake]
    · rw [readPart_succ _ _ _ hc]
      exact LineScan.block_step_iff ih ..

/-- After every character the scanner is inside a case statement exactly if the tokens found so far
leave one open. -/
theorem block_pointAt_iff (i : Nat) : (pointAt o before line i).state.block ≠ .outside ↔
    caseLeftOpen (pointAt o before line i).tokens = true := by
  rw [← Bool.not_eq_false, not_iff_not]
  unfold pointAt
  split_ifs
  · exact block_readPart_iff o before line i
  · rw [ScanState.frame_lookAhead]
    exact block_stateAfter_iff o before

variable {o before line}

/-- The scanner's context inside a line that is read. -/
theorem context_pointAt (h : IsRead o before line) (tokens : List Token) (i : Nat) :
    (pointAt o before line i).state.context = (readLine o before tokens line).context i := by
  unfold pointAt
  rw [if_pos h]
  dsimp only
  rw [context_readPart, context_stateAfter]
  rfl

end

/-! ## Tokens of a line -/

namespace ReadLine

variable {l : ReadLine}

theorem head?_before (l : ReadLine) {i : Nat} (h : 0 < i) (hi : i ≤ l.text.length) :
    (l.before i).head? = l.text[i - 1]? := by
  unfold before
  rw [List.head?_reverse, List.getLast?_take, if_neg (by omega),
    List.getElem?_eq_getElem (by omega)]
  rfl

/-- A token of a line comes from a kept run, and the tokens before it from the runs kept before. -/
theorem exists_run_of_tokensFor {n i : Nat} (hi : i ≤ l.text.length) {earlier later : List Token}
    {t : Token} (h : l.tokensFor n (l.kept i) = earlier ++ t :: later) :
    ∃ W ∈ l.kept i, t = ⟨l.word W, n, W.start + 1⟩ ∧ earlier = l.tokensFor n (l.kept W.start) := by
  induction i generalizing later with
  | zero => exact absurd h (by simp [kept, tokensFor])
  | succ i ih =>
    rcases hrun : l.runTo? (i + 1) with _ | V
    · rw [l.kept_succ_of_none hrun] at h ⊢
      exact ih (by omega) h
    · rw [l.kept_succ_of_some hrun] at h ⊢
      split_ifs at h ⊢
      · obtain ⟨hV, hstop⟩ := (l.runTo?_eq_some_iff hi V).1 hrun
        have hlt := hV.lt
        rw [tokensFor_cons] at h
        split_ifs at h with hlong
        · -- the last token is that of the last run
          rcases List.eq_nil_or_concat later with rfl | ⟨rest, last, rfl⟩
          · obtain ⟨hearlier, ht⟩ := List.append_inj' h rfl
            refine ⟨V, List.mem_cons_self, (List.cons.inj ht).1.symm, ?_⟩
            rw [← hearlier, l.kept_of_isRun hV (by omega) (by omega)]
          · rw [List.concat_eq_append, ← List.cons_append, ← List.append_assoc] at h
            obtain ⟨W, hW, ht⟩ := ih (by omega) (List.append_inj' h rfl).1
            exact ⟨W, List.mem_cons_of_mem _ hW, ht⟩
        · rw [List.append_nil] at h
          obtain ⟨W, hW, ht⟩ := ih (by omega) h
          exact ⟨W, List.mem_cons_of_mem _ hW, ht⟩
      · exact ih (by omega) h

/-- The last run of a line that opens or closes a case statement gives the last such token. -/
theorem lastCaseToken?_append_tokensFor (tokens : List Token) (n : Nat) (K : List Span) :
    lastCaseToken? (tokens ++ l.tokensFor n K) =
      ((l.lastCase? K).map fun R => ⟨l.word R, n, R.start + 1⟩).or (lastCaseToken? tokens) := by
  induction K with
  | nil => simp [tokensFor, lastCase?]
  | cons W K ih =>
    rw [tokensFor_cons, ← List.append_assoc, lastCase?_cons]
    by_cases hword : l.word W = "case" ∨ l.word W = "esac"
    · rw [if_pos hword, if_pos (lt_of_word_eq hword)]
      unfold lastCaseToken?
      rw [List.reverse_append, List.reverse_singleton, List.singleton_append,
        List.find?_cons_of_pos (by simpa using hword)]
      rfl
    · rw [if_neg hword, ← ih]
      split_ifs
      · unfold lastCaseToken?
        rw [List.reverse_append, List.reverse_singleton, List.singleton_append,
          List.find?_cons_of_neg (by simpa using hword)]
      · rw [List.append_nil]

/-- A token other than `esac` that follows an open case statement comes after the end of a pattern
if its line has a `)`. -/
theorem exists_patternEnded {n : Nat} {tokens front back : List Token} {t : Token}
    (hcase : l.inCase = caseLeftOpen tokens)
    (h : l.tokensFor n (l.kept l.text.length) = front ++ t :: back) (hesac : t.text ≠ "esac")
    (hopen : caseLeftOpen (tokens ++ front) = true) (hparen : l.text.contains ')' = true) :
    t.column - 1 ≤ l.text.length ∧ front = l.tokensFor n (l.kept (t.column - 1)) ∧
      l.PatternEnded (l.kept (t.column - 1)) (t.column - 1) := by
  obtain ⟨W, hW, rfl, rfl⟩ := exists_run_of_tokensFor (Nat.le_refl _) h
  obtain ⟨hrun, hstop, -, hkept⟩ := (l.mem_kept_iff (Nat.le_refl _) W).1 hW
  rw [caseLeftOpen_append_tokensFor hcase] at hopen
  refine ⟨Nat.le_trans (Nat.le_of_lt hrun.lt) hstop, rfl, ?_⟩
  by_contra hended
  exact hkept ⟨⟨hparen, hopen, hended⟩, hesac⟩

/-- Where the last of the tokens that opens or closes a case statement ends, if it stands on the
line. -/
theorem caseFrom_of_lastCaseToken? {n i : Nat} (hi : i ≤ l.text.length) {tokens : List Token}
    (htokens : ∀ t ∈ tokens, t.line ≠ n) {C : Token}
    (hC : lastCaseToken? (tokens ++ l.tokensFor n (l.kept i)) = some C) (hline : C.line = n) :
    C.column - 1 + C.text.length = l.caseFrom (l.kept i) := by
  rw [lastCaseToken?_append_tokensFor] at hC
  unfold caseFrom
  rcases hlast : l.lastCase? (l.kept i) with _ | R
  · rw [hlast] at hC
    exact absurd hline (htokens C (List.mem_reverse.1 (List.mem_of_find?_eq_some hC)))
  · rw [hlast] at hC
    obtain rfl := Option.some.inj hC
    obtain ⟨hrun, hstop, -⟩ := (l.mem_kept_iff hi R).1 (List.mem_of_find?_eq_some hlast)
    have hlt := hrun.lt
    change R.start + (l.word R).length = R.stop
    rw [length_word (by omega)]
    omega

end ReadLine

/-- A token stands on one of the lines, after the tokens of the lines before. -/
theorem exists_line_of_tokensOf {o : ScanOptions} {before : List (List Char)}
    {earlier later : List Token} {t : Token} (h : tokensOf o before = earlier ++ t :: later) :
    ∃ after line lines front back, before = after ++ line :: lines ∧
      lineTokens o (lines.length + 1) (stateAfter o lines) line = front ++ t :: back ∧
      earlier = tokensOf o lines ++ front := by
  induction before generalizing later with
  | nil => exact absurd h (by simp)
  | cons line before ih =>
    rw [tokensOf_cons] at h
    rcases List.append_eq_append_iff.1 h with ⟨front, rfl, hline⟩ | ⟨back, hbefore, hline⟩
    · exact ⟨[], line, before, front, later, rfl, hline, rfl⟩
    · rcases back with _ | ⟨u, back⟩
      · rw [List.append_nil] at hbefore
        exact ⟨[], line, before, [], later, rfl, hline.symm, by rw [List.append_nil, hbefore]⟩
      · obtain ⟨rfl, rfl⟩ := List.cons.inj hline
        obtain ⟨after, line', lines, front, rest, rfl, htokens, hearlier⟩ := ih hbefore
        exact ⟨line :: after, line', lines, front, rest, rfl, htokens, hearlier⟩

/-- A line of a script and the scan inside it, given the lines before. -/
theorem Script.line_pointAt_of_pieces {s : Script} {before after : List (List Char)}
    {line : List Char} (h : s.pieces = before.reverse ++ line :: after) (o : ScanOptions) :
    (s.line ((before.length + 1 : Nat) : Int)).toList = line ∧
      ∀ i, s.pointAt o (before.length + 1) i = CommandAudit.pointAt o before line i := by
  constructor
  · rw [toList_line_succ, h]
    simp
  · intro i
    unfold Script.pointAt
    rw [Nat.add_sub_cancel, h]
    simp

/-! ## The end of a pattern -/

/-- A `)` of code at the offset `p` of line `n` ends a pattern, and no `;;` whose second character
is code stands between it and the offset `a`. -/
structure Script.PatternEndsAt (s : Script) (o : ScanOptions) (n p a : Nat) : Prop where
  /-- The `)` stands before the offset. -/
  lt : p < a
  /-- The character is a `)`. -/
  paren : (s.line n).toList[p]? = some ')'
  /-- It is read as code. -/
  isCode : (s.pointAt o n (p + 1)).state.context = .code
  /-- No branch ends after it. -/
  branch : ∀ r, p < r → r < a → ¬ ((s.line n).toList[r - 1]? = some ';' ∧
    (s.line n).toList[r]? = some ';' ∧ (s.pointAt o n (r + 1)).state.context = .code)

/-- After every character the scanner is inside a case statement exactly if the last of the tokens
`case` and `esac` found so far is `case`, and so it is at the end. If that is so before a token
other than `esac`, and the line of the token has a `)`, then a `)` ends a pattern before the token,
after the `case` if it stands on the same line. -/
theorem Script.case_pattern_ended (s : Script) (o : ScanOptions) :
    (∀ n i, (s.pointAt o n i).state.block ≠ .outside ↔
      ∃ C, lastCaseToken? (s.pointAt o n i).tokens = some C ∧ C.text = "case") ∧
    ((stateAfter o s.pieces.reverse).block ≠ .outside ↔
      ∃ C, lastCaseToken? (s.tokens o) = some C ∧ C.text = "case") ∧
    ∀ earlier t later, s.tokens o = earlier ++ t :: later → t.text ≠ "esac" →
      ∀ C, lastCaseToken? earlier = some C → C.text = "case" →
        ')' ∈ (s.line t.line).toList →
        ∃ p, s.PatternEndsAt o t.line p (t.column - 1) ∧
          (C.line = t.line → C.column - 1 + C.text.length ≤ p) := by
  have hopen : ∀ tokens, caseLeftOpen tokens = true ↔
      ∃ C, lastCaseToken? tokens = some C ∧ C.text = "case" := by
    intro tokens
    rw [caseLeftOpen_eq, Option.any_eq_true]
    simp
  refine ⟨fun n i => ?_, ?_, ?_⟩
  · rw [← hopen]
    exact block_pointAt_iff ..
  · rw [← hopen, tokens_eq_tokensOf, ← Bool.not_eq_false, not_iff_not]
    exact block_stateAfter_iff ..
  · intro earlier t later htokens hesac C hC hcase hparen
    rw [tokens_eq_tokensOf] at htokens
    obtain ⟨after, line, before, front, back, hpieces, hline, rfl⟩ :=
      exists_line_of_tokensOf htokens
    obtain ⟨hread, hnumber, -⟩ :=
      spelled_of_mem_lineTokens o before line (t := t) (by rw [hline]; simp)
    have hpieces' : s.pieces = before.reverse ++ line :: after.reverse := by
      rw [← List.reverse_reverse s.pieces, hpieces]
      simp
    obtain ⟨htext, hpoint⟩ := Script.line_pointAt_of_pieces hpieces' o
    rw [← hnumber] at htext hpoint
    obtain ⟨hwords, hblock⟩ := tokensOf_eq_commandWords o before
    let l := readLine o before (commandWords o before) line
    have hinCase : l.inCase = caseLeftOpen (tokensOf o before) := by
      rw [hwords]
      rfl
    have hkept := (lineTokens_of_isRead line hblock hread).1.symm.trans hline
    rw [htext] at hparen
    obtain ⟨hle, rfl, p, hlt, hfrom, hcode, hbranch⟩ := l.exists_patternEnded hinCase hkept hesac
      ((hopen _).2 ⟨C, hC, hcase⟩) (List.contains_iff_mem.2 hparen)
    refine ⟨p, ⟨hlt, ?_, ?_, ?_⟩, fun hsame => ?_⟩
    · rw [htext]
      exact hcode.1
    · rw [hpoint, context_pointAt hread (commandWords o before)]
      exact hcode.2
    · rintro r hpr hr ⟨hfirst, hsecond, hcontext⟩
      rw [htext] at hfirst hsecond
      rw [hpoint, context_pointAt hread (commandWords o before)] at hcontext
      have hhead := (l.head?_before (i := r) (by omega) (by omega)).trans hfirst
      exact hbranch r hr hpr ⟨⟨hsecond, hcontext⟩, hhead⟩
    · have hothers : ∀ u ∈ tokensOf o before, u.line ≠ before.length + 1 := by
        intro u hu
        have hu := (line_of_mem_tokensOf hu).2
        omega
      rw [l.caseFrom_of_lastCaseToken? hle hothers hC (hsame.trans hnumber)]
      exact hfrom

/-- Two case statements, one inside the other: before `pwd` the inner one has been opened on the
same line, and the last `)` of code before it follows that `case`. -/
theorem Script.case_pattern_ended_of_inner_case :
    let s : Script :=
      { text := "case $1 in\n 'x)' | a) cd b;; c) case y in d) ls \"e;;)\"; pwd;; esac" }
    s.tokens {} = [⟨"case", 1, 1⟩, ⟨"cd", 2, 12⟩, ⟨"case", 2, 22⟩, ⟨"ls", 2, 35⟩] ++
        ⟨"pwd", 2, 46⟩ :: [⟨"esac", 2, 52⟩] ∧
      ∃ p, s.PatternEndsAt {} 2 p 45 ∧ 25 ≤ p := by
  intro s
  have htokens : s.tokens {} = [⟨"case", 1, 1⟩, ⟨"cd", 2, 12⟩, ⟨"case", 2, 22⟩, ⟨"ls", 2, 35⟩] ++
      ⟨"pwd", 2, 46⟩ :: [⟨"esac", 2, 52⟩] := by decide +kernel
  obtain ⟨p, hends, hfrom⟩ := (s.case_pattern_ended {}).2.2 _ _ _ htokens (by decide)
    ⟨"case", 2, 22⟩ (by decide +kernel) rfl (by decide +kernel)
  exact ⟨htokens, p, hends, hfrom rfl⟩

end CommandAudit
