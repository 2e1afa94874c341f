import CommandAudit.Proofs.Region

/-!
# Contents of quoted strings

Characters inside a quoted string may be replaced without any effect on the state of the scanner,
as long as they are no quotes and no backslashes (`SameView.step_string`). At the closing quote the
scanner is back in code and looks at the characters before it, which are the end of the string: a
string that ends in a pipe between spaces, a semicolon or the start of a command substitution makes
the next word a command. That is the only way from a string to the words outside it, and it is open
exactly where the next word would not be a command anyway (`Script.tokens_of_strings_replaced`).
-/

namespace CommandAudit

/-- A character that is no quote, no backslash and no newline. -/
def isPlain (c : Char) : Bool :=
  c != '\'' && c != '"' && c != '\\' && c != '\n'

/-- The context of a quoted string. -/
def Context.isQuoted : Context → Bool
  | .singleQuoted => true
  | .doubleQuoted => true
  | _ => false

theorem Context.ne_code_of_isQuoted {context : Context} (h : context.isQuoted = true) :
    context ≠ .code := by
  rintro rfl
  exact absurd h (by decide)

theorem isPlain_iff (c : Char) : isPlain c = true ↔ c ≠ '\'' ∧ c ≠ '"' ∧ c ≠ '\\' ∧ c ≠ '\n' := by
  simp [isPlain, and_assoc]

theorem quotedBy?_of_isPlain {c : Char} (h : isPlain c = true) : quotedBy? c = none := by
  rw [isPlain_iff] at h
  simp [quotedBy?, h]

/-! ## What the scanner sees of the characters before a place -/

theorem backslashRun_cons (c : Char) (past : List Char) :
    backslashRun (c :: past) = if c = '\\' then backslashRun past + 1 else 0 := by
  unfold backslashRun
  by_cases hc : c = '\\' <;> simp [hc]

/-- The characters before a place, latest first, up to the first quote among them. -/
def uptoQuote : List Char → List Char
  | [] => []
  | c :: past => if (quotedBy? c).isSome then [c] else c :: uptoQuote past

theorem prefix_uptoQuote (past : List Char) : uptoQuote past <+: past := by
  induction past with
  | nil => exact List.prefix_rfl
  | cons c past ih =>
    rw [uptoQuote]
    split_ifs
    · exact ⟨past, rfl⟩
    · exact (List.prefix_cons_inj c).2 ih

theorem head?_uptoQuote (past : List Char) : (uptoQuote past).head? = past.head? := by
  cases past with
  | nil => rfl
  | cons c past =>
    rw [uptoQuote]
    split_ifs <;> rfl

theorem afterMark_mono {past past' : List Char} (h : past <+: past')
    (hm : afterMark past = true) : afterMark past' = true := by
  obtain ⟨rest, rfl⟩ := h
  unfold afterMark at hm
  split at hm <;> first | rfl | cases hm

/-- No mark holds a quote. -/
theorem afterMark_uptoQuote (past : List Char) : afterMark (uptoQuote past) = afterMark past := by
  rw [Bool.eq_iff_iff]
  refine ⟨afterMark_mono (prefix_uptoQuote past), ?_⟩
  intro hm
  unfold afterMark at hm
  split at hm <;> first | rfl | cases hm

section

variable {mode : EscapeMode} {context : Context} {past past' : List Char} {c : Char}

/-- The context depends on the run of backslashes before a character and, in code, on the character
directly before it. -/
theorem next_congr (hrun : backslashRun past' = backslashRun past)
    (hhead : context = .code → past'.head? = past.head?) :
    context.next mode past' c = context.next mode past c := by
  by_cases hc : c = '#'
  · subst hc
    rw [next_hash, next_hash]
    by_cases hcode : context = .code
    · rw [hhead hcode]
    · rw [if_neg (fun h => hcode h.1), if_neg (fun h => hcode h.1)]
  · rcases h : quotedBy? c with _ | own
    · rw [next_other mode context past hc h, next_other mode context past' hc h]
    · rw [next_quote mode context past h, next_quote mode context past' h, hrun]

/-- Outside code a character that is no quote keeps the context. -/
theorem next_of_ne_code (mode : EscapeMode) (past : List Char) (hcode : context ≠ .code)
    (h : quotedBy? c = none) : context.next mode past c = context := by
  by_cases hc : c = '#'
  · subst hc
    rw [next_hash, if_neg (fun h => hcode h.1)]
  · exact next_other mode context past hc h

/-- Only a quote leads back into code. -/
theorem quote_of_next_eq_code (hcode : context ≠ .code) (h : context.next mode past c = .code) :
    c = '\'' ∨ c = '"' := by
  by_contra hne
  obtain ⟨hs, hd⟩ := not_or.1 hne
  have hq : quotedBy? c = none := by simp [quotedBy?, hs, hd]
  exact hcode ((next_of_ne_code mode past hcode hq).symm.trans h)

theorem isQuoted_of_next_eq_code (hcode : context ≠ .code) (h : context.next mode past c = .code) :
    context.isQuoted = true := by
  cases context with
  | code => exact absurd rfl hcode
  | comment => exact absurd h (by simp [Context.next])
  | singleQuoted | doubleQuoted => rfl

end

/-! ## Two states with the same next word -/

/-- Two states that differ at most in `ready`, and then only where the next word is a command
anyway. -/
def SameNext (s s' : ScanState) : Prop :=
  ∃ ready, s' = { s with ready := ready } ∧ (ready || s.wrapped) = (s.ready || s.wrapped)

namespace SameNext

variable {s s' : ScanState} {past past' : List Char} {c : Char}

theorem refl (s : ScanState) : SameNext s s :=
  ⟨s.ready, rfl, rfl⟩

theorem frame (h : SameNext s s') :
    s'.context = s.context ∧ s'.word = s.word ∧ s'.endLine = s.endLine := by
  obtain ⟨ready, rfl, -⟩ := h
  exact ⟨rfl, rfl, rfl⟩

theorem withContext (h : SameNext s s') (context : Context) :
    SameNext { s with context := context } { s' with context := context } := by
  obtain ⟨ready, rfl, hnext⟩ := h
  exact ⟨ready, rfl, hnext⟩

theorem closedTokens_eq (h : SameNext s s') (n : Nat) : s'.closedTokens n = s.closedTokens n := by
  obtain ⟨-, hword, -⟩ := h.frame
  rcases hw : s.word with _ | w
  · rw [ScanState.closedTokens_of_none hw, ScanState.closedTokens_of_none (hword.trans hw)]
  · rw [ScanState.closedTokens_of_some hw, ScanState.closedTokens_of_some (hword.trans hw)]

theorem closeWord (h : SameNext s s') (n : Nat) :
    SameNext (s.closeWord n).1 (s'.closeWord n).1 := by
  obtain ⟨-, hword, -⟩ := h.frame
  obtain ⟨ready, hs', hnext⟩ := h
  rcases hw : s.word with _ | w
  · rw [ScanState.closeWord_of_none hw, ScanState.closeWord_of_none (hword.trans hw)]
    exact ⟨ready, hs', hnext⟩
  · cases hs : w.isSkipped with
    | true =>
      rw [ScanState.closeWord_of_skipped hw hs, ScanState.closeWord_of_skipped (hword.trans hw) hs]
      exact ⟨ready, by rw [hs'], hnext⟩
    | false =>
      rw [ScanState.closeWord_of_kept hw hs, ScanState.closeWord_of_kept (hword.trans hw) hs, hs']
      exact refl _

theorem breakAt (h : SameNext s s') (n : Nat) (c : Char) :
    SameNext (s.breakAt n c) (s'.breakAt n c) := by
  unfold ScanState.breakAt
  split_ifs
  · exact h
  · exact h.closeWord n

/-- A character of code acts on the two states alike, whatever was read before it, if it comes after
a mark in both or none of the texts and, being a letter or a semicolon, after the same character. -/
theorem readCode (h : SameNext s s') (hasParen : Bool) (column : Nat)
    (hmark : afterMark past' = afterMark past ∨ s.ready = true ∨ s.wrapped = true)
    (hhead : c.isAlpha = true ∨ c = ';' → past'.head? = past.head?) :
    SameNext (s.readCode hasParen past column c) (s'.readCode hasParen past' column c) := by
  obtain ⟨ready, rfl, hnext⟩ := h
  have hready : (ScanState.readyAt { s with ready := ready } past' c || s.wrapped) =
      (s.readyAt past c || s.wrapped) := by
    have hblank : (past'.head?.all isBlank && s.fresh && c.isAlpha) =
        (past.head?.all isBlank && s.fresh && c.isAlpha) := by
      by_cases hc : c.isAlpha = true
      · rw [hhead (Or.inl hc)]
      · simp [hc]
    unfold ScanState.readyAt
    dsimp only
    rw [hblank]
    cases hw : s.wrapped with
    | true => rw [Bool.or_true, Bool.or_true]
    | false =>
      rw [hw, Bool.or_false, Bool.or_false] at hnext
      rw [hnext]
      rcases hmark with hmark | hs | hw'
      · rw [hmark]
      · simp [hs]
      · exact absurd (hw.symm.trans hw') Bool.false_ne_true
  have hblock : ScanState.blockAt { s with ready := ready } hasParen past' c =
      s.blockAt hasParen past c := by
    unfold ScanState.blockAt
    by_cases hc : c = ';'
    · rw [hhead (Or.inr hc)]
    · simp [hc]
  have hword : ScanState.wordAt { s with ready := ready } hasParen past' column c =
      s.wordAt hasParen past column c := by
    unfold ScanState.wordAt
    dsimp only
    rw [hready, hblock]
    by_cases hc : c.isAlpha = true
    · rw [hhead (Or.inl hc)]
    · simp [hc]
  rw [ScanState.readCode_eq, ScanState.readCode_eq, hblock, hword]
  exact ⟨_, rfl, hready⟩

end SameNext

/-! ## Two scans side by side -/

/-- Two scans of a line are in the same state, up to why the next word is a command, and see the
same before their place. -/
structure SameView (k k' : LineScan) : Prop where
  /-- The states agree. -/
  state : SameNext k.state k'.state
  /-- The places agree. -/
  width : k'.width = k.width
  /-- The tokens agree. -/
  found : k'.found = k.found
  /-- The runs of backslashes agree. -/
  run : backslashRun k'.past = backslashRun k.past
  /-- In code, the characters back to the last quote agree. -/
  code : k.state.context = .code → uptoQuote k'.past = uptoQuote k.past

/-- Inside a string a plain character leaves the state and the tokens alone. -/
theorem state_step_of_string (mode : EscapeMode) (n : Nat) (hasParen : Bool) {k : LineScan}
    {c : Char} (hcode : k.state.context ≠ .code) (hword : k.state.word = none) (hc : isPlain c = true) :
    (k.step mode n hasParen c).state = k.state ∧ (k.step mode n hasParen c).found = k.found := by
  have hnext := next_of_ne_code mode k.past hcode (quotedBy?_of_isPlain hc)
  constructor
  · rw [LineScan.state_step, ScanState.breakAt_of_none hword, hnext]
    exact if_neg hcode
  · rw [LineScan.found_step, ScanState.closedTokens_of_none hword, ite_self, List.append_nil]

namespace SameView

variable {mode : EscapeMode} {n : Nat} {hasParen : Bool} {k k' : LineScan} {c c' : Char}

/-- Inside a string the two scans may read different plain characters. -/
theorem step_string (h : SameView k k') (hcode : k.state.context ≠ .code)
    (hword : k.state.word = none) (hc : isPlain c = true) (hc' : isPlain c' = true) :
    SameView (k.step mode n hasParen c) (k'.step mode n hasParen c') := by
  obtain ⟨hs, hf⟩ := state_step_of_string mode n hasParen hcode hword hc
  obtain ⟨hcontext, hword', -⟩ := h.state.frame
  obtain ⟨hs', hf'⟩ := state_step_of_string mode n hasParen (hcontext ▸ hcode)
    (hword'.trans hword) hc'
  have hback : ∀ {d : Char}, isPlain d = true → ∀ past, backslashRun (d :: past) = 0 := by
    intro d hd past
    rw [backslashRun_cons, if_neg ((isPlain_iff d).1 hd).2.2.1]
  constructor
  · rw [hs, hs']
    exact h.state
  · rw [LineScan.width_step, LineScan.width_step, h.width]
  · rw [hf, hf', h.found]
  · rw [LineScan.past_step, LineScan.past_step, hback hc, hback hc']
  · intro hctx
    rw [hs] at hctx
    exact absurd hctx hcode

/-- The two scans may read the same character anywhere, except that at the end of a string they
must have the same mark before them, or the next word must be a command anyway. -/
theorem step_same (h : SameView k k') (hword : k.state.context ≠ .code → k.state.word = none)
    (hmark : k.state.context ≠ .code → k.state.context.next mode k.past c = .code →
      afterMark k'.past = afterMark k.past ∨ k.state.ready = true ∨ k.state.wrapped = true) :
    SameView (k.step mode n hasParen c) (k'.step mode n hasParen c) := by
  obtain ⟨hcontext, -, -⟩ := h.state.frame
  have hhead : k.state.context = .code → k'.past.head? = k.past.head? := by
    intro hcode
    rw [← head?_uptoQuote, h.code hcode, head?_uptoQuote]
  have hnext : k'.state.context.next mode k'.past c = k.state.context.next mode k.past c := by
    rw [hcontext]
    exact next_congr h.run hhead
  have hbreak := (h.state.breakAt n c).withContext (k.state.context.next mode k.past c)
  constructor
  · rw [LineScan.state_step, LineScan.state_step, h.width, hnext]
    dsimp only
    by_cases hcode : k.state.context.next mode k.past c = .code
    · rw [if_pos hcode, if_pos hcode]
      by_cases hbefore : k.state.context = .code
      · apply hbreak.readCode
        · rw [← afterMark_uptoQuote, h.code hbefore, afterMark_uptoQuote]
          exact Or.inl rfl
        · exact fun _ => hhead hbefore
      · apply hbreak.readCode
        · rw [ScanState.breakAt_of_none (hword hbefore)]
          exact hmark hbefore hcode
        · rcases quote_of_next_eq_code hbefore hcode with rfl | rfl
          all_goals exact fun hc => absurd hc (by decide)
    · rw [if_neg hcode, if_neg hcode]
      exact hbreak
  · rw [LineScan.width_step, LineScan.width_step, h.width]
  · rw [LineScan.found_step, LineScan.found_step, h.found, h.state.closedTokens_eq]
  · rw [LineScan.past_step, LineScan.past_step, backslashRun_cons, backslashRun_cons, h.run]
  · intro hcode
    rw [LineScan.context_step] at hcode
    rw [LineScan.past_step, LineScan.past_step, uptoQuote, uptoQuote]
    rcases hq : quotedBy? c with _ | own
    · have hbefore : k.state.context = .code := by
        by_contra hne
        rw [next_of_ne_code mode k.past hne hq] at hcode
        exact hne hcode
      rw [h.code hbefore]
    · rfl

end SameView

/-! ## Replaced lines -/

/-- The scanner's context before the character at offset `i` of a line that it reads after the
lines `before`. -/
def scanContext (o : ScanOptions) (before : List (List Char)) (text : List Char) (i : Nat) :
    Context :=
  (readPart o (before.length + 1) (stateAfter o before) text i).state.context

/-- The line `text'` is `text` with characters replaced that lie strictly inside a quoted string:
the context is the same quoted one before and after them. -/
def LineReplaced (o : ScanOptions) (before : List (List Char)) (text text' : List Char) : Prop :=
  text'.length = text.length ∧ text'.contains ')' = text.contains ')' ∧ ∀ i < text.length,
    text'[i]? = text[i]? ∨
      ((scanContext o before text i).isQuoted = true ∧
        scanContext o before text (i + 1) = scanContext o before text i ∧
        text[i]?.all isPlain = true ∧ text'[i]?.all isPlain = true)

/-- The character at offset `i` of the line ends a string. -/
def ClosesString (o : ScanOptions) (before : List (List Char)) (text : List Char) (i : Nat) :
    Prop :=
  (scanContext o before text i).isQuoted = true ∧ scanContext o before text (i + 1) = .code

/-- The offset `i` comes directly after a mark in both of the lines or in none, or the next word is
a command anyway. -/
def MarkKept (o : ScanOptions) (before : List (List Char)) (text text' : List Char) (i : Nat) :
    Prop :=
  afterMark (text'.take i).reverse = afterMark (text.take i).reverse ∨
    (readPart o (before.length + 1) (stateAfter o before) text i).state.ready = true ∨
    (readPart o (before.length + 1) (stateAfter o before) text i).state.wrapped = true

/-- Every string of `text` that ends before the offset `i` keeps its mark in `text'`. -/
def LineMarksKept (o : ScanOptions) (before : List (List Char)) (text text' : List Char) (i : Nat) :
    Prop :=
  ∀ j < i, ClosesString o before text j → MarkKept o before text text' j

section

variable {o : ScanOptions} {before : List (List Char)} {text text' : List Char}

/-- A scan that carries no here-document over to a line that opens none. -/
theorem lookAhead_of_waiting_none {s : ScanState} (hs : s.waiting = none) (isRead : Bool)
    (hopens : Heredoc.openedBy? text = none) :
    (s.lookAhead isRead text).1 = { s with heredoc := none, pending := none } := by
  rw [ScanState.frame_lookAhead, ScanState.pending_lookAhead, ScanState.heredoc_lookAhead, hs,
    hopens, ite_self]
  rfl

/-- The two scans stay side by side along a line. -/
theorem LineReplaced.sameView (h : LineReplaced o before text text')
    (hwait : (stateAfter o before).waiting = none)
    (hopens : Heredoc.openedBy? text = none) (hopens' : Heredoc.openedBy? text' = none) {i : Nat}
    (hi : i ≤ text.length) (hm : LineMarksKept o before text text' i) :
    SameView (readPart o (before.length + 1) (stateAfter o before) text i)
      (readPart o (before.length + 1) (stateAfter o before) text' i) := by
  obtain ⟨hlen, hparen, hchars⟩ := h
  induction i with
  | zero =>
    have henter : (stateAfter o before).enterLine (o.inWindow (before.length + 1)) text' =
        (stateAfter o before).enterLine (o.inWindow (before.length + 1)) text := by
      unfold ScanState.enterLine
      rw [lookAhead_of_waiting_none hwait _ hopens, lookAhead_of_waiting_none hwait _ hopens',
        hparen]
    rw [readPart_zero, readPart_zero, henter]
    exact ⟨SameNext.refl _, rfl, rfl, rfl, fun _ => rfl⟩
  | succ i ih =>
    have hview := ih (by omega) fun j hj => hm j (by omega)
    have hword : scanContext o before text i ≠ .code →
        (readPart o (before.length + 1) (stateAfter o before) text i).state.word = none :=
      word_readPart_of_ne_code o _ (word_stateAfter o before) (by omega)
    obtain ⟨c, hc⟩ : ∃ c, text[i]? = some c := ⟨_, List.getElem?_eq_getElem (by omega)⟩
    obtain ⟨c', hc'⟩ : ∃ c', text'[i]? = some c' := ⟨_, List.getElem?_eq_getElem (by omega)⟩
    rw [readPart_succ _ _ _ hc, readPart_succ _ _ _ hc', hparen]
    rcases hchars i (by omega) with heq | ⟨hquoted, hkeep, hplain, hplain'⟩
    · obtain rfl : c' = c := by
        rw [hc, hc'] at heq
        exact Option.some.inj heq
      apply hview.step_same hword
      intro hbefore hafter
      rw [past_readPart, past_readPart]
      have hafter' : scanContext o before text (i + 1) = .code := by
        unfold scanContext
        rw [readPart_succ _ _ _ hc, LineScan.context_step, hafter]
      exact hm i (Nat.lt_succ_self i) ⟨isQuoted_of_next_eq_code hbefore hafter, hafter'⟩
    · have hcode := Context.ne_code_of_isQuoted hquoted
      apply hview.step_string hcode (hword hcode)
      · simpa [hc] using hplain
      · simpa [hc'] using hplain'

/-- The two scans leave a line in the same state and find the same tokens on it. -/
theorem LineReplaced.scanLine_eq (h : LineReplaced o before text text')
    (hwait : (stateAfter o before).waiting = none)
    (hopens : Heredoc.openedBy? text = none) (hopens' : Heredoc.openedBy? text' = none)
    (hm : LineMarksKept o before text text' text.length) :
    (scanLine o (before.length + 1) (stateAfter o before) text').1.endLine =
        (scanLine o (before.length + 1) (stateAfter o before) text).1.endLine ∧
      lineTokens o (before.length + 1) (stateAfter o before) text' =
        lineTokens o (before.length + 1) (stateAfter o before) text := by
  have hread : ∀ l, (stateAfter o before).waiting.filter (!·.closedBy l) = none := by
    intro l
    rw [hwait]
    rfl
  by_cases hw : o.inWindow (before.length + 1) = true
  · have hview := h.sameView hwait hopens hopens' (Nat.le_refl _) hm
    rw [(scanLine_of_read hw (hread text)).1, (scanLine_of_read hw (hread text)).2,
      (scanLine_of_read hw (hread text')).1, (scanLine_of_read hw (hread text')).2, h.1,
      hview.found, hview.state.closedTokens_eq]
    exact ⟨(hview.state.closeWord _).frame.2.2, rfl⟩
  · have hpass : ∀ l, ¬ (o.inWindow (before.length + 1) = true ∧
        (stateAfter o before).waiting.filter (!·.closedBy l) = none) := fun l e => hw e.1
    rw [(scanLine_of_pass (hpass text)).1, (scanLine_of_pass (hpass text)).2,
      (scanLine_of_pass (hpass text')).1, (scanLine_of_pass (hpass text')).2,
      lookAhead_of_waiting_none hwait _ hopens, lookAhead_of_waiting_none hwait _ hopens']
    exact ⟨rfl, rfl⟩

end

/-! ## Texts without here-documents -/

theorem Heredoc.leftmost?_eq_none {line : List Char} (h : ¬ ['<', '<'] <:+: line)
    (past : List Char) : Heredoc.leftmost? past line = none := by
  induction line generalizing past with
  | nil => rfl
  | cons c line ih =>
    have hocc : Heredoc.occurrence? past.head? (c :: line) = none := by
      unfold Heredoc.occurrence?
      split
      · rename_i rest heq
        exfalso
        apply h
        rw [heq]
        exact ⟨[], rest, rfl⟩
      · rfl
    rw [Heredoc.leftmost?, hocc]
    exact ih (fun hi => h (hi.trans (List.suffix_cons c line).isInfix)) (c :: past)

theorem Heredoc.openedBy?_eq_none {line : List Char} (h : ¬ ['<', '<'] <:+: line) :
    Heredoc.openedBy? line = none := by
  rw [Heredoc.openedBy?, Heredoc.leftmost?_eq_none h]

theorem infix_intercalate {sep line : List Char} {lines : List (List Char)} (h : line ∈ lines) :
    line <:+: sep.intercalate lines := by
  induction lines with
  | nil => simp at h
  | cons first lines ih =>
    cases lines with
    | nil =>
      obtain rfl := List.mem_singleton.1 h
      simp
    | cons second lines =>
      rw [List.intercalate_cons_cons]
      rcases List.mem_cons.1 h with rfl | h
      · exact ⟨[], sep ++ sep.intercalate (second :: lines), by simp⟩
      · obtain ⟨a, b, hab⟩ := ih h
        exact ⟨first ++ sep ++ a, b, by rw [← hab]; simp⟩

theorem Script.infix_text_of_mem_pieces {s : Script} {line : List Char} (h : line ∈ s.pieces) :
    line <:+: s.text.toList := by
  have htext : ['\n'].intercalate s.pieces = s.text.toList := List.intercalate_splitOn '\n'
  rw [← htext]
  exact infix_intercalate h

/-- Where no line opens a here-document none ever waits. -/
theorem waitingAfter_eq_none (o : ScanOptions) {before : List (List Char)}
    (h : ∀ line ∈ before, Heredoc.openedBy? line = none) : waitingAfter o before = none := by
  induction before with
  | nil => rfl
  | cons line before ih =>
    rw [waitingAfter, ih fun l hl => h l (List.mem_cons_of_mem _ hl), h line List.mem_cons_self,
      ite_self]
    rfl

/-- A script without `<<` opens no here-document. -/
theorem Script.openedBy?_eq_none {s : Script} (hs : ¬ ['<', '<'] <:+: s.text.toList)
    {line : List Char} (hline : line ∈ s.pieces) : Heredoc.openedBy? line = none :=
  Heredoc.openedBy?_eq_none fun hi => hs (hi.trans (Script.infix_text_of_mem_pieces hline))

theorem Script.waiting_take_eq_none {s : Script} (hs : ¬ ['<', '<'] <:+: s.text.toList)
    (o : ScanOptions) (n : Nat) : (stateAfter o (s.pieces.take n).reverse).waiting = none := by
  rw [waiting_stateAfter]
  apply waitingAfter_eq_none
  intro line hline
  exact openedBy?_eq_none hs (List.mem_of_mem_take (List.mem_reverse.1 hline))

theorem Script.getD_mem_pieces {s : Script} {n : Nat} (hn : n < s.pieces.length) :
    s.pieces.getD n [] ∈ s.pieces := by
  rw [List.getD_eq_getElem?_getD, List.getElem?_eq_getElem hn]
  exact List.getElem_mem hn

/-! ## Scripts -/

/-- The text of `s'` is that of `s` with characters inside strings replaced, line by line. -/
def StringsReplaced (o : ScanOptions) (s s' : Script) : Prop :=
  s'.pieces.length = s.pieces.length ∧ ∀ n < s.pieces.length,
    LineReplaced o (s.pieces.take n).reverse (s.pieces.getD n []) (s'.pieces.getD n [])

/-- Every string that ends on one of the first `n` lines of `s` keeps its mark in `s'`. -/
def MarksKept (o : ScanOptions) (s s' : Script) (n : Nat) : Prop :=
  ∀ m < n, LineMarksKept o (s.pieces.take m).reverse (s.pieces.getD m []) (s'.pieces.getD m [])
    (s.pieces.getD m []).length

section

variable {o : ScanOptions} {s s' : Script}

/-- After any number of lines the two scans are in the same state and have found the same tokens. -/
theorem StringsReplaced.stateAfter_eq (h : StringsReplaced o s s')
    (hs : ¬ ['<', '<'] <:+: s.text.toList) (hs' : ¬ ['<', '<'] <:+: s'.text.toList) {n : Nat}
    (hn : n ≤ s.pieces.length) (hm : MarksKept o s s' n) :
    stateAfter o (s'.pieces.take n).reverse = stateAfter o (s.pieces.take n).reverse ∧
      tokensOf o (s'.pieces.take n).reverse = tokensOf o (s.pieces.take n).reverse := by
  induction n with
  | zero => exact ⟨rfl, rfl⟩
  | succ n ih =>
    obtain ⟨hstate, htokens⟩ := ih (by omega) fun m hlt => hm m (by omega)
    have hn' : n < s'.pieces.length := by
      rw [h.1]
      omega
    have hlen : (s.pieces.take n).reverse.length = n ∧ (s'.pieces.take n).reverse.length = n := by
      rw [List.length_reverse, List.length_reverse, List.length_take, List.length_take, h.1]
      omega
    obtain ⟨h₁, h₂⟩ := (h.2 n (by omega)).scanLine_eq (Script.waiting_take_eq_none hs o n)
      (Script.openedBy?_eq_none hs (Script.getD_mem_pieces (by omega)))
      (Script.openedBy?_eq_none hs' (Script.getD_mem_pieces hn')) (hm n (by omega))
    rw [hlen.1] at h₁ h₂
    rw [take_succ_eq_append_getD (Nat.lt_of_succ_le hn), take_succ_eq_append_getD hn',
      List.reverse_append, List.reverse_append]
    simp only [List.reverse_singleton, List.singleton_append]
    rw [stateAfter_cons, stateAfter_cons, tokensOf_cons, tokensOf_cons, hlen.1, hlen.2, hstate,
      htokens, h₁, h₂]
    exact ⟨rfl, rfl⟩

end

/-! ## A word after a string -/

section

variable (mode : EscapeMode) (n : Nat) (hasParen : Bool) {k : LineScan}

/-- The quote that ends a string makes the next word a command if it comes directly after a mark. -/
theorem step_closing {q : Char} (hcode : k.state.context ≠ .code) (hword : k.state.word = none)
    (hnext : k.state.context.next mode k.past q = .code) :
    (k.step mode n hasParen q).state.context = .code ∧
      (k.step mode n hasParen q).state.word = none ∧
      (k.step mode n hasParen q).state.ready = (k.state.ready || afterMark k.past) ∧
      (k.step mode n hasParen q).state.wrapped = k.state.wrapped ∧
      (k.step mode n hasParen q).found = k.found := by
  have hplain : q.isAlpha = false ∧ q ≠ ')' := by
    rcases quote_of_next_eq_code hcode hnext with rfl | rfl <;> decide
  rw [LineScan.state_step, ScanState.breakAt_of_none hword, hnext, LineScan.found_step,
    ScanState.closedTokens_of_none hword, ite_self, List.append_nil]
  dsimp only
  rw [if_pos rfl, ScanState.readCode_eq]
  refine ⟨rfl, ?_, ?_, rfl, rfl⟩
  · simp [ScanState.wordAt, hword, hplain.1]
  · simp [ScanState.readyAt, hplain.1, hplain.2]

theorem step_of_isWordChar {c : Char} (hcode : k.state.context = .code)
    (hc : isWordChar c = true) :
    (k.step mode n hasParen c).state = k.state.readCode hasParen k.past (k.width + 1) c ∧
      (k.step mode n hasParen c).found = k.found := by
  have hbreak : k.state.breakAt n c = k.state := by
    unfold ScanState.breakAt
    rw [if_pos hc]
  rw [LineScan.state_step, hbreak, next_of_isWordChar mode _ _ hc, LineScan.found_step, if_pos hc,
    List.append_nil]
  exact ⟨if_pos hcode, rfl⟩

/-- A word character directly after one that lets no word start goes on with the word being read. -/
theorem word_step_of_isWordChar {c : Char} (hcode : k.state.context = .code)
    (hc : isWordChar c = true) (hhead : k.past.head?.any disqualifies = true) :
    (k.step mode n hasParen c).state.context = .code ∧
      (k.step mode n hasParen c).state.word =
        k.state.word.map (fun w => { w with chars := c :: w.chars }) ∧
      (k.step mode n hasParen c).found = k.found := by
  obtain ⟨hstate, hfound⟩ := step_of_isWordChar mode n hasParen hcode hc
  rw [hstate, hfound, ScanState.readCode_eq]
  refine ⟨hcode, ?_, rfl⟩
  rcases hw : k.state.word with _ | w <;> simp [ScanState.wordAt, hw, hhead]

/-- A letter directly after a quote starts a word if the next word is a command. -/
theorem word_step_of_quote {c q : Char} {past : List Char} (hcode : k.state.context = .code)
    (hword : k.state.word = none) (hpast : k.past = q :: past) (hq : q = '\'' ∨ q = '"')
    (hc : c.isAlpha = true) : (k.step mode n hasParen c).state.context = .code ∧
      (∃ isPattern, (k.step mode n hasParen c).state.word =
        if k.state.ready || k.state.wrapped then some ⟨[c], k.width + 1, isPattern⟩ else none) ∧
      (k.step mode n hasParen c).found = k.found := by
  have hparen : c ≠ ')' := by
    rintro rfl
    exact absurd hc (by decide)
  have hquote : isBlank q = false ∧ disqualifies q = false ∧ afterMark (q :: past) = false := by
    rcases hq with rfl | rfl <;> exact ⟨by decide, by decide, rfl⟩
  have hstart : ∀ s : ScanState, s.word = none → s.wordAt hasParen (q :: past) (k.width + 1) c =
      if s.ready || s.wrapped then
        some ⟨[c], k.width + 1, decide (s.blockAt hasParen (q :: past) c = .pattern)⟩
      else none := by
    intro s hs
    simp [ScanState.wordAt, ScanState.readyAt, hs, hquote, hc, hparen]
  obtain ⟨hstate, hfound⟩ := step_of_isWordChar mode n hasParen hcode (isWordChar_of_isAlpha hc)
  rw [hstate, hfound, ScanState.readCode_eq, hpast]
  exact ⟨hcode, ⟨_, hstart _ hword⟩, rfl⟩

/-- Directly after a quote the word `esac` is a token exactly if the next word is a command, for no
case pattern suppresses it. -/
theorem run_esac {q : Char} {past : List Char} (hcode : k.state.context = .code)
    (hword : k.state.word = none) (hpast : k.past = q :: past) (hq : q = '\'' ∨ q = '"') :
    (k.run mode n hasParen ['e', 's', 'a', 'c']).found = k.found ∧
      (k.run mode n hasParen ['e', 's', 'a', 'c']).state.closedTokens n =
        if k.state.ready || k.state.wrapped then [⟨"esac", n, k.width + 1⟩] else [] := by
  obtain ⟨hcode₁, ⟨isPattern, hword₁⟩, hfound₁⟩ :=
    word_step_of_quote mode n hasParen hcode hword hpast hq (c := 'e') (by decide)
  obtain ⟨hcode₂, hword₂, hfound₂⟩ := word_step_of_isWordChar mode n hasParen hcode₁
    (c := 's') (by decide) (by rw [LineScan.past_step]; rfl)
  obtain ⟨hcode₃, hword₃, hfound₃⟩ := word_step_of_isWordChar mode n hasParen hcode₂
    (c := 'a') (by decide) (by rw [LineScan.past_step]; rfl)
  obtain ⟨-, hword₄, hfound₄⟩ := word_step_of_isWordChar mode n hasParen hcode₃
    (c := 'c') (by decide) (by rw [LineScan.past_step]; rfl)
  rw [hword₃, hword₂, hword₁] at hword₄
  refine ⟨hfound₄.trans (hfound₃.trans (hfound₂.trans hfound₁)), ?_⟩
  change (LineScan.step mode n hasParen _ 'c').state.closedTokens n = _
  cases hready : (k.state.ready || k.state.wrapped) with
  | false =>
    rw [hready] at hword₄
    exact ScanState.closedTokens_of_none hword₄ n
  | true =>
    rw [hready] at hword₄
    rw [ScanState.closedTokens_of_some hword₄, if_pos rfl]
    cases isPattern <;> rfl

end

/-- The tokens of a line that ends in a closing quote with `esac` directly after it. -/
theorem lineTokens_of_esac {o : ScanOptions} {n i : Nat} {s : ScanState} {text : List Char}
    {q : Char} (hw : o.inWindow n = true) (hwait : s.waiting = none)
    (hdrop : text.drop i = [q, 'e', 's', 'a', 'c'])
    (hcode : (readPart o n s text i).state.context ≠ .code)
    (hword : (readPart o n s text i).state.word = none)
    (hnext : (readPart o n s text i).state.context.next o.escapeMode (text.take i).reverse q =
      .code) :
    lineTokens o n s text = (readPart o n s text i).found ++
      if (readPart o n s text i).state.ready || afterMark (text.take i).reverse ||
          (readPart o n s text i).state.wrapped
        then [⟨"esac", n, i + 2⟩] else [] := by
  have hi : i ≤ text.length := by
    by_contra hlt
    rw [List.drop_of_length_le (by omega)] at hdrop
    exact absurd hdrop (by simp)
  have hrun : readPart o n s text text.length =
      ((readPart o n s text i).step o.escapeMode n (text.contains ')') q).run o.escapeMode n
        (text.contains ')') ['e', 's', 'a', 'c'] := by
    have hall : readPart o n s text text.length = (readPart o n s text i).run o.escapeMode n
        (text.contains ')') (text.drop i) := by
      unfold readPart
      rw [← LineScan.run_append, List.take_append_drop, List.take_length]
    rw [hall, hdrop]
    simp only [LineScan.run, List.foldl_cons]
  rw [← past_readPart o n s i] at hnext ⊢
  obtain ⟨hcode', hword', hready, hwrapped, hfound⟩ :=
    step_closing o.escapeMode n (text.contains ')') hcode hword hnext
  obtain ⟨hfound', htokens⟩ := run_esac o.escapeMode n (text.contains ')') hcode' hword'
    (LineScan.past_step ..) (quote_of_next_eq_code hcode hnext)
  rw [(scanLine_of_read hw (by rw [hwait]; rfl)).2, hrun, hfound', hfound, htokens, hready,
    hwrapped, LineScan.width_step, width_readPart o n s hi]

/-- Behind a closing quote with a word directly after it, up to the end of the line, nothing can be
replaced. -/
theorem LineReplaced.drop_eq {o : ScanOptions} {before : List (List Char)} {text text' : List Char}
    (h : LineReplaced o before text text') {i : Nat} {word : List Char} {q : Char}
    (hdrop : text.drop i = q :: word) (hclose : ClosesString o before text i)
    (hword : word.all isWordChar = true) : text'.drop i = text.drop i := by
  have hlen : text.length = i + 1 + word.length := by
    have hlen := congrArg List.length hdrop
    rw [List.length_drop, List.length_cons] at hlen
    omega
  have hchar : ∀ {j : Nat} {c : Char}, word[j]? = some c → text[i + 1 + j]? = some c := by
    intro j c hj
    have hget := congrArg (·[j + 1]?) hdrop
    simp only [List.getElem?_drop, List.getElem?_cons_succ, hj] at hget
    rwa [Nat.add_assoc, Nat.add_comm 1 j]
  have hcode : ∀ j ≤ word.length, scanContext o before text (i + 1 + j) = .code := by
    intro j hj
    induction j with
    | zero => exact hclose.2
    | succ j ih =>
      have hc := List.getElem?_eq_getElem (l := word) (i := j) (by omega)
      have hcontext : (readPart o (before.length + 1) (stateAfter o before) text
          (i + 1 + j)).state.context = .code := ih (by omega)
      change (readPart _ _ _ text (i + 1 + j + 1)).state.context = .code
      rw [readPart_succ _ _ _ (hchar hc), LineScan.context_step, hcontext,
        next_of_isWordChar _ _ _ (List.all_eq_true.1 hword _ (List.getElem_mem _))]
  apply List.ext_getElem?
  intro j
  rw [List.getElem?_drop, List.getElem?_drop]
  by_cases hj : i + j < text.length
  · rcases h.2.2 (i + j) hj with heq | ⟨hquoted, hkeep, -, -⟩
    · exact heq
    · exfalso
      apply Context.ne_code_of_isQuoted hquoted
      cases j with
      | zero => exact hkeep.symm.trans hclose.2
      | succ j =>
        rw [← hcode j (by omega)]
        congr 1
        omega
  · rw [List.getElem?_eq_none (by rw [h.1]; omega), List.getElem?_eq_none (by omega)]

/-- A mark that is not kept decides whether a word directly after the string is a command. -/
theorem LineReplaced.lineTokens_eq_iff {o : ScanOptions} {before : List (List Char)}
    {text text' : List Char} (h : LineReplaced o before text text')
    (hw : o.inWindow (before.length + 1) = true) (hwait : (stateAfter o before).waiting = none)
    (hopens : Heredoc.openedBy? text = none) (hopens' : Heredoc.openedBy? text' = none) {i : Nat}
    {q : Char} (hdrop : text.drop i = [q, 'e', 's', 'a', 'c'])
    (hclose : ClosesString o before text i) (hm : LineMarksKept o before text text' i) :
    lineTokens o (before.length + 1) (stateAfter o before) text' =
        lineTokens o (before.length + 1) (stateAfter o before) text ↔
      MarkKept o before text text' i := by
  have hi : i < text.length := by
    by_contra hge
    rw [List.drop_of_length_le (by omega)] at hdrop
    exact absurd hdrop (by simp)
  have hcode := Context.ne_code_of_isQuoted hclose.1
  have hword := word_readPart_of_ne_code o _ (word_stateAfter o before) (Nat.le_of_lt hi) hcode
  have hview := h.sameView hwait hopens hopens' (Nat.le_of_lt hi) hm
  have hdrop' := (h.drop_eq hdrop hclose rfl).trans hdrop
  have hq : text[i]? = some q := by
    have hget := congrArg (·[0]?) hdrop
    simpa using hget
  have hnext : (readPart o (before.length + 1) (stateAfter o before) text i).state.context.next
      o.escapeMode (text.take i).reverse q = .code := by
    have hafter := hclose.2
    unfold scanContext at hafter
    rwa [readPart_succ _ _ _ hq, LineScan.context_step, past_readPart] at hafter
  obtain ⟨hcontext', hword', -⟩ := hview.state.frame
  have hnext' : (readPart o (before.length + 1) (stateAfter o before) text' i).state.context.next
      o.escapeMode (text'.take i).reverse q = .code := by
    rw [hcontext', ← hnext]
    apply next_congr
    · rw [← past_readPart o (before.length + 1) (stateAfter o before), hview.run, past_readPart]
    · exact fun hc => absurd hc hcode
  rw [lineTokens_of_esac hw hwait hdrop hcode hword hnext,
    lineTokens_of_esac hw hwait hdrop' (hcontext' ▸ hcode) (hword'.trans hword) hnext', hview.found,
    List.append_right_inj]
  unfold MarkKept
  obtain ⟨ready, hstate, hsame⟩ := hview.state
  rw [hstate]
  dsimp only
  generalize readPart o (before.length + 1) (stateAfter o before) text i = k at hsame ⊢
  cases hwrapped : k.state.wrapped with
  | true => simp
  | false =>
    rw [hwrapped, Bool.or_false, Bool.or_false] at hsame
    rw [hsame]
    cases k.state.ready <;> cases afterMark (text.take i).reverse <;>
      cases afterMark (text'.take i).reverse <;> simp

/-! ## Strings and the words outside them -/

/-- The tokens of a script are those of its first lines and those of its last one. -/
theorem Script.tokens_eq_append_lineTokens (o : ScanOptions) {s : Script} {n : Nat}
    (hn : n + 1 = s.pieces.length) : s.tokens o = tokensOf o (s.pieces.take n).reverse ++
      lineTokens o (n + 1) (stateAfter o (s.pieces.take n).reverse) (s.pieces.getD n []) := by
  have hlen : (s.pieces.take n).reverse.length = n := by
    rw [List.length_reverse, List.length_take]
    omega
  have hall : s.pieces = s.pieces.take n ++ [s.pieces.getD n []] := by
    rw [← take_succ_eq_append_getD (by omega), List.take_of_length_le (by omega)]
  have hreverse : s.pieces.reverse = s.pieces.getD n [] :: (s.pieces.take n).reverse := by
    rw [congrArg List.reverse hall, List.reverse_append, List.reverse_singleton,
      List.singleton_append]
  rw [Script.tokens_eq_tokensOf, hreverse, tokensOf_cons, hlen]

/-- Characters inside strings can be replaced without any effect on the tokens if every string keeps
its mark, which means that it ends in a mark in both scripts or in none, or that the next word is a
command anyway. The condition is exact: if a script ends in a string with `esac` directly after it
and the strings before keep their marks, then the tokens are the same exactly if this string keeps
its mark too. -/
theorem Script.tokens_of_strings_replaced (o : ScanOptions) (s s' : Script)
    (hs : ¬ ['<', '<'] <:+: s.text.toList) (hs' : ¬ ['<', '<'] <:+: s'.text.toList)
    (h : StringsReplaced o s s') :
    (MarksKept o s s' s.pieces.length → s'.tokens o = s.tokens o) ∧
      ∀ n i q, n + 1 = s.pieces.length → o.inWindow (n + 1) = true →
        (s.pieces.getD n []).drop i = [q, 'e', 's', 'a', 'c'] →
        ClosesString o (s.pieces.take n).reverse (s.pieces.getD n []) i →
        MarksKept o s s' n →
        LineMarksKept o (s.pieces.take n).reverse (s.pieces.getD n []) (s'.pieces.getD n []) i →
        (s'.tokens o = s.tokens o ↔
          MarkKept o (s.pieces.take n).reverse (s.pieces.getD n []) (s'.pieces.getD n []) i) := by
  constructor
  · intro hm
    have hall := (h.stateAfter_eq hs hs' (Nat.le_refl _) hm).2
    rw [List.take_length, List.take_of_length_le (Nat.le_of_eq h.1)] at hall
    rw [Script.tokens_eq_tokensOf, Script.tokens_eq_tokensOf, hall]
  · intro n i q hn hw hdrop hclose hm hline
    have hn' : n + 1 = s'.pieces.length := hn.trans h.1.symm
    have hlen : (s.pieces.take n).reverse.length = n := by
      rw [List.length_reverse, List.length_take]
      omega
    obtain ⟨hstate, htokens⟩ := h.stateAfter_eq hs hs' (by omega) hm
    have hlast := (h.2 n (by omega)).lineTokens_eq_iff (by rwa [hlen])
      (Script.waiting_take_eq_none hs o n)
      (Script.openedBy?_eq_none hs (Script.getD_mem_pieces (by omega)))
      (Script.openedBy?_eq_none hs' (Script.getD_mem_pieces (by omega))) hdrop hclose hline
    rw [hlen] at hlast
    rw [Script.tokens_eq_append_lineTokens o hn, Script.tokens_eq_append_lineTokens o hn', hstate,
      htokens, List.append_right_inj]
    exact hlast

/-- A string over two lines and one that ends in a mark, with other contents that keep the marks, and
a string that does not keep its mark. -/
theorem Script.tokens_of_two_strings_replaced :
    Script.tokens ⟨"echo \"k#\nz) $\" ls; pwd 'n;'cat", ""⟩ {} =
        Script.tokens ⟨"echo \"a;\nb) x\" ls; pwd 'm;'cat", ""⟩ {} ∧
      ¬ Script.tokens ⟨"echo \"a;\"esac", ""⟩ {} = Script.tokens ⟨"echo \"ab\"esac", ""⟩ {} := by
  constructor
  · have h : StringsReplaced {} ⟨"echo \"a;\nb) x\" ls; pwd 'm;'cat", ""⟩
        ⟨"echo \"k#\nz) $\" ls; pwd 'n;'cat", ""⟩ := by
      unfold StringsReplaced LineReplaced
      decide +kernel
    have hm : MarksKept {} ⟨"echo \"a;\nb) x\" ls; pwd 'm;'cat", ""⟩
        ⟨"echo \"k#\nz) $\" ls; pwd 'n;'cat", ""⟩ 2 := by
      unfold MarksKept LineMarksKept ClosesString MarkKept
      decide +kernel
    exact (Script.tokens_of_strings_replaced {} _ _ (by decide +kernel) (by decide +kernel) h).1 hm
  · have h : StringsReplaced {} ⟨"echo \"ab\"esac", ""⟩ ⟨"echo \"a;\"esac", ""⟩ := by
      unfold StringsReplaced LineReplaced
      decide +kernel
    rw [(Script.tokens_of_strings_replaced {} _ _ (by decide +kernel) (by decide +kernel) h).2 0 8 '"'
      (by decide +kernel) rfl (by decide +kernel) (by unfold ClosesString; decide +kernel)
      (by unfold MarksKept; simp) (by unfold LineMarksKept ClosesString MarkKept; decide +kernel)]
    unfold MarkKept
    decide +kernel

/-- A semicolon at the end of a string makes the word after the string a command. -/
theorem Script.tokens_ne_of_string_replaced :
    StringsReplaced {} ⟨"echo \"ab\" foo", ""⟩ ⟨"echo \"a;\" foo", ""⟩ ∧
      ¬ ['<', '<'] <:+: "echo \"ab\" foo".toList ∧ ¬ ['<', '<'] <:+: "echo \"a;\" foo".toList ∧
      Script.tokens ⟨"echo \"a;\" foo", ""⟩ {} ≠ Script.tokens ⟨"echo \"ab\" foo", ""⟩ {} := by
  refine ⟨?_, by decide +kernel, by decide +kernel, by decide +kernel⟩
  unfold StringsReplaced LineReplaced
  decide +kernel

end CommandAudit
