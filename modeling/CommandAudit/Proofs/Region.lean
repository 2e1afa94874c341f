import CommandAudit.Proofs.ScriptLines
import CommandAudit.Proofs.ScriptScan

/-!
# Regions of a script

The text of a script alone decides which of its characters lie outside the window, in the body of
a here-document, in a quoted string, in a comment or in code (`regionAt`). Bodies come from a fold
over the lines (`waitingAfter`, `bodyOf`), contexts from a fold over the characters of the lines
that are read (`contextAfter`, `startContext`). The scanner carries the same here-document and the
same context (`waiting_stateAfter`, `context_stateAfter`), so every character of every token is code
(`region_of_mem_tokens`).
-/

namespace CommandAudit

/-! ## Quotes and comments -/

/-- The length of the run of backslashes directly before a place; `past` is latest first. -/
def backslashRun (past : List Char) : Nat :=
  (past.takeWhile (· == '\\')).length

/-- Whether a run of `r` backslashes escapes the quote after it. -/
def escapedBy (mode : EscapeMode) (context : Context) (quote : Char) (r : Nat) : Bool :=
  match mode with
  | .legacy => r == 1
  | .strict => r % 2 == 1 && !(quote == '\'' && context == .singleQuoted)

/-- The context between two quotes `c`. -/
def quotedBy? (c : Char) : Option Context :=
  if c = '\'' then some .singleQuoted else if c = '"' then some .doubleQuoted else none

/-- A quote starts or ends its own context, unless another one is active. -/
def toggle (own context : Context) : Context :=
  if context = own then .code else if context = .code then own else context

/-- The context after the characters `past`, latest first, of a line that starts in `start`. -/
def contextAfter (mode : EscapeMode) (start : Context) : List Char → Context
  | [] => start
  | c :: past =>
    let context := contextAfter mode start past
    if c = '#' then
      if context = .code ∧ past.head? ≠ some '$' ∧ past.head? ≠ some '\x7b' then .comment
      else context
    else
      match quotedBy? c with
      | some own =>
        if escapedBy mode context c (backslashRun past) then context else toggle own context
      | none => context

theorem backslashRun_eq_one_iff (past : List Char) :
    backslashRun past = 1 ↔ past.head? = some '\\' ∧ past.tail.head? ≠ some '\\' := by
  unfold backslashRun
  rcases past with _ | ⟨a, _ | ⟨b, past⟩⟩
  · simp
  · by_cases ha : a = '\\' <;> simp [ha]
  · by_cases ha : a = '\\' <;> by_cases hb : b = '\\' <;> simp [ha, hb]

/-- The scanner's test for an escaped quote only depends on the length of the run. -/
theorem quoteEscaped_eq (mode : EscapeMode) (context : Context) (past : List Char) (q : Char) :
    quoteEscaped mode context past q = escapedBy mode context q (backslashRun past) := by
  cases mode with
  | legacy =>
    rw [Bool.eq_iff_iff]
    simp [quoteEscaped, escapedBy, backslashRun_eq_one_iff]
  | strict =>
    simp only [quoteEscaped, escapedBy, backslashRun]
    rw [Bool.and_comm]

section

variable (mode : EscapeMode) (context : Context) (past : List Char)

theorem next_hash : context.next mode past '#' =
    if context = .code ∧ past.head? ≠ some '$' ∧ past.head? ≠ some '\x7b' then .comment
    else context := by
  cases context with
  | code =>
    by_cases hd : past.head? = some '$'
    · simp [Context.next, hd]
    · by_cases hb : past.head? = some '\x7b' <;> simp [Context.next, hd, hb]
  | comment | singleQuoted | doubleQuoted => simp [Context.next]

theorem next_quote {q : Char} {own : Context} (h : quotedBy? q = some own) :
    context.next mode past q =
      if escapedBy mode context q (backslashRun past) then context else toggle own context := by
  unfold quotedBy? at h
  split_ifs at h with hs hd
  · obtain rfl := Option.some.inj h
    subst hs
    cases he : escapedBy mode context '\'' (backslashRun past) <;> cases context <;>
      simp [Context.next, quoteEscaped_eq, toggle, he]
  · obtain rfl := Option.some.inj h
    subst hd
    cases he : escapedBy mode context '"' (backslashRun past) <;> cases context <;>
      simp [Context.next, quoteEscaped_eq, toggle, he]

theorem next_other {c : Char} (hc : c ≠ '#') (h : quotedBy? c = none) :
    context.next mode past c = context := by
  unfold quotedBy? at h
  split_ifs at h with hs hd
  cases context <;> simp [Context.next, hc, hs, hd]

/-- A word character keeps the context. -/
theorem next_of_isWordChar {c : Char} (h : isWordChar c = true) :
    context.next mode past c = context := by
  apply next_other
  · rintro rfl
    exact absurd h (by decide)
  · unfold quotedBy?
    rw [if_neg, if_neg]
    · rintro rfl
      exact absurd h (by decide)
    · rintro rfl
      exact absurd h (by decide)

end

/-- The scanner changes its context as the text prescribes. -/
theorem contextAfter_cons (mode : EscapeMode) (start : Context) (c : Char) (past : List Char) :
    contextAfter mode start (c :: past) = (contextAfter mode start past).next mode past c := by
  rw [contextAfter]
  by_cases hc : c = '#'
  · subst hc
    rw [if_pos rfl, next_hash]
  · rw [if_neg hc]
    rcases h : quotedBy? c with _ | own
    · rw [next_other mode _ past hc h]
    · rw [next_quote mode _ past h]

/-- The context of the scanner inside a line follows from its context before the line. -/
theorem context_readPart (o : ScanOptions) (n : Nat) (s : ScanState) (text : List Char) (i : Nat) :
    (readPart o n s text i).state.context =
      contextAfter o.escapeMode s.context (text.take i).reverse := by
  induction i with
  | zero =>
    rw [readPart_zero, ScanState.enterLine_eq]
    rfl
  | succ i ih =>
    rcases hc : text[i]? with _ | c
    · have htake : text.take (i + 1) = text.take i := by rw [List.take_add_one, hc]; simp
      unfold readPart at ih ⊢
      rw [htake, ih]
    · rw [readPart_succ o n s hc, LineScan.context_step, ih, past_readPart, List.take_add_one, hc,
        List.reverse_append]
      exact (contextAfter_cons ..).symm

/-! ## Lines -/

/-- The here-document that waits for a further line after the given lines, latest first. -/
def waitingAfter (o : ScanOptions) : List (List Char) → Option Heredoc
  | [] => none
  | line :: before =>
    match (waitingAfter o before).filter (!·.closedBy line) with
    | some h => some h
    | none => if o.inWindow (before.length + 1) then Heredoc.openedBy? line else none

/-- The here-document whose body the line after the lines `before` belongs to. -/
def bodyOf (o : ScanOptions) (before : List (List Char)) (line : List Char) : Option Heredoc :=
  (waitingAfter o before).filter (!·.closedBy line)

/-- The line after the lines `before` is in the window and outside every body. -/
def IsRead (o : ScanOptions) (before : List (List Char)) (line : List Char) : Prop :=
  o.inWindow (before.length + 1) = true ∧ bodyOf o before line = none

instance (o : ScanOptions) (before : List (List Char)) (line : List Char) :
    Decidable (IsRead o before line) :=
  inferInstanceAs (Decidable (_ ∧ _))

/-- The context at the start of the next line: strings go on, comments end. -/
def startContext (o : ScanOptions) : List (List Char) → Context
  | [] => .code
  | line :: before =>
    if IsRead o before line then
      let context := contextAfter o.escapeMode (startContext o before) line.reverse
      if context = .comment then .code else context
    else startContext o before

theorem startContext_ne_comment (o : ScanOptions) (before : List (List Char)) :
    startContext o before ≠ .comment := by
  induction before with
  | nil => simp [startContext]
  | cons line before ih =>
    rw [startContext]
    dsimp only
    split_ifs with h hc
    · simp
    · exact hc
    · exact ih

/-! ## The scanner follows the text -/

section

variable (o : ScanOptions) (before : List (List Char)) (line : List Char)

/-- The scanner carries the here-document that waits. -/
theorem waiting_stateAfter : (stateAfter o before).waiting = waitingAfter o before := by
  induction before with
  | nil => rfl
  | cons line before ih =>
    obtain ⟨hh, hp⟩ := heredocs_scanLine o (before.length + 1) (stateAfter o before) line
    rw [stateAfter_cons, waitingAfter, ← ih]
    change ((scanLine _ _ _ _).1.pending <|> (scanLine _ _ _ _).1.heredoc) = _
    rw [hh, hp, ScanState.pending_lookAhead, ScanState.heredoc_lookAhead]
    rcases h : (stateAfter o before).waiting.filter (!·.closedBy line) with _ | h
    · simp only [h, Option.isNone_none, Bool.true_and]
      split_ifs <;> simp
    · simp only [h, Option.isNone_some, Bool.false_and]
      rfl

/-- The scanner reads exactly the lines in the window and outside every body. -/
theorem isRead_iff : IsRead o before line ↔ o.inWindow (before.length + 1) = true ∧
    (stateAfter o before).waiting.filter (!·.closedBy line) = none := by
  rw [waiting_stateAfter]
  rfl

/-- The scanner carries the context at the start of the next line. -/
theorem context_stateAfter : (stateAfter o before).context = startContext o before := by
  induction before with
  | nil => rfl
  | cons line before ih =>
    rw [stateAfter_cons, startContext]
    change (if (scanLine _ _ _ _).1.context = .comment then Context.code
      else (scanLine _ _ _ _).1.context) = _
    by_cases h : IsRead o before line
    · have h' := (isRead_iff o before line).1 h
      have hc : (scanLine o (before.length + 1) (stateAfter o before) line).1.context =
          contextAfter o.escapeMode (startContext o before) line.reverse := by
        rw [(scanLine_of_read h'.1 h'.2).1, (ScanState.frame_closeWord _ _).1, context_readPart,
          List.take_length, ih]
      rw [if_pos h, hc]
    · have h' := mt (isRead_iff o before line).2 h
      have hc : (scanLine o (before.length + 1) (stateAfter o before) line).1.context =
          startContext o before := by
        rw [(scanLine_of_pass h').1, ScanState.frame_lookAhead]
        exact ih
      rw [if_neg h, hc, if_neg (startContext_ne_comment o before)]

end

/-! ## Regions -/

/-- The context before the character at offset `i` of the line after the lines `before`. -/
def contextAt (o : ScanOptions) (before : List (List Char)) (line : List Char) (i : Nat) :
    Context :=
  contextAfter o.escapeMode (startContext o before) (line.take i).reverse

/-- What a character of a script belongs to. -/
inductive Region
  /-- A line outside the window. -/
  | outside
  /-- The body of a here-document. -/
  | body
  /-- A quoted string, its quotes included. -/
  | string
  /-- A comment. -/
  | comment
  /-- Code. -/
  | code
  deriving DecidableEq, Repr

/-- The region of the character at offset `i` of the line after the lines `before`. -/
def regionAt (o : ScanOptions) (before : List (List Char)) (line : List Char) (i : Nat) : Region :=
  if o.inWindow (before.length + 1) = false then .outside
  else if bodyOf o before line ≠ none then .body
  else
    match contextAt o before line i, contextAt o before line (i + 1) with
    | .code, .code => .code
    | _, .comment => .comment
    | _, _ => .string

/-- The region of the character at offset `i` of line `n`, counted from one. -/
def Script.region (s : Script) (o : ScanOptions) (n i : Nat) : Region :=
  regionAt o (s.pieces.take (n - 1)).reverse (s.pieces.getD (n - 1) []) i

/-! ## Tokens lie in code -/

/-- The characters of `word` stand in the text from the offset `start` on, each of them in code. -/
def Spelled (context : Nat → Context) (text : List Char) (start : Nat) (word : List Char) : Prop :=
  ∀ j c, word[j]? = some c →
    text[start + j]? = some c ∧ context (start + j) = .code ∧ context (start + j + 1) = .code

theorem Spelled.concat {context : Nat → Context} {text word : List Char} {start : Nat} {c : Char}
    (h : Spelled context text start word) (hc : text[start + word.length]? = some c)
    (h₀ : context (start + word.length) = .code)
    (h₁ : context (start + word.length + 1) = .code) :
    Spelled context text start (word ++ [c]) := by
  intro j d hj
  rw [List.getElem?_append] at hj
  split_ifs at hj with hlt
  · exact h j d hj
  · have hj' : j = word.length := by
      by_contra hne
      rw [List.getElem?_eq_none (by simp only [List.length_singleton]; omega)] at hj
      exact absurd hj (by simp)
    subst hj'
    rw [Nat.sub_self] at hj
    obtain rfl : c = d := by simpa using hj
    exact ⟨hc, h₀, h₁⟩

/-- The word being read and the tokens found on the line stand in code. -/
structure WordsInCode (context : Nat → Context) (text : List Char) (n : Nat) (k : LineScan) :
    Prop where
  /-- The word being read ends at the present place. -/
  word : ∀ w, k.state.word = some w → 0 < w.column ∧ w.chars ≠ [] ∧
    w.column + w.chars.length = k.width + 1 ∧ Spelled context text (w.column - 1) w.chars.reverse
  /-- Every token stands at its column. -/
  found : ∀ t ∈ k.found, t.line = n ∧ 0 < t.column ∧ 2 ≤ t.text.length ∧
    Spelled context text (t.column - 1) t.text.toList

namespace WordsInCode

variable {context : Nat → Context} {text : List Char} {n : Nat} {k : LineScan}

theorem of_mem_closedTokens (hk : WordsInCode context text n k) {t : Token}
    (ht : t ∈ k.state.closedTokens n) : t.line = n ∧ 0 < t.column ∧ 2 ≤ t.text.length ∧
      Spelled context text (t.column - 1) t.text.toList := by
  rcases hw : k.state.word with _ | w
  · rw [ScanState.closedTokens_of_none hw] at ht
    simp at ht
  · rw [ScanState.closedTokens_of_some hw] at ht
    split_ifs at ht with h
    · simp at ht
    · obtain rfl := List.mem_singleton.1 ht
      obtain ⟨hcol, -, -, hs⟩ := hk.word w hw
      have hlen : w.text.length = w.chars.length := by simp [OpenWord.text]
      refine ⟨rfl, hcol, ?_, ?_⟩
      · change 2 ≤ w.text.length
        omega
      · simpa [OpenWord.text] using hs

/-- The context is code where a word being read can go on. -/
theorem context_of_word (hk : WordsInCode context text n k) {w : OpenWord}
    (hw : k.state.word = some w) : context k.width = .code := by
  obtain ⟨hcol, hne, hlen, hs⟩ := hk.word w hw
  obtain ⟨c, cs, hcs⟩ := List.exists_cons_of_ne_nil hne
  have hlast : w.chars.reverse[cs.length]? = some c := by simp [hcs]
  have hwidth : w.column - 1 + cs.length + 1 = k.width := by
    rw [hcs, List.length_cons] at hlen
    omega
  rw [← hwidth]
  exact (hs _ _ hlast).2.2

/-- One character keeps words and tokens in code. -/
theorem step (hk : WordsInCode context text n k) {mode : EscapeMode} {hasParen : Bool} {c : Char}
    (hc : text[k.width]? = some c) (h₀ : k.state.context = context k.width)
    (h₁ : (context k.width).next mode k.past c = context (k.width + 1)) :
    WordsInCode context text n (k.step mode n hasParen c) := by
  have hkeep : isWordChar c = true → context (k.width + 1) = context k.width := by
    intro hword
    rw [← h₁, next_of_isWordChar mode _ _ hword]
  constructor
  · intro w hw
    rw [LineScan.width_step]
    have hcases := LineScan.word_step mode n hasParen k c hw
    rw [h₀, h₁] at hcases
    rcases hcases with ⟨hne, hword, hv⟩ | ⟨hcode, ⟨v, hword, hv, rfl⟩ | ⟨halpha, hchars, hcol⟩⟩
    · exact absurd ((hkeep hword).trans (hk.context_of_word hv)) hne
    · obtain ⟨hcol, -, hlen, hs⟩ := hk.word v hv
      have hplace : v.column - 1 + v.chars.reverse.length = k.width := by
        rw [List.length_reverse]
        omega
      refine ⟨hcol, by simp, ?_, ?_⟩
      · simp only [List.length_cons]
        omega
      · rw [List.reverse_cons]
        apply hs.concat
        · rwa [hplace]
        · rw [hplace, ← hkeep hword, hcode]
        · rw [hplace, hcode]
    · have hword := isWordChar_of_isAlpha halpha
      rw [hchars, hcol]
      have hnil : Spelled context text k.width [] := fun j d hj => absurd hj (by simp)
      refine ⟨by omega, by simp, by simp, ?_⟩
      apply hnil.concat
      · exact hc
      · exact (hkeep hword).symm.trans hcode
      · exact hcode
  · intro t ht
    rw [LineScan.found_step, List.mem_append] at ht
    rcases ht with ht | ht
    · exact hk.found t ht
    · split_ifs at ht with hword
      · simp at ht
      · exact hk.of_mem_closedTokens ht

/-- The words of a line that is read stand in code, however much of it is read. -/
theorem of_readPart (o : ScanOptions) (n : Nat) {s : ScanState} (hs : s.word = none)
    (text : List Char) {i : Nat} (hi : i ≤ text.length) :
    WordsInCode (fun j => contextAfter o.escapeMode s.context (text.take j).reverse) text n
      (readPart o n s text i) := by
  induction i with
  | zero =>
    constructor
    · intro w hw
      rw [readPart_zero, ScanState.enterLine_eq] at hw
      exact absurd (hs.symm.trans hw) (by simp)
    · intro t ht
      simp [LineScan.found] at ht
  | succ i ih =>
    have hc := List.getElem?_eq_getElem (l := text) (i := i) (by omega)
    rw [readPart_succ o n s hc]
    apply (ih (by omega)).step
    · rw [width_readPart o n s (by omega), hc]
    · rw [width_readPart o n s (by omega), context_readPart]
    · rw [width_readPart o n s (by omega), past_readPart, List.take_add_one, hc,
        List.reverse_append]
      exact (contextAfter_cons ..).symm

end WordsInCode

/-- Outside code no word is being read. -/
theorem word_readPart_of_ne_code (o : ScanOptions) (n : Nat) {s : ScanState} (hs : s.word = none)
    {text : List Char} {i : Nat} (hi : i ≤ text.length)
    (hcode : (readPart o n s text i).state.context ≠ .code) :
    (readPart o n s text i).state.word = none := by
  by_contra hne
  obtain ⟨w, hw⟩ := Option.ne_none_iff_exists'.1 hne
  apply hcode
  rw [context_readPart]
  have hplace := (WordsInCode.of_readPart o n hs text hi).context_of_word hw
  rwa [width_readPart o n s hi] at hplace

/-- Between two lines no word is being read. -/
theorem word_stateAfter (o : ScanOptions) (before : List (List Char)) :
    (stateAfter o before).word = none := by
  induction before with
  | nil => rfl
  | cons line before ih =>
    rw [stateAfter_cons]
    change (scanLine _ _ _ _).1.word = none
    by_cases h : o.inWindow (before.length + 1) = true ∧
        (stateAfter o before).waiting.filter (!·.closedBy line) = none
    · rw [(scanLine_of_read h.1 h.2).1, ScanState.word_closeWord]
    · rw [(scanLine_of_pass h).1, ScanState.frame_lookAhead]
      exact ih

/-- A token found on a line stands there in code, and the line is read. -/
theorem spelled_of_mem_lineTokens (o : ScanOptions) (before : List (List Char)) (line : List Char)
    {t : Token} (ht : t ∈ lineTokens o (before.length + 1) (stateAfter o before) line) :
    IsRead o before line ∧ t.line = before.length + 1 ∧ 0 < t.column ∧ 2 ≤ t.text.length ∧
      Spelled (contextAt o before line) line (t.column - 1) t.text.toList := by
  by_cases h : IsRead o before line
  · have h' := (isRead_iff o before line).1 h
    have hk := WordsInCode.of_readPart o (before.length + 1) (word_stateAfter o before) line
      (Nat.le_refl _)
    rw [context_stateAfter] at hk
    rw [(scanLine_of_read h'.1 h'.2).2, List.mem_append] at ht
    refine ⟨h, ?_⟩
    rcases ht with ht | ht
    · exact hk.found t ht
    · exact hk.of_mem_closedTokens ht
  · rw [(scanLine_of_pass (mt (isRead_iff o before line).2 h)).2] at ht
    simp at ht

/-- Every token stands on a line of the script, after the lines before it. -/
theorem Script.exists_line_of_mem_tokens {s : Script} {o : ScanOptions} {t : Token}
    (ht : t ∈ s.tokens o) : ∃ before line, (s.pieces.take before.length).reverse = before ∧
      s.pieces[before.length]? = some line ∧
      t ∈ lineTokens o (before.length + 1) (stateAfter o before) line := by
  rw [tokens_eq_tokensOf, mem_tokensOf_iff] at ht
  obtain ⟨after, line, before, hpieces, ht⟩ := ht
  have hpieces' : s.pieces = before.reverse ++ line :: after.reverse := by
    rw [← List.reverse_reverse s.pieces, hpieces]
    simp
  refine ⟨before, line, ?_, ?_, ht⟩
  · rw [hpieces', ← List.length_reverse, List.take_left, List.reverse_reverse]
  · rw [hpieces', ← List.length_reverse]
    simp

/-- Every character of every token stands in the text at its line and column and is code: it lies
in no quoted string, no comment, no body of a here-document and on no line outside the window. -/
theorem Script.region_of_mem_tokens (s : Script) (o : ScanOptions) (t : Token)
    (ht : t ∈ s.tokens o) : 0 < t.line ∧ 0 < t.column ∧ 2 ≤ t.text.length ∧
      ∀ j < t.text.length, s.region o t.line (t.column - 1 + j) = .code ∧
        (s.line t.line).toList[t.column - 1 + j]? = t.text.toList[j]? := by
  obtain ⟨before, line, hbefore, hline, ht⟩ := exists_line_of_mem_tokens ht
  obtain ⟨⟨hwindow, hbody⟩, hnumber, hcol, hlen, hs⟩ := spelled_of_mem_lineTokens o before line ht
  have htext : s.pieces.getD before.length [] = line := by
    rw [List.getD_eq_getElem?_getD, hline]
    rfl
  refine ⟨by omega, hcol, hlen, ?_⟩
  intro j hj
  obtain ⟨c, hc⟩ : ∃ c, t.text.toList[j]? = some c :=
    ⟨_, List.getElem?_eq_getElem (by rwa [String.length_toList])⟩
  obtain ⟨hchar, h₀, h₁⟩ := hs j c hc
  constructor
  · unfold Script.region
    rw [hnumber, Nat.add_sub_cancel, hbefore, htext, regionAt, if_neg (by simp [hwindow]),
      if_neg (by simp [hbody]), h₀, h₁]
  · have hl : (s.line t.line).toList = line := by
      rw [hnumber, Script.toList_line_succ, htext]
    rw [hl, hchar, hc]

/-- A command after a here-document whose body holds a quote, before a string. -/
theorem Script.region_of_token_after_body :
    ⟨"pwd", 4, 1⟩ ∈ (Script.mk "cat <<EOF # 'x\nls \"\nEOF\npwd 'ls'" "").tokens {} ∧
      ∀ j < 3, (Script.mk "cat <<EOF # 'x\nls \"\nEOF\npwd 'ls'" "").region {} 4 (0 + j) = .code := by
  have h : (⟨"pwd", 4, 1⟩ : Token) ∈
      (Script.mk "cat <<EOF # 'x\nls \"\nEOF\npwd 'ls'" "").tokens {} := by decide +kernel
  exact ⟨h, fun j hj => ((Script.region_of_mem_tokens _ _ _ h).2.2.2 j hj).1⟩

end CommandAudit
