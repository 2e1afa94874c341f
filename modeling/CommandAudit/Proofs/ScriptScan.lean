import CommandAudit.Proofs.LineScan

/-!
# A scan line by line

The scan as a recursion on the lines already read, latest first: `stateAfter` is the state after
them and `tokensOf` the tokens found on them. A line is either read, and then it is a run over its
characters from `ScanState.enterLine` (`scanLine_of_read`), or passed over, and then only the
here-documents change (`scanLine_of_pass`).
-/

namespace CommandAudit

/-! ## The lines of a script -/

/-- The state of a scan after the given lines, latest first. -/
def stateAfter (o : ScanOptions) (before : List (List Char)) : ScanState :=
  (before.reverse.foldl (ScriptScan.step o) {}).state

/-- The tokens found on the given lines, latest first. -/
def tokensOf (o : ScanOptions) (before : List (List Char)) : List Token :=
  (before.reverse.foldl (ScriptScan.step o) {}).events.toList.filterMap (·.decision.token?)

/-- The tokens found on line `n`, read from the state `s`. -/
def lineTokens (o : ScanOptions) (n : Nat) (s : ScanState) (text : List Char) : List Token :=
  (scanLine o n s text).2.filterMap Decision.token?

theorem Script.tokens_eq_tokensOf (s : Script) (o : ScanOptions) :
    s.tokens o = tokensOf o s.pieces.reverse := by
  simp [tokens, scanEvents, tokensOf]

section

variable (o : ScanOptions) (text : List Char) (before : List (List Char))

theorem line_foldl : (before.reverse.foldl (ScriptScan.step o) {}).line = before.length + 1 := by
  induction before with
  | nil => rfl
  | cons text before ih =>
    rw [List.reverse_cons, List.foldl_append, List.foldl_cons, List.foldl_nil]
    simp only [ScriptScan.step, ih, List.length_cons]

theorem stateAfter_cons : stateAfter o (text :: before) =
    (scanLine o (before.length + 1) (stateAfter o before) text).1.endLine := by
  unfold stateAfter
  rw [List.reverse_cons, List.foldl_append, List.foldl_cons, List.foldl_nil]
  simp only [ScriptScan.step, line_foldl]

@[simp] theorem tokensOf_nil : tokensOf o [] = [] := rfl

theorem tokensOf_cons : tokensOf o (text :: before) =
    tokensOf o before ++ lineTokens o (before.length + 1) (stateAfter o before) text := by
  unfold tokensOf lineTokens stateAfter
  rw [List.reverse_cons, List.foldl_append, List.foldl_cons, List.foldl_nil]
  simp only [ScriptScan.step, line_foldl, Array.toList_appendList, List.filterMap_append,
    List.filterMap_map, Function.comp_def]

end

/-- Every token is found on some line, read from the state after the lines before it. -/
theorem mem_tokensOf_iff (o : ScanOptions) (before : List (List Char)) (t : Token) :
    t ∈ tokensOf o before ↔ ∃ after text earlier, before = after ++ text :: earlier ∧
      t ∈ lineTokens o (earlier.length + 1) (stateAfter o earlier) text := by
  induction before with
  | nil => simp
  | cons text before ih =>
    rw [tokensOf_cons, List.mem_append, ih]
    constructor
    · rintro (⟨after, text', earlier, rfl, ht⟩ | ht)
      · exact ⟨text :: after, text', earlier, rfl, ht⟩
      · exact ⟨[], text, before, rfl, ht⟩
    · rintro ⟨after, text', earlier, h, ht⟩
      cases after with
      | nil =>
        obtain ⟨rfl, rfl⟩ := List.cons.inj h
        exact Or.inr ht
      | cons text'' after => exact Or.inl ⟨after, text', earlier, (List.cons.inj h).2, ht⟩

/-- The first lines of a script with one line more. -/
theorem take_succ_eq_append_getD {lines : List (List Char)} {m : Nat} (h : m < lines.length) :
    lines.take (m + 1) = lines.take m ++ [lines.getD m []] := by
  rw [List.take_add_one, List.getD_eq_getElem?_getD, List.getElem?_eq_getElem h]
  rfl

/-! ## Looking ahead -/

namespace ScanState

variable (s : ScanState) (isRead : Bool) (line : List Char)

/-- The here-document that a line may continue. -/
def waiting (s : ScanState) : Option Heredoc :=
  s.pending <|> s.heredoc

/-- A line lies in the body of the waiting here-document unless it closes it. -/
theorem heredoc_lookAhead :
    (s.lookAhead isRead line).1.heredoc = s.waiting.filter (!·.closedBy line) := by
  simp only [lookAhead, waiting]
  rcases s.pending <|> s.heredoc with _ | h
  · rfl
  · by_cases hc : h.closedBy line <;> simp [Option.filter, hc]

/-- A line that lies in no body may open a here-document. -/
theorem pending_lookAhead : (s.lookAhead isRead line).1.pending =
    if (s.lookAhead isRead line).1.heredoc.isNone && isRead then Heredoc.openedBy? line
    else none := rfl

/-- Looking ahead changes nothing but the here-documents. -/
theorem frame_lookAhead : (s.lookAhead isRead line).1 = { s with
    heredoc := (s.lookAhead isRead line).1.heredoc
    pending := (s.lookAhead isRead line).1.pending } := rfl

theorem tokens_lookAhead : (s.lookAhead isRead line).2.filterMap Decision.token? = [] := by
  unfold lookAhead
  simp [List.filterMap_append, List.filterMap_map, Function.comp_def, Decision.token?]

theorem tokens_settle (hasParen : Bool) :
    (s.settle hasParen).2.filterMap Decision.token? = [] := by
  unfold settle
  split_ifs <;> rfl

/-- The state before the first character of a line that is read. -/
def enterLine (s : ScanState) (isRead : Bool) (line : List Char) : ScanState :=
  ((s.lookAhead isRead line).1.settle (line.contains ')')).1

/-- Entering a line changes the here-documents and gives up a case pattern that cannot end. -/
theorem enterLine_eq : s.enterLine isRead line = { s with
    heredoc := (s.lookAhead isRead line).1.heredoc
    pending := (s.lookAhead isRead line).1.pending
    block := if s.context = .code ∧ s.block = .pattern ∧ line.contains ')' = false then .body
      else s.block } := by
  unfold enterLine settle
  rw [frame_lookAhead]
  dsimp only
  split_ifs <;> rfl

end ScanState

/-! ## One line -/

section

variable (o : ScanOptions) (n : Nat) (s : ScanState) (text : List Char)

/-- The scan of the first `i` characters of line `n`, read from the state `s` before the line. -/
def readPart (o : ScanOptions) (n : Nat) (s : ScanState) (text : List Char) (i : Nat) : LineScan :=
  LineScan.run o.escapeMode n (text.contains ')') { state := s.enterLine (o.inWindow n) text }
    (text.take i)

@[simp] theorem readPart_zero :
    readPart o n s text 0 = { state := s.enterLine (o.inWindow n) text } := rfl

variable {text}

theorem readPart_succ {i : Nat} {c : Char} (hc : text[i]? = some c) :
    readPart o n s text (i + 1) =
      (readPart o n s text i).step o.escapeMode n (text.contains ')') c := by
  unfold readPart
  rw [List.take_add_one, hc]
  exact LineScan.run_append_singleton ..

theorem past_readPart (i : Nat) : (readPart o n s text i).past = (text.take i).reverse := by
  unfold readPart
  rw [LineScan.past_run, List.append_nil]

theorem width_readPart {i : Nat} (hi : i ≤ text.length) : (readPart o n s text i).width = i := by
  unfold readPart
  rw [LineScan.width_run, List.length_take, Nat.min_eq_left hi]
  exact Nat.zero_add i

variable {o n s}

/-- A line in the window and outside every body is read. -/
theorem scanLine_of_read (hw : o.inWindow n = true)
    (hb : s.waiting.filter (!·.closedBy text) = none) :
    (scanLine o n s text).1 = ((readPart o n s text text.length).state.closeWord n).1 ∧
      lineTokens o n s text = (readPart o n s text text.length).found ++
        (readPart o n s text text.length).state.closedTokens n := by
  have h : o.inWindow n = true ∧ (s.lookAhead (o.inWindow n) text).1.heredoc = none :=
    ⟨hw, (s.heredoc_lookAhead _ _).trans hb⟩
  have hrun : readPart o n s text text.length = LineScan.run o.escapeMode n (text.contains ')')
      { state := s.enterLine (o.inWindow n) text } text := by
    rw [readPart, List.take_length]
  unfold lineTokens scanLine
  dsimp only
  rw [if_pos h, hrun]
  refine ⟨rfl, ?_⟩
  rw [List.filterMap_append, List.filterMap_append, ScanState.tokens_lookAhead,
    ScanState.tokens_settle, List.nil_append, List.nil_append]
  exact LineScan.found_apply _ _

/-- Any other line changes the here-documents at most. -/
theorem scanLine_of_pass (h : ¬ (o.inWindow n = true ∧ s.waiting.filter (!·.closedBy text) = none)) :
    (scanLine o n s text).1 = (s.lookAhead (o.inWindow n) text).1 ∧ lineTokens o n s text = [] := by
  have h' : ¬ (o.inWindow n = true ∧ (s.lookAhead (o.inWindow n) text).1.heredoc = none) := by
    rwa [s.heredoc_lookAhead]
  unfold lineTokens scanLine
  dsimp only
  rw [if_neg h']
  exact ⟨rfl, s.tokens_lookAhead _ _⟩

/-- The here-documents after a line depend on the look ahead alone. -/
theorem heredocs_scanLine (o : ScanOptions) (n : Nat) (s : ScanState) (text : List Char) :
    (scanLine o n s text).1.heredoc = (s.lookAhead (o.inWindow n) text).1.heredoc ∧
    (scanLine o n s text).1.pending = (s.lookAhead (o.inWindow n) text).1.pending := by
  by_cases h : o.inWindow n = true ∧ s.waiting.filter (!·.closedBy text) = none
  · obtain ⟨-, hh, hp⟩ := (readPart o n s text text.length).state.frame_closeWord n
    obtain ⟨hh', hp'⟩ := LineScan.heredocs_run o.escapeMode n (text.contains ')')
      { state := s.enterLine (o.inWindow n) text } (text.take text.length)
    rw [(scanLine_of_read h.1 h.2).1, hh, hp]
    refine ⟨hh'.trans ?_, hp'.trans ?_⟩ <;> rw [ScanState.enterLine_eq]
  · rw [(scanLine_of_pass h).1]
    exact ⟨rfl, rfl⟩

end

end CommandAudit
