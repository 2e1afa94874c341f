import CommandAudit.Proofs.CasePattern
import CommandAudit.Proofs.FirstLine
import CommandAudit.Proofs.HeredocOperator

/-!
# Text that makes no difference

An empty line after a line leaves the scan as it is, apart from a here-document that waited to be
opened and now is open (`stateAfter_nil_cons`), and the next line cannot tell the two apart
(`scanLine_opened`). So an empty line that is added after a line only moves the tokens below it down
(`Script.tokens_insert_empty_line`). A comment ends the word before it as the end of the line does,
and from then on nothing happens on the line (`LineScan.run_comment`). So a comment can be taken
away, if the line still has its `)` and opens the same here-document (`Script.tokens_cutLine`).
-/

namespace CommandAudit

/-! ## Closing words -/

/-- A prefix without the character `c` ends before the first `c`. -/
theorem prefix_of_prefix_append_cons {word start rest : List Char} {c : Char} (hc : c ∉ word)
    (h : word <+: start ++ c :: rest) : word <+: start := by
  rcases List.prefix_or_prefix_of_prefix h (List.prefix_append start _) with hle | ⟨more, rfl⟩
  · exact hle
  · rw [List.prefix_append_right_inj] at h
    rcases more with _ | ⟨d, more⟩
    · simp
    · obtain ⟨rfl, -⟩ := List.cons_prefix_cons.1 h
      exact absurd (by simp) hc

namespace Heredoc

theorem closedBy_iff (h : Heredoc) (line : List Char) : h.closedBy line = true ↔
    h.terminator.toList <+: if h.stripTabs then line.dropWhile (· == '\t') else line :=
  List.isPrefixOf_iff_prefix

theorem isIdentifier_of_openedBy? {line : List Char} {h : Heredoc}
    (hopens : openedBy? line = some h) : IsIdentifier h.terminator.toList := by
  obtain ⟨i, hfirst, -⟩ := openedBy?_eq_some_iff.1 hopens
  exact hfirst.1.isIdentifier

variable {h : Heredoc} (hname : IsIdentifier h.terminator.toList)
include hname

/-- A line without characters closes no here-document. -/
theorem closedBy_nil : h.closedBy [] = false := by
  rw [← Bool.not_eq_true, h.closedBy_iff, List.dropWhile_nil, ite_self, List.prefix_nil]
  intro hnil
  rw [hnil] at hname
  exact absurd hname.1 (by simp)

/-- The closing word holds no `#`. -/
theorem closedBy_of_closedBy_hash {code rest : List Char}
    (hclosed : h.closedBy (code ++ '#' :: rest) = true) : h.closedBy code = true := by
  have hstrip : (code ++ '#' :: rest).dropWhile (· == '\t') =
      code.dropWhile (· == '\t') ++ '#' :: rest := by
    rw [List.dropWhile_append]
    split_ifs with hnil
    · rw [List.isEmpty_iff.1 hnil]
      rfl
    · rfl
  have hword : '#' ∉ h.terminator.toList := fun hmem =>
    absurd (hname.2 '#' hmem) (by decide)
  rw [h.closedBy_iff, hstrip] at hclosed
  rw [h.closedBy_iff]
  split_ifs at hclosed ⊢ <;> exact prefix_of_prefix_append_cons hword hclosed

end Heredoc

/-- What waits for a line to close it was opened by an operator. -/
theorem isIdentifier_of_waitingAfter {o : ScanOptions} {before : List (List Char)} {h : Heredoc}
    (hwaiting : waitingAfter o before = some h) : Heredoc.IsIdentifier h.terminator.toList := by
  induction before with
  | nil => exact absurd hwaiting (by simp [waitingAfter])
  | cons line before ih =>
    rw [waitingAfter] at hwaiting
    split at hwaiting
    · next h' hgoesOn =>
      obtain rfl := Option.some.inj hwaiting
      exact ih (Option.filter_eq_some_iff.1 hgoesOn).1
    · split_ifs at hwaiting
      exact Heredoc.isIdentifier_of_openedBy? hwaiting

/-! ## Empty lines -/

namespace ScanState

/-- The state with the here-document that waits already open. -/
def opened (s : ScanState) : ScanState :=
  { s with heredoc := s.waiting, pending := none }

/-- At the end of a line it does not matter whether a case pattern was given up on it. -/
theorem endLine_settle (s : ScanState) (hasParen : Bool) :
    (s.settle hasParen).1.endLine = s.endLine := by
  unfold settle
  split_ifs with h
  · simp [endLine, h.2.1]
  · rfl

theorem endLine_endLine (s : ScanState) : s.endLine.endLine = s.endLine := by
  obtain ⟨context, heredoc, pending, block, ready, wrapped, fresh, word⟩ := s
  cases context <;> cases block <;> rfl

/-- A look at an empty line opens the here-document that waits. -/
theorem lookAhead_nil {s : ScanState} (hclosed : ∀ h ∈ s.waiting, h.closedBy [] = false)
    (isRead : Bool) : (s.lookAhead isRead []).1 = s.opened := by
  have hwaiting : s.waiting.filter (!·.closedBy []) = s.waiting := by
    rcases hs : s.waiting with _ | h
    · rfl
    · simp [hclosed h hs]
  have hopens : Heredoc.openedBy? [] = none := rfl
  rw [frame_lookAhead, pending_lookAhead, heredoc_lookAhead, hwaiting, hopens, ite_self]
  rfl

end ScanState

/-- A line looks the same whether the here-document before it is open or waits to be. -/
theorem scanLine_opened (o : ScanOptions) (n : Nat) (s : ScanState) (line : List Char) :
    scanLine o n s.opened line = scanLine o n s line := rfl

/-- An empty line opens the here-document that waits and does nothing else. -/
theorem endLine_scanLine_nil {o : ScanOptions} {n : Nat} {s : ScanState} (hword : s.word = none)
    (hclosed : ∀ h ∈ s.waiting, h.closedBy [] = false) :
    (scanLine o n s []).1.endLine = s.endLine.opened := by
  by_cases h : o.inWindow n = true ∧ s.waiting.filter (!·.closedBy []) = none
  · have henter : (s.enterLine (o.inWindow n) []).word = none := by
      rw [ScanState.enterLine_eq]
      exact hword
    rw [(scanLine_of_read h.1 h.2).1, List.length_nil, readPart_zero,
      ScanState.closeWord_of_none henter]
    unfold ScanState.enterLine
    rw [ScanState.endLine_settle, ScanState.lookAhead_nil hclosed]
    rfl
  · rw [(scanLine_of_pass h).1, ScanState.lookAhead_nil hclosed]
    rfl

section

variable {o : ScanOptions} {before : List (List Char)}

/-- An empty line after a line. The first line of a script is ready for a command, and no other line
is, so that an empty line at the start of a script does change the state. -/
theorem stateAfter_nil_cons (hne : before ≠ []) :
    stateAfter o ([] :: before) = (stateAfter o before).opened := by
  have hend : (stateAfter o before).endLine = stateAfter o before := by
    obtain ⟨line, lines, rfl⟩ := List.exists_cons_of_ne_nil hne
    rw [stateAfter_cons, ScanState.endLine_endLine]
  rw [stateAfter_cons, endLine_scanLine_nil (word_stateAfter o before), hend]
  intro h hwaiting
  rw [waiting_stateAfter] at hwaiting
  exact Heredoc.closedBy_nil (isIdentifier_of_waitingAfter hwaiting)

/-- With an empty line above it, a line holds the same tokens one line further down and leaves the
same state. -/
theorem scanLine_nil_cons (hread : ∀ n, o.inWindow n = true) (hne : before ≠ [])
    (line : List Char) :
    stateAfter o (line :: [] :: before) = stateAfter o (line :: before) ∧
      lineTokens o (([] :: before).length + 1) (stateAfter o ([] :: before)) line =
        (lineTokens o (before.length + 1) (stateAfter o before) line).map (Token.moveDown 1) := by
  have hsame : o.inWindow (before.length + 1 + 1) = o.inWindow (before.length + 1) := by
    rw [hread, hread]
  obtain ⟨hstate, htokens⟩ := scanLine_add rfl hsame (stateAfter o before) line
  rw [stateAfter_cons o line ([] :: before), stateAfter_cons o line before, stateAfter_nil_cons hne,
    lineTokens, scanLine_opened]
  exact ⟨congrArg ScanState.endLine hstate, htokens⟩

/-- An empty line between the lines `before` and further lines. -/
theorem tokensOf_insert_nil (hread : ∀ n, o.inWindow n = true) (hne : before ≠ [])
    (line : List Char) (lines : List (List Char)) :
    tokensOf o (lines ++ line :: [] :: before) =
      (tokensOf o (lines ++ line :: before)).map fun t =>
        if before.length < t.line then t.moveDown 1 else t := by
  obtain ⟨hstate, hline⟩ := scanLine_nil_cons hread hne line
  have hlines : tokensAfter o (line :: [] :: before) lines =
      (tokensAfter o (line :: before) lines).map (Token.moveDown 1) :=
    (tokensAfter_add rfl _ _ rfl hstate fun n _ _ => (hread (n + 1)).trans (hread n).symm).2
  have hmove : ∀ tokens : List Token, (∀ t ∈ tokens, before.length < t.line) →
      (tokens.map fun t => if before.length < t.line then t.moveDown 1 else t) =
        tokens.map (Token.moveDown 1) := fun tokens hbelow =>
    List.map_congr_left fun t ht => if_pos (hbelow t ht)
  have hkeep : ((tokensOf o before).map fun t =>
      if before.length < t.line then t.moveDown 1 else t) = tokensOf o before := by
    refine (List.map_congr_left fun t ht => if_neg ?_).trans (List.map_id _)
    exact Nat.not_lt.2 (line_of_mem_tokensOf ht).2
  rw [tokensOf_append, tokensOf_append, tokensOf_cons, tokensOf_cons, tokensOf_cons,
    lineTokens_of_nil, List.append_nil, hline, hlines, List.map_append, List.map_append, hkeep,
    hmove, hmove]
  · intro t ht
    have hbelow := (line_of_mem_tokensAfter ht).1
    rw [List.length_cons] at hbelow
    exact Nat.lt_of_succ_lt hbelow
  · intro t ht
    rw [(spelled_of_mem_lineTokens o before line ht).2.1]
    exact Nat.lt_succ_self _

end

/-- A newline after a newline only moves the tokens below it down by one line, wherever it stands:
in code, in a string, in a case statement, below the operator of a here-document or in its body. -/
theorem Script.tokens_insert_empty_line (above below name : String) (o : ScanOptions) :
    let whole : ScanOptions := { o with window := none }
    (Script.mk (above ++ "\n\n" ++ below) name).tokens whole =
      ((Script.mk (above ++ "\n" ++ below) name).tokens whole).map fun t =>
        if above.toList.count '\n' + 1 < t.line then t.moveDown 1 else t := by
  intro whole
  have hpieces : (Script.mk (above ++ "\n" ++ below) name).pieces =
      (Script.mk above name).pieces ++ (Script.mk below name).pieces :=
    pieces_append ⟨above, name⟩ below
  have hpieces' : (Script.mk (above ++ "\n\n" ++ below) name).pieces =
      (Script.mk above name).pieces ++ [] :: (Script.mk below name).pieces := by
    have htext : above ++ "\n\n" ++ below = above ++ "\n" ++ ("\n" ++ below) := by
      have hnewlines : "\n\n" = "\n" ++ "\n" := rfl
      rw [hnewlines, ← String.append_assoc, ← String.append_assoc]
    rw [htext, ← pieces_newline_append]
    exact pieces_append ⟨above, name⟩ ("\n" ++ below)
  obtain ⟨line, lines, hbelow⟩ : ∃ line lines, (Script.mk below name).pieces = line :: lines :=
    List.exists_cons_of_ne_nil (List.splitOn_ne_nil '\n' below.toList)
  have hcount : (Script.mk above name).pieces.reverse.length = above.toList.count '\n' + 1 := by
    rw [List.length_reverse, length_pieces]
  have hne : (Script.mk above name).pieces.reverse ≠ [] :=
    List.ne_nil_of_length_pos (hcount ▸ Nat.succ_pos _)
  rw [tokens_eq_tokensOf, tokens_eq_tokensOf, hpieces, hpieces', hbelow, ← hcount]
  simp only [List.reverse_append, List.reverse_cons, List.append_assoc, List.singleton_append]
  exact tokensOf_insert_nil (fun _ => rfl) hne line lines.reverse

/-! ## Comments -/

namespace LineScan

variable (mode : EscapeMode) (n : Nat) (hasParen : Bool) {k : LineScan}

/-- A comment starts: the word before it is ended, and nothing else happens. -/
theorem step_of_comment {c : Char} (hc : isWordChar c = false)
    (hcomment : k.state.context.next mode k.past c = .comment) :
    (k.step mode n hasParen c).state = { (k.state.closeWord n).1 with context := .comment } ∧
      (k.step mode n hasParen c).found = k.found ++ k.state.closedTokens n := by
  have hbreak : k.state.breakAt n c = (k.state.closeWord n).1 := by
    unfold ScanState.breakAt
    rw [hc]
    rfl
  rw [state_step, found_step, hbreak, hcomment, hc]
  exact ⟨rfl, rfl⟩

/-- In a comment nothing happens until the line ends. -/
theorem run_comment (hcomment : k.state.context = .comment) (hword : k.state.word = none)
    (text : List Char) : (k.run mode n hasParen text).state = k.state ∧
      (k.run mode n hasParen text).found = k.found := by
  induction text generalizing k with
  | nil => exact ⟨rfl, rfl⟩
  | cons c text ih =>
    have hnext : k.state.context.next mode k.past c = .comment := by
      rw [hcomment]
      rfl
    have hstate : (k.step mode n hasParen c).state = k.state := by
      rw [state_step, ScanState.breakAt_of_none hword, hnext, ← hcomment]
      dsimp only
      rw [if_neg (by rw [hcomment]; exact nofun)]
    have hfound : (k.step mode n hasParen c).found = k.found := by
      rw [found_step, ScanState.closedTokens_of_none hword, ite_self, List.append_nil]
    obtain ⟨hrun, hrun'⟩ := ih (k := k.step mode n hasParen c) (hstate ▸ hcomment) (hstate ▸ hword)
    exact ⟨hrun.trans hstate, hrun'.trans hfound⟩

/-- A comment that goes on to the end of the line comes to the same as the end of the line. -/
theorem end_of_comment (hcode : k.state.context = .code)
    (hcomment : k.state.context.next mode k.past '#' = .comment) (text : List Char) :
    let k' := k.run mode n hasParen ('#' :: text)
    (k'.state.closeWord n).1.endLine = (k.state.closeWord n).1.endLine ∧
      k'.found ++ k'.state.closedTokens n = k.found ++ k.state.closedTokens n := by
  intro k'
  obtain ⟨hstate, hfound⟩ := step_of_comment mode n hasParen (by decide) hcomment
  have hword : (k.step mode n hasParen '#').state.word = none := by
    rw [hstate]
    exact k.state.word_closeWord n
  obtain ⟨hrun, hrun'⟩ := run_comment mode n hasParen (by rw [hstate]) hword text
  have hsame : k' = (k.step mode n hasParen '#').run mode n hasParen text := rfl
  rw [hsame, hrun, hrun', ScanState.closeWord_of_none hword, ScanState.closedTokens_of_none hword,
    hfound, List.append_nil, hstate]
  refine ⟨?_, rfl⟩
  have hbefore : (k.state.closeWord n).1.context = .code :=
    (k.state.frame_closeWord n).1.trans hcode
  unfold ScanState.endLine
  rw [hbefore]
  rfl

end LineScan

section

variable {o : ScanOptions} {before : List (List Char)} {line : List Char} {i : Nat}

/-- The scan of a whole line is that of its first `i` characters and of the others after them. -/
theorem readPart_length_eq_run (o : ScanOptions) (n : Nat) (s : ScanState) (line : List Char)
    (i : Nat) : readPart o n s line line.length =
      (readPart o n s line i).run o.escapeMode n (line.contains ')') (line.drop i) := by
  unfold readPart
  rw [← LineScan.run_append, List.take_append_drop, List.take_length]

/-- A line outside every body is outside every body without its comment, since the word that closes
a body holds no `#`. -/
theorem isRead_take_of_hash (hhash : (line)[i]? = some '#') (hread : IsRead o before line) :
    IsRead o before (line.take i) := by
  obtain ⟨hi, hchar⟩ := List.getElem?_eq_some_iff.1 hhash
  refine ⟨hread.1, Option.filter_eq_none_iff.2 fun h hwaiting => ?_⟩
  have hclosed := Option.filter_eq_none_iff.1 hread.2 h hwaiting
  rw [Bool.not_eq_true', Bool.not_eq_false] at hclosed ⊢
  rw [← List.take_append_drop i line, List.drop_eq_getElem_cons hi, hchar] at hclosed
  exact Heredoc.closedBy_of_closedBy_hash (isIdentifier_of_waitingAfter hwaiting) hclosed

/-- A line that is read and whose comment starts at the offset `i` leaves the same state, and holds
the same tokens, as its first `i` characters, if these have a `)` and open a here-document as the
whole line does. -/
theorem scanLine_take_of_comment (hhash : (line)[i]? = some '#') (hread : IsRead o before line)
    (hbefore : scanContext o before line i ≠ .comment)
    (hafter : scanContext o before line (i + 1) = .comment)
    (hparen : ')' ∈ line.take i ↔ ')' ∈ line)
    (hopens : Heredoc.openedBy? (line.take i) = Heredoc.openedBy? line) :
    stateAfter o (line.take i :: before) = stateAfter o (line :: before) ∧
      lineTokens o (before.length + 1) (stateAfter o before) (line.take i) =
        lineTokens o (before.length + 1) (stateAfter o before) line := by
  obtain ⟨hi, hchar⟩ := List.getElem?_eq_some_iff.1 hhash
  obtain ⟨hwindow, hbody⟩ := (isRead_iff o before line).1 hread
  obtain ⟨-, hbody'⟩ := (isRead_iff o before (line.take i)).1 (isRead_take_of_hash hhash hread)
  have hparen' : (line.take i).contains ')' = line.contains ')' := by
    rw [Bool.eq_iff_iff, List.contains_iff_mem, List.contains_iff_mem, hparen]
  have henter : (stateAfter o before).enterLine (o.inWindow (before.length + 1)) (line.take i) =
      (stateAfter o before).enterLine (o.inWindow (before.length + 1)) line := by
    rw [ScanState.enterLine_eq, ScanState.enterLine_eq, ScanState.pending_lookAhead,
      ScanState.pending_lookAhead, ScanState.heredoc_lookAhead, ScanState.heredoc_lookAhead, hbody,
      hbody', hparen', hopens]
  -- the two scans part where the comment starts
  let k := readPart o (before.length + 1) (stateAfter o before) line i
  have hshort : readPart o (before.length + 1) (stateAfter o before) (line.take i)
      (line.take i).length = k := by
    unfold k readPart
    rw [List.take_length, hparen', henter]
  have hlong : readPart o (before.length + 1) (stateAfter o before) line line.length =
      k.run o.escapeMode (before.length + 1) (line.contains ')') ('#' :: line.drop (i + 1)) := by
    rw [readPart_length_eq_run o _ _ line i, List.drop_eq_getElem_cons hi, hchar]
  have hnext : k.state.context.next o.escapeMode k.past '#' = .comment := by
    rw [← LineScan.context_step, ← readPart_succ _ _ _ hhash]
    exact hafter
  have hstart : k.state.context = .code := by
    rw [next_hash] at hnext
    split_ifs at hnext with hcode
    · exact hcode.1
    · exact absurd hnext hbefore
  obtain ⟨hend, htokens⟩ := LineScan.end_of_comment o.escapeMode (before.length + 1)
    (line.contains ')') hstart hnext (line.drop (i + 1))
  rw [stateAfter_cons, stateAfter_cons, (scanLine_of_read hwindow hbody).1,
    (scanLine_of_read hwindow hbody).2, (scanLine_of_read hwindow hbody').1,
    (scanLine_of_read hwindow hbody').2, hshort, hlong]
  exact ⟨hend.symm, htokens.symm⟩

end

/-- A comment starts at the offset `i` of line `n`, counted from one. -/
structure Script.CommentStartsAt (s : Script) (o : ScanOptions) (n i : Nat) : Prop where
  /-- The character is a `#`. -/
  hash : (s.line n).toList[i]? = some '#'
  /-- The scanner is in no comment before it. -/
  before : (s.pointAt o n i).state.context ≠ .comment
  /-- The scanner is in a comment after it. -/
  after : (s.pointAt o n (i + 1)).state.context = .comment

/-- A comment may be taken away: the tokens stay where they are if the line has a `)` and opens a
here-document without its comment as it does with it. -/
theorem Script.tokens_cutLine (s : Script) (o : ScanOptions) (n i : Nat)
    (hcomment : s.CommentStartsAt o n i)
    (hparen : ')' ∈ ((s.cutLine n i).line n).toList ↔ ')' ∈ (s.line n).toList)
    (hopens : Heredoc.openedBy? ((s.cutLine n i).line n).toList =
      Heredoc.openedBy? (s.line n).toList) :
    (s.cutLine n i).tokens o = s.tokens o := by
  obtain ⟨before, line, after, hpieces, rfl⟩ := s.exists_pieces_of_line hcomment.hash
  have hcut := s.pieces_cutLine_of_pieces hpieces i
  obtain ⟨hline, hpoint⟩ := line_pointAt_of_pieces hpieces o
  obtain ⟨hline', -⟩ := line_pointAt_of_pieces hcut o
  obtain ⟨hhash, hbefore, hafter⟩ := hcomment
  rw [hline] at hhash hparen hopens
  rw [hline'] at hparen hopens
  rw [hpoint] at hbefore hafter
  have hread : IsRead o before line := by
    by_contra hskipped
    unfold CommandAudit.pointAt at hbefore hafter
    rw [if_neg hskipped] at hbefore hafter
    exact hbefore hafter
  unfold CommandAudit.pointAt at hbefore hafter
  rw [if_pos hread] at hbefore hafter
  obtain ⟨hstate, htokens⟩ := scanLine_take_of_comment hhash hread hbefore hafter hparen hopens
  have hbelow : tokensAfter o (line.take i :: before) after.reverse =
      tokensAfter o (line :: before) after.reverse :=
    tokensAfter_congr rfl (line.take i :: before) (line :: before) rfl hstate fun _ _ _ => rfl
  rw [tokens_eq_tokensOf, tokens_eq_tokensOf, hpieces, hcut]
  simp only [List.reverse_append, List.reverse_cons, List.reverse_reverse, List.append_assoc,
    List.singleton_append]
  rw [tokensOf_append, tokensOf_append, tokensOf_cons, tokensOf_cons, htokens, hbelow]

/-- A comment directly after `sudo` in a branch of a case statement, with a quote and a command in
it. -/
theorem Script.tokens_cutLine_after_sudo :
    let s : Script := { text := "case $1 in\n a) cd b; sudo# it's `ls`)\n zip;; *) make\nesac" }
    s.CommentStartsAt {} 2 14 ∧
      (s.cutLine 2 14).text = "case $1 in\n a) cd b; sudo\n zip;; *) make\nesac" ∧
      (s.cutLine 2 14).tokens {} = s.tokens {} ∧ s.tokens {} =
        [⟨"case", 1, 1⟩, ⟨"cd", 2, 5⟩, ⟨"sudo", 2, 11⟩, ⟨"make", 3, 11⟩, ⟨"esac", 4, 1⟩] := by
  intro s
  have hcomment : s.CommentStartsAt {} 2 14 := by
    constructor
    all_goals decide +kernel
  refine ⟨hcomment, by decide +kernel, ?_, by decide +kernel⟩
  exact s.tokens_cutLine {} 2 14 hcomment (by decide +kernel) (by decide +kernel)

end CommandAudit
