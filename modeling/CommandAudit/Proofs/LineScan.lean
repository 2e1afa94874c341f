import CommandAudit.Scan
import Mathlib.Data.List.Induction

/-!
# One character of a scan

What `LineScan.step` does, field by field. `LineScan.found` lists the tokens found so far on a
line; a character changes it only by ending a word (`found_step`), the context follows
`Context.next` (`context_step`), and the rest of the state is given by `state_step`, in which
`ScanState.breakAt` ends a word and `ScanState.readCode` reads a character of code.
-/

namespace CommandAudit

/-! ## Words -/

theorem isWordChar_of_isAlpha {c : Char} (h : c.isAlpha = true) : isWordChar c = true := by
  simp [isWordChar, Char.isAlphanum, h]

namespace OpenWord

/-- The word as it stands in the text. -/
def text (w : OpenWord) : String :=
  String.ofList w.chars.reverse

/-- The word belongs to a case pattern and does not end the case statement. -/
def isSkipped (w : OpenWord) : Bool :=
  w.isPattern && w.text != "esac"

theorem isSkipped_iff (w : OpenWord) : w.isSkipped = true ↔ w.isPattern ∧ w.text ≠ "esac" := by
  simp [isSkipped]

end OpenWord

/-! ## Marks -/

/-- A place comes directly after a pipe between two spaces, a semicolon or the start of a command
substitution; `past` is latest first. -/
def afterMark (past : List Char) : Bool :=
  match past with
  | ' ' :: '|' :: ' ' :: _ => true
  | ';' :: _ => true
  | '(' :: '$' :: _ => true
  | '\x60' :: _ => true
  | _ => false

theorem isEmpty_readiness (fresh : Bool) (past : List Char) (c : Char) :
    (!(readiness fresh past c).isEmpty) =
      ((past.head?.all isBlank && fresh && c.isAlpha) || afterMark past) := by
  unfold readiness
  generalize (past.head?.all isBlank && fresh && c.isAlpha) = b
  cases b
  · rw [if_neg Bool.false_ne_true, List.nil_append, Bool.false_or]
    unfold afterMark
    split <;> simp_all
  · rw [if_pos rfl, Bool.true_or]
    rfl

namespace ScanState

/-! ## Ending a word -/

/-- The tokens found by ending the word being read. -/
def closedTokens (s : ScanState) (line : Nat) : List Token :=
  (s.closeWord line).2.filterMap Decision.token?

/-- The state after the word being read, if any, is ended by a character that cannot continue it. -/
def breakAt (s : ScanState) (line : Nat) (c : Char) : ScanState :=
  if isWordChar c then s else (s.closeWord line).1

theorem closeWord_of_none {s : ScanState} (h : s.word = none) (line : Nat) :
    s.closeWord line = (s, []) := by
  simp [closeWord, h]

/-- Ending a word in full: its kept form rests the flags, and a token may change the case block. -/
theorem closeWord_of_some {s : ScanState} {w : OpenWord} (h : s.word = some w) (line : Nat) :
    s.closeWord line =
      if w.isPattern ∧ w.text ≠ "esac" then ({ s with word := none }, [.patternSkipped w.text])
      else
        let rested := { s with word := none, ready := false, fresh := false }
        if w.chars.length ≤ 1 then (rested, [])
        else
          let kept := { rested with wrapped := wrapperWords.contains w.text }
          if w.text = "case" then
            ({ kept with block := .pattern }, [.termFound ⟨w.text, line, w.column⟩, .caseEntered])
          else if w.text = "esac" then
            ({ kept with block := .outside }, [.termFound ⟨w.text, line, w.column⟩, .caseLeft])
          else (kept, [.termFound ⟨w.text, line, w.column⟩]) := by
  simp only [closeWord, h]
  rfl

theorem closeWord_of_skipped {s : ScanState} {w : OpenWord} (h : s.word = some w)
    (hw : w.isSkipped = true) (line : Nat) : (s.closeWord line).1 = { s with word := none } := by
  rw [OpenWord.isSkipped_iff] at hw
  rw [closeWord_of_some h, if_pos hw]

/-- What ending a word that is not skipped does to the state. -/
theorem closeWord_of_kept {s : ScanState} {w : OpenWord} (h : s.word = some w)
    (hw : w.isSkipped = false) (line : Nat) :
    (s.closeWord line).1 = { s with
      word := none
      ready := false
      fresh := false
      wrapped := if w.chars.length ≤ 1 then s.wrapped else wrapperWords.contains w.text
      block := if w.chars.length ≤ 1 then s.block
        else if w.text = "case" then .pattern
        else if w.text = "esac" then .outside
        else s.block } := by
  have hw' : ¬ (w.isPattern ∧ w.text ≠ "esac") := by
    rw [← OpenWord.isSkipped_iff, hw]
    exact Bool.false_ne_true
  rw [closeWord_of_some h, if_neg hw']
  dsimp only
  split_ifs <;> rfl

/-- A kept word changes the case block only if it is `case` or `esac`. -/
theorem block_closeWord_of_kept {s : ScanState} {w : OpenWord} (h : s.word = some w)
    (hw : w.isSkipped = false) (line : Nat) : (s.closeWord line).1.block =
      if w.text = "case" then .pattern else if w.text = "esac" then .outside else s.block := by
  have hshort : w.chars.length ≤ 1 → w.text ≠ "case" ∧ w.text ≠ "esac" := by
    intro hle
    have hlen : w.text.length ≤ 1 := by simpa [OpenWord.text] using hle
    constructor
    all_goals
      intro he
      rw [he] at hlen
      exact absurd hlen (by decide)
  rw [closeWord_of_kept h hw]
  dsimp only
  split_ifs with hle hcase hesac
  · exact absurd hcase (hshort hle).1
  · exact absurd hesac (hshort hle).2
  all_goals rfl

theorem closedTokens_of_none {s : ScanState} (h : s.word = none) (line : Nat) :
    s.closedTokens line = [] := by
  simp [closedTokens, closeWord_of_none h]

/-- A word that is skipped or has one character is no token. -/
theorem closedTokens_of_some {s : ScanState} {w : OpenWord} (h : s.word = some w) (line : Nat) :
    s.closedTokens line =
      if w.isSkipped = true ∨ w.chars.length ≤ 1 then [] else [⟨w.text, line, w.column⟩] := by
  have hiff := w.isSkipped_iff
  unfold closedTokens
  rw [closeWord_of_some h]
  by_cases hw : w.isPattern ∧ w.text ≠ "esac"
  · rw [if_pos hw, if_pos (Or.inl (hiff.2 hw))]
    rfl
  · rw [if_neg hw]
    dsimp only
    by_cases h1 : w.chars.length ≤ 1
    · rw [if_pos h1, if_pos (Or.inr h1)]
      rfl
    · rw [if_neg h1, if_neg (not_or.2 ⟨fun e => hw (hiff.1 e), h1⟩)]
      split_ifs <;> rfl

theorem word_closeWord (s : ScanState) (line : Nat) : (s.closeWord line).1.word = none := by
  rcases h : s.word with _ | w
  · rw [closeWord_of_none h]
    exact h
  · by_cases hw : w.isSkipped = true
    · rw [closeWord_of_skipped h hw]
    · rw [closeWord_of_kept h (by simpa using hw)]

/-- Ending a word changes neither the context nor the here-documents. -/
theorem frame_closeWord (s : ScanState) (line : Nat) :
    (s.closeWord line).1.context = s.context ∧ (s.closeWord line).1.heredoc = s.heredoc ∧
      (s.closeWord line).1.pending = s.pending := by
  rcases h : s.word with _ | w
  · simp [closeWord_of_none h]
  · by_cases hw : w.isSkipped = true
    · simp [closeWord_of_skipped h hw]
    · simp [closeWord_of_kept h (by simpa using hw)]

theorem breakAt_of_none {s : ScanState} (h : s.word = none) (line : Nat) (c : Char) :
    s.breakAt line c = s := by
  unfold breakAt
  rw [closeWord_of_none h, ite_self]

theorem frame_breakAt (s : ScanState) (line : Nat) (c : Char) :
    (s.breakAt line c).context = s.context ∧ (s.breakAt line c).heredoc = s.heredoc ∧
      (s.breakAt line c).pending = s.pending := by
  unfold breakAt
  split_ifs
  · exact ⟨rfl, rfl, rfl⟩
  · exact s.frame_closeWord line

/-! ## A character of code -/

/-- The state after a character that is code. -/
def readCode (s : ScanState) (hasParen : Bool) (past : List Char) (column : Nat) (c : Char) :
    ScanState :=
  ((s.markReady past c).1.trackCase hasParen past c).1.extendWord past column c

/-- Whether the next word is a command once a character of code is read. -/
def readyAt (s : ScanState) (past : List Char) (c : Char) : Bool :=
  s.ready || (past.head?.all isBlank && s.fresh && c.isAlpha) || afterMark past ||
    (s.block == .pattern && c == ')')

/-- The place inside a case statement once a character of code is read. -/
def blockAt (s : ScanState) (hasParen : Bool) (past : List Char) (c : Char) : CaseBlock :=
  match s.block with
  | .outside => .outside
  | .pattern => if c == ')' || !hasParen then .body else .pattern
  | .body => if c == ';' && past.head? == some ';' && hasParen then .pattern else .body

/-- The word being read once a character of code is read. -/
def wordAt (s : ScanState) (hasParen : Bool) (past : List Char) (column : Nat) (c : Char) :
    Option OpenWord :=
  match s.word with
  | some w => some { w with chars := c :: w.chars }
  | none =>
    if c.isAlpha && (s.readyAt past c || s.wrapped) && !past.head?.any disqualifies then
      some ⟨[c], column, decide (s.blockAt hasParen past c = .pattern)⟩
    else none

theorem trackCase_eq (s : ScanState) (hasParen : Bool) (past : List Char) (c : Char) :
    (s.trackCase hasParen past c).1 = { s with
      ready := s.ready || (s.block == .pattern && c == ')')
      block := s.blockAt hasParen past c } := by
  obtain ⟨context, heredoc, pending, block, ready, wrapped, fresh, word⟩ := s
  cases block with
  | outside => simp [trackCase, blockAt]
  | pattern =>
    by_cases hc : c = ')' <;> cases hasParen <;> simp [trackCase, blockAt, hc]
  | body =>
    by_cases hc : (c == ';' && past.head? == some ';' && hasParen) = true <;>
      simp [trackCase, blockAt, hc]

/-- All that a character of code changes. -/
theorem readCode_eq (s : ScanState) (hasParen : Bool) (past : List Char) (column : Nat) (c : Char) :
    s.readCode hasParen past column c = { s with
      ready := s.readyAt past c
      block := s.blockAt hasParen past c
      word := s.wordAt hasParen past column c
      fresh := s.fresh && (s.wordAt hasParen past column c).all (·.isPattern) } := by
  have hready : (s.ready || !(readiness s.fresh past c).isEmpty ||
      (s.block == .pattern && c == ')')) = s.readyAt past c := by
    simp only [isEmpty_readiness, readyAt, Bool.or_assoc]
  unfold readCode
  rw [trackCase_eq]
  rcases h : s.word with _ | w
  · simp only [extendWord, startsWord, markReady, wordAt, h, hready]
    change (if (c.isAlpha && (s.readyAt past c || s.wrapped) && !past.head?.any disqualifies) = true
      then _ else _) = _
    by_cases hc : (c.isAlpha && (s.readyAt past c || s.wrapped) && !past.head?.any disqualifies) = true
    · rw [if_pos hc, if_pos hc]
      rfl
    · rw [if_neg hc, if_neg hc, Option.all_none, Bool.and_true]
      rfl
  · simp only [extendWord, markReady, wordAt, h, hready]
    rfl

end ScanState

namespace LineScan

variable (mode : EscapeMode) (line : Nat) (hasParen : Bool) (k : LineScan) (c : Char)

/-- The tokens found so far on the line, in order. -/
def found (k : LineScan) : List Token :=
  k.taken.reverse.filterMap Decision.token?

theorem found_apply (outcome : ScanState × List Decision) :
    (k.apply outcome).found = k.found ++ outcome.2.filterMap Decision.token? := by
  simp [found, apply]

/-! ## One step -/

theorem past_step : (step mode line hasParen k c).past = c :: k.past := by
  simp only [step, breakWord, readContext, readCode, apply]
  split_ifs <;> rfl

theorem width_step : (step mode line hasParen k c).width = k.width + 1 := by
  simp only [step, breakWord, readContext, readCode, apply]
  split_ifs <;> rfl

/-- A character ends a word, then acts on the context, and is read as code if it leaves code. -/
theorem state_step : (step mode line hasParen k c).state =
    let s := k.state.breakAt line c
    let s := { s with context := k.state.context.next mode k.past c }
    if s.context = .code then s.readCode hasParen k.past (k.width + 1) c else s := by
  have hb : (k.breakWord line c).state = k.state.breakAt line c := by
    unfold breakWord ScanState.breakAt
    split_ifs <;> rfl
  have hp : (k.breakWord line c).past = k.past ∧ (k.breakWord line c).width = k.width := by
    unfold breakWord
    split_ifs <;> exact ⟨rfl, rfl⟩
  obtain ⟨hctx, -, -⟩ := k.state.frame_breakAt line c
  simp only [step, readContext, apply, hb, hp, hctx]
  split_ifs <;> rfl

theorem context_step :
    (step mode line hasParen k c).state.context = k.state.context.next mode k.past c := by
  rw [state_step]
  dsimp only
  split_ifs with h
  · rw [ScanState.readCode_eq]
  · rfl

/-- The word being read after a character is the one before it, left alone outside code and extended
inside it, or it starts with that character. -/
theorem word_step {w : OpenWord} (h : (step mode line hasParen k c).state.word = some w) :
    (k.state.context.next mode k.past c ≠ .code ∧ isWordChar c = true ∧ k.state.word = some w) ∨
      (k.state.context.next mode k.past c = .code ∧
        ((∃ v, isWordChar c = true ∧ k.state.word = some v ∧ w = { v with chars := c :: v.chars }) ∨
          (c.isAlpha = true ∧ w.chars = [c] ∧ w.column = k.width + 1))) := by
  have hb : ∀ v, (k.state.breakAt line c).word = some v →
      isWordChar c = true ∧ k.state.word = some v := by
    intro v hv
    unfold ScanState.breakAt at hv
    split_ifs at hv with hc
    · exact ⟨hc, hv⟩
    · rw [ScanState.word_closeWord] at hv
      exact absurd hv (by simp)
  rw [state_step] at h
  dsimp only at h
  split_ifs at h with hctx
  · refine Or.inr ⟨hctx, ?_⟩
    rw [ScanState.readCode_eq] at h
    simp only [ScanState.wordAt] at h
    rcases hv : (k.state.breakAt line c).word with _ | v
    · rw [hv] at h
      dsimp only at h
      split_ifs at h with hs
      obtain rfl := Option.some.inj h
      simp only [Bool.and_eq_true] at hs
      exact Or.inr ⟨hs.1.1, rfl, rfl⟩
    · rw [hv] at h
      obtain ⟨hc, hv⟩ := hb v hv
      exact Or.inl ⟨v, hc, hv, (Option.some.inj h).symm⟩
  · obtain ⟨hc, hv⟩ := hb w h
    exact Or.inl ⟨hctx, hc, hv⟩

/-- A character changes neither of the here-documents. -/
theorem heredocs_step :
    (step mode line hasParen k c).state.heredoc = k.state.heredoc ∧
      (step mode line hasParen k c).state.pending = k.state.pending := by
  obtain ⟨-, hh, hp⟩ := k.state.frame_breakAt line c
  rw [state_step]
  dsimp only
  split_ifs with h
  · rw [ScanState.readCode_eq]
    exact ⟨hh, hp⟩
  · exact ⟨hh, hp⟩

theorem tokens_contextDecision (column : Nat) (before after : Context) :
    (contextDecision c column before after).filterMap Decision.token? = [] := by
  unfold contextDecision
  split_ifs <;> rfl

theorem tokens_readiness (fresh : Bool) (past : List Char) :
    (readiness fresh past c).filterMap Decision.token? = [] := by
  unfold readiness
  rw [List.filterMap_append]
  split_ifs <;> split <;> rfl

theorem tokens_trackCase (s : ScanState) (past : List Char) :
    (s.trackCase hasParen past c).2.filterMap Decision.token? = [] := by
  unfold ScanState.trackCase
  split
  · rfl
  all_goals split_ifs <;> rfl

/-- Tokens are found only by ending a word. -/
theorem found_step : (step mode line hasParen k c).found =
    k.found ++ if isWordChar c then [] else k.state.closedTokens line := by
  have hb : (k.breakWord line c).found =
      k.found ++ if isWordChar c then [] else k.state.closedTokens line := by
    unfold breakWord
    split_ifs
    · rw [List.append_nil]
    · exact found_apply k _
  have hx : ((k.breakWord line c).readContext mode c).found = (k.breakWord line c).found := by
    unfold readContext
    rw [found_apply, tokens_contextDecision, List.append_nil]
  have hr : ∀ k : LineScan, (k.readCode hasParen c).found = k.found := by
    intro k
    unfold readCode
    change (LineScan.apply _ _).found = _
    rw [found_apply, found_apply, tokens_trackCase, List.append_nil]
    change _ ++ (readiness _ _ _).filterMap _ = _
    rw [tokens_readiness, List.append_nil]
  unfold step
  change (if _ then _ else _ : LineScan).found = _
  by_cases h : ((k.breakWord line c).readContext mode c).state.context = .code
  · rw [if_pos h, hr, hx, hb]
  · rw [if_neg h, hx, hb]

/-! ## A run over the characters of a line -/

variable (text : List Char)

theorem run_append_singleton : run mode line hasParen k (text ++ [c]) =
    step mode line hasParen (run mode line hasParen k text) c := by
  simp [run]

theorem run_append (text' : List Char) : run mode line hasParen k (text ++ text') =
    run mode line hasParen (run mode line hasParen k text) text' := by
  simp [run]

theorem past_run : (run mode line hasParen k text).past = text.reverse ++ k.past := by
  induction text using List.reverseRecOn with
  | nil => rfl
  | append_singleton text c ih => simp [run_append_singleton, past_step, ih]

theorem width_run : (run mode line hasParen k text).width = k.width + text.length := by
  induction text using List.reverseRecOn with
  | nil => rfl
  | append_singleton text c ih =>
    rw [run_append_singleton, width_step, ih, List.length_append]
    rfl

theorem heredocs_run :
    (run mode line hasParen k text).state.heredoc = k.state.heredoc ∧
      (run mode line hasParen k text).state.pending = k.state.pending := by
  induction text using List.reverseRecOn with
  | nil => exact ⟨rfl, rfl⟩
  | append_singleton text c ih =>
    rw [run_append_singleton]
    obtain ⟨hh, hp⟩ := heredocs_step mode line hasParen (run mode line hasParen k text) c
    exact ⟨hh.trans ih.1, hp.trans ih.2⟩

end LineScan

end CommandAudit
