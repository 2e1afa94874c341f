import CommandAudit.Proofs.CommandWord
import CommandAudit.Proofs.LineRest
import Mathlib.Order.Nat

/-!
# The first line of a script

The first line of a script starts ready for a command, and no later line does. So there, and only
there, a word may be a command although neither a blank nor a mark stands in front of it, such as
the `foo` of `(foo)`. `ReadLine.Stray` is such a word, and the two scans of a line, as the first one
(`Waits` with `free`) and as a later one, are compared up to the place where they come to the same
state. They find different tokens exactly if `ReadLine.NumberMatters`: the stray word is long enough
for a token, or it takes the place of a longer word that opens the line
(`ReadLine.tokensFrom_eq_iff`). Then an empty line in front of the script changes more than the
lines of its tokens, and otherwise it does not (`Script.tokens_newline_append_iff`).
-/

namespace CommandAudit

/-! ## Places where a word may start -/

theorem disqualifies_eq_false_of_isBlank {c : Char} (h : isBlank c = true) :
    disqualifies c = false := by
  by_contra hdis
  simp only [disqualifies, Bool.not_eq_false, Bool.or_eq_true, beq_iff_eq, or_assoc] at hdis
  rcases hdis with halnum | rfl | rfl | rfl | rfl | rfl | rfl | rfl | rfl
  · have hword : isWordChar c = true := by simp [isWordChar, halnum]
    rw [isBlank_of_isWordChar hword] at h
    exact absurd h (by simp)
  all_goals exact absurd h (by decide)

namespace ReadLine

variable (l : ReadLine)

/-- A letter of code that is not directly after a character that makes it part of something else. -/
def MayStart (a : Nat) : Prop :=
  l.IsLetter a ∧ (l.before a).head?.any disqualifies = false

instance (a : Nat) : Decidable (l.MayStart a) :=
  inferInstanceAs (Decidable (_ ∧ _))

/-- A mark stands before a place of code at or before the offset `a`. -/
def Marked (a : Nat) : Prop :=
  ∃ q ≤ a, l.FollowsMark q

/-- The word that begins at the offset `a` has more than one character. -/
def IsLong (a : Nat) : Prop :=
  l.text[a + 1]?.any isWordChar = true

/-- A word starts at the offset `a` if nothing is kept before: it needs a mark, unless the scan is
free, or a blank, if the scan is fresh. -/
def StartsAt (free fresh : Bool) (a : Nat) : Prop :=
  l.MayStart a ∧ (free = true ∨ l.Marked a ∨ fresh = true ∧ l.OpensLine [] a)

variable {l} {a b i j : Nat} {free fresh : Bool}

theorem Marked.mono (h : l.Marked a) (hab : a ≤ b) : l.Marked b := by
  obtain ⟨q, hq, hmark⟩ := h
  exact ⟨q, by omega, hmark⟩

theorem StartsAt.of_fresh (h : l.StartsAt free fresh a) : l.StartsAt free true a := by
  obtain ⟨hmay, hfree | hmarked | ⟨-, hopens⟩⟩ := h
  · exact ⟨hmay, Or.inl hfree⟩
  · exact ⟨hmay, Or.inr (Or.inl hmarked)⟩
  · exact ⟨hmay, Or.inr (Or.inr ⟨rfl, hopens⟩)⟩

theorem StartsAt.marked (h : l.StartsAt false false a) : l.Marked a := by
  obtain ⟨-, hfree | hmarked | ⟨hfresh, -⟩⟩ := h
  · exact absurd hfree (by simp)
  · exact hmarked
  · exact absurd hfresh (by simp)

theorem mayStart_of_opensLine (h : l.OpensLine [] a) : l.MayStart a := by
  refine ⟨h.2.1, ?_⟩
  have hblank := h.2.2
  rcases hhead : (l.before a).head? with _ | c
  · rfl
  · rw [hhead, Option.all_some] at hblank
    rw [Option.any_some]
    exact disqualifies_eq_false_of_isBlank hblank

theorem lt_length_of_isLetter (h : l.IsLetter a) : a < l.text.length := by
  by_contra hge
  have hletter := h.1
  rw [List.getElem?_eq_none (by omega)] at hletter
  exact absurd hletter (by simp)

/-! ## A scan that reads no word -/

/-- The state of a scan that has found no token on its first line and reads no word. -/
def idle (pending : Option Heredoc) (context : Context) (ready fresh : Bool) : ScanState :=
  { context, pending, ready, fresh }

/-- An idle scan at a character of code either starts a word or goes on idly. -/
theorem readCode_idle (pending : Option Heredoc) (context : Context) (ready fresh hasParen : Bool)
    (past : List Char) (column : Nat) (c : Char) :
    (idle pending context ready fresh).readCode hasParen past column c =
      let ready' := ready || (past.head?.all isBlank && fresh && c.isAlpha) || afterMark past
      if (c.isAlpha && ready' && !past.head?.any disqualifies) = true then
        { idle pending context ready' false with word := some ⟨[c], column, false⟩ }
      else idle pending context ready' fresh := by
  have hready : (idle pending context ready fresh).readyAt past c =
      (ready || (past.head?.all isBlank && fresh && c.isAlpha) || afterMark past) :=
    Bool.or_false _
  have hword : (idle pending context ready fresh).wordAt hasParen past column c =
      if (c.isAlpha && (idle pending context ready fresh).readyAt past c &&
        !past.head?.any disqualifies) = true then some ⟨[c], column, false⟩ else none := by
    have hwrapped : ((idle pending context ready fresh).readyAt past c || false) =
        (idle pending context ready fresh).readyAt past c := Bool.or_false _
    conv_rhs => rw [← hwrapped]
    rfl
  rw [ScanState.readCode_eq, hword, hready]
  dsimp only
  split_ifs
  · rw [Option.all_some, Bool.and_false]
    rfl
  · rw [Option.all_none, Bool.and_true]
    rfl

/-- After `i` characters the scan has found no token and reads no word. A free scan takes the next
word in any case, a fresh one takes it after a blank, and both take it after a mark. -/
structure Waits (l : ReadLine) (pending : Option Heredoc) (free fresh : Bool) (i : Nat)
    (k : LineScan) : Prop where
  /-- The scan remembers whether there was a mark. -/
  state_eq : ∃ ready, k.state = idle pending (l.context i) ready fresh ∧
    (ready = true ↔ free = true ∨ ∃ q < i, l.FollowsMark q)
  /-- The characters read. -/
  past_eq : k.past = l.before i
  /-- Their number. -/
  width_eq : k.width = i
  /-- No token is found. -/
  found_eq : k.found = []

/-- After `a + 1` characters the scan has found no token and reads a word that begins with the last
of them. How the word came to start plays no part any more. -/
structure Begins (l : ReadLine) (pending : Option Heredoc) (a : Nat) (k : LineScan) : Prop where
  /-- The word is the character at the offset `a`. -/
  state_eq : ∃ c, l.text[a]? = some c ∧
    k.state = { idle pending .code true false with word := some ⟨[c], a + 1, false⟩ }
  /-- The characters read. -/
  past_eq : k.past = l.before (a + 1)
  /-- Their number. -/
  width_eq : k.width = a + 1
  /-- No token is found. -/
  found_eq : k.found = []

variable {pending : Option Heredoc} {k k' : LineScan}

theorem marked_iff : l.Marked i ↔ (∃ q < i, l.FollowsMark q) ∨ l.FollowsMark i := by
  constructor
  · rintro ⟨q, hq, hmark⟩
    rcases Nat.lt_or_eq_of_le hq with hlt | rfl
    · exact Or.inl ⟨q, hlt, hmark⟩
    · exact Or.inr hmark
  · rintro (⟨q, hq, hmark⟩ | hmark)
    · exact ⟨q, Nat.le_of_lt hq, hmark⟩
    · exact ⟨i, Nat.le_refl i, hmark⟩

namespace Waits

variable {c : Char} (n : Nat)

theorem word_eq (h : l.Waits pending free fresh i k) : k.state.word = none := by
  obtain ⟨ready, hstate, -⟩ := h.state_eq
  rw [hstate]
  rfl

theorem frame_step (h : l.Waits pending free fresh i k) (hc : l.text[i]? = some c) :
    (k.step l.mode n (l.text.contains ')') c).past = l.before (i + 1) ∧
      (k.step l.mode n (l.text.contains ')') c).width = i + 1 ∧
      (k.step l.mode n (l.text.contains ')') c).found = [] := by
  rw [LineScan.past_step, LineScan.width_step, LineScan.found_step, h.past_eq, h.width_eq,
    h.found_eq, before_succ hc, ScanState.closedTokens_of_none h.word_eq, ite_self]
  exact ⟨rfl, rfl, rfl⟩

/-- The state after a character: idle, unless a word starts. -/
theorem state_step (h : l.Waits pending free fresh i k) (hc : l.text[i]? = some c) :
    ∃ ready, (ready = true ↔ free = true ∨ l.Marked i ∨ fresh = true ∧ l.OpensLine [] i) ∧
      (k.step l.mode n (l.text.contains ')') c).state =
        if l.MayStart i ∧ ready = true then
          { idle pending .code true false with word := some ⟨[c], i + 1, false⟩ }
        else idle pending (l.context (i + 1)) ready fresh := by
  obtain ⟨ready, hstate, hready⟩ := h.state_eq
  have hcontext : k.state.context.next l.mode k.past c = l.context (i + 1) := by
    rw [context_succ hc, hstate, h.past_eq]
    rfl
  rw [LineScan.state_step, ScanState.breakAt_of_none h.word_eq, hcontext, h.past_eq, h.width_eq,
    hstate]
  by_cases hcode : l.context (i + 1) = .code
  · have hletter : l.IsLetter i ↔ c.isAlpha = true := by
      unfold IsLetter
      rw [hc, Option.any_some]
      exact and_iff_left hcode
    have hmark : l.FollowsMark i ↔ afterMark (l.before i) = true := and_iff_left hcode
    generalize hready' : (ready || ((l.before i).head?.all isBlank && fresh && c.isAlpha) ||
      afterMark (l.before i)) = ready'
    refine ⟨ready', ?_, ?_⟩
    · rw [← hready', marked_iff, hmark, OpensLine, hletter]
      generalize (∃ q < i, l.FollowsMark q) = marked at hready ⊢
      simp only [Bool.or_eq_true, Bool.and_eq_true, hready, true_and]
      grind
    · have hstarts : (c.isAlpha && ready' && !(l.before i).head?.any disqualifies) = true ↔
          l.MayStart i ∧ ready' = true := by
        unfold MayStart
        simp only [Bool.and_eq_true, Bool.not_eq_true', hletter, and_right_comm]
      have hread := readCode_idle pending .code ready fresh (l.text.contains ')') (l.before i)
        (i + 1) c
      simp only [hready', hstarts] at hread
      dsimp only
      rw [if_pos hcode, hcode]
      refine hread.trans ?_
      split_ifs with hstart
      · rw [hstart.2]
      · rfl
  · have hmark : ¬ l.FollowsMark i := fun hmark => hcode hmark.2
    have hstart : ¬ (l.MayStart i ∧ ready = true) := fun hstart => hcode hstart.1.1.2
    have hopens : ¬ l.OpensLine [] i := fun hopens => hcode hopens.2.1.2
    refine ⟨ready, ?_, ?_⟩
    · rw [hready, marked_iff]
      simp only [hmark, hopens, and_false, or_false]
    · dsimp only
      rw [if_neg hcode, if_neg hstart]
      rfl

/-- A character at which no word starts. -/
theorem step (h : l.Waits pending free fresh i k) (hc : l.text[i]? = some c)
    (hstart : ¬ l.StartsAt free fresh i) :
    l.Waits pending free fresh (i + 1) (k.step l.mode n (l.text.contains ')') c) := by
  obtain ⟨ready, hready, hstate⟩ := h.state_step n hc
  obtain ⟨hpast, hwidth, hfound⟩ := h.frame_step n hc
  rw [if_neg fun hs => hstart ⟨hs.1, hready.1 hs.2⟩] at hstate
  have hopens : ¬ (fresh = true ∧ l.OpensLine [] i) := fun hopens =>
    hstart ⟨mayStart_of_opensLine hopens.2, Or.inr (Or.inr hopens)⟩
  refine ⟨⟨ready, hstate, ?_⟩, hpast, hwidth, hfound⟩
  rw [hready, or_iff_left hopens]
  unfold Marked
  simp only [Nat.lt_succ_iff]

/-- A character at which a word starts. -/
theorem begin (h : l.Waits pending free fresh a k) (hc : l.text[a]? = some c)
    (hstart : l.StartsAt free fresh a) :
    l.Begins pending a (k.step l.mode n (l.text.contains ')') c) := by
  obtain ⟨ready, hready, hstate⟩ := h.state_step n hc
  obtain ⟨hpast, hwidth, hfound⟩ := h.frame_step n hc
  rw [if_pos ⟨hstart.1, hready.2 hstart.2⟩] at hstate
  exact ⟨⟨c, hc, hstate⟩, hpast, hwidth, hfound⟩

end Waits

/-! ## The rest of the line -/

/-- The tokens of the line `n` from the offset `i` on. -/
def tokensFrom (l : ReadLine) (n i : Nat) (k : LineScan) : List Token :=
  k.tokensAtEnd l.mode n (l.text.contains ')') (l.text.drop i)

namespace Waits

variable (n : Nat)

/-- Where no word starts the scan goes on waiting. -/
theorem exists_of_le (h : l.Waits pending free fresh i k) (hij : i ≤ j) (hj : j ≤ l.text.length)
    (hstart : ∀ m, i ≤ m → m < j → ¬ l.StartsAt free fresh m) :
    ∃ k', l.Waits pending free fresh j k' ∧ l.tokensFrom n i k = l.tokensFrom n j k' := by
  induction j, hij using Nat.le_induction with
  | base => exact ⟨k, h, rfl⟩
  | succ j hij ih =>
    obtain ⟨k', hk', htokens⟩ := ih (by omega) fun m hm hm' => hstart m hm (by omega)
    have hc := List.getElem?_eq_getElem (l := l.text) (i := j) (by omega)
    refine ⟨_, hk'.step n hc (hstart j hij (by omega)), htokens.trans ?_⟩
    unfold tokensFrom
    rw [List.drop_eq_getElem_cons (by omega : j < l.text.length), LineScan.tokensAtEnd_cons]

theorem exists_begins (h : l.Waits pending free fresh i k) (hia : i ≤ a)
    (ha : l.StartsAt free fresh a) (hstart : ∀ m, i ≤ m → m < a → ¬ l.StartsAt free fresh m) :
    ∃ k', l.Begins pending a k' ∧ l.tokensFrom n i k = l.tokensFrom n (a + 1) k' := by
  have hlt := lt_length_of_isLetter ha.1.1
  obtain ⟨k', hk', htokens⟩ := h.exists_of_le n hia (Nat.le_of_lt hlt) hstart
  refine ⟨_, hk'.begin n (List.getElem?_eq_getElem hlt) ha, htokens.trans ?_⟩
  unfold tokensFrom
  rw [List.drop_eq_getElem_cons hlt, LineScan.tokensAtEnd_cons]

theorem tokensFrom_eq_nil (h : l.Waits pending free fresh i k) (hi : i ≤ l.text.length)
    (hstart : ∀ m, i ≤ m → ¬ l.StartsAt free fresh m) : l.tokensFrom n i k = [] := by
  obtain ⟨k', hk', htokens⟩ := h.exists_of_le n hi (Nat.le_refl _) fun m hm _ => hstart m hm
  rw [htokens]
  unfold tokensFrom
  rw [List.drop_length, LineScan.tokensAtEnd_nil, hk'.found_eq,
    ScanState.closedTokens_of_none hk'.word_eq, List.append_nil]

theorem lt_column (h : l.Waits pending free fresh i k) {t : Token} (ht : t ∈ l.tokensFrom n i k) :
    i < t.column := by
  refine LineScan.column_of_mem_tokensAtEnd (Nat.le_of_eq h.width_eq.symm) ?_ ?_ ht
  · intro w hw
    rw [h.word_eq] at hw
    exact absurd hw (by simp)
  · intro t ht
    rw [h.found_eq] at ht
    exact absurd ht List.not_mem_nil

/-- Two scans that wait alike find the same tokens. -/
theorem tokensFrom_eq (h : l.Waits pending free fresh i k) (h' : l.Waits pending free fresh i k')
    (d : Nat) : l.tokensFrom (n + d) i k = (l.tokensFrom n i k').map (Token.moveDown d) := by
  obtain ⟨ready, hstate, hready⟩ := h.state_eq
  obtain ⟨ready', hstate', hready'⟩ := h'.state_eq
  have heq : ready = ready' := by rw [Bool.eq_iff_iff, hready, hready']
  apply LineScan.tokensAtEnd_add
  · rw [hstate, hstate', heq]
  · rw [h.past_eq, h'.past_eq]
  · rw [h.width_eq, h'.width_eq]
  · rw [h.found_eq, h'.found_eq]
    rfl

end Waits

namespace Begins

variable (n : Nat)

/-- Two scans that begin the same word find the same tokens. -/
theorem tokensFrom_eq (h : l.Begins pending a k) (h' : l.Begins pending a k') (d : Nat) :
    l.tokensFrom (n + d) (a + 1) k = (l.tokensFrom n (a + 1) k').map (Token.moveDown d) := by
  obtain ⟨c, hc, hstate⟩ := h.state_eq
  obtain ⟨c', hc', hstate'⟩ := h'.state_eq
  obtain rfl : c = c' := Option.some.inj (hc.symm.trans hc')
  apply LineScan.tokensAtEnd_add
  · rw [hstate, hstate']
  · rw [h.past_eq, h'.past_eq]
  · rw [h.width_eq, h'.width_eq]
  · rw [h.found_eq, h'.found_eq]
    rfl

/-- A word of one character is no token, and no word is read any more. -/
theorem waits_close (h : l.Begins pending a k) (hletter : l.IsLetter a) (hshort : ¬ l.IsLong a)
    (hmarked : ¬ l.Marked a) : l.Waits pending false false (a + 1) (k.close n) ∧
      l.tokensFrom n (a + 1) k = l.tokensFrom n (a + 1) (k.close n) := by
  obtain ⟨c, hc, hstate⟩ := h.state_eq
  have hword : k.state.word = some ⟨[c], a + 1, false⟩ := by rw [hstate]
  refine ⟨⟨⟨false, ?_, ?_⟩, h.past_eq, h.width_eq, ?_⟩, ?_⟩
  · change (k.state.closeWord n).1 = _
    rw [ScanState.closeWord_of_kept hword rfl, hstate, hletter.2]
    rfl
  · simp only [Bool.false_eq_true, false_or, false_iff, Nat.lt_succ_iff]
    exact hmarked
  · rw [LineScan.found_close, h.found_eq, ScanState.closedTokens_of_some hword]
    rfl
  · unfold tokensFrom
    rw [LineScan.tokensAtEnd_close]
    rw [List.head?_drop]
    simpa [IsLong] using hshort

/-- A longer word is a token. -/
theorem exists_token (h : l.Begins pending a k) (hlong : l.IsLong a) :
    ∃ t ∈ l.tokensFrom n (a + 1) k, t.column = a + 1 := by
  obtain ⟨c, -, hstate⟩ := h.state_eq
  obtain ⟨c', hc', hword⟩ := (Option.any_eq_true ..).1 hlong
  obtain ⟨hlt, rfl⟩ := List.getElem?_eq_some_iff.1 hc'
  have hbegun : k.state.word = some ⟨[c], a + 1, false⟩ := by rw [hstate]
  have hcode : k.state.context = .code := by rw [hstate]; rfl
  obtain ⟨hword', hcode'⟩ := LineScan.word_step_of_word l.mode n (l.text.contains ')') hbegun
    hcode hword
  unfold tokensFrom
  rw [List.drop_eq_getElem_cons hlt, LineScan.tokensAtEnd_cons]
  exact LineScan.exists_token_of_word hword' hcode' rfl (Nat.le_refl 2) _

/-- No token begins there if no word is read. -/
theorem columns_ne (h : l.Begins pending a k) (hlong : l.IsLong a)
    (h' : l.Waits pending free fresh (a + 1) k') (n' : Nat) :
    (l.tokensFrom n (a + 1) k).map Token.column ≠
      (l.tokensFrom n' (a + 1) k').map Token.column := by
  obtain ⟨t, ht, hcolumn⟩ := h.exists_token n hlong
  intro heq
  have hmem : t.column ∈ (l.tokensFrom n' (a + 1) k').map Token.column := by
    rw [← heq]
    exact List.mem_map_of_mem ht
  obtain ⟨t', ht', hcolumn'⟩ := List.mem_map.1 hmem
  have hlater := h'.lt_column n' ht'
  omega

end Begins

/-! ## The first line and a later one -/

/-- The first word of the line has neither a blank nor a mark in front of it. -/
def Stray (l : ReadLine) (a : Nat) : Prop :=
  IsLeast {a | l.MayStart a} a ∧ ¬ l.OpensLine [] a ∧ ¬ l.Marked a

/-- A line that starts with a stray word. It is a token of the first line if it has two characters
or more; if it has one, then on the first line it still takes the place of the word that opens the
line. -/
def NumberMatters (l : ReadLine) : Prop :=
  ∃ a, l.Stray a ∧ (l.IsLong a ∨
    ∃ b, IsLeast {b | l.OpensLine [] b} b ∧ ¬ l.Marked b ∧ l.IsLong b)

theorem columns_moveDown (d : Nat) (tokens : List Token) :
    (tokens.map (Token.moveDown d)).map Token.column = tokens.map Token.column := by
  rw [List.map_map]
  rfl

/-- A stray word does not start on a later line, nor does any word before it. -/
theorem Stray.not_startsAt (h : l.Stray a) {m : Nat} (hm : m ≤ a) : ¬ l.StartsAt false true m := by
  obtain ⟨ha, hopens, hmarked⟩ := h
  rintro ⟨hmay, hfree | hmark | ⟨-, hopens'⟩⟩
  · exact absurd hfree (by simp)
  · exact hmarked (hmark.mono hm)
  · obtain rfl : m = a := Nat.le_antisymm hm (ha.2 hmay)
    exact hopens hopens'

section

variable {n : Nat} (hfree : l.Waits pending true true 0 k)
  (hbound : l.Waits pending false true 0 k')
include hfree hbound

/-- If the first word starts on any line, the two scans find the same tokens. -/
theorem tokensFrom_eq_of_not_stray (hstray : ∀ a, ¬ l.Stray a) :
    l.tokensFrom (n + 1) 0 k' = (l.tokensFrom n 0 k).map (Token.moveDown 1) := by
  by_cases hany : ∃ a, l.MayStart a
  · obtain ⟨a, ha⟩ : ∃ a, IsLeast {a | l.MayStart a} a := ⟨_, Nat.isLeast_find hany⟩
    have hnone : ∀ free m, 0 ≤ m → m < a → ¬ l.StartsAt free true m := fun _ m _ hm hs =>
      absurd (ha.2 hs.1) (by omega)
    have hstart : l.Marked a ∨ l.OpensLine [] a := by
      by_contra hnot
      obtain ⟨hmarked, hopens⟩ := not_or.1 hnot
      exact hstray a ⟨ha, hopens, hmarked⟩
    obtain ⟨k₁, hk₁, htokens⟩ := hfree.exists_begins n (Nat.zero_le a) ⟨ha.1, Or.inl rfl⟩ (hnone _)
    obtain ⟨k₂, hk₂, htokens'⟩ := hbound.exists_begins (n + 1) (Nat.zero_le a)
      ⟨ha.1, Or.inr (hstart.imp_right fun h => ⟨rfl, h⟩)⟩ (hnone _)
    rw [htokens, htokens']
    exact hk₂.tokensFrom_eq n hk₁ 1
  · have hnone : ∀ free m, 0 ≤ m → ¬ l.StartsAt free true m := fun _ m _ hs => hany ⟨m, hs.1⟩
    rw [hfree.tokensFrom_eq_nil n (Nat.zero_le _) (hnone _),
      hbound.tokensFrom_eq_nil (n + 1) (Nat.zero_le _) (hnone _)]
    rfl

/-- A stray word of two characters or more is a token of the first line only. -/
theorem tokensFrom_ne_of_long (hstray : l.Stray a) (hlong : l.IsLong a) :
    l.tokensFrom (n + 1) 0 k' ≠ (l.tokensFrom n 0 k).map (Token.moveDown 1) := by
  have ha := hstray.1
  obtain ⟨k₁, hk₁, htokens⟩ := hfree.exists_begins n (Nat.zero_le a) ⟨ha.1, Or.inl rfl⟩
    fun m _ hm hs => absurd (ha.2 hs.1) (by omega)
  obtain ⟨k₂, hk₂, htokens'⟩ := hbound.exists_of_le (n + 1) (Nat.zero_le (a + 1))
    (lt_length_of_isLetter ha.1.1) fun m _ hm => hstray.not_startsAt (by omega)
  intro heq
  have hcolumns := congrArg (List.map Token.column) heq
  rw [columns_moveDown, htokens, htokens'] at hcolumns
  exact hk₁.columns_ne n hlong hk₂ (n + 1) hcolumns.symm

omit hbound in
/-- After a stray word of one character only a mark starts a word on the first line. -/
theorem exists_waits_of_stray (hstray : l.Stray a) (hshort : ¬ l.IsLong a) :
    ∃ k₁, l.Waits pending false false (a + 1) k₁ ∧
      l.tokensFrom n 0 k = l.tokensFrom n (a + 1) k₁ := by
  obtain ⟨ha, -, hmarked⟩ := hstray
  obtain ⟨k₁, hk₁, htokens⟩ := hfree.exists_begins n (Nat.zero_le a) ⟨ha.1, Or.inl rfl⟩
    fun m _ hm hs => absurd (ha.2 hs.1) (by omega)
  obtain ⟨hwaits, hclose⟩ := hk₁.waits_close n ha.1.1 hshort hmarked
  exact ⟨_, hwaits, htokens.trans hclose⟩

/-- After a stray word of one character a longer word that opens the line is a token of a later line
only. -/
theorem tokensFrom_ne_of_short (hstray : l.Stray a) (hshort : ¬ l.IsLong a)
    (hb : IsLeast {b | l.OpensLine [] b} b) (hmarked : ¬ l.Marked b) (hlong : l.IsLong b) :
    l.tokensFrom (n + 1) 0 k' ≠ (l.tokensFrom n 0 k).map (Token.moveDown 1) := by
  have hstart : l.StartsAt false true b :=
    ⟨mayStart_of_opensLine hb.1, Or.inr (Or.inr ⟨rfl, hb.1⟩)⟩
  have hab : a < b := by
    by_contra hle
    exact hstray.not_startsAt (by omega) hstart
  obtain ⟨k₁, hk₁, htokens⟩ := exists_waits_of_stray (n := n) hfree hstray hshort
  obtain ⟨k₂, hk₂, htokens₂⟩ := hk₁.exists_of_le n (by omega : a + 1 ≤ b + 1)
    (lt_length_of_isLetter hstart.1.1) fun m _ hm hs => hmarked (hs.marked.mono (by omega))
  have hnone : ∀ m, 0 ≤ m → m < b → ¬ l.StartsAt false true m := by
    rintro m - hm ⟨-, hfree | hmark | ⟨-, hopens⟩⟩
    · exact absurd hfree (by simp)
    · exact hmarked (hmark.mono (by omega))
    · exact absurd (hb.2 hopens) (by omega)
  obtain ⟨k₃, hk₃, htokens'⟩ := hbound.exists_begins (n + 1) (Nat.zero_le b) hstart hnone
  intro heq
  have hcolumns := congrArg (List.map Token.column) heq
  rw [columns_moveDown, htokens, htokens₂, htokens'] at hcolumns
  exact hk₃.columns_ne (n + 1) hlong hk₂ n hcolumns

/-- After a stray word of one character the two scans find the same tokens, unless a longer word
opens the line. -/
theorem tokensFrom_eq_of_short (hstray : l.Stray a) (hshort : ¬ l.IsLong a)
    (hopens : ∀ b, IsLeast {b | l.OpensLine [] b} b → ¬ l.Marked b → ¬ l.IsLong b) :
    l.tokensFrom (n + 1) 0 k' = (l.tokensFrom n 0 k).map (Token.moveDown 1) := by
  have hlt := lt_length_of_isLetter hstray.1.1.1
  obtain ⟨k₁, hk₁, htokens⟩ := exists_waits_of_stray (n := n) hfree hstray hshort
  by_cases hany : ∃ b, l.StartsAt false true b
  · obtain ⟨b, hb⟩ : ∃ b, IsLeast {b | l.StartsAt false true b} b := by
      classical
      exact ⟨_, Nat.isLeast_find hany⟩
    have hnone : ∀ m, m < b → ¬ l.StartsAt false true m := fun m hm hs =>
      absurd (hb.2 hs) (by omega)
    have hab : a < b := by
      by_contra hle
      exact hstray.not_startsAt (by omega) hb.1
    obtain ⟨k₂, hk₂, htokens'⟩ := hbound.exists_begins (n + 1) (Nat.zero_le b) hb.1
      fun m _ hm => hnone m hm
    by_cases hmarked : l.Marked b
    · -- the mark starts the word on both lines
      obtain ⟨k₃, hk₃, htokens₃⟩ := hk₁.exists_begins n hab ⟨hb.1.1, Or.inr (Or.inl hmarked)⟩
        fun m _ hm hs => hnone m hm hs.of_fresh
      rw [htokens, htokens₃, htokens']
      exact hk₂.tokensFrom_eq n hk₃ 1
    · -- the word opens the line, but it is short as well
      have hleast : IsLeast {b | l.OpensLine [] b} b := by
        obtain ⟨-, hfree | hmark | ⟨-, hopens⟩⟩ := hb.1
        · exact absurd hfree (by simp)
        · exact absurd hmark hmarked
        · exact ⟨hopens, fun m hm => hb.2 ⟨mayStart_of_opensLine hm, Or.inr (Or.inr ⟨rfl, hm⟩)⟩⟩
      obtain ⟨hwaits, hclose⟩ := hk₂.waits_close (n + 1) hb.1.1.1 (hopens b hleast hmarked) hmarked
      obtain ⟨k₃, hk₃, htokens₃⟩ := hk₁.exists_of_le n (by omega : a + 1 ≤ b + 1)
        (lt_length_of_isLetter hb.1.1.1) fun m _ hm hs => hmarked (hs.marked.mono (by omega))
      rw [htokens, htokens₃, htokens', hclose]
      exact hwaits.tokensFrom_eq n hk₃ 1
  · rw [htokens, hk₁.tokensFrom_eq_nil n hlt fun m _ hs => hany ⟨m, hs.of_fresh⟩,
      hbound.tokensFrom_eq_nil (n + 1) (Nat.zero_le _) fun m _ hs => hany ⟨m, hs⟩]
    rfl

/-- The tokens of the two scans differ exactly if the number of the line matters. -/
theorem tokensFrom_eq_iff :
    l.tokensFrom (n + 1) 0 k' = (l.tokensFrom n 0 k).map (Token.moveDown 1) ↔
      ¬ l.NumberMatters := by
  constructor
  · rintro heq ⟨a, hstray, hlong | ⟨b, hb, hmarked, hlong⟩⟩
    · exact tokensFrom_ne_of_long hfree hbound hstray hlong heq
    · by_cases hlong' : l.IsLong a
      · exact tokensFrom_ne_of_long hfree hbound hstray hlong' heq
      · exact tokensFrom_ne_of_short hfree hbound hstray hlong' hb hmarked hlong heq
  · intro hnot
    by_cases hany : ∃ a, l.Stray a
    · obtain ⟨a, hstray⟩ := hany
      apply tokensFrom_eq_of_short hfree hbound hstray
      · intro hlong
        exact hnot ⟨a, hstray, Or.inl hlong⟩
      · intro b hb hmarked hlong
        exact hnot ⟨a, hstray, Or.inr ⟨b, hb, hmarked, hlong⟩⟩
    · exact tokensFrom_eq_of_not_stray hfree hbound (not_exists.1 hany)

end

end ReadLine

/-! ## An empty line in front -/

attribute [ext] ScanState

theorem stateAfter_empty_line (o : ScanOptions) : stateAfter o [[]] = ScanState.endLine {} := by
  change (scanLine o 1 {} []).1.endLine = _
  unfold scanLine
  cases o.inWindow 1 <;> rfl

theorem caseLeftOpen_moveDown (d : Nat) (tokens : List Token) :
    caseLeftOpen (tokens.map (Token.moveDown d)) = caseLeftOpen tokens := by
  unfold caseLeftOpen
  rw [← List.map_reverse, List.find?_map, Option.any_map]
  rfl

/-- The tokens on the first lines are those of these lines alone. -/
theorem filter_tokensOf_append (o : ScanOptions) (before lines : List (List Char)) :
    (tokensOf o (lines ++ before)).filter (·.line ≤ before.length) = tokensOf o before := by
  rw [tokensOf_append, List.filter_append, List.filter_eq_self.2, List.filter_eq_nil_iff.2,
    List.append_nil]
  · intro t ht
    simpa using (line_of_mem_tokensAfter ht).1
  · intro t ht
    simpa using (line_of_mem_tokensOf ht).2

section

variable {o : ScanOptions} (line : List Char)

/-- A line that is entered with no here-document open. -/
theorem lineTokens_eq_tokensFrom {n : Nat} {s : ScanState} (hread : o.inWindow n = true)
    (hwaiting : s.waiting = none) : lineTokens o n s line =
      (readLine o [] [] line).tokensFrom n 0 { state := s.enterLine (o.inWindow n) line } := by
  refine LineScan.lineTokens_eq_tokensAtEnd hread ?_
  rw [hwaiting]
  rfl

variable (hread : ∀ n, o.inWindow n = true)
include hread

/-- The first line of a script gives the same tokens after an empty line exactly if the number of
the line does not matter. -/
theorem tokensOf_empty_line_iff :
    tokensOf o [line, []] = (tokensOf o [line]).map (Token.moveDown 1) ↔
      ¬ (readLine o [] [] line).NumberMatters := by
  have hone : tokensOf o [line] = (readLine o [] [] line).tokensFrom 1 0
      { state := ScanState.enterLine {} true line } := by
    have hline := lineTokens_eq_tokensFrom line (s := {}) (hread 1) rfl
    rw [hread 1] at hline
    rw [tokensOf_cons, tokensOf_nil, List.nil_append]
    exact hline
  have htwo : tokensOf o [line, []] = (readLine o [] [] line).tokensFrom 2 0
      { state := (ScanState.endLine {}).enterLine true line } := by
    have hline := lineTokens_eq_tokensFrom line (s := ScanState.endLine {}) (hread 2) rfl
    rw [hread 2] at hline
    rw [tokensOf_cons, tokensOf_cons, tokensOf_nil, lineTokens_of_nil, List.nil_append,
      List.nil_append, stateAfter_empty_line]
    exact hline
  have hfree : (readLine o [] [] line).Waits (Heredoc.openedBy? line) true true 0
      { state := ScanState.enterLine {} true line } := ⟨⟨true, rfl, by simp⟩, rfl, rfl, rfl⟩
  have hbound : (readLine o [] [] line).Waits (Heredoc.openedBy? line) false true 0
      { state := (ScanState.endLine {}).enterLine true line } :=
    ⟨⟨false, rfl, by simp⟩, rfl, rfl, rfl⟩
  rw [hone, htwo]
  exact ReadLine.tokensFrom_eq_iff hfree hbound

theorem startContext_empty_line_cons : startContext o [line, []] = startContext o [line] := by
  have hread₁ : IsRead o [] line := ⟨hread 1, rfl⟩
  have hread₂ : IsRead o [[]] line := by
    refine (isRead_iff o [[]] line).2 ⟨hread 2, ?_⟩
    rw [stateAfter_empty_line]
    rfl
  have hcode : startContext o [[]] = startContext o [] := by
    rw [← context_stateAfter, stateAfter_empty_line]
    rfl
  have hstart : ∀ {before}, IsRead o before line → startContext o (line :: before) =
      let context := contextAfter o.escapeMode (startContext o before) line.reverse
      if context = .comment then .code else context := by
    intro before hread
    rw [startContext, if_pos hread]
  rw [hstart hread₁, hstart hread₂, hcode]

/-- If a line has the same tokens after an empty line, then it also leaves the same state. -/
theorem stateAfter_empty_line_cons
    (htokens : tokensOf o [line, []] = (tokensOf o [line]).map (Token.moveDown 1)) :
    stateAfter o [line, []] = stateAfter o [line] := by
  have hone : stateAfter o [line] = (scanLine o 1 {} line).1.endLine := stateAfter_cons o line []
  have htwo : stateAfter o [line, []] = (scanLine o 2 (ScanState.endLine {}) line).1.endLine := by
    rw [← stateAfter_empty_line o]
    exact stateAfter_cons o line [[]]
  apply ScanState.ext
  · rw [context_stateAfter, context_stateAfter, startContext_empty_line_cons line hread]
  · rw [hone, htwo]
    change (scanLine ..).1.heredoc = (scanLine ..).1.heredoc
    rw [(heredocs_scanLine ..).1, (heredocs_scanLine ..).1, hread 1, hread 2]
    rfl
  · rw [hone, htwo]
    change (scanLine ..).1.pending = (scanLine ..).1.pending
    rw [(heredocs_scanLine ..).2, (heredocs_scanLine ..).2, hread 1, hread 2]
    rfl
  · -- of the words on the line the block depends on their texts only
    obtain ⟨hwords, hblock⟩ := tokensOf_eq_commandWords o [line]
    obtain ⟨hwords', hblock'⟩ := tokensOf_eq_commandWords o [line, []]
    rw [hblock, hblock', ← hwords, ← hwords', htokens, caseLeftOpen_moveDown]
  · rw [(flags_stateAfter ..).1, (flags_stateAfter ..).1]
    rfl
  · rw [(flags_stateAfter ..).2.1, (flags_stateAfter ..).2.1]
  · rw [(flags_stateAfter ..).2.2, (flags_stateAfter ..).2.2]
  · rw [word_stateAfter, word_stateAfter]

/-- The first line decides for all lines. -/
theorem tokensOf_append_empty_line_iff (lines : List (List Char)) :
    tokensOf o (lines ++ [line, []]) = (tokensOf o (lines ++ [line])).map (Token.moveDown 1) ↔
      tokensOf o [line, []] = (tokensOf o [line]).map (Token.moveDown 1) := by
  constructor
  · intro heq
    have hfirst := congrArg (List.filter fun t => decide (t.line ≤ 2)) heq
    have hmoved : ((fun t => decide (t.line ≤ 2)) ∘ Token.moveDown 1) =
        fun t : Token => decide (t.line ≤ 1) := by
      funext t
      exact decide_eq_decide.2 Nat.succ_le_succ_iff
    have hone := filter_tokensOf_append o [line] lines
    have htwo := filter_tokensOf_append o [line, []] lines
    rw [List.length_singleton] at hone
    rw [List.filter_map, hmoved, hone] at hfirst
    exact htwo.symm.trans hfirst
  · intro heq
    have hstate := stateAfter_empty_line_cons line hread heq
    have hlater : tokensAfter o [line, []] lines =
        (tokensAfter o [line] lines).map (Token.moveDown 1) :=
      (tokensAfter_add rfl [line, []] [line] rfl hstate fun n _ _ =>
        (hread (n + 1)).trans (hread n).symm).2
    rw [tokensOf_append, tokensOf_append, List.map_append, heq, hlater]

end

namespace Script

theorem pieces_newline_append (s : Script) :
    (Script.mk ("\n" ++ s.text) s.name).pieces = [] :: s.pieces := by
  have happend := pieces_append (Script.mk "" s.name) s.text
  rw [String.empty_append] at happend
  exact happend

/-- An empty line in front of a script moves its tokens down, and changes nothing else, exactly if
the number of its first line does not matter. -/
theorem tokens_newline_append_iff (s : Script) (o : ScanOptions) :
    let whole : ScanOptions := { o with window := none }
    (Script.mk ("\n" ++ s.text) s.name).tokens whole =
        (s.tokens whole).map (Token.moveDown 1) ↔
      ¬ (readLine whole [] [] (s.pieces.headD [])).NumberMatters := by
  intro whole
  have hread : ∀ n, whole.inWindow n = true := fun _ => rfl
  obtain ⟨line, lines, hpieces⟩ : ∃ line lines, s.pieces = line :: lines := by
    apply List.exists_cons_of_length_pos
    rw [length_pieces]
    omega
  rw [tokens_eq_tokensOf, tokens_eq_tokensOf, pieces_newline_append, hpieces, List.reverse_cons,
    List.reverse_cons, List.append_assoc]
  exact (tokensOf_append_empty_line_iff line hread lines.reverse).trans
    (tokensOf_empty_line_iff line hread)

/-- After a parenthesis `foo` is a token on the first line only, and after `(a ` it is one on later
lines only. -/
theorem tokens_newline_append_ne :
    (Script.mk "(foo)" "").tokens {} = [⟨"foo", 1, 2⟩] ∧
      (Script.mk ("\n" ++ "(foo)") "").tokens {} = [] ∧
      (Script.mk ("\n" ++ "(foo)") "").tokens {} ≠
        ((Script.mk "(foo)" "").tokens {}).map (Token.moveDown 1) ∧
      (Script.mk "(a foo)" "").tokens {} = [] ∧
      (Script.mk ("\n" ++ "(a foo)") "").tokens {} = [⟨"foo", 2, 4⟩] := by
  decide +kernel

end Script

end CommandAudit
