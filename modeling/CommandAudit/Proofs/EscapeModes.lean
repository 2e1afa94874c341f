import CommandAudit.Proofs.StringContent

/-!
# The two escape modes

A legacy scan takes a quote for escaped after exactly one backslash, a strict scan after an odd run,
and never at a single quote that ends a string. The two agree on a quote unless the run is odd and
longer than one, or it is one backslash before a single quote between single quotes
(`escapedBy_legacy_eq_strict`). Where they agree on every quote that the strict scan reads they run in
lockstep, character by character (`readPart_legacy_eq_strict`) and line by line, and find the same
tokens (`Script.tokens_legacy_eq_strict`).
-/

namespace CommandAudit

namespace ScanOptions

/-- The options with legacy escapes. -/
def legacy (o : ScanOptions) : ScanOptions :=
  { o with escapeMode := .legacy }

/-- The options with strict escapes. -/
def strict (o : ScanOptions) : ScanOptions :=
  { o with escapeMode := .strict }

end ScanOptions

/-! ## One quote -/

/-- The run before a quote at the offset `i` of a line is odd and longer than one. -/
def LongOddRunAt (text : List Char) (i : Nat) : Prop :=
  text[i]?.any (fun c => (quotedBy? c).isSome) = true ∧
    3 ≤ backslashRun (text.take i).reverse ∧ backslashRun (text.take i).reverse % 2 = 1

instance (text : List Char) (i : Nat) : Decidable (LongOddRunAt text i) :=
  inferInstanceAs (Decidable (_ ∧ _ ∧ _))

/-- A single quote after exactly one backslash stands at the offset `i` of a line. -/
def SlashedSingleAt (text : List Char) (i : Nat) : Prop :=
  text[i]? = some '\'' ∧ backslashRun (text.take i).reverse = 1

instance (text : List Char) (i : Nat) : Decidable (SlashedSingleAt text i) :=
  inferInstanceAs (Decidable (_ ∧ _))

theorem escapedBy_legacy_eq_strict {context : Context} {c : Char} {r : Nat}
    (hodd : ¬ (3 ≤ r ∧ r % 2 = 1)) (hsingle : ¬ (c = '\'' ∧ r = 1 ∧ context = .singleQuoted)) :
    escapedBy .legacy context c r = escapedBy .strict context c r := by
  rw [Bool.eq_iff_iff]
  simp only [escapedBy, beq_iff_eq, Bool.and_eq_true, Bool.not_eq_true', Bool.and_eq_false_iff,
    beq_eq_false_iff_ne]
  constructor
  · rintro rfl
    refine ⟨rfl, ?_⟩
    by_cases hc : c = '\''
    · exact Or.inr fun hcontext => hsingle ⟨hc, rfl, hcontext⟩
    · exact Or.inl hc
  · rintro ⟨hr, -⟩
    omega

/-- The two modes change the context alike unless they differ on a quote. -/
theorem next_legacy_eq_strict {context : Context} {text : List Char} {i : Nat} {c : Char}
    (hc : text[i]? = some c) (hodd : ¬ LongOddRunAt text i)
    (hsingle : SlashedSingleAt text i → context ≠ .singleQuoted) :
    context.next .legacy (text.take i).reverse c = context.next .strict (text.take i).reverse c := by
  by_cases hash : c = '#'
  · subst hash
    rw [next_hash, next_hash]
  · rcases hquote : quotedBy? c with _ | own
    · rw [next_other _ _ _ hash hquote, next_other _ _ _ hash hquote]
    · rw [next_quote _ _ _ hquote, next_quote _ _ _ hquote, escapedBy_legacy_eq_strict]
      · intro hrun
        exact hodd ⟨by simp [hc, hquote], hrun⟩
      · rintro ⟨rfl, hrun, hcontext⟩
        exact hsingle ⟨hc, hrun⟩ hcontext

/-! ## One line -/

/-- A character is read alike in two modes that change the context alike. -/
theorem LineScan.step_congr_mode {mode mode' : EscapeMode} {k : LineScan} {c : Char}
    (h : k.state.context.next mode k.past c = k.state.context.next mode' k.past c) (n : Nat)
    (hasParen : Bool) : k.step mode n hasParen c = k.step mode' n hasParen c := by
  have hframe : (k.breakWord n c).state.context = k.state.context ∧
      (k.breakWord n c).past = k.past := by
    unfold breakWord
    split_ifs
    · exact ⟨rfl, rfl⟩
    · exact ⟨(k.state.frame_closeWord n).1, rfl⟩
  have hcontext : (k.breakWord n c).readContext mode c = (k.breakWord n c).readContext mode' c := by
    unfold readContext
    rw [hframe.1, hframe.2, h]
  unfold step
  rw [hcontext]

/-- On a line where the modes agree on every quote the two scans run in lockstep. -/
theorem readPart_legacy_eq_strict (o : ScanOptions) (n : Nat) (s : ScanState) {line : List Char}
    (hodd : ∀ i < line.length, ¬ LongOddRunAt line i)
    (hsingle : ∀ i < line.length, SlashedSingleAt line i →
      (readPart o.strict n s line i).state.context ≠ .singleQuoted) {i : Nat}
    (hi : i ≤ line.length) : readPart o.legacy n s line i = readPart o.strict n s line i := by
  induction i with
  | zero => rfl
  | succ i ih =>
    have hc := List.getElem?_eq_getElem (l := line) (i := i) (by omega)
    rw [readPart_succ o.legacy n s hc, readPart_succ o.strict n s hc, ih (by omega)]
    apply LineScan.step_congr_mode
    rw [past_readPart]
    exact next_legacy_eq_strict hc (hodd i (by omega)) (hsingle i (by omega))

theorem scanLine_legacy_eq_strict (o : ScanOptions) (n : Nat) (s : ScanState) {line : List Char}
    (hodd : ∀ i < line.length, ¬ LongOddRunAt line i)
    (hsingle : o.strict.inWindow n = true → s.waiting.filter (!·.closedBy line) = none →
      ∀ i < line.length, SlashedSingleAt line i →
        (readPart o.strict n s line i).state.context ≠ .singleQuoted) :
    (scanLine o.legacy n s line).1 = (scanLine o.strict n s line).1 ∧
      lineTokens o.legacy n s line = lineTokens o.strict n s line := by
  by_cases h : o.strict.inWindow n = true ∧ s.waiting.filter (!·.closedBy line) = none
  · obtain ⟨hstate, htokens⟩ := scanLine_of_read (o := o.strict) h.1 h.2
    obtain ⟨hstate', htokens'⟩ := scanLine_of_read (o := o.legacy) h.1 h.2
    rw [hstate, htokens, hstate', htokens',
      readPart_legacy_eq_strict o n s hodd (hsingle h.1 h.2) (Nat.le_refl _)]
    exact ⟨rfl, rfl⟩
  · obtain ⟨hstate, htokens⟩ := scanLine_of_pass (o := o.strict) h
    obtain ⟨hstate', htokens'⟩ := scanLine_of_pass (o := o.legacy) h
    rw [hstate, htokens, hstate', htokens']
    exact ⟨rfl, rfl⟩

/-! ## All lines -/

namespace Script

/-- No quote of the script comes after an odd run of three or more backslashes. -/
def NoLongOddRun (s : Script) : Prop :=
  ∀ line ∈ s.pieces, ∀ i < line.length, ¬ LongOddRunAt line i

instance (s : Script) : Decidable s.NoLongOddRun :=
  inferInstanceAs (Decidable (∀ line ∈ s.pieces, ∀ i < line.length, _))

/-- The strict scan reads no single quote after exactly one backslash between single quotes. -/
def NoSlashedClosing (s : Script) (o : ScanOptions) : Prop :=
  ∀ n < s.pieces.length,
    IsRead o.strict (s.pieces.take n).reverse (s.pieces.getD n []) →
      ∀ i < (s.pieces.getD n []).length, SlashedSingleAt (s.pieces.getD n []) i →
        scanContext o.strict (s.pieces.take n).reverse (s.pieces.getD n []) i ≠ .singleQuoted

instance (s : Script) (o : ScanOptions) : Decidable (s.NoSlashedClosing o) :=
  inferInstanceAs (Decidable (∀ n < s.pieces.length, _ → ∀ i < _, _ → _))

/-- After any number of lines the two scans are in the same state and have found the same tokens. -/
theorem take_legacy_eq_strict {s : Script} {o : ScanOptions} (hodd : s.NoLongOddRun)
    (hsingle : s.NoSlashedClosing o) {m : Nat} (hm : m ≤ s.pieces.length) :
    stateAfter o.legacy (s.pieces.take m).reverse = stateAfter o.strict (s.pieces.take m).reverse ∧
      tokensOf o.legacy (s.pieces.take m).reverse =
        tokensOf o.strict (s.pieces.take m).reverse := by
  induction m with
  | zero => exact ⟨rfl, rfl⟩
  | succ m ih =>
    obtain ⟨hstate, htokens⟩ := ih (by omega)
    have hread := isRead_iff o.strict (s.pieces.take m).reverse (s.pieces.getD m [])
    obtain ⟨hstate', htokens'⟩ := scanLine_legacy_eq_strict o
      ((s.pieces.take m).reverse.length + 1) (stateAfter o.strict (s.pieces.take m).reverse)
      (hodd _ (getD_mem_pieces (by omega)))
      fun hwindow hbody => hsingle m (by omega) (hread.2 ⟨hwindow, hbody⟩)
    rw [take_succ_eq_append_getD (by omega), List.reverse_append, List.reverse_singleton,
      List.singleton_append, stateAfter_cons, stateAfter_cons, tokensOf_cons, tokensOf_cons, hstate,
      htokens, hstate', htokens']
    exact ⟨rfl, rfl⟩

/-- The two escape modes find the same tokens, whatever the window, if no quote comes after a longer
odd run of backslashes and the strict scan reads no single quote after exactly one backslash between
single quotes. -/
theorem tokens_legacy_eq_strict (s : Script) (o : ScanOptions) (hodd : s.NoLongOddRun)
    (hsingle : s.NoSlashedClosing o) :
    s.tokens { o with escapeMode := .legacy } = s.tokens { o with escapeMode := .strict } := by
  have hall := (take_legacy_eq_strict hodd hsingle (Nat.le_refl _)).2
  rw [List.take_length] at hall
  rw [tokens_eq_tokensOf, tokens_eq_tokensOf]
  exact hall

/-- Escaped quotes of both kinds, an even run before a closing quote, and a slashed single quote
between single quotes on a line of a body. -/
theorem tokens_legacy_eq_strict_of_escapes :
    let s : Script := ⟨"cat <<EOF; echo \\' \"a\\\"; b\\\\\"; ls\n' \\'\nEOF\npwd 'x\\\\'; wc", ""⟩
    s.NoLongOddRun ∧ s.NoSlashedClosing {} ∧
      s.tokens { escapeMode := .legacy } = s.tokens { escapeMode := .strict } ∧
      (s.tokens { escapeMode := .strict }).map Token.text = ["cat", "echo", "ls", "EOF", "pwd", "wc"] := by
  intro s
  have hodd : s.NoLongOddRun := by decide +kernel
  have hsingle : s.NoSlashedClosing {} := by decide +kernel
  exact ⟨hodd, hsingle, tokens_legacy_eq_strict s {} hodd hsingle, by decide +kernel⟩

end Script

end CommandAudit
