import CommandAudit.Proofs.CommandPosition

/-!
# The scanner finds the words in command position

`ReadLine.Tracks` relates the state of the scanner inside a line to the runs kept so far. Reading a
character keeps the relation (`Tracks.read`), and ending a word adds the word to the kept runs
exactly if it is started and not suppressed (`Tracks.close`). So the tokens of a script are its
command words (`tokens_eq_commandWords`).
-/

namespace CommandAudit

theorem disqualifies_of_isWordChar {c : Char} (h : isWordChar c = true) :
    disqualifies c = true := by
  rw [isWordChar, Bool.or_eq_true] at h
  rcases h with h | h <;> simp [disqualifies, h]

theorem isBlank_of_isWordChar {c : Char} (h : isWordChar c = true) : isBlank c = false := by
  have hrange : ∀ {a b : UInt32}, a ≤ c.val → c.val ≤ b → a.toNat ≤ c.toNat ∧ c.toNat ≤ b.toNat :=
    fun ha hb => ⟨UInt32.le_iff_toNat_le.1 ha, UInt32.le_iff_toNat_le.1 hb⟩
  have hn : (48 ≤ c.toNat ∧ c.toNat ≤ 57) ∨ (65 ≤ c.toNat ∧ c.toNat ≤ 90) ∨ c.toNat = 95 ∨
      (97 ≤ c.toNat ∧ c.toNat ≤ 122) := by
    rcases Bool.or_eq_true_iff.1 h with halnum | hunder
    · rcases Bool.or_eq_true_iff.1 halnum with halpha | hdigit
      · rcases Bool.or_eq_true_iff.1 halpha with hupper | hlower
        · obtain ⟨ha, hb⟩ := of_decide_eq_true hupper
          exact Or.inr (Or.inl (hrange ha hb))
        · obtain ⟨ha, hb⟩ := Bool.and_eq_true_iff.1 hlower
          exact Or.inr (Or.inr (Or.inr (hrange (of_decide_eq_true ha) (of_decide_eq_true hb))))
      · obtain ⟨ha, hb⟩ := Bool.and_eq_true_iff.1 hdigit
        exact Or.inl (hrange (of_decide_eq_true ha) (of_decide_eq_true hb))
    · rw [beq_iff_eq.1 hunder]
      exact Or.inr (Or.inr (Or.inl rfl))
  simp only [isBlank, Bool.or_eq_false_iff, Bool.and_eq_false_iff, decide_eq_false_iff_not,
    beq_eq_false_iff_ne]
  omega

namespace ReadLine

variable {l : ReadLine} {K : List Span} {i : Nat} {c : Char} {s : ScanState}

/-! ## The word being read -/

theorem exists_head_of_reading_ne_nil (h : l.reading i ≠ []) :
    ∃ d, (l.before i).head? = some d ∧ isWordChar d = true := by
  rw [Ne, reading_eq_nil_iff, Bool.not_eq_false, Option.any_eq_true] at h
  exact h

theorem reading_eq_nil_of_blank (h : (l.before i).head?.all isBlank = true) : l.reading i = [] := by
  by_contra hne
  obtain ⟨d, hd, hdw⟩ := exists_head_of_reading_ne_nil hne
  rw [hd, Option.all_some, isBlank_of_isWordChar hdw] at h
  exact absurd h (by simp)

/-- The word being read before the offset `i`: the run up to there, if it is started. -/
def openWord? (l : ReadLine) (K : List Span) (i : Nat) : Option OpenWord :=
  if l.reading i ≠ [] ∧ l.Started K (l.runStart i) then
    some ⟨l.reading i, l.runStart i + 1, decide (l.InPattern K (l.runStart i))⟩
  else none

theorem openWord?_of_reading_eq_nil (h : l.reading i = []) : l.openWord? K i = none := by
  unfold openWord?
  rw [if_neg fun hw => hw.1 h]

/-- Outside code no word is being read. -/
theorem openWord?_of_context_ne (hi : i ≤ l.text.length) (h : l.context i ≠ .code) :
    l.openWord? K i = none := by
  unfold openWord?
  rw [if_neg]
  rintro ⟨hr, hletter, -⟩
  exact h ((l.context_runStart hi hr).symm.trans hletter.2)

/-- A word character goes on with the run before it. -/
theorem openWord?_succ (hc : l.text[i]? = some c) (hw : isWordChar c = true)
    (hr : l.reading i ≠ []) : l.openWord? K (i + 1) =
      (l.openWord? K i).map fun w => { w with chars := c :: w.chars } := by
  unfold openWord?
  rw [reading_succ hc, if_pos hw, runStart_succ hc hw]
  by_cases hs : l.Started K (l.runStart i)
  · rw [if_pos ⟨by simp, hs⟩, if_pos ⟨hr, hs⟩]
    rfl
  · rw [if_neg fun h => hs h.2, if_neg fun h => hs h.2]
    rfl

/-- A word character with none before it starts a run. -/
theorem openWord?_succ_of_nil (hc : l.text[i]? = some c) (hw : isWordChar c = true)
    (hr : l.reading i = []) : l.openWord? K (i + 1) =
      if l.Started K i then some ⟨[c], i + 1, decide (l.InPattern K i)⟩ else none := by
  unfold openWord?
  rw [reading_succ hc, if_pos hw, runStart_succ hc hw, runStart_of_reading_eq_nil l hr, hr]
  simp

theorem all_isPattern_of_succ (hc : l.text[i]? = some c)
    (h : (l.openWord? K (i + 1)).all (·.isPattern) = true) :
    (if isWordChar c then l.openWord? K i else none).all (·.isPattern) = true := by
  split_ifs with hw
  · by_cases hr : l.reading i = []
    · rw [openWord?_of_reading_eq_nil hr]
      rfl
    · rw [openWord?_succ hc hw hr, Option.all_map] at h
      exact h
  · rfl

/-! ## The end of a word -/

theorem openWord?_eq_some_iff {w : OpenWord} : l.openWord? K i = some w ↔
    (l.reading i ≠ [] ∧ l.Started K (l.runStart i)) ∧
      w = ⟨l.reading i, l.runStart i + 1, decide (l.InPattern K (l.runStart i))⟩ := by
  unfold openWord?
  split_ifs with h
  · rw [Option.some.injEq, eq_comm]
    exact (and_iff_right h).symm
  · exact iff_of_false (by simp) fun h' => h h'.1

theorem kept_succ_of_openWord?_eq_none (hword : l.openWord? (l.kept i) (i + 1) = none) :
    l.kept (i + 1) = l.kept i := by
  rcases hrun : l.runTo? (i + 1) with _ | W
  · exact l.kept_succ_of_none hrun
  · rw [l.kept_succ_of_some hrun, if_neg]
    rintro ⟨hstarted, -⟩
    unfold runTo? at hrun
    split_ifs at hrun with hnone
    obtain rfl := Option.some.inj hrun
    unfold openWord? at hword
    rw [if_pos ⟨(not_or.1 hnone).1, hstarted⟩] at hword
    exact absurd hword (by simp)

theorem kept_succ_of_openWord?_eq_some (hi : i + 1 ≤ l.text.length)
    (hnext : l.text[i + 1]?.any isWordChar = false) {w : OpenWord}
    (hword : l.openWord? (l.kept i) (i + 1) = some w) :
    l.kept (i + 1) = if w.isSkipped then l.kept i else ⟨l.runStart (i + 1), i + 1⟩ :: l.kept i := by
  obtain ⟨⟨hr, hstarted⟩, rfl⟩ := openWord?_eq_some_iff.1 hword
  have hrun : l.runTo? (i + 1) = some ⟨l.runStart (i + 1), i + 1⟩ := by
    unfold runTo?
    rw [if_neg (not_or.2 ⟨hr, by simp [hnext]⟩)]
  have hskip : OpenWord.isSkipped ⟨l.reading (i + 1), l.runStart (i + 1) + 1,
      decide (l.InPattern (l.kept i) (l.runStart (i + 1)))⟩ = true ↔
      l.Suppressed (l.kept i) ⟨l.runStart (i + 1), i + 1⟩ := by
    rw [OpenWord.isSkipped_iff, OpenWord.text, ← word_runStart l hi, decide_eq_true_eq]
    rfl
  rw [l.kept_succ_of_some hrun]
  by_cases hs : l.Suppressed (l.kept i) ⟨l.runStart (i + 1), i + 1⟩
  · rw [if_neg fun h => h.2 hs, if_pos (hskip.2 hs)]
  · rw [if_pos ⟨hstarted, hs⟩, if_neg (mt hskip.1 hs)]

/-! ## The scanner inside a line -/

/-- The state of the scanner at the offset `i` of a line, while it reads the word `w`, is what the
text prescribes after the kept runs `K`. -/
structure Tracks (l : ReadLine) (K : List Span) (i : Nat) (w : Option OpenWord) (s : ScanState) :
    Prop where
  /-- The kept runs end before the offset. -/
  stops : ∀ R ∈ K, 0 < R.stop ∧ R.stop ≤ i
  /-- The word is the one given. -/
  word : s.word = w
  /-- The context is that of the text. -/
  context : s.context = l.context i
  /-- The next word is a command because of a trigger. -/
  ready : s.ready = true ↔ (l.isFirst = true ∧ K = []) ∨ l.Ready K i
  /-- The next word is a command because of the word before. -/
  wrapped : s.wrapped = true ↔ l.AfterWrapper K
  /-- No run is kept yet, nor is one read that will be. -/
  fresh : s.fresh = true ↔ K = [] ∧ w.all (·.isPattern) = true
  /-- The scanner is inside a case statement if one is open. -/
  outside : s.block = .outside ↔ l.caseOpen K = false
  /-- On a line with `)` it is inside a pattern if the text is. -/
  pattern : l.text.contains ')' = true → (s.block = .pattern ↔ l.InPattern K i)

namespace Tracks

variable {w : Option OpenWord}

theorem stop_le (h : l.Tracks K i w s) : ∀ R ∈ K, R.stop ≤ i :=
  fun R hR => (h.stops R hR).2

theorem of_startsScript (h : l.Tracks K i w s) (hscript : l.StartsScript i) :
    l.isFirst = true ∧ K = [] := by
  obtain ⟨hfirst, rfl⟩ := hscript
  refine ⟨hfirst, List.eq_nil_iff_forall_not_mem.2 fun R hR => ?_⟩
  obtain ⟨hpos, hle⟩ := h.stops R hR
  omega

theorem opensLine_iff (h : l.Tracks K i w s) (hc : l.text[i]? = some c)
    (hcode : l.context (i + 1) = .code) (hw : l.reading i = [] → w = none) :
    ((l.before i).head?.all isBlank && s.fresh && c.isAlpha) = true ↔ l.OpensLine K i := by
  simp only [Bool.and_eq_true, h.fresh, OpensLine, IsLetter, hc, Option.any_some]
  constructor
  · rintro ⟨⟨hblank, hK, -⟩, halpha⟩
    exact ⟨hK, ⟨halpha, hcode⟩, hblank⟩
  · rintro ⟨hK, ⟨halpha, -⟩, hblank⟩
    have hnone := hw (reading_eq_nil_of_blank hblank)
    exact ⟨⟨hblank, hK, by rw [hnone]; rfl⟩, halpha⟩

theorem endsPattern_iff (h : l.Tracks K i w s) (hc : l.text[i]? = some c)
    (hcode : l.context (i + 1) = .code) :
    (s.block == .pattern && c == ')') = true ↔ l.EndsPattern K i := by
  simp only [Bool.and_eq_true, beq_iff_eq, EndsPattern, IsCode, hc, Option.some.injEq]
  constructor
  · rintro ⟨hblock, rfl⟩
    exact ⟨⟨rfl, hcode⟩, (h.pattern (contains_of_getElem? hc)).1 hblock⟩
  · rintro ⟨⟨rfl, -⟩, hin⟩
    exact ⟨(h.pattern hin.1).2 hin, rfl⟩

/-- Whether the next word is a command after a character of code. -/
theorem readyAt_iff (h : l.Tracks K i w s) (hc : l.text[i]? = some c)
    (hcode : l.context (i + 1) = .code) (hw : l.reading i = [] → w = none) :
    s.readyAt (l.before i) c = true ↔ l.Ready K (i + 1) := by
  have hmark : afterMark (l.before i) = true ↔ l.FollowsMark i :=
    ⟨fun hm => ⟨hm, hcode⟩, fun hm => hm.1⟩
  unfold ScanState.readyAt
  rw [Bool.or_eq_true, Bool.or_eq_true, Bool.or_eq_true, h.opensLine_iff hc hcode hw, hmark,
    h.endsPattern_iff hc hcode, h.ready]
  constructor
  · rintro ((((⟨hfirst, hK⟩ | hready) | hopens) | hmark) | hends)
    · exact ready_of_isFirst hfirst hK (Nat.succ_pos i)
    · exact ready_succ.2 (Or.inl hready)
    · exact ready_succ.2 (Or.inr ⟨h.stop_le, Or.inl hopens⟩)
    · exact ready_succ.2 (Or.inr ⟨h.stop_le, Or.inr (Or.inl hmark)⟩)
    · exact ready_succ.2 (Or.inr ⟨h.stop_le, Or.inr (Or.inr (Or.inl hends))⟩)
  · intro hready
    rcases ready_succ.1 hready with hready | ⟨-, hopens | hmark | hends | hscript⟩
    · exact Or.inl (Or.inl (Or.inl (Or.inr hready)))
    · exact Or.inl (Or.inl (Or.inr hopens))
    · exact Or.inl (Or.inr hmark)
    · exact Or.inr hends
    · exact Or.inl (Or.inl (Or.inl (Or.inl (h.of_startsScript hscript))))

/-- The place inside a case statement after a character of code. -/
theorem blockAt_iff (h : l.Tracks K i w s) (hc : l.text[i]? = some c)
    (hcode : l.context (i + 1) = .code) :
    (s.blockAt (l.text.contains ')') (l.before i) c = .outside ↔ l.caseOpen K = false) ∧
      (s.blockAt (l.text.contains ')') (l.before i) c = .pattern ↔ l.InPattern K (i + 1)) := by
  have hparen : l.IsCode i ')' ↔ c = ')' := by
    simp [IsCode, hc, hcode]
  have hbranch : l.EndsBranch i ↔ c = ';' ∧ (l.before i).head? = some ';' := by
    simp [EndsBranch, IsCode, hc, hcode]
  have hfrom := caseFrom_le (l := l) h.stop_le
  have hout := h.outside
  have hpat := h.pattern
  unfold InPattern at hpat ⊢
  rw [patternEnded_succ, hparen, hbranch]
  unfold ScanState.blockAt
  cases hb : s.block with
  | outside =>
    have hopen : l.caseOpen K = false := hout.1 hb
    simp [hopen]
  | pattern =>
    have hopen : l.caseOpen K = true := by simpa [hb] using hout
    cases hp : l.text.contains ')' with
    | false => simp [hopen]
    | true =>
      have hended : ¬ l.PatternEnded K i := ((hpat hp).1 hb).2.2
      by_cases hcp : c = ')' <;> simp [hopen, hended, hfrom, hcp]
  | body =>
    have hopen : l.caseOpen K = true := by simpa [hb] using hout
    cases hp : l.text.contains ')' with
    | false => simp [hopen]
    | true =>
      have hended : l.PatternEnded K i := by
        by_contra hne
        exact absurd ((hpat hp).2 ⟨hp, hopen, hne⟩) (by simp [hb])
      by_cases hcs : c = ';' ∧ (l.before i).head? = some ';'
      · simp [hopen, hcs]
      · have hif : (c == ';' && (l.before i).head? == some ';' && true) = false := by
          simpa using hcs
        simp [hopen, hended, hcs, hif]

/-- A letter stands in a pattern if the place before it does. -/
theorem blockAt_iff_of_letter (h : l.Tracks K i w s) (hc : l.text[i]? = some c)
    (hcode : l.context (i + 1) = .code) (halpha : c.isAlpha = true) :
    s.blockAt (l.text.contains ')') (l.before i) c = .pattern ↔ l.InPattern K i := by
  rw [(h.blockAt_iff hc hcode).2, inPattern_succ]
  all_goals
    rintro ⟨hc', -⟩
    rw [hc] at hc'
    obtain rfl := Option.some.inj hc'
    exact absurd halpha (by decide)

theorem wordAt_eq (h : l.Tracks K i (if isWordChar c then l.openWord? K i else none) s)
    (hc : l.text[i]? = some c) (hcode : l.context (i + 1) = .code)
    (hready : s.readyAt (l.before i) c = true ↔ l.Ready K (i + 1)) :
    s.wordAt (l.text.contains ')') (l.before i) (i + 1) c = l.openWord? K (i + 1) := by
  have hword := h.word
  unfold ScanState.wordAt
  cases hw : isWordChar c with
  | false =>
    have halpha : c.isAlpha = false := by
      by_contra hne
      rw [isWordChar_of_isAlpha (by simpa using hne)] at hw
      exact absurd hw (by simp)
    rw [openWord?_of_reading_eq_nil (by rw [reading_succ hc, if_neg (by simp [hw])])]
    rw [hw] at hword
    simp [hword, halpha]
  | true =>
    rw [hw, if_pos rfl] at hword
    by_cases hr : l.reading i = []
    · have hstarted : (c.isAlpha && (s.readyAt (l.before i) c || s.wrapped) &&
          !(l.before i).head?.any disqualifies) = true ↔ l.Started K i := by
        simp only [Bool.and_eq_true, Bool.or_eq_true, Bool.not_eq_true', hready, h.wrapped, Started,
          IsLetter, hc, Option.any_some, hcode, and_true, or_comm (a := l.Ready K (i + 1))]
        exact and_right_comm.trans and_assoc
      rw [hword, openWord?_of_reading_eq_nil hr, openWord?_succ_of_nil hc hw hr]
      dsimp only
      by_cases hs : l.Started K i
      · have halpha : c.isAlpha = true := by simpa [hc] using hs.1.1
        rw [if_pos (hstarted.2 hs), if_pos hs]
        simp only [h.blockAt_iff_of_letter hc hcode halpha]
      · rw [if_neg (mt hstarted.1 hs), if_neg hs]
    · obtain ⟨d, hd, hdw⟩ := exists_head_of_reading_ne_nil hr
      have hdis : (l.before i).head?.any disqualifies = true := by
        rw [hd]
        exact disqualifies_of_isWordChar hdw
      rw [hword, openWord?_succ hc hw hr]
      rcases l.openWord? K i with _ | v
      · simp [hdis]
      · rfl

theorem read_code (h : l.Tracks K i (if isWordChar c then l.openWord? K i else none) s)
    (hc : l.text[i]? = some c) (hcode : l.context (i + 1) = .code) :
    l.Tracks K (i + 1) (l.openWord? K (i + 1))
      (ScanState.readCode { s with context := .code } (l.text.contains ')') (l.before i) (i + 1)
        c) := by
  have hfree : l.reading i = [] → (if isWordChar c then l.openWord? K i else none) = none := by
    intro hr
    rw [openWord?_of_reading_eq_nil hr, ite_self]
  have hready := h.readyAt_iff hc hcode hfree
  have hblock := h.blockAt_iff hc hcode
  have hword := h.wordAt_eq hc hcode hready
  rw [ScanState.readCode_eq]
  refine ⟨fun R hR => ?_, hword, hcode.symm, ?_, h.wrapped, ?_, hblock.1, fun _ => hblock.2⟩
  · obtain ⟨hpos, hle⟩ := h.stops R hR
    exact ⟨hpos, by omega⟩
  · refine hready.trans ⟨Or.inr, ?_⟩
    rintro (⟨hfirst, hK⟩ | hr)
    · exact ready_of_isFirst hfirst hK (Nat.succ_pos i)
    · exact hr
  · change (s.fresh && (s.wordAt _ _ _ _).all _) = true ↔ _
    rw [hword, Bool.and_eq_true, h.fresh]
    exact ⟨fun hf => ⟨hf.1.1, hf.2⟩, fun hf => ⟨⟨hf.1, all_isPattern_of_succ hc hf.2⟩, hf.2⟩⟩

theorem read_other (h : l.Tracks K i (if isWordChar c then l.openWord? K i else none) s)
    (hc : l.text[i]? = some c) (hcode : l.context (i + 1) ≠ .code) :
    l.Tracks K (i + 1) (l.openWord? K (i + 1)) { s with context := l.context (i + 1) } := by
  have hi : i < l.text.length := (List.getElem?_eq_some_iff.1 hc).1
  have hnot : ∀ d, ¬ l.IsCode i d := fun d hd => hcode hd.2
  have hword : (if isWordChar c then l.openWord? K i else none) = l.openWord? K (i + 1) := by
    rw [openWord?_of_context_ne (Nat.succ_le_of_lt hi) hcode]
    split_ifs with hw
    · rw [context_succ hc, next_of_isWordChar _ _ _ hw] at hcode
      exact openWord?_of_context_ne (by omega) hcode
    · rfl
  rw [hword] at h
  refine ⟨fun R hR => ?_, h.word, rfl, ?_, h.wrapped, h.fresh, h.outside, fun hp => ?_⟩
  · obtain ⟨hpos, hle⟩ := h.stops R hR
    exact ⟨hpos, by omega⟩
  · rw [ready_succ]
    refine h.ready.trans ⟨Or.imp_right Or.inl, ?_⟩
    rintro (hfirst | hready | ⟨-, hopens | hmark | hends | hscript⟩)
    · exact Or.inl hfirst
    · exact Or.inr hready
    · exact absurd hopens.2.1.2 hcode
    · exact absurd hmark.2 hcode
    · exact absurd hends.1 (hnot _)
    · exact Or.inl (h.of_startsScript hscript)
  · rw [inPattern_succ (hnot _) (hnot _)]
    exact h.pattern hp

theorem skip {w : OpenWord} (h : l.Tracks K i (some w) s) (hw : w.isPattern = true) :
    l.Tracks K i none { s with word := none } := by
  refine ⟨h.stops, rfl, h.context, h.ready, h.wrapped, h.fresh.trans ?_, h.outside, h.pattern⟩
  simp [hw]

theorem block_closeWord_iff {w : OpenWord} (h : l.Tracks K i (some w) s) {W : Span}
    (hstop : W.stop = i) (htext : w.text = l.word W) (hw : w.isSkipped = false) (n : Nat) :
    ((s.closeWord n).1.block = .outside ↔ l.caseOpen (W :: K) = false) ∧
      (l.text.contains ')' = true →
        ((s.closeWord n).1.block = .pattern ↔ l.InPattern (W :: K) i)) := by
  rw [ScanState.block_closeWord_of_kept h.word hw, htext]
  split_ifs with hcase hesac
  · refine ⟨by simp [caseOpen_cons_case hcase], fun hp => iff_of_true rfl ?_⟩
    rw [← hstop]
    exact inPattern_cons_case hp hcase
  · refine ⟨by simp [caseOpen_cons_esac hesac], fun _ => iff_of_false (by simp) fun hin => ?_⟩
    exact absurd hin.2.1 (by simp [caseOpen_cons_esac hesac])
  · obtain ⟨hopen, hin⟩ := inPattern_cons (K := K) (i := i) hcase hesac
    rw [hopen, hin]
    exact ⟨h.outside, h.pattern⟩

theorem keep {w : OpenWord} (h : l.Tracks K i (some w) s) {W : Span} (hlt : W.start < W.stop)
    (hstop : W.stop = i) (htext : w.text = l.word W)
    (hlen : w.chars.length ≤ 1 ↔ ¬ W.start + 1 < W.stop) (hw : w.isSkipped = false) (n : Nat) :
    l.Tracks (W :: K) i none (s.closeWord n).1 := by
  have hcase := h.block_closeWord_iff hstop htext hw n
  have hstops : ∀ R ∈ W :: K, 0 < R.stop ∧ R.stop ≤ i := by
    intro R hR
    rcases List.mem_cons.1 hR with rfl | hR
    · omega
    · exact h.stops R hR
  have hready : ¬ ((l.isFirst = true ∧ W :: K = []) ∨ l.Ready (W :: K) i) := by
    rintro (⟨-, hnil⟩ | ⟨q, hq, hle, -⟩)
    · exact absurd hnil (by simp)
    · have hle := hle W (by simp)
      omega
  have hwrapped : (if w.chars.length ≤ 1 then s.wrapped else wrapperWords.contains w.text) = true ↔
      l.AfterWrapper (W :: K) := by
    rw [afterWrapper_cons, htext]
    split_ifs with hle hlong hlong
    · exact absurd hlong (hlen.1 hle)
    · exact h.wrapped
    · exact Iff.rfl
    · exact absurd (hlen.2 hlong) hle
  refine ⟨hstops, s.word_closeWord n, ?_, ?_, ?_, ?_, hcase.1, hcase.2⟩
  · rw [(s.frame_closeWord n).1, h.context]
  all_goals rw [ScanState.closeWord_of_kept h.word hw]
  · exact iff_of_false (by simp) hready
  · exact hwrapped
  · simp

/-- Ending the run before a place adds it to the kept runs, and to the tokens, if it is kept. -/
theorem close (h : l.Tracks (l.kept i) (i + 1) (l.openWord? (l.kept i) (i + 1)) s)
    (hi : i + 1 ≤ l.text.length) (hnext : l.text[i + 1]?.any isWordChar = false) (n : Nat) :
    l.Tracks (l.kept (i + 1)) (i + 1) none (s.closeWord n).1 ∧
      l.tokensFor n (l.kept i) ++ s.closedTokens n = l.tokensFor n (l.kept (i + 1)) := by
  rcases hword : l.openWord? (l.kept i) (i + 1) with _ | w
  · rw [hword] at h
    rw [kept_succ_of_openWord?_eq_none hword, ScanState.closeWord_of_none h.word,
      ScanState.closedTokens_of_none h.word, List.append_nil]
    exact ⟨h, rfl⟩
  · obtain ⟨⟨hr, -⟩, hw⟩ := openWord?_eq_some_iff.1 hword
    have hkept := kept_succ_of_openWord?_eq_some hi hnext hword
    rw [hword] at h
    cases hs : w.isSkipped with
    | true =>
      rw [hkept, if_pos hs, ScanState.closeWord_of_skipped h.word hs,
        ScanState.closedTokens_of_some h.word, if_pos (Or.inl hs), List.append_nil]
      exact ⟨h.skip (w.isSkipped_iff.1 hs).1, rfl⟩
    | false =>
      have hpos := List.length_pos_iff.2 hr
      have hle := l.length_reading_le (i + 1)
      have htext : w.text = l.word ⟨l.runStart (i + 1), i + 1⟩ := by
        rw [hw, word_runStart l hi]
        rfl
      have hlt : l.runStart (i + 1) < i + 1 := by
        unfold runStart
        omega
      have hcolumn : w.column = l.runStart (i + 1) + 1 := by rw [hw]
      have hchars : w.chars = l.reading (i + 1) := by rw [hw]
      have hlen : w.chars.length ≤ 1 ↔ ¬ l.runStart (i + 1) + 1 < i + 1 := by
        rw [hchars]
        unfold runStart
        omega
      rw [hkept, if_neg (by simp [hs]), ScanState.closedTokens_of_some h.word, tokensFor_cons]
      refine ⟨h.keep hlt rfl htext hlen hs n, ?_⟩
      congr 1
      simp only [hs, Bool.false_eq_true, false_or, hlen, ite_not, htext, hcolumn]

theorem read (h : l.Tracks K i (if isWordChar c then l.openWord? K i else none) s)
    (hc : l.text[i]? = some c) : l.Tracks K (i + 1) (l.openWord? K (i + 1))
      (let s := { s with context := l.context (i + 1) }
       if s.context = .code then s.readCode (l.text.contains ')') (l.before i) (i + 1) c
       else s) := by
  dsimp only
  split_ifs with hcode
  · rw [hcode]
    exact h.read_code hc hcode
  · exact h.read_other hc hcode

end Tracks

/-! ## A line -/

/-- What the scan of the first `i` characters of line `n` holds once a word that cannot go on is
ended. -/
structure Reads (l : ReadLine) (n i : Nat) (k : LineScan) : Prop where
  /-- The state is what the text prescribes. -/
  tracks : l.Tracks (l.kept i) i
    (if l.text[i]?.any isWordChar then l.openWord? (l.kept i) i else none)
    (if l.text[i]?.any isWordChar then k.state else (k.state.closeWord n).1)
  /-- The tokens are the kept runs. -/
  found : (k.found ++ if l.text[i]?.any isWordChar then [] else k.state.closedTokens n) =
    l.tokensFor n (l.kept i)

theorem Reads.step {n : Nat} {k : LineScan} (h : l.Reads n i k) (hpast : k.past = l.before i)
    (hwidth : k.width = i) (hc : l.text[i]? = some c) :
    l.Reads n (i + 1) (k.step l.mode n (l.text.contains ')') c) := by
  obtain ⟨htracks, hfound⟩ := h
  rw [hc, Option.any_some] at htracks hfound
  have hcontext : k.state.context.next l.mode k.past c = l.context (i + 1) := by
    rw [context_succ hc, ← htracks.context, hpast]
    exact congrArg _ (k.state.frame_breakAt n c).1.symm
  have hstep : l.Tracks (l.kept i) (i + 1) (l.openWord? (l.kept i) (i + 1))
      (k.step l.mode n (l.text.contains ')') c).state := by
    rw [LineScan.state_step, hcontext, hpast, hwidth]
    exact htracks.read hc
  have hfound' := (LineScan.found_step l.mode n (l.text.contains ')') k c).trans hfound
  cases hnext : l.text[i + 1]?.any isWordChar with
  | true =>
    rw [← kept_succ_of_isWordChar l hnext] at hstep hfound'
    constructor
    · rw [hnext]
      exact hstep
    · rw [hnext, hfound']
      exact List.append_nil _
  | false =>
    have hi : i < l.text.length := (List.getElem?_eq_some_iff.1 hc).1
    obtain ⟨hclosed, htokens⟩ := hstep.close hi hnext n
    constructor
    · rw [hnext]
      exact hclosed
    · rw [hnext, hfound']
      exact htokens

/-- The scanner follows the text through a line. -/
theorem reads_readPart {o : ScanOptions} {n : Nat} (hmode : l.mode = o.escapeMode)
    (h₀ : l.Tracks [] 0 none (s.enterLine (o.inWindow n) l.text)) (hi : i ≤ l.text.length) :
    l.Reads n i (readPart o n s l.text i) := by
  induction i with
  | zero =>
    have hword := h₀.word
    rw [readPart_zero]
    constructor
    · rw [openWord?_of_reading_eq_nil rfl, ite_self, ScanState.closeWord_of_none hword, ite_self]
      exact h₀
    · rw [ScanState.closedTokens_of_none hword, ite_self]
      rfl
  | succ i ih =>
    have hc := List.getElem?_eq_getElem (l := l.text) (i := i) (by omega)
    rw [readPart_succ o n s hc, ← hmode]
    exact (ih (by omega)).step (past_readPart o n s i) (width_readPart o n s (by omega)) hc

/-- At the end of a line no word is left to be read. -/
theorem Reads.at_end {n : Nat} {k : LineScan} (h : l.Reads n l.text.length k) :
    l.Tracks (l.kept l.text.length) l.text.length none (k.state.closeWord n).1 ∧
      k.found ++ k.state.closedTokens n = l.tokensFor n (l.kept l.text.length) := by
  obtain ⟨htracks, hfound⟩ := h
  rw [List.getElem?_eq_none (Nat.le_refl _)] at htracks hfound
  exact ⟨htracks, hfound⟩

/-! ## All lines -/

theorem lt_of_word_eq {W : Span} (h : l.word W = "case" ∨ l.word W = "esac") :
    W.start + 1 < W.stop := by
  have hlen : (l.word W).length = 4 := by
    rcases h with h | h <;> rw [h] <;> rfl
  simp only [word, String.length_ofList, List.length_drop, List.length_take] at hlen
  omega

end ReadLine

theorem caseLeftOpen_concat (tokens : List Token) (t : Token) : caseLeftOpen (tokens ++ [t]) =
    if t.text = "case" then true else if t.text = "esac" then false else caseLeftOpen tokens := by
  unfold caseLeftOpen
  rw [List.reverse_append, List.reverse_singleton, List.singleton_append]
  split_ifs with hcase hesac
  · rw [List.find?_cons_of_pos (by simp [hcase])]
    simp [hcase]
  · rw [List.find?_cons_of_pos (by simp [hesac])]
    simp [hesac]
  · rw [List.find?_cons_of_neg (by simp [hcase, hesac])]

/-- The tokens of a line tell whether a case statement is open after it. -/
theorem caseLeftOpen_append_tokensFor {l : ReadLine} {tokens : List Token}
    (h : l.inCase = caseLeftOpen tokens) (n : Nat) (K : List Span) :
    caseLeftOpen (tokens ++ l.tokensFor n K) = l.caseOpen K := by
  induction K with
  | nil => simp [ReadLine.tokensFor, ReadLine.caseOpen, ReadLine.lastCase?, h]
  | cons W K ih =>
    rw [ReadLine.tokensFor_cons, ← List.append_assoc]
    split_ifs with hlong
    · rw [caseLeftOpen_concat, ih]
      dsimp only
      split_ifs with hcase hesac
      · exact (ReadLine.caseOpen_cons_case hcase).symm
      · exact (ReadLine.caseOpen_cons_esac hesac).symm
      · exact (ReadLine.inPattern_cons (i := 0) hcase hesac).1.symm
    · have hword := not_or.1 fun hw => hlong (ReadLine.lt_of_word_eq (l := l) hw)
      rw [List.append_nil, ih]
      exact (ReadLine.inPattern_cons (i := 0) hword.1 hword.2).1.symm

section

variable (o : ScanOptions) (before : List (List Char)) (line : List Char)

/-- What a scan carries into a line besides the context and the here-documents. -/
theorem flags_stateAfter : (stateAfter o before).ready = before.isEmpty ∧
    (stateAfter o before).wrapped = false ∧ (stateAfter o before).fresh = true := by
  cases before with
  | nil => exact ⟨rfl, rfl, rfl⟩
  | cons line before =>
    rw [stateAfter_cons]
    exact ⟨rfl, rfl, rfl⟩

variable {o before}

/-- The scanner enters a line as the text prescribes. -/
theorem tracks_enterLine {tokens : List Token}
    (hblock : (stateAfter o before).block =
      if caseLeftOpen tokens then CaseBlock.pattern else .outside) (isRead : Bool) :
    (readLine o before tokens line).Tracks [] 0 none
      ((stateAfter o before).enterLine isRead line) := by
  obtain ⟨hready, hwrapped, hfresh⟩ := flags_stateAfter o before
  rw [ScanState.enterLine_eq]
  refine ⟨by simp, word_stateAfter o before, context_stateAfter o before, ?_, ?_, ?_, ?_, ?_⟩
  · dsimp only
    rw [hready]
    simp [ReadLine.Ready, readLine]
  · simp [hwrapped, ReadLine.AfterWrapper]
  · simp [hfresh]
  · dsimp only
    rw [hblock]
    cases hopen : caseLeftOpen tokens with
    | false =>
      rw [if_neg fun hpass => absurd hpass.2.1 (by simp)]
      exact iff_of_true rfl hopen
    | true =>
      have hne : ¬ (readLine o before tokens line).caseOpen [] = false :=
        fun hclosed => absurd (hopen.symm.trans hclosed) (by simp)
      rw [if_pos rfl]
      split_ifs <;> exact iff_of_false (by simp) hne
  · intro (hp : line.contains ')' = true)
    have hended : ¬ (readLine o before tokens line).PatternEnded [] 0 := by
      rintro ⟨p, hlt, -⟩
      exact absurd hlt (Nat.not_lt_zero p)
    dsimp only
    rw [if_neg fun hpass => absurd (hp.symm.trans hpass.2.2) (by simp), hblock]
    cases hopen : caseLeftOpen tokens with
    | false =>
      exact iff_of_false (by simp) fun hin => absurd (hopen.symm.trans hin.2.1) (by simp)
    | true => exact iff_of_true rfl ⟨hp, hopen, hended⟩

/-- A line that is read gives its kept runs as tokens and leaves the case statement that they leave
open. -/
theorem lineTokens_of_isRead {tokens : List Token}
    (hblock : (stateAfter o before).block =
      if caseLeftOpen tokens then CaseBlock.pattern else .outside) (h : IsRead o before line) :
    let l := readLine o before tokens line
    lineTokens o (before.length + 1) (stateAfter o before) line =
        l.tokensFor (before.length + 1) (l.kept line.length) ∧
      ((scanLine o (before.length + 1) (stateAfter o before) line).1.block = .outside ↔
        l.caseOpen (l.kept line.length) = false) := by
  obtain ⟨hwindow, hbody⟩ := (isRead_iff o before line).1 h
  obtain ⟨hstate, hline⟩ := scanLine_of_read hwindow hbody
  have hreads := ReadLine.reads_readPart (l := readLine o before tokens line)
    (n := before.length + 1) rfl (tracks_enterLine line hblock _) (Nat.le_refl _)
  obtain ⟨htracks, hfound⟩ := hreads.at_end
  rw [hstate, hline]
  exact ⟨hfound, htracks.outside⟩

theorem block_endLine (s : ScanState) :
    s.endLine.block = if s.block = .outside then .outside else .pattern := by
  unfold ScanState.endLine
  cases s.block <;> rfl

variable (o before)

/-- The scanner finds the command words and carries whether they leave a case statement open. -/
theorem tokensOf_eq_commandWords : tokensOf o before = commandWords o before ∧
    (stateAfter o before).block =
      if caseLeftOpen (commandWords o before) then CaseBlock.pattern else .outside := by
  induction before with
  | nil => exact ⟨rfl, rfl⟩
  | cons line before ih =>
    obtain ⟨htokens, hblock⟩ := ih
    rw [tokensOf_cons, stateAfter_cons, commandWords, htokens, block_endLine]
    by_cases h : IsRead o before line
    · obtain ⟨hline, hout⟩ := lineTokens_of_isRead line hblock h
      rw [if_pos h, hline, caseLeftOpen_append_tokensFor rfl]
      refine ⟨rfl, ?_⟩
      simp only [hout]
      split_ifs with hclosed hopen hopen
      · exact absurd (hclosed.symm.trans hopen) (by simp)
      · rfl
      · rfl
      · exact absurd (by simpa using hclosed) hopen
    · have h' := mt (isRead_iff o before line).2 h
      obtain ⟨hstate, hline⟩ := scanLine_of_pass h'
      rw [hstate, hline, if_neg h, List.append_nil, ScanState.frame_lookAhead]
      dsimp only
      rw [hblock]
      refine ⟨rfl, ?_⟩
      split_ifs <;> simp_all

end

namespace Script

/-- The tokens of a script are its command words, in the order of the text. On every line the runs
they come from are exactly the runs of word characters that are started and not suppressed. -/
theorem tokens_eq_commandWords (s : Script) (o : ScanOptions) :
    s.tokens o = commandWords o s.pieces.reverse ∧
      ∀ (l : ReadLine), ∀ i ≤ l.text.length,
        (l.kept i).Pairwise (fun R R' => R'.stop < R.stop) ∧
          ∀ W, W ∈ l.kept i ↔ l.IsRun W ∧ W.stop ≤ i ∧ l.Started (l.kept W.start) W.start ∧
            ¬ l.Suppressed (l.kept W.start) W := by
  refine ⟨?_, fun l i hi => ⟨l.pairwise_kept hi, l.mem_kept_iff hi⟩⟩
  rw [tokens_eq_tokensOf]
  exact (tokensOf_eq_commandWords o s.pieces.reverse).1

end Script

/-- As `Started`, except that only the word itself may open the line. -/
def ReadLine.StartedItself (l : ReadLine) (K : List Span) (a : Nat) : Prop :=
  l.IsLetter a ∧ (l.before a).head?.any disqualifies = false ∧
    (l.AfterWrapper K ∨ ∃ q ≤ a, (∀ R ∈ K, R.stop ≤ q) ∧
      ((q = a ∧ l.OpensLine K q) ∨ l.FollowsMark q ∨ l.EndsPattern K q ∨ l.StartsScript q))

/-- A word of a case pattern opens the line for the `esac` after it, although it is suppressed and,
whatever runs are taken to be kept before, the `esac` does not open the line itself. -/
theorem Script.esac_after_pattern_word_mem_tokens :
    ⟨"esac", 2, 5⟩ ∈ (Script.mk "case x in\nfoo|esac)" "").tokens {} ∧
      let l := readLine {} ["case x in".toList] (commandWords {} ["case x in".toList])
        "foo|esac)".toList
      l.IsRun ⟨4, 8⟩ ∧
        ∀ K : List Span, (∀ R ∈ K, l.IsRun R ∧ R.stop ≤ 4) → ¬ l.StartedItself K 4 := by
  refine ⟨by decide +kernel, ?_⟩
  intro l
  have hwrapper : ∀ e ≤ 4,
      ((l.runTo? e).any fun R => wrapperWords.contains (l.word R)) = false := by
    decide +kernel
  have hblank : (l.before 4).head?.all isBlank = false := by decide +kernel
  have hmark : ∀ q ≤ 4, ¬ l.FollowsMark q := by decide +kernel
  have hparen : ∀ q ≤ 4, ¬ l.IsCode q ')' := by decide +kernel
  refine ⟨?_, ?_⟩
  · exact ((l.runTo?_eq_some_iff (i := 8) (by decide) _).1 (by decide +kernel)).1
  · rintro K hK ⟨-, -, hwrap | ⟨q, hq, -, ⟨rfl, hopens⟩ | hq' | hends | hscript⟩⟩
    · obtain ⟨R, hR, hword⟩ := Option.any_eq_true .. |>.1 hwrap
      obtain ⟨hrun, hle⟩ := hK R (List.mem_of_find?_eq_some hR)
      have hto := (l.runTo?_eq_some_iff (Nat.le_trans hle (by decide)) R).2 ⟨hrun, rfl⟩
      have hnot := hwrapper R.stop hle
      rw [hto, Option.any_some, hword] at hnot
      exact absurd hnot (by simp)
    · exact absurd (hblank.symm.trans hopens.2.2) (by simp)
    · exact hmark q hq hq'
    · exact hparen q hq hends.1
    · exact absurd hscript.1 (by decide)

end CommandAudit
