import CommandAudit.Proofs.Region

/-!
# Words in command position

The text of a script alone decides which of its words are commands. A word is a maximal run of word
characters. On a line that is read, a run is started if it begins with a letter of code in command
position, and suppressed if it stands in a case pattern and does not end the case statement; both
depend on the runs before it that were started and not suppressed, which `ReadLine.kept` lists.
`commandWords` collects the kept runs of at least two characters over all lines.
-/

namespace CommandAudit

/-- The part of a line from the offset `start` up to the offset `stop`. -/
structure Span where
  /-- The offset of the first character. -/
  start : Nat
  /-- The offset after the last character. -/
  stop : Nat
  deriving DecidableEq, Repr

/-- A line that is read, with all that the lines before it contribute. -/
structure ReadLine where
  /-- How backslashes escape quotes. -/
  mode : EscapeMode
  /-- The characters of the line. -/
  text : List Char
  /-- The context at its start. -/
  start : Context
  /-- It is the first line of the script. -/
  isFirst : Bool
  /-- The lines before it leave a case statement open. -/
  inCase : Bool

namespace ReadLine

variable (l : ReadLine)

/-! ## Places of a line -/

/-- The characters before the offset `i`, latest first. -/
def before (i : Nat) : List Char :=
  (l.text.take i).reverse

/-- The context before the character at the offset `i`. -/
def context (i : Nat) : Context :=
  contextAfter l.mode l.start (l.before i)

/-- The character at the offset `i` is `c` and is read as code. -/
def IsCode (i : Nat) (c : Char) : Prop :=
  l.text[i]? = some c ∧ l.context (i + 1) = .code

instance (i : Nat) (c : Char) : Decidable (l.IsCode i c) :=
  inferInstanceAs (Decidable (_ ∧ _))

/-- A letter of code stands at the offset `i`. -/
def IsLetter (i : Nat) : Prop :=
  l.text[i]?.any Char.isAlpha = true ∧ l.context (i + 1) = .code

instance (i : Nat) : Decidable (l.IsLetter i) :=
  inferInstanceAs (Decidable (_ ∧ _))

/-! ## Runs of word characters -/

/-- The span is a run: it holds word characters only and cannot be made longer. -/
structure IsRun (W : Span) : Prop where
  /-- It is not empty. -/
  lt : W.start < W.stop
  /-- It holds word characters. -/
  isWordChar : ∀ i, W.start ≤ i → i < W.stop → l.text[i]?.any isWordChar = true
  /-- No word character stands directly before it. -/
  left : (l.before W.start).head?.any CommandAudit.isWordChar = false
  /-- No word character stands directly after it. -/
  right : l.text[W.stop]?.any CommandAudit.isWordChar = false

/-- The word characters directly before the offset `i`, latest first. -/
def reading (i : Nat) : List Char :=
  (l.before i).takeWhile isWordChar

/-- The offset of the first of these characters. -/
def runStart (i : Nat) : Nat :=
  i - (l.reading i).length

/-- The run that ends at the offset `i`. -/
def runTo? (i : Nat) : Option Span :=
  if l.reading i = [] ∨ l.text[i]?.any isWordChar = true then none else some ⟨l.runStart i, i⟩

/-- The text of a span. -/
def word (W : Span) : String :=
  String.ofList ((l.text.take W.stop).drop W.start)

/-! ## Case statements -/

/-- The latest of the runs `K`, latest first, that opens or closes a case statement. -/
def lastCase? (K : List Span) : Option Span :=
  K.find? fun R => l.word R == "case" || l.word R == "esac"

/-- A case statement is open after the runs `K`. -/
def caseOpen (K : List Span) : Bool :=
  match l.lastCase? K with
  | some R => l.word R == "case"
  | none => l.inCase

/-- The offset on this line from which on the open case statement is read. -/
def caseFrom (K : List Span) : Nat :=
  ((l.lastCase? K).map Span.stop).getD 0

/-- The character at the offset `i` is the second one of a `;;` and so ends a branch. -/
def EndsBranch (i : Nat) : Prop :=
  l.IsCode i ';' ∧ (l.before i).head? = some ';'

instance (i : Nat) : Decidable (l.EndsBranch i) :=
  inferInstanceAs (Decidable (_ ∧ _))

/-- Before the offset `i` a `)` ends the pattern of a branch, and no `;;` ends the branch. -/
def PatternEnded (K : List Span) (i : Nat) : Prop :=
  ∃ p < i, l.caseFrom K ≤ p ∧ l.IsCode p ')' ∧ ∀ r < i, p < r → ¬ l.EndsBranch r

instance (K : List Span) (i : Nat) : Decidable (l.PatternEnded K i) :=
  inferInstanceAs (Decidable (∃ p < i, _ ∧ _ ∧ _))

/-- The offset `i` lies in the pattern of a branch. A line without `)` holds no pattern. -/
def InPattern (K : List Span) (i : Nat) : Prop :=
  l.text.contains ')' = true ∧ l.caseOpen K = true ∧ ¬ l.PatternEnded K i

instance (K : List Span) (i : Nat) : Decidable (l.InPattern K i) :=
  inferInstanceAs (Decidable (_ ∧ _ ∧ _))

/-! ## Command position -/

/-- The first letter of a word after a blank or at the start of the line, before any kept run. -/
def OpensLine (K : List Span) (q : Nat) : Prop :=
  K = [] ∧ l.IsLetter q ∧ (l.before q).head?.all isBlank = true

instance (K : List Span) (q : Nat) : Decidable (l.OpensLine K q) :=
  inferInstanceAs (Decidable (_ ∧ _ ∧ _))

/-- A place of code directly after a mark. -/
def FollowsMark (q : Nat) : Prop :=
  afterMark (l.before q) = true ∧ l.context (q + 1) = .code

instance (q : Nat) : Decidable (l.FollowsMark q) :=
  inferInstanceAs (Decidable (_ ∧ _))

/-- A `)` that ends the pattern of a branch. -/
def EndsPattern (K : List Span) (q : Nat) : Prop :=
  l.IsCode q ')' ∧ l.InPattern K q

instance (K : List Span) (q : Nat) : Decidable (l.EndsPattern K q) :=
  inferInstanceAs (Decidable (_ ∧ _))

/-- The start of the script. -/
def StartsScript (q : Nat) : Prop :=
  l.isFirst = true ∧ q = 0

instance (q : Nat) : Decidable (l.StartsScript q) :=
  inferInstanceAs (Decidable (_ ∧ _))

/-- A place after which the next word is a command, given the runs `K` kept before. -/
def Trigger (K : List Span) (q : Nat) : Prop :=
  l.OpensLine K q ∨ l.FollowsMark q ∨ l.EndsPattern K q ∨ l.StartsScript q

instance (K : List Span) (q : Nat) : Decidable (l.Trigger K q) :=
  inferInstanceAs (Decidable (_ ∨ _ ∨ _ ∨ _))

/-- A trigger stands before the offset `i`, and no kept run ends after it. -/
def Ready (K : List Span) (i : Nat) : Prop :=
  ∃ q < i, (∀ R ∈ K, R.stop ≤ q) ∧ l.Trigger K q

instance (K : List Span) (i : Nat) : Decidable (l.Ready K i) :=
  inferInstanceAs (Decidable (∃ q < i, _ ∧ _))

/-- The last of the kept runs with more than one character runs the next word as a command. -/
def AfterWrapper (K : List Span) : Prop :=
  ((K.find? fun R => R.start + 1 < R.stop).any fun R => wrapperWords.contains (l.word R)) = true

instance (K : List Span) : Decidable (l.AfterWrapper K) :=
  inferInstanceAs (Decidable (_ = true))

/-- A word that begins at the offset `a` is started, given the runs `K` kept before. -/
def Started (K : List Span) (a : Nat) : Prop :=
  l.IsLetter a ∧ (l.before a).head?.any disqualifies = false ∧
    (l.AfterWrapper K ∨ l.Ready K (a + 1))

instance (K : List Span) (a : Nat) : Decidable (l.Started K a) :=
  inferInstanceAs (Decidable (_ ∧ _ ∧ (_ ∨ _)))

/-- The word stands in a case pattern and does not end the case statement. -/
def Suppressed (K : List Span) (W : Span) : Prop :=
  l.InPattern K W.start ∧ l.word W ≠ "esac"

instance (K : List Span) (W : Span) : Decidable (l.Suppressed K W) :=
  inferInstanceAs (Decidable (_ ∧ _))

/-- The words that end at the offset `i` or before it, are started and not suppressed, latest
first. -/
def kept : Nat → List Span
  | 0 => []
  | i + 1 =>
    match l.runTo? (i + 1) with
    | none => kept i
    | some W =>
      if l.Started (kept i) W.start ∧ ¬ l.Suppressed (kept i) W then W :: kept i else kept i

/-- The runs of more than one character as tokens of line `n`, in the order of the text. -/
def tokensFor (n : Nat) (K : List Span) : List Token :=
  (K.reverse.filter fun R => R.start + 1 < R.stop).map fun R => ⟨l.word R, n, R.start + 1⟩

end ReadLine

/-- The last of the tokens that opens or closes a case statement opens one. -/
def caseLeftOpen (tokens : List Token) : Bool :=
  (tokens.reverse.find? fun t => t.text == "case" || t.text == "esac").any (·.text == "case")

/-- The line after the lines `before`, with what they contribute if `tokens` are their commands. -/
def readLine (o : ScanOptions) (before : List (List Char)) (tokens : List Token)
    (line : List Char) : ReadLine where
  mode := o.escapeMode
  text := line
  start := startContext o before
  isFirst := before.isEmpty
  inCase := caseLeftOpen tokens

/-- The commands on the given lines, latest first. -/
def commandWords (o : ScanOptions) : List (List Char) → List Token
  | [] => []
  | line :: before =>
    let tokens := commandWords o before
    let l := readLine o before tokens line
    tokens ++
      if IsRead o before line then l.tokensFor (before.length + 1) (l.kept line.length) else []

namespace ReadLine

variable (l : ReadLine)

/-! ## One character further -/

section

variable {l}

theorem before_succ {i : Nat} {c : Char} (hc : l.text[i]? = some c) :
    l.before (i + 1) = c :: l.before i := by
  unfold before
  rw [List.take_add_one, hc, List.reverse_append]
  rfl

theorem context_succ {i : Nat} {c : Char} (hc : l.text[i]? = some c) :
    l.context (i + 1) = (l.context i).next l.mode (l.before i) c := by
  unfold context
  rw [before_succ hc, contextAfter_cons]

theorem reading_succ {i : Nat} {c : Char} (hc : l.text[i]? = some c) :
    l.reading (i + 1) = if isWordChar c then c :: l.reading i else [] := by
  unfold reading
  rw [before_succ hc, List.takeWhile_cons]

theorem runStart_succ {i : Nat} {c : Char} (hc : l.text[i]? = some c)
    (hw : isWordChar c = true) : l.runStart (i + 1) = l.runStart i := by
  unfold runStart
  rw [reading_succ hc, if_pos hw, List.length_cons, Nat.add_sub_add_right]

end

theorem length_reading_le (i : Nat) : (l.reading i).length ≤ i := by
  have h := (List.takeWhile_sublist isWordChar (l := l.before i)).length_le
  have hlen : (l.before i).length ≤ i := by
    simp only [before, List.length_reverse, List.length_take]
    omega
  exact Nat.le_trans h hlen

theorem runStart_of_reading_eq_nil {i : Nat} (h : l.reading i = []) : l.runStart i = i := by
  simp [runStart, h]

/-- The last of the word characters before a place is the character before it. -/
theorem reading_eq_nil_iff (i : Nat) :
    l.reading i = [] ↔ (l.before i).head?.any isWordChar = false := by
  unfold reading
  cases l.before i with
  | nil => simp
  | cons c past => cases h : isWordChar c <;> simp [h]

/-- The context does not change inside a run. -/
theorem context_runStart {i : Nat} (hi : i ≤ l.text.length) (h : l.reading i ≠ []) :
    l.context (l.runStart i + 1) = l.context i := by
  induction i with
  | zero => exact absurd rfl h
  | succ i ih =>
    have hc := List.getElem?_eq_getElem (l := l.text) (i := i) (by omega)
    rw [reading_succ hc] at h
    split_ifs at h with hw
    · rw [runStart_succ hc hw]
      by_cases hr : l.reading i = []
      · rw [runStart_of_reading_eq_nil l hr]
      · rw [ih (by omega) hr, context_succ hc, next_of_isWordChar _ _ _ hw]
    · exact absurd rfl h

theorem word_runStart {i : Nat} (hi : i ≤ l.text.length) :
    l.word ⟨l.runStart i, i⟩ = String.ofList (l.reading i).reverse := by
  have hsuffix : (l.reading i).reverse <:+ l.text.take i := by
    rw [← List.reverse_prefix, List.reverse_reverse]
    exact List.takeWhile_prefix isWordChar
  have hdrop := List.suffix_iff_eq_drop.1 hsuffix
  rw [List.length_reverse, List.length_take, Nat.min_eq_left hi] at hdrop
  unfold word runStart
  rw [← hdrop]

/-- A place is the first one of the word characters before `i` if only such characters stand from it
up to `i` and none stands before it. -/
theorem eq_runStart_iff {a i : Nat} (ha : a ≤ i) (hi : i ≤ l.text.length) :
    a = l.runStart i ↔ (∀ j, a ≤ j → j < i → l.text[j]?.any isWordChar = true) ∧
      (l.before a).head?.any isWordChar = false := by
  induction i with
  | zero =>
    obtain rfl : a = 0 := by omega
    simp [runStart, before]
  | succ i ih =>
    have hc := List.getElem?_eq_getElem (l := l.text) (i := i) (by omega)
    generalize l.text[i] = c at hc
    have hlast : l.text[i]?.any isWordChar = isWordChar c := by rw [hc, Option.any_some]
    have hhead : (l.before (i + 1)).head?.any isWordChar = isWordChar c := by
      rw [before_succ hc, List.head?_cons, Option.any_some]
    cases hw : isWordChar c with
    | false =>
      rw [runStart_of_reading_eq_nil l (by rw [reading_succ hc, if_neg (by simp [hw])])]
      constructor
      · rintro rfl
        exact ⟨fun j hj hj' => by omega, hhead.trans hw⟩
      · rintro ⟨hall, -⟩
        by_contra hne
        rw [← hlast, hall i (by omega) (by omega)] at hw
        exact absurd hw (by simp)
    | true =>
      have hle := l.length_reading_le i
      rw [runStart_succ hc hw]
      rcases Nat.lt_or_ge i a with hlt | hle'
      · obtain rfl : a = i + 1 := by omega
        rw [hhead, hw]
        unfold runStart
        simp only [Bool.true_eq_false, and_false, iff_false]
        omega
      · rw [ih hle' (by omega)]
        refine and_congr_left fun _ => ⟨fun h j hj hj' => ?_, fun h j hj hj' => h j hj (by omega)⟩
        rcases Nat.lt_or_ge j i with hlt | hge
        · exact h j hj hlt
        · obtain rfl : j = i := by omega
          rw [hlast, hw]

/-- The characters around a place decide which run ends there. -/
theorem runTo?_eq_some_iff {i : Nat} (hi : i ≤ l.text.length) (W : Span) :
    l.runTo? i = some W ↔ l.IsRun W ∧ W.stop = i := by
  have hle := l.length_reading_le i
  constructor
  · intro h
    unfold runTo? at h
    split_ifs at h with hnone
    obtain rfl := Option.some.inj h
    obtain ⟨hne, hright⟩ := not_or.1 hnone
    have hpos := List.length_pos_iff.2 hne
    have hstart : l.runStart i ≤ i := Nat.sub_le ..
    obtain ⟨hall, hleft⟩ := (l.eq_runStart_iff hstart hi).1 rfl
    refine ⟨⟨?_, hall, hleft, by simpa using hright⟩, rfl⟩
    change l.runStart i < i
    unfold runStart
    omega
  · rintro ⟨h, rfl⟩
    have hstart := (l.eq_runStart_iff (Nat.le_of_lt h.lt) hi).2 ⟨h.isWordChar, h.left⟩
    have hne : l.reading W.stop ≠ [] := by
      intro hnil
      have hlt := h.lt
      rw [hstart, runStart_of_reading_eq_nil l hnil] at hlt
      exact absurd hlt (Nat.lt_irrefl _)
    unfold runTo?
    rw [if_neg (not_or.2 ⟨hne, by simp [h.right]⟩), ← hstart]

theorem stop_le_iff_of_runTo?_ne {i : Nat} (hi : i + 1 ≤ l.text.length) {W : Span} (h : l.IsRun W)
    (hne : l.runTo? (i + 1) ≠ some W) : W.stop ≤ i ↔ W.stop ≤ i + 1 := by
  have hstop : W.stop ≠ i + 1 := fun he => hne ((l.runTo?_eq_some_iff hi W).2 ⟨h, he⟩)
  omega

/-! ## The kept runs -/

theorem kept_succ_of_none {i : Nat} (h : l.runTo? (i + 1) = none) : l.kept (i + 1) = l.kept i := by
  rw [kept, h]

theorem kept_succ_of_some {i : Nat} {W : Span} (h : l.runTo? (i + 1) = some W) :
    l.kept (i + 1) =
      if l.Started (l.kept i) W.start ∧ ¬ l.Suppressed (l.kept i) W then W :: l.kept i
      else l.kept i := by
  rw [kept, h]

/-- No run ends where it can go on. -/
theorem kept_succ_of_isWordChar {i : Nat} (h : l.text[i + 1]?.any isWordChar = true) :
    l.kept (i + 1) = l.kept i := by
  apply kept_succ_of_none
  unfold runTo?
  rw [if_pos (Or.inr h)]

theorem kept_of_isRun {W : Span} (h : l.IsRun W) {i : Nat} (hi : W.start ≤ i) (hi' : i < W.stop) :
    l.kept i = l.kept W.start := by
  induction i with
  | zero => rw [Nat.le_zero.1 hi]
  | succ i ih =>
    rcases Nat.lt_or_ge i W.start with hlt | hge
    · rw [Nat.le_antisymm hi hlt]
    · rw [kept_succ_of_isWordChar l (h.isWordChar (i + 1) hi hi'), ih hge (by omega)]

/-- The kept runs are the runs that are started and not suppressed, each judged by the kept runs
before it. -/
theorem mem_kept_iff {i : Nat} (hi : i ≤ l.text.length) (W : Span) :
    W ∈ l.kept i ↔ l.IsRun W ∧ W.stop ≤ i ∧ l.Started (l.kept W.start) W.start ∧
      ¬ l.Suppressed (l.kept W.start) W := by
  induction i with
  | zero =>
    simp only [kept, List.not_mem_nil, false_iff]
    rintro ⟨h, hstop, -⟩
    have hlt := h.lt
    omega
  | succ i ih =>
    have ih := ih (by omega)
    rcases hrun : l.runTo? (i + 1) with _ | V
    · rw [kept_succ_of_none l hrun, ih]
      exact and_congr_right fun h => and_congr_left fun _ =>
        l.stop_le_iff_of_runTo?_ne hi h (by simp [hrun])
    · obtain ⟨hV, hVstop⟩ := (l.runTo?_eq_some_iff hi V).1 hrun
      have hlt := hV.lt
      have hkept := l.kept_of_isRun hV (i := i) (by omega) (by omega)
      rw [kept_succ_of_some l hrun]
      by_cases hW : W = V
      · subst hW
        have hnot : W ∉ l.kept i := fun hmem => by
          have hstop := (ih.1 hmem).2.1
          omega
        rw [← hkept]
        split_ifs with hk
        · simp only [List.mem_cons, true_or, true_iff]
          exact ⟨hV, by omega, hk⟩
        · exact iff_of_false hnot fun h => hk h.2.2
      · have hmem : (W ∈ if l.Started (l.kept i) V.start ∧ ¬ l.Suppressed (l.kept i) V
            then V :: l.kept i else l.kept i) ↔ W ∈ l.kept i := by
          split_ifs <;> simp [hW]
        rw [hmem, ih]
        exact and_congr_right fun h => and_congr_left fun _ =>
          l.stop_le_iff_of_runTo?_ne hi h (by simpa [hrun] using Ne.symm hW)

/-- The kept runs stand in the order of the text. -/
theorem pairwise_kept {i : Nat} (hi : i ≤ l.text.length) :
    (l.kept i).Pairwise fun R R' => R'.stop < R.stop := by
  induction i with
  | zero => exact List.Pairwise.nil
  | succ i ih =>
    rcases hrun : l.runTo? (i + 1) with _ | V
    · rw [kept_succ_of_none l hrun]
      exact ih (by omega)
    · rw [kept_succ_of_some l hrun]
      split_ifs
      · obtain ⟨-, hstop⟩ := (l.runTo?_eq_some_iff hi V).1 hrun
        refine List.Pairwise.cons (fun R hR => ?_) (ih (by omega))
        have hle := ((l.mem_kept_iff (by omega) R).1 hR).2.1
        omega
      · exact ih (by omega)

section

variable {l} {K : List Span} {i : Nat} {c : Char}

/-! ## Triggers and patterns one character further -/

theorem ready_succ : l.Ready K (i + 1) ↔
    l.Ready K i ∨ ((∀ R ∈ K, R.stop ≤ i) ∧ l.Trigger K i) := by
  constructor
  · rintro ⟨q, hq, h⟩
    rcases Nat.lt_or_ge q i with hlt | hge
    · exact Or.inl ⟨q, hlt, h⟩
    · obtain rfl : q = i := by omega
      exact Or.inr h
  · rintro (⟨q, hq, h⟩ | h)
    · exact ⟨q, by omega, h⟩
    · exact ⟨i, by omega, h⟩

/-- The start of the script is a trigger until a run is kept. -/
theorem ready_of_isFirst (hfirst : l.isFirst = true) (hK : K = []) (hi : 0 < i) : l.Ready K i :=
  ⟨0, hi, by simp [hK], Or.inr (Or.inr (Or.inr ⟨hfirst, rfl⟩))⟩

theorem patternEnded_succ : l.PatternEnded K (i + 1) ↔
    (l.PatternEnded K i ∧ ¬ l.EndsBranch i) ∨ (l.caseFrom K ≤ i ∧ l.IsCode i ')') := by
  constructor
  · rintro ⟨p, hp, hfrom, hparen, hbranch⟩
    rcases Nat.lt_or_ge p i with hlt | hge
    · exact Or.inl ⟨⟨p, hlt, hfrom, hparen, fun r hr => hbranch r (by omega)⟩,
        hbranch i (by omega) hlt⟩
    · obtain rfl : p = i := by omega
      exact Or.inr ⟨hfrom, hparen⟩
  · rintro (⟨⟨p, hp, hfrom, hparen, hbranch⟩, hi⟩ | ⟨hfrom, hparen⟩)
    · refine ⟨p, by omega, hfrom, hparen, fun r hr hlt => ?_⟩
      rcases Nat.lt_or_ge r i with hri | hge
      · exact hbranch r hri hlt
      · obtain rfl : r = i := by omega
        exact hi
    · exact ⟨i, by omega, hfrom, hparen, fun r hr hlt => by omega⟩

/-- A character that is neither `)` nor `;` in code leaves a pattern as it is. -/
theorem inPattern_succ (hparen : ¬ l.IsCode i ')') (hsemi : ¬ l.IsCode i ';') :
    l.InPattern K (i + 1) ↔ l.InPattern K i := by
  have hbranch : ¬ l.EndsBranch i := fun h => hsemi h.1
  unfold InPattern
  rw [patternEnded_succ]
  simp only [hbranch, hparen, not_false_iff, and_true, and_false, or_false]

theorem caseFrom_le (h : ∀ R ∈ K, R.stop ≤ i) : l.caseFrom K ≤ i := by
  unfold caseFrom
  rcases hcase : l.lastCase? K with _ | R
  · simp
  · simpa using h R (List.mem_of_find?_eq_some hcase)

theorem contains_of_getElem? (h : l.text[i]? = some c) : l.text.contains c = true := by
  rw [List.contains_iff_mem]
  exact List.mem_of_getElem? h

/-! ## One kept run more -/

theorem lastCase?_cons (W : Span) : l.lastCase? (W :: K) =
    if l.word W = "case" ∨ l.word W = "esac" then some W else l.lastCase? K := by
  unfold lastCase?
  by_cases h : l.word W = "case" ∨ l.word W = "esac"
  · rw [if_pos h, List.find?_cons_of_pos (by simpa using h)]
  · rw [if_neg h, List.find?_cons_of_neg (by simpa using h)]

theorem caseOpen_cons_case {W : Span} (h : l.word W = "case") : l.caseOpen (W :: K) = true := by
  unfold caseOpen
  rw [lastCase?_cons, if_pos (Or.inl h)]
  simp [h]

theorem caseOpen_cons_esac {W : Span} (h : l.word W = "esac") : l.caseOpen (W :: K) = false := by
  unfold caseOpen
  rw [lastCase?_cons, if_pos (Or.inr h)]
  simp [h]

/-- A pattern starts directly after `case`. -/
theorem inPattern_cons_case {W : Span} (hp : l.text.contains ')' = true) (h : l.word W = "case") :
    l.InPattern (W :: K) W.stop := by
  refine ⟨hp, caseOpen_cons_case h, ?_⟩
  rintro ⟨p, hlt, hfrom, -⟩
  unfold caseFrom at hfrom
  rw [lastCase?_cons, if_pos (Or.inl h)] at hfrom
  exact absurd hlt (Nat.not_lt.2 hfrom)

/-- Other words leave case statements alone. -/
theorem inPattern_cons {W : Span} (hcase : l.word W ≠ "case") (hesac : l.word W ≠ "esac") :
    l.caseOpen (W :: K) = l.caseOpen K ∧ (l.InPattern (W :: K) i ↔ l.InPattern K i) := by
  have hlast : l.lastCase? (W :: K) = l.lastCase? K := by
    rw [lastCase?_cons, if_neg (not_or.2 ⟨hcase, hesac⟩)]
  unfold InPattern PatternEnded caseOpen caseFrom
  rw [hlast]
  exact ⟨rfl, Iff.rfl⟩

/-- Only a word of more than one character decides whether the next word is run by it. -/
theorem afterWrapper_cons (W : Span) : l.AfterWrapper (W :: K) ↔
    if W.start + 1 < W.stop then wrapperWords.contains (l.word W) = true else l.AfterWrapper K := by
  unfold AfterWrapper
  by_cases h : W.start + 1 < W.stop
  · rw [if_pos h, List.find?_cons_of_pos (by simpa using h), Option.any_some]
  · rw [if_neg h, List.find?_cons_of_neg (by simpa using h)]

theorem tokensFor_cons (n : Nat) (W : Span) : l.tokensFor n (W :: K) =
    l.tokensFor n K ++ if W.start + 1 < W.stop then [⟨l.word W, n, W.start + 1⟩] else [] := by
  unfold tokensFor
  rw [List.reverse_cons, List.filter_append, List.map_append]
  congr 1
  split_ifs with h <;> simp [h]

end

end ReadLine

end CommandAudit
