import CommandAudit.Heredoc
import Mathlib.Data.List.TakeWhile
import Mathlib.Data.Nat.Find

/-!
# Here-document operators of a line

`Heredoc.OperatorAt` says where an operator stands on a line and what it opens, in terms of the
characters alone; it is what `occurrence?` reads there (`operatorAt_iff`). The search answers with
the first operator of the line and asks of it alone whether it is a shift (`openedBy?_eq_some_iff`).
So a line whose first operator is a shift opens nothing, whatever operators come after it.
-/

namespace CommandAudit

namespace Heredoc

/-! ## Closing words -/

/-- A letter or an underscore, and then word characters. -/
def IsIdentifier (name : List Char) : Prop :=
  name.head?.any isNameStart = true ∧ ∀ c ∈ name, isWordChar c = true

/-- The text starts with the closing word `name`: bare, and then it cannot be made longer, or
between two equal quotes. -/
inductive StartsWithWord (name : List Char) : List Char → Prop
  | bare (rest : List Char) : rest.head?.any isWordChar = false →
      StartsWithWord name (name ++ rest)
  | quoted (q : Char) (rest : List Char) : q = '"' ∨ q = '\'' →
      StartsWithWord name (q :: (name ++ q :: rest))

theorem identifier?_eq_some_iff {cs name after : List Char} :
    identifier? cs = some (name, after) ↔
      IsIdentifier name ∧ cs = name ++ after ∧ after.head?.any isWordChar = false := by
  constructor
  · intro h
    rcases cs with _ | ⟨c, cs⟩
    · simp [identifier?] at h
    · simp only [identifier?] at h
      split_ifs at h with hc
      obtain ⟨rfl, rfl⟩ := Prod.mk.inj (Option.some.inj h)
      refine ⟨⟨?_, fun d hd => List.mem_takeWhile_imp hd⟩, ?_, ?_⟩
      · simp [leadingWord, isWordChar_of_isNameStart hc, hc]
      · exact (leadingWord_append_afterLeadingWord _).symm
      · have hstop := List.head?_dropWhile_not isWordChar (c :: cs)
        unfold afterLeadingWord
        cases hd : (List.dropWhile isWordChar (c :: cs)).head? <;> simp_all
  · rintro ⟨⟨hstart, hword⟩, rfl, hafter⟩
    have hlast : after.takeWhile isWordChar = [] ∧ after.dropWhile isWordChar = after := by
      cases after <;> simp_all
    rcases name with _ | ⟨c, name⟩
    · simp at hstart
    · have hc : isNameStart c = true := by simpa using hstart
      simp only [identifier?, List.cons_append, if_pos hc, leadingWord, afterLeadingWord]
      rw [← List.cons_append, List.takeWhile_append_of_pos hword,
        List.dropWhile_append_of_pos hword, hlast.1, hlast.2, List.append_nil]

/-- The first character of a closing word, with its quote. -/
theorem StartsWithWord.exists_head {name cs : List Char} (h : StartsWithWord name cs)
    (hname : IsIdentifier name) :
    ∃ c, cs.head? = some c ∧ (isNameStart c = true ∨ c = '"' ∨ c = '\'') := by
  cases h with
  | bare rest _ =>
    obtain ⟨c, hc, hstart⟩ := Option.any_eq_true .. |>.1 hname.1
    exact ⟨c, by rw [List.head?_append, hc]; rfl, Or.inl hstart⟩
  | quoted q rest hq => exact ⟨q, rfl, Or.inr hq⟩

theorem delimiter?_eq_some_iff {cs name : List Char} :
    delimiter? cs = some name ↔ IsIdentifier name ∧ StartsWithWord name cs := by
  rcases cs with _ | ⟨c, cs⟩
  · refine iff_of_false (by simp [delimiter?]) fun ⟨hname, hword⟩ => ?_
    obtain ⟨c, hc, -⟩ := hword.exists_head hname
    exact absurd hc (by simp)
  · simp only [delimiter?]
    by_cases hq : c = '"' ∨ c = '\''
    · -- after a quote an identifier must be followed by the same quote
      have hstart : isNameStart c = false := by rcases hq with rfl | rfl <;> decide
      rw [if_pos (by simpa using hq)]
      constructor
      · intro h
        split at h
        · next word after hident =>
          obtain ⟨hword, rfl, -⟩ := identifier?_eq_some_iff.1 hident
          split_ifs at h with hafter
          obtain rfl := Option.some.inj h
          obtain ⟨rest, rfl⟩ := List.head?_eq_some_iff.1 hafter
          exact ⟨hword, .quoted c rest hq⟩
        · exact absurd h (by simp)
      · rintro ⟨hname, hword⟩
        generalize hcs : c :: cs = text at hword
        cases hword with
        | bare rest _ =>
          rcases name with _ | ⟨d, name⟩
          · exact absurd hname.1 (by simp)
          · obtain ⟨rfl, -⟩ := List.cons.inj hcs
            exact absurd (hstart.symm.trans (by simpa using hname.1)) (by simp)
        | quoted q rest _ =>
          obtain ⟨rfl, rfl⟩ := List.cons.inj hcs
          have hend : isWordChar c = false := by rcases hq with rfl | rfl <;> decide
          have hident : identifier? (name ++ c :: rest) = some (name, c :: rest) :=
            identifier?_eq_some_iff.2 ⟨hname, rfl, by simp [hend]⟩
          rw [hident]
          simp
    · rw [if_neg (by simpa using hq), Option.map_eq_some_iff]
      constructor
      · rintro ⟨⟨word, after⟩, hident, rfl⟩
        obtain ⟨hword, hcs, hafter⟩ := identifier?_eq_some_iff.1 hident
        exact ⟨hword, hcs ▸ .bare after hafter⟩
      · rintro ⟨hname, hword⟩
        generalize hcs : c :: cs = text at hword
        cases hword with
        | bare rest hrest =>
          exact ⟨(name, rest), identifier?_eq_some_iff.2 ⟨hname, rfl, hrest⟩, rfl⟩
        | quoted q rest hquote => exact absurd ((List.cons.inj hcs).1 ▸ hquote) hq

/-! ## Operators -/

/-- An operator that opens `h` stands at the offset `i`: `<<` with no further `<` on either side, a
`-` if tabs are to be stripped, blanks, at most one backslash, and the closing word. -/
structure OperatorAt (text : List Char) (i : Nat) (h : Heredoc) : Prop where
  /-- No `<` stands directly before it. -/
  left : (text.take i).getLast? ≠ some '<'
  /-- No `<` stands directly after it. -/
  right : text[i + 2]? ≠ some '<'
  /-- The closing word is an identifier. -/
  isIdentifier : IsIdentifier h.terminator.toList
  /-- The characters from the offset on. -/
  spelled : ∃ blanks slash operand, (∀ c ∈ blanks, c = ' ' ∨ c = '\t') ∧
    (slash = [] ∨ slash = ['\\']) ∧ StartsWithWord h.terminator.toList operand ∧
    text.drop i =
      '<' :: '<' :: ((if h.stripTabs then ['-'] else []) ++ (blanks ++ (slash ++ operand)))

/-- Blanks end, and a backslash is none, where a closing word starts. -/
theorem skip_blanks {blanks slash operand name : List Char}
    (hblanks : ∀ c ∈ blanks, c = ' ' ∨ c = '\t') (hslash : slash = [] ∨ slash = ['\\'])
    (hname : IsIdentifier name) (hword : StartsWithWord name operand) :
    skipOne '\\' ((blanks ++ (slash ++ operand)).dropWhile fun c => c == ' ' || c == '\t') =
      operand := by
  obtain ⟨c, hc, hstart⟩ := hword.exists_head hname
  obtain ⟨rest, rfl⟩ := List.head?_eq_some_iff.1 hc
  have hplain : c ≠ ' ' ∧ c ≠ '\t' ∧ c ≠ '\\' := by
    refine ⟨?_, ?_, ?_⟩ <;> rintro rfl <;> exact absurd hstart (by decide)
  rw [List.dropWhile_append_of_pos fun d hd => by simpa using hblanks d hd]
  rcases hslash with rfl | rfl
  · simp [skipOne, hplain]
  · simp [skipOne]

theorem append_skipOne (c : Char) (cs : List Char) :
    (if cs.head? = some c then [c] else []) ++ skipOne c cs = cs := by
  unfold skipOne
  split_ifs with h
  · obtain ⟨rest, rfl⟩ := List.head?_eq_some_iff.1 h
    rfl
  · rfl

/-- What follows the `-` of an operator does not start with another one. -/
theorem head?_operand_ne {blanks slash operand name : List Char}
    (hblanks : ∀ c ∈ blanks, c = ' ' ∨ c = '\t') (hslash : slash = [] ∨ slash = ['\\'])
    (hname : IsIdentifier name) (hword : StartsWithWord name operand) :
    (blanks ++ (slash ++ operand)).head? ≠ some '-' := by
  obtain ⟨c, hc, hstart⟩ := hword.exists_head hname
  intro hdash
  rcases blanks with _ | ⟨b, blanks⟩
  · rcases hslash with rfl | rfl
    · rw [List.nil_append, List.nil_append, hc] at hdash
      obtain rfl := Option.some.inj hdash
      exact absurd hstart (by decide)
    · exact absurd hdash (by simp)
  · obtain rfl : b = '-' := by simpa using hdash
    exact absurd (hblanks _ List.mem_cons_self) (by decide)

theorem skipOne_dash {cs : List Char} (h : cs.head? ≠ some '-') (dashed : Bool) :
    skipOne '-' ((if dashed then ['-'] else []) ++ cs) = cs ∧
      decide (((if dashed then ['-'] else []) ++ cs).head? = some '-') = dashed := by
  cases dashed <;> simp [skipOne, h]

theorem occurrence?_eq_some_iff {before : Option Char} {cs : List Char} {h : Heredoc} :
    occurrence? before cs = some h ↔ before ≠ some '<' ∧ cs[2]? ≠ some '<' ∧
      IsIdentifier h.terminator.toList ∧
      ∃ blanks slash operand, (∀ c ∈ blanks, c = ' ' ∨ c = '\t') ∧
        (slash = [] ∨ slash = ['\\']) ∧ StartsWithWord h.terminator.toList operand ∧
        cs = '<' :: '<' ::
          ((if h.stripTabs then ['-'] else []) ++ (blanks ++ (slash ++ operand))) := by
  constructor
  · intro hread
    unfold occurrence? at hread
    split at hread
    · next rest =>
      split_ifs at hread with hsides
      obtain ⟨hleft, hright⟩ := not_or.1 hsides
      obtain ⟨name, hname, rfl⟩ := Option.map_eq_some_iff.1 hread
      obtain ⟨hident, hword⟩ := delimiter?_eq_some_iff.1 hname
      let isSpace : Char → Bool := fun c => c == ' ' || c == '\t'
      let after := (skipOne '-' rest).dropWhile isSpace
      refine ⟨hleft, by simpa [List.head?_eq_getElem?] using hright, by simpa using hident,
        (skipOne '-' rest).takeWhile isSpace, if after.head? = some '\\' then ['\\'] else [],
        skipOne '\\' after, fun c hc => ?_, ?_, by simpa using hword, ?_⟩
      · simpa [isSpace] using List.mem_takeWhile_imp hc
      · split_ifs <;> simp
      · simp only [decide_eq_true_eq]
        rw [append_skipOne, List.takeWhile_append_dropWhile, append_skipOne]
    · exact absurd hread (by simp)
  · rintro ⟨hleft, hright, hname, blanks, slash, operand, hblanks, hslash, hword, rfl⟩
    obtain ⟨hdash, hdashed⟩ :=
      skipOne_dash (head?_operand_ne hblanks hslash hname hword) h.stripTabs
    simp only [occurrence?]
    rw [if_neg (not_or.2 ⟨hleft, by simpa [List.head?_eq_getElem?] using hright⟩), hdash, hdashed,
      skip_blanks hblanks hslash hname hword, delimiter?_eq_some_iff.2 ⟨hname, hword⟩]
    simp

/-- The operator at the offset `i` of a line, as the search reads it. -/
theorem operatorAt_iff {line : List Char} {i : Nat} {h : Heredoc} :
    OperatorAt line i h ↔ occurrence? (line.take i).getLast? (line.drop i) = some h := by
  rw [occurrence?_eq_some_iff, List.getElem?_drop]
  exact ⟨fun ⟨hleft, hright, hname, hspelled⟩ => ⟨hleft, hright, hname, hspelled⟩,
    fun ⟨hleft, hright, hname, hspelled⟩ => ⟨hleft, hright, hname, hspelled⟩⟩

/-! ## The search -/

/-- The first operator of the line, which opens `h`, stands at the offset `i`. -/
def FirstOperator (line : List Char) (i : Nat) (h : Heredoc) : Prop :=
  OperatorAt line i h ∧ ∀ j < i, ∀ h', ¬ OperatorAt line j h'

/-- The search for an operator from the place after `past` on. -/
theorem leftmost?_eq_some_iff {past cs before : List Char} {h : Heredoc} :
    leftmost? past cs = some (before, h) ↔
      ∃ i, past.length ≤ i ∧ before = (past.reverse ++ cs).take i ∧
        OperatorAt (past.reverse ++ cs) i h ∧
        ∀ j < i, past.length ≤ j → ∀ h', ¬ OperatorAt (past.reverse ++ cs) j h' := by
  induction cs generalizing past with
  | nil =>
    refine iff_of_false (by simp [leftmost?]) ?_
    rintro ⟨i, hi, -, hop, -⟩
    rw [operatorAt_iff, List.append_nil, List.drop_of_length_le (by simpa using hi)] at hop
    exact absurd hop (by simp [occurrence?])
  | cons c cs ih =>
    have hline : past.reverse ++ c :: cs = (c :: past).reverse ++ cs := by simp
    have hhere : ∀ h', OperatorAt (past.reverse ++ c :: cs) past.length h' ↔
        occurrence? past.head? (c :: cs) = some h' := by
      intro h'
      rw [operatorAt_iff, ← List.length_reverse, List.take_left, List.drop_left,
        List.getLast?_reverse]
    rw [leftmost?]
    rcases hread : occurrence? past.head? (c :: cs) with _ | h₀
    · -- nothing stands here, so every operator comes later
      have hnone : ∀ h', ¬ OperatorAt (past.reverse ++ c :: cs) past.length h' := by
        simp [hhere, hread]
      dsimp only
      rw [ih, ← hline, List.length_cons]
      constructor
      · rintro ⟨i, hi, hbefore, hop, hfirst⟩
        refine ⟨i, by omega, hbefore, hop, fun j hj hle => ?_⟩
        rcases Nat.lt_or_ge past.length j with hlt | hge
        · exact hfirst j hj hlt
        · obtain rfl : j = past.length := by omega
          exact hnone
      · rintro ⟨i, hi, hbefore, hop, hfirst⟩
        have hne : i ≠ past.length := fun he => hnone h (he ▸ hop)
        exact ⟨i, by omega, hbefore, hop, fun j hj hle => hfirst j hj (by omega)⟩
    · have hop := (hhere h₀).2 hread
      simp only [Option.some.injEq, Prod.mk.injEq]
      constructor
      · rintro ⟨rfl, rfl⟩
        refine ⟨past.length, Nat.le_refl _, ?_, hop, fun j hj hle => absurd hle (by omega)⟩
        rw [← List.length_reverse, List.take_left]
      · rintro ⟨i, hi, rfl, hop', hfirst⟩
        obtain rfl : i = past.length := by
          by_contra hne
          exact hfirst past.length (by omega) (Nat.le_refl _) h₀ hop
        rw [← List.length_reverse, List.take_left]
        exact ⟨rfl, Option.some.inj (hread.symm.trans ((hhere h).1 hop'))⟩

/-- A line opens what its first operator opens, unless that one is a shift. -/
theorem openedBy?_eq_some_iff {line : List Char} {h : Heredoc} :
    openedBy? line = some h ↔
      ∃ i, FirstOperator line i h ∧ isArithmetic (line.take i) = false := by
  have hsearch : ∀ before h', leftmost? [] line = some (before, h') ↔
      ∃ i, before = line.take i ∧ FirstOperator line i h' := by
    intro before h'
    rw [leftmost?_eq_some_iff]
    simp [FirstOperator]
  unfold openedBy?
  split
  · next before h' hfound =>
    obtain ⟨i, rfl, hfirst⟩ := (hsearch _ _).1 hfound
    constructor
    · intro hopen
      split_ifs at hopen with harith
      obtain rfl := Option.some.inj hopen
      exact ⟨i, hfirst, by simpa using harith⟩
    · rintro ⟨j, hfirst', harith⟩
      have hfound' := (hsearch _ _).2 ⟨j, rfl, hfirst'⟩
      rw [hfound] at hfound'
      obtain ⟨htake, rfl⟩ := Prod.mk.inj (Option.some.inj hfound')
      rw [htake, if_neg (by simp [harith])]
  · next hnone =>
    refine iff_of_false (by simp) ?_
    rintro ⟨i, hfirst, -⟩
    exact absurd ((hsearch _ _).2 ⟨i, rfl, hfirst⟩) (by simp [hnone])

/-! ## The first operator that is no shift -/

/-- The answer that all operators of a line give: nothing if each of them is a shift, and else what
the first one that is no shift opens. -/
def AnsweredBy (line : List Char) : Option Heredoc → Prop
  | none => ∀ i h, OperatorAt line i h → isArithmetic (line.take i) = true
  | some h => ∃ i, OperatorAt line i h ∧ isArithmetic (line.take i) = false ∧
      ∀ j < i, ∀ h', OperatorAt line j h' → isArithmetic (line.take j) = true

theorem exists_firstOperator {line : List Char} {j : Nat} {h : Heredoc}
    (hop : OperatorAt line j h) : ∃ i h', FirstOperator line i h' := by
  classical
  have hex : ∃ i h', OperatorAt line i h' := ⟨j, h, hop⟩
  obtain ⟨h', hfirst⟩ := Nat.find_spec hex
  exact ⟨Nat.find hex, h', hfirst, fun i hi h'' hop' => Nat.find_min hex hi ⟨h'', hop'⟩⟩

theorem FirstOperator.offset_eq {line : List Char} {i j : Nat} {h h' : Heredoc}
    (hi : FirstOperator line i h) (hj : FirstOperator line j h') : i = j := by
  rcases Nat.lt_trichotomy i j with hlt | heq | hgt
  · exact absurd hi.1 (hj.2 i hlt h)
  · exact heq
  · exact absurd hj.1 (hi.2 j hgt h')

/-- A line opens what its first operator opens, unless that one is a shift. This is the answer of
all its operators exactly if the first one is no shift, or each of them is one. -/
theorem openedBy?_answered_iff (line : List Char) :
    (∀ h, openedBy? line = some h ↔
      ∃ i, FirstOperator line i h ∧ isArithmetic (line.take i) = false) ∧
    (AnsweredBy line (openedBy? line) ↔
      ∀ i h, FirstOperator line i h → isArithmetic (line.take i) = true →
        ∀ j h', OperatorAt line j h' → isArithmetic (line.take j) = true) := by
  refine ⟨fun h => openedBy?_eq_some_iff, ?_⟩
  rcases hopen : openedBy? line with _ | h
  · constructor
    · intro hall i h hfirst harith j h' hop
      exact hall j h' hop
    · intro hshift j h' hop
      obtain ⟨i, h, hfirst⟩ := exists_firstOperator hop
      have harith : isArithmetic (line.take i) = true := by
        by_contra hne
        have hsome := openedBy?_eq_some_iff.2 ⟨i, hfirst, by simpa using hne⟩
        exact absurd (hopen.symm.trans hsome) (by simp)
      exact hshift i h hfirst harith j h' hop
  · obtain ⟨i, hfirst, harith⟩ := openedBy?_eq_some_iff.1 hopen
    refine iff_of_true ⟨i, hfirst.1, harith, fun j hj h' hop => ?_⟩ fun j h' hfirst' harith' => ?_
    · exact absurd hop (hfirst.2 j hj h')
    · rw [hfirst'.offset_eq hfirst, harith] at harith'
      exact absurd harith' (by simp)

/-- After a shift in `((…))` a here-document is opened, and the search does not find it. -/
theorem openedBy?_after_shift :
    OperatorAt "((x<<n)); cat <<EOF".toList 14 ⟨"EOF", false⟩ ∧
      isArithmetic ("((x<<n)); cat <<EOF".toList.take 14) = false ∧
      openedBy? "((x<<n)); cat <<EOF".toList = none ∧
      ¬ AnsweredBy "((x<<n)); cat <<EOF".toList (openedBy? "((x<<n)); cat <<EOF".toList) := by
  have hop : OperatorAt "((x<<n)); cat <<EOF".toList 14 ⟨"EOF", false⟩ :=
    operatorAt_iff.2 (by decide +kernel)
  have harith : isArithmetic ("((x<<n)); cat <<EOF".toList.take 14) = false := by decide +kernel
  have hnone : openedBy? "((x<<n)); cat <<EOF".toList = none := by decide +kernel
  refine ⟨hop, harith, hnone, fun hall => ?_⟩
  rw [hnone] at hall
  exact absurd (harith.symm.trans (hall 14 _ hop)) (by simp)

end Heredoc

end CommandAudit
