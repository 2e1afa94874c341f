import CommandAudit.Declaration
import Mathlib.Data.List.Infix
import Mathlib.Data.List.TakeWhile

/-!
# Words of a line

A word is a maximal run of word characters (`WordAt`). The names that a line binds are found by two
searches: one for the words directly before an equals sign, which are all of them in the order of
the line (`Declaration.exists_namesBeforeEquals`), and one for the words directly after a keyword,
from the left and without overlap (`Finds`, `Declaration.exists_namesAfter`). Neither ever cuts a
word.
-/

namespace CommandAudit

/-! ## Words -/

/-- The word `word` stands at the offset `i` of the line and cannot be made longer. -/
structure WordAt (cs : List Char) (i : Nat) (word : List Char) : Prop where
  /-- It is not empty. -/
  ne_nil : word ≠ []
  /-- It holds word characters only. -/
  isWordChar : ∀ c ∈ word, isWordChar c = true
  /-- Its characters stand at the offset. -/
  spelled : word <+: cs.drop i
  /-- No word character stands directly before it. -/
  left : (cs.take i).getLast?.any CommandAudit.isWordChar = false
  /-- No word character stands directly after it. -/
  right : cs[i + word.length]?.any CommandAudit.isWordChar = false

theorem head?_afterLeadingWord (cs : List Char) :
    (afterLeadingWord cs).head?.any isWordChar = false := by
  have hstop := List.head?_dropWhile_not isWordChar cs
  unfold afterLeadingWord
  rcases hhead : (cs.dropWhile isWordChar).head? with _ | c
  · rfl
  · simpa [hhead] using hstop

theorem leadingWord_append {word rest : List Char} (hword : ∀ c ∈ word, isWordChar c = true)
    (hrest : rest.head?.any isWordChar = false) : leadingWord (word ++ rest) = word := by
  unfold leadingWord
  rw [List.takeWhile_append_of_pos hword]
  cases rest with
  | nil => simp
  | cons c rest => rw [List.takeWhile_cons_of_neg (by simpa using hrest), List.append_nil]

/-- The word that stands after a text in which no word goes on. -/
theorem wordAt_append_iff {before rest word : List Char}
    (hbefore : before.getLast?.any isWordChar = false) :
    WordAt (before ++ rest) before.length word ↔ word ≠ [] ∧ leadingWord rest = word := by
  constructor
  · rintro ⟨hne, hword, hspelled, -, hright⟩
    rw [List.drop_left] at hspelled
    obtain ⟨after, rfl⟩ := hspelled
    rw [List.getElem?_append_right (Nat.le_add_right _ _), Nat.add_sub_cancel_left,
      List.getElem?_append_right (Nat.le_refl _), Nat.sub_self, ← List.head?_eq_getElem?] at hright
    exact ⟨hne, leadingWord_append hword hright⟩
  · rintro ⟨hne, hleading⟩
    have hword : ∀ c ∈ word, isWordChar c = true := by
      rw [← hleading]
      exact fun c hc => List.mem_takeWhile_imp hc
    have hsplit := leadingWord_append_afterLeadingWord rest
    have hafter := head?_afterLeadingWord rest
    rw [hleading] at hsplit
    refine ⟨hne, hword, ?_, ?_, ?_⟩
    · rw [List.drop_left, ← hsplit]
      exact List.prefix_append _ _
    · rwa [List.take_left]
    · rwa [List.getElem?_append_right (Nat.le_add_right _ _), Nat.add_sub_cancel_left, ← hsplit,
        List.getElem?_append_right (Nat.le_refl _), Nat.sub_self, ← List.head?_eq_getElem?]

namespace WordAt

variable {cs word : List Char} {i : Nat}

/-- The line up to the end of a word. -/
theorem take_eq (h : WordAt cs i word) : cs.take (i + word.length) = cs.take i ++ word := by
  rw [List.take_add, ← List.prefix_iff_eq_take.1 h.spelled]

theorem stop_le (h : WordAt cs i word) : i + word.length ≤ cs.length := by
  have hlen := h.spelled.length_le
  have hpos := List.length_pos_iff.2 h.ne_nil
  rw [List.length_drop] at hlen
  omega

/-- The word at an offset is the one with which the line goes on there. -/
theorem leadingWord_eq (h : WordAt cs i word) : leadingWord (cs.drop i) = word := by
  have hlength : (cs.take i).length = i := by
    rw [List.length_take]
    have hle := h.stop_le
    omega
  refine ((wordAt_append_iff h.left).1 ?_).2
  rwa [List.take_append_drop, hlength]

theorem isWordChar_getElem? (h : WordAt cs i word) {j : Nat} (hi : i ≤ j)
    (hj : j < i + word.length) : cs[j]?.any CommandAudit.isWordChar = true := by
  obtain ⟨d, rfl⟩ := Nat.exists_eq_add_of_le hi
  have hd : d < word.length := by omega
  obtain ⟨after, hafter⟩ := h.spelled
  rw [← List.getElem?_drop, ← hafter, List.getElem?_append_left hd, List.getElem?_eq_getElem hd]
  exact h.isWordChar _ (List.getElem_mem hd)

end WordAt

/-- The word that ends directly before a text in which none goes on; `past` is latest first. -/
theorem wordAt_reverse_append_iff {past rest word : List Char} {i : Nat}
    (hrest : rest.head?.any isWordChar = false) (hi : i + word.length = past.length) :
    WordAt (past.reverse ++ rest) i word ↔ word ≠ [] ∧ leadingWord past = word.reverse := by
  constructor
  · intro h
    have hsplit : past = word.reverse ++ ((past.reverse ++ rest).take i).reverse := by
      have htake := h.take_eq
      rw [hi, ← List.length_reverse, List.take_left] at htake
      rw [← List.reverse_append, ← htake, List.reverse_reverse]
    have hleft := h.left
    rw [← List.head?_reverse] at hleft
    refine ⟨h.ne_nil, ?_⟩
    rw [hsplit]
    exact leadingWord_append (fun c hc => h.isWordChar c (List.mem_reverse.1 hc)) hleft
  · rintro ⟨hne, hrun⟩
    have hpast : past.reverse = (afterLeadingWord past).reverse ++ word := by
      rw [← List.reverse_reverse word, ← List.reverse_append, ← hrun,
        leadingWord_append_afterLeadingWord]
    have hbefore : i = (afterLeadingWord past).reverse.length := by
      have hlen := congrArg List.length hpast
      rw [List.length_reverse, List.length_append] at hlen
      omega
    have hword : ∀ c ∈ word, isWordChar c = true := by
      intro c hc
      rw [← List.mem_reverse, ← hrun] at hc
      exact List.mem_takeWhile_imp hc
    rw [hpast, List.append_assoc, hbefore]
    refine (wordAt_append_iff ?_).2 ⟨hne, leadingWord_append hword hrest⟩
    rw [List.getLast?_reverse]
    exact head?_afterLeadingWord past

/-! ## Words before an equals sign -/

/-- The word at the offset `i` is directly followed by an equals sign. -/
def AssignedAt (cs : List Char) (i : Nat) (word : List Char) : Prop :=
  WordAt cs i word ∧ cs[i + word.length]? = some '='

/-- The next assigned word begins after the equals sign of the one before. -/
theorem AssignedAt.stop_lt {line word word' : List Char} {i j : Nat} (h : AssignedAt line i word)
    (h' : AssignedAt line j word') (hlt : i + word.length < j + word'.length) :
    i + word.length < j := by
  by_contra hge
  have hequals := h'.1.isWordChar_getElem? (Nat.not_lt.1 hge) hlt
  rw [h.2] at hequals
  exact Bool.false_ne_true hequals

/-- A word that ends in front of the character `c` is assigned to if `c` is an equals sign, and it
is the run of word characters in front of `c`. -/
theorem assignedAt_iff_of_stop {past rest word : List Char} {c : Char} {i : Nat}
    (hi : i + word.length = past.length) :
    AssignedAt (past.reverse ++ c :: rest) i word ↔
      c = '=' ∧ word ≠ [] ∧ leadingWord past = word.reverse := by
  have hc : (past.reverse ++ c :: rest)[i + word.length]? = some c := by
    rw [hi, ← List.length_reverse, List.getElem?_append_right (Nat.le_refl _), Nat.sub_self]
    rfl
  unfold AssignedAt
  rw [hc, Option.some.injEq, and_comm]
  refine and_congr_right fun hequals => ?_
  subst hequals
  exact wordAt_reverse_append_iff rfl hi

namespace Declaration

/-- The names before equals signs, from the place after `past` on, which is latest first. -/
theorem namesBeforeEquals_eq (past rest : List Char) :
    ∃ found : List (Nat × List Char), found.Pairwise (fun a b => a.1 < b.1) ∧
      (∀ i word, (i, word) ∈ found ↔
        AssignedAt (past.reverse ++ rest) i word ∧ past.length ≤ i + word.length) ∧
      namesBeforeEquals (leadingWord past) rest = found.map Prod.snd := by
  induction rest generalizing past with
  | nil =>
    refine ⟨[], List.Pairwise.nil, fun i word => iff_of_false List.not_mem_nil ?_, rfl⟩
    rintro ⟨⟨-, hequals⟩, hle⟩
    rw [List.append_nil, List.getElem?_eq_none (by rwa [List.length_reverse])] at hequals
    exact absurd hequals (by simp)
  | cons c rest ih =>
    obtain ⟨found, hsorted, hmem, hnames⟩ := ih (c :: past)
    have hline : (c :: past).reverse ++ rest = past.reverse ++ c :: rest := by simp
    rw [hline] at hmem
    by_cases hhere : c = '=' ∧ leadingWord past ≠ []
    · obtain ⟨rfl, hrun⟩ := hhere
      have hrest : namesBeforeEquals (leadingWord past) ('=' :: rest) =
          (leadingWord past).reverse :: namesBeforeEquals (leadingWord ('=' :: past)) rest := by
        have hstop : leadingWord ('=' :: past) = [] := rfl
        rw [hstop]
        simp [namesBeforeEquals, hrun, show isWordChar '=' = false from rfl]
      have hle : (leadingWord past).length ≤ past.length := (List.takeWhile_prefix _).length_le
      have hstop : past.length - (leadingWord past).length + (leadingWord past).reverse.length =
          past.length := by
        rw [List.length_reverse, Nat.sub_add_cancel hle]
      have hassigned : AssignedAt (past.reverse ++ '=' :: rest) _ _ :=
        (assignedAt_iff_of_stop hstop).2
          ⟨rfl, by rwa [ne_eq, List.reverse_eq_nil_iff], by rw [List.reverse_reverse]⟩
      refine ⟨(past.length - (leadingWord past).length, (leadingWord past).reverse) :: found,
        List.pairwise_cons.2 ⟨?_, hsorted⟩, fun i word => ?_, ?_⟩
      · rintro ⟨j, word⟩ hword
        obtain ⟨h, hlater⟩ := (hmem j word).1 hword
        rw [List.length_cons] at hlater
        have hbegin := hassigned.stop_lt h (by omega)
        dsimp only
        omega
      · rw [List.mem_cons, hmem, Prod.mk.injEq, List.length_cons]
        constructor
        · rintro (⟨rfl, rfl⟩ | ⟨h, hlater⟩)
          · exact ⟨hassigned, hstop.ge⟩
          · exact ⟨h, by omega⟩
        · rintro ⟨h, hlater⟩
          rcases Nat.eq_or_lt_of_le hlater with hhere | hlater
          · obtain ⟨-, -, hword⟩ := (assignedAt_iff_of_stop hhere.symm).1 h
            left
            rw [hword, List.length_reverse, List.reverse_reverse]
            exact ⟨by omega, rfl⟩
          · exact Or.inr ⟨h, hlater⟩
      · rw [hrest, hnames, List.map_cons]
    · -- no word ends here, so the names are those from the next place on
      refine ⟨found, hsorted, fun i word => ?_, ?_⟩
      · rw [hmem, List.length_cons]
        refine and_congr_right fun h => ⟨fun hle => by omega, fun hle => ?_⟩
        refine Nat.lt_of_le_of_ne hle fun heq => hhere ?_
        obtain ⟨hc, hne, hrun⟩ := (assignedAt_iff_of_stop heq.symm).1 h
        exact ⟨hc, by rwa [hrun, ne_eq, List.reverse_eq_nil_iff]⟩
      · rw [← hnames]
        by_cases hc : isWordChar c = true
        · simp [namesBeforeEquals, leadingWord, hc]
        · have hstop : leadingWord (c :: past) = [] := by simp [leadingWord, hc]
          rw [hstop]
          simp only [namesBeforeEquals]
          rw [if_neg hc, if_neg (by simpa using hhere)]

/-- The words directly followed by an equals sign, in the order of the line. -/
theorem exists_namesBeforeEquals (line : List Char) :
    ∃ found : List (Nat × List Char), found.Pairwise (fun a b => a.1 < b.1) ∧
      (∀ i word, (i, word) ∈ found ↔ AssignedAt line i word) ∧
      namesBeforeEquals [] line = found.map Prod.snd := by
  simpa [leadingWord] using namesBeforeEquals_eq [] line

end Declaration

/-! ## Words after a keyword -/

/-- The keyword stands at the offset `i` of the line, and directly after it the word `name`. -/
def NamedAt (keyword line : List Char) (i : Nat) (name : List Char) : Prop :=
  keyword <+: line.drop i ∧ WordAt line (i + keyword.length) name

/-- The search for names after the keyword, from the offset `i` on: the next one is always the
leftmost, and the search goes on behind it. -/
inductive Finds (keyword line : List Char) : Nat → List (Nat × List Char) → Prop
  | done {i} : (∀ j name, i ≤ j → ¬ NamedAt keyword line j name) → Finds keyword line i []
  | next {i j name found} : i ≤ j → NamedAt keyword line j name →
      (∀ k name', i ≤ k → k < j → ¬ NamedAt keyword line k name') →
      Finds keyword line (j + keyword.length + name.length) found →
      Finds keyword line i ((j, name) :: found)

section

variable {keyword line : List Char} {i : Nat} {found : List (Nat × List Char)}

theorem NamedAt.name_eq {name name' : List Char} (h : NamedAt keyword line i name)
    (h' : NamedAt keyword line i name') : name = name' :=
  h.2.leadingWord_eq.symm.trans h'.2.leadingWord_eq

theorem NamedAt.lt_length {name : List Char} (h : NamedAt keyword line i name) :
    i < line.length := by
  have hstop := h.2.stop_le
  have hpos := List.length_pos_iff.2 h.2.ne_nil
  omega

/-- Where no name stands, the search goes on with the next place. -/
theorem Finds.of_succ (h : Finds keyword line (i + 1) found)
    (hi : ∀ name, ¬ NamedAt keyword line i name) : Finds keyword line i found := by
  cases h with
  | done hnone =>
    refine .done fun j name hij hj => ?_
    rcases Nat.eq_or_lt_of_le hij with rfl | hlt
    · exact hi name hj
    · exact hnone j name hlt hj
  | next hij hj hbefore hrest =>
    refine .next (by omega) hj (fun k name' hik hkj hk => ?_) hrest
    rcases Nat.eq_or_lt_of_le hik with rfl | hlt
    · exact hi name' hk
    · exact hbefore k name' hlt hkj hk

/-- A name at the place where the search starts is found. -/
theorem Finds.mem_of_namedAt (h : Finds keyword line i found) {name : List Char}
    (hi : NamedAt keyword line i name) : (i, name) ∈ found := by
  cases h with
  | done hnone => exact absurd hi (hnone i name (Nat.le_refl i))
  | @next _ j name' found hij hj hbefore hrest =>
    obtain rfl : j = i := by
      by_contra hne
      exact hbefore i name (Nat.le_refl i) (by omega) hi
    rw [hi.name_eq hj]
    exact List.mem_cons_self

/-- A search has one outcome. -/
theorem Finds.unique (h : Finds keyword line i found) {found' : List (Nat × List Char)}
    (h' : Finds keyword line i found') : found = found' := by
  induction h generalizing found' with
  | done hnone =>
    cases h' with
    | done => rfl
    | next hij hj _ _ => exact absurd hj (hnone _ _ hij)
  | @next i j name found hij hj hbefore _ ih =>
    cases h' with
    | done hnone => exact absurd hj (hnone _ _ hij)
    | @next _ j' name' found' hij' hj' hbefore' hrest' =>
      obtain rfl : j = j' := by
        rcases Nat.lt_trichotomy j j' with hlt | heq | hgt
        · exact absurd hj (hbefore' j name hij hlt)
        · exact heq
        · exact absurd hj' (hbefore j' name' hij' hgt)
      obtain rfl := hj.name_eq hj'
      rw [ih hrest']

/-- Everything found is a name after the keyword. -/
theorem Finds.namedAt (h : Finds keyword line i found) {j : Nat} {name : List Char}
    (hmem : (j, name) ∈ found) : NamedAt keyword line j name := by
  induction h with
  | done => exact absurd hmem List.not_mem_nil
  | next _ hj _ _ ih =>
    rcases List.mem_cons.1 hmem with heq | hmem
    · obtain ⟨rfl, rfl⟩ := Prod.mk.inj heq
      exact hj
    · exact ih hmem

end

theorem namedAt_append_iff {keyword before rest name : List Char}
    (hkeyword : keyword.getLast? = some ' ') :
    NamedAt keyword (before ++ rest) before.length name ↔
      keyword.isPrefixOf rest = true ∧ name ≠ [] ∧
        leadingWord (rest.drop keyword.length) = name := by
  unfold NamedAt
  rw [List.drop_left, List.isPrefixOf_iff_prefix]
  refine and_congr_right fun hstarts => ?_
  obtain ⟨rest, rfl⟩ := hstarts
  rw [List.drop_left, ← List.append_assoc, ← List.length_append]
  apply wordAt_append_iff
  rw [List.getLast?_append, hkeyword]
  rfl

/-- The search of the words after a keyword finds them from the left and without overlap. -/
theorem Declaration.namesAfter_eq {keyword : List Char} (hkeyword : keyword.getLast? = some ' ')
    (before rest : List Char) (skip : Nat) :
    ∃ found, Finds keyword (before ++ rest) (before.length + skip) found ∧
      namesAfter keyword skip rest = found.map Prod.snd := by
  induction rest generalizing before skip with
  | nil =>
    refine ⟨[], .done fun j name hj h => ?_, rfl⟩
    have hlt := h.lt_length
    rw [List.append_nil] at hlt
    omega
  | cons c rest ih =>
    have hline : before ++ c :: rest = before ++ [c] ++ rest := by simp
    have hlength : (before ++ [c]).length = before.length + 1 := by simp
    have hhere : ∀ name, NamedAt keyword (before ++ c :: rest) before.length name ↔
        keyword.isPrefixOf (c :: rest) = true ∧ name ≠ [] ∧
          leadingWord ((c :: rest).drop keyword.length) = name := fun name =>
      namedAt_append_iff hkeyword
    have hlater : ∀ skip, ∃ found, Finds keyword (before ++ c :: rest) (before.length + 1 + skip)
        found ∧ namesAfter keyword skip rest = found.map Prod.snd := by
      intro skip
      rw [hline, ← hlength]
      exact ih (before ++ [c]) skip
    rcases skip with _ | skip
    · by_cases h : ∃ name, NamedAt keyword (before ++ c :: rest) before.length name
      · -- the name stands here, and the search skips it
        obtain ⟨name, h⟩ := h
        obtain ⟨hstarts, hne, hname⟩ := (hhere name).1 h
        obtain ⟨d, name, rfl⟩ := List.exists_cons_of_ne_nil hne
        obtain ⟨found, hfinds, hnames⟩ := hlater (keyword.length + (d :: name).length - 1)
        refine ⟨(before.length, d :: name) :: found, .next (Nat.le_refl _) h ?_ ?_, ?_⟩
        · intro k name' hle hlt
          omega
        · rw [List.length_cons] at hfinds ⊢
          rwa [Nat.add_assoc, Nat.add_comm 1, Nat.sub_add_cancel (by omega), ← Nat.add_assoc]
            at hfinds
        · rw [List.map_cons, ← hnames]
          simp [namesAfter, hstarts, hname]
      · obtain ⟨found, hfinds, hnames⟩ := hlater 0
        refine ⟨found, hfinds.of_succ fun name hname => h ⟨name, hname⟩, hnames ▸ ?_⟩
        by_cases hstarts : keyword.isPrefixOf (c :: rest) = true
        · have hnil : leadingWord ((c :: rest).drop keyword.length) = [] := by
            by_contra hne
            exact h ⟨_, (hhere _).2 ⟨hstarts, hne, rfl⟩⟩
          simp only [namesAfter, if_pos hstarts, hnil]
        · simp only [namesAfter, if_neg hstarts]
    · obtain ⟨found, hfinds, hnames⟩ := hlater skip
      rw [Nat.add_assoc, Nat.add_comm 1] at hfinds
      exact ⟨found, hfinds, hnames⟩

/-- The names after a keyword, from the left and without overlap. -/
theorem Declaration.exists_namesAfter (keyword : List Char) (hkeyword : keyword.getLast? = some ' ')
    (line : List Char) : ∃ found, Finds keyword line 0 found ∧
      namesAfter keyword 0 line = found.map Prod.snd :=
  namesAfter_eq hkeyword [] line 0

end CommandAudit
