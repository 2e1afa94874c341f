import CommandAudit.Terms
import Mathlib.Data.Prod.Lex
import Mathlib.Data.String.Basic

/-!
# The order of terms

Sorting by a total order brings equal elements together, so that `sortDistinct` lists the elements
of a list once each (`mem_sortDistinct`) and in strictly increasing order (`pairwise_sortDistinct`).
The keys of words are ordered lexicographically, and the word is a part of its key: the terms of a
list of words are its words, in strictly increasing order of their keys, and equal for lists that
hold the same words (`termsOf_normalForm`).
-/

namespace CommandAudit

/-! ## Sorting without repetition -/

section

variable {α : Type} [DecidableEq α] {le : α → α → Bool} {a : α} {xs : List α}

theorem mem_dropRepeats : a ∈ dropRepeats xs ↔ a ∈ xs := by
  fun_induction dropRepeats xs with
  | case1 b rest ih =>
    rw [ih]
    refine ⟨List.mem_cons_of_mem b, fun h => ?_⟩
    rcases List.mem_cons.1 h with rfl | h
    · exact List.mem_cons_self
    · exact h
  | case2 b c rest hne ih => rw [List.mem_cons, ih, ← List.mem_cons]
  | case3 => rfl

/-- In a sorted list the elements between two equal ones are equal to them. -/
theorem pairwise_dropRepeats (antisymm : ∀ a b, le a b = true → le b a = true → a = b)
    (h : xs.Pairwise fun a b => le a b = true) :
    (dropRepeats xs).Pairwise fun a b => le a b = true ∧ a ≠ b := by
  fun_induction dropRepeats xs with
  | case1 b rest ih => exact ih h.of_cons
  | case2 b c rest hne ih =>
    obtain ⟨hfirst, hrest⟩ := List.pairwise_cons.1 h
    refine List.pairwise_cons.2 ⟨fun x hx => ?_, ih hrest⟩
    rw [mem_dropRepeats] at hx
    refine ⟨hfirst x hx, ?_⟩
    rintro rfl
    rcases List.mem_cons.1 hx with rfl | hx
    · exact hne rfl
    · exact hne (antisymm b c (hfirst c List.mem_cons_self) (List.rel_of_pairwise_cons hrest hx))
  | case3 rest hrest =>
    rcases rest with _ | ⟨b, _ | ⟨c, rest⟩⟩
    · exact List.Pairwise.nil
    · exact List.pairwise_singleton ..
    · exact absurd rfl (hrest b c rest)

theorem mem_sortDistinct : a ∈ sortDistinct le xs ↔ a ∈ xs :=
  mem_dropRepeats.trans List.mem_mergeSort

theorem pairwise_sortDistinct (trans : ∀ a b c, le a b = true → le b c = true → le a c = true)
    (total : ∀ a b, (le a b || le b a) = true)
    (antisymm : ∀ a b, le a b = true → le b a = true → a = b) (xs : List α) :
    (sortDistinct le xs).Pairwise fun a b => le a b = true ∧ a ≠ b :=
  pairwise_dropRepeats antisymm (List.pairwise_mergeSort trans total xs)

end

theorem mem_sortedTexts {x : String} {xs : List String} : x ∈ sortedTexts xs ↔ x ∈ xs :=
  mem_sortDistinct

/-! ## Terms -/

/-- Keys are ordered lexicographically. -/
theorem keyLE_iff (a b : String × String) : keyLE a b = true ↔ toLex a ≤ toLex b := by
  rw [Prod.Lex.toLex_le_toLex]
  simp [keyLE]

theorem pairwise_sortDistinct_keyLE (keys : List (String × String)) :
    (sortDistinct keyLE keys).Pairwise fun a b => toLex a < toLex b := by
  have htrans : ∀ a b c, keyLE a b = true → keyLE b c = true → keyLE a c = true := by
    intro a b c hab hbc
    rw [keyLE_iff] at hab hbc ⊢
    exact hab.trans hbc
  have htotal : ∀ a b, (keyLE a b || keyLE b a) = true := by
    intro a b
    rw [Bool.or_eq_true, keyLE_iff, keyLE_iff]
    exact le_total (toLex a) (toLex b)
  have hantisymm : ∀ a b, keyLE a b = true → keyLE b a = true → a = b := by
    intro a b hab hba
    rw [keyLE_iff] at hab hba
    exact toLex_inj.1 (le_antisymm hab hba)
  refine (pairwise_sortDistinct htrans htotal hantisymm keys).imp ?_
  rintro a b ⟨hle, hne⟩
  rw [keyLE_iff] at hle
  exact lt_of_le_of_ne hle fun heq => hne (toLex_inj.1 heq)

theorem mem_sortedTerms {word : String} {words : List String} :
    word ∈ sortedTerms words ↔ word ∈ words := by
  simp only [sortedTerms, List.mem_map, mem_sortDistinct, exists_exists_and_eq_and]
  exact exists_eq_right

theorem sortedTerms_eq_nil_iff {words : List String} : sortedTerms words = [] ↔ words = [] := by
  simp only [List.eq_nil_iff_forall_not_mem, mem_sortedTerms]

/-- The terms stand in strictly increasing order of their keys. -/
theorem pairwise_sortedTerms (words : List String) :
    (sortedTerms words).Pairwise fun a b => toLex (sortKey a) < toLex (sortKey b) := by
  have hkey : ∀ k ∈ sortDistinct keyLE (words.map sortKey), sortKey k.2 = k := by
    intro k hk
    obtain ⟨word, -, rfl⟩ := List.mem_map.1 (mem_sortDistinct.1 hk)
    rfl
  refine List.pairwise_map.2 ((pairwise_sortDistinct_keyLE _).imp_of_mem fun {k k'} hk hk' h => ?_)
  rw [hkey k hk, hkey k' hk']
  exact h

/-! ## The normal form of a set of words -/

theorem nodup_sortedTerms (words : List String) : (sortedTerms words).Nodup :=
  (pairwise_sortedTerms words).imp fun hlt heq => by
    rw [heq] at hlt
    exact lt_irrefl _ hlt

/-- The word is a part of its key, so words with equal keys are equal, and the words alone decide in
which order they are listed. -/
theorem sortedTerms_eq_iff {words words' : List String} :
    sortedTerms words = sortedTerms words' ↔ ∀ word, word ∈ words ↔ word ∈ words' := by
  refine ⟨fun h word => ?_, fun h => ?_⟩
  · rw [← mem_sortedTerms, h, mem_sortedTerms]
  · have hperm : (sortedTerms words).Perm (sortedTerms words') := by
      rw [List.perm_ext_iff_of_nodup (nodup_sortedTerms words) (nodup_sortedTerms words')]
      intro word
      rw [mem_sortedTerms, mem_sortedTerms, h]
    refine hperm.eq_of_pairwise ?_ (pairwise_sortedTerms words) (pairwise_sortedTerms words')
    intro a b _ _ hab hba
    exact absurd hab (lt_asymm hba)

theorem mem_termsOf {word : String} {mentions : List Mention} :
    word ∈ termsOf mentions ↔ ∃ m ∈ mentions, m.word = word := by
  rw [termsOf, mem_sortedTerms, List.mem_map]

theorem termsOf_eq_iff {mentions mentions' : List Mention} :
    termsOf mentions = termsOf mentions' ↔
      ∀ word, (∃ m ∈ mentions, m.word = word) ↔ ∃ m ∈ mentions', m.word = word := by
  rw [termsOf, termsOf, sortedTerms_eq_iff]
  simp only [List.mem_map]

/-- The terms are the mentioned words, each once, in strictly increasing order of their upper-case
forms and then of the words themselves. They are a normal form of the set of these words: in which
order, how often and by what a word is mentioned does not matter, and terms are their own terms. -/
theorem termsOf_normalForm (mentions mentions' : List Mention) :
    (termsOf mentions).Pairwise (fun a b =>
      uppercase a < uppercase b ∨ uppercase a = uppercase b ∧ a < b) ∧
    (∀ word, word ∈ termsOf mentions ↔ ∃ m ∈ mentions, m.word = word) ∧
    (termsOf mentions = termsOf mentions' ↔
      ∀ word, (∃ m ∈ mentions, m.word = word) ↔ ∃ m ∈ mentions', m.word = word) ∧
    termsOf ((termsOf mentions).map .text) = termsOf mentions := by
  refine ⟨?_, fun word => mem_termsOf, termsOf_eq_iff, ?_⟩
  · refine (pairwise_sortedTerms _).imp fun {a b} h => ?_
    rwa [Prod.Lex.toLex_lt_toLex] at h
  · refine termsOf_eq_iff.2 fun word => ?_
    rw [← @mem_termsOf word mentions]
    simp only [List.mem_map, exists_exists_and_eq_and, Mention.word, exists_eq_right]

end CommandAudit
