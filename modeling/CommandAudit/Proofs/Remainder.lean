import CommandAudit.Classification
import Mathlib.Data.List.Forall2

/-!
# The remainder of a classification

Each set takes its own names out of the terms, so that what leaves the last stage is what no set
holds. Nothing changes that when the stages end early: they only do so when no term is left, and the
sets that were not consulted would have had nothing to take. The remainder of a classification is
therefore one filter of its terms (`remainder_classify`), and decides the status
(`status_classify`). Neither depends on the order of the sets, and the sets have nothing to take
from the remainder any more (`answer_of_rearranged`).
-/

namespace CommandAudit

variable (terms : List String) (sets : List KnownNames)

/-- The first stage hands its terms to the stages after it. -/
theorem remaining_cons (stage : Stage) (later : List Stage) :
    ((stage :: later).getLast?.map Stage.remaining).getD terms =
      (later.getLast?.map Stage.remaining).getD stage.remaining := by
  rw [List.getLast?_cons]
  cases later.getLast? <;> rfl

/-- The terms that are left after the stages are those that no set holds. -/
theorem remaining_runStages :
    ((runStages terms sets).getLast?.map Stage.remaining).getD terms =
      terms.filter fun t => !sets.any (·.contains t) := by
  induction sets generalizing terms with
  | nil => exact (List.filter_eq_self.2 fun _ _ => rfl).symm
  | cons k rest ih =>
    -- what the first set leaves is filtered once more by the other sets
    have hsplit : (terms.filter fun t => !(k :: rest).any (·.contains t)) =
        (k.applyTo terms).remaining.filter fun t => !rest.any (·.contains t) := by
      simp only [KnownNames.applyTo, List.filter_filter, List.any_cons, Bool.not_or]
      exact List.filter_congr fun t _ => Bool.and_comm ..
    rw [hsplit, runStages, remaining_cons]
    by_cases hleft : (k.applyTo terms).remaining = []
    · rw [hleft]
      rfl
    · rw [if_neg (mt List.isEmpty_iff.1 hleft)]
      exact ih (k.applyTo terms).remaining

theorem terms_classify : (classify terms sets).terms = terms := by
  unfold classify
  split
  · next h => exact (List.isEmpty_iff.1 h).symm
  · rfl

theorem remainder_classify :
    (classify terms sets).remainder = terms.filter fun t => !sets.any (·.contains t) := by
  unfold classify
  split
  · next h => rw [List.isEmpty_iff.1 h, List.filter_nil]
  · exact remaining_runStages terms sets

theorem status_classify :
    (classify terms sets).status =
      if terms = [] then .noTokens
      else if (classify terms sets).remainder = [] then .resolved else .unresolved := by
  unfold classify
  by_cases h : terms = []
  · simp [h]
  · simp [h]

/-! ## The order of the sets -/

/-- The sets have the same names, in whatever order and however often these are listed. -/
def KnownNames.SameNames (k k' : KnownNames) : Prop :=
  ∀ name, name ∈ k.names ↔ name ∈ k'.names

/-- The second list has the sets of the first in some order, each with its names listed in some
way. -/
def Rearranged (sets sets' : List KnownNames) : Prop :=
  ∃ permuted, sets.Perm permuted ∧ List.Forall₂ KnownNames.SameNames permuted sets'

section

variable {terms sets}

theorem KnownNames.SameNames.contains_eq {k k' : KnownNames} (h : k.SameNames k') (term : String) :
    k.contains term = k'.contains term := by
  unfold contains
  rw [Bool.eq_iff_iff, List.contains_iff_mem, List.contains_iff_mem]
  exact h (.string term)

theorem Rearranged.any_contains_eq {sets' : List KnownNames} (h : Rearranged sets sets')
    (term : String) : sets.any (·.contains term) = sets'.any (·.contains term) := by
  obtain ⟨permuted, hperm, hnames⟩ := h
  rw [hperm.any_eq]
  clear hperm
  induction hnames with
  | nil => rfl
  | cons hk _ ih => rw [List.any_cons, List.any_cons, hk.contains_eq, ih]

/-- Sets that were consulted already take nothing from a remainder. -/
theorem remainder_classify_remainder {consulted : List KnownNames} (h : consulted ⊆ sets) :
    (classify (classify terms sets).remainder consulted).remainder =
      (classify terms sets).remainder := by
  rw [remainder_classify, remainder_classify]
  refine List.filter_eq_self.2 fun t ht => ?_
  have hnone := (List.mem_filter.1 ht).2
  rw [Bool.not_eq_true', List.any_eq_false] at hnone ⊢
  exact fun k hk => hnone k (h hk)

/-- The order of the sets, and of the names in them, changes neither the status of a classification
nor its remainder, and some of the sets once more leave the remainder as it is. -/
theorem answer_of_rearranged (terms : List String) {sets sets' : List KnownNames}
    (h : Rearranged sets sets') :
    (classify terms sets').status = (classify terms sets).status ∧
      (classify terms sets').remainder = (classify terms sets).remainder ∧
      ∀ consulted ⊆ sets,
        (classify (classify terms sets).remainder consulted).remainder =
          (classify terms sets).remainder := by
  have hremainder : (classify terms sets').remainder = (classify terms sets).remainder := by
    rw [remainder_classify, remainder_classify]
    exact List.filter_congr fun t _ => by rw [h.any_contains_eq]
  refine ⟨?_, hremainder, fun consulted => remainder_classify_remainder⟩
  rw [status_classify, status_classify, hremainder]

/-- Three sets that overlap, in two orders: the classification needs two stages in the one and three
in the other. -/
theorem answer_of_reversed_sets :
    let a : KnownNames := ⟨"a", "a", ["ls", "cd"]⟩
    let b : KnownNames := ⟨"b", "b", ["zip", "ls"]⟩
    let c : KnownNames := ⟨"c", "c", ["zip"]⟩
    let b' : KnownNames := ⟨"b", "b", ["ls", "zip", "ls"]⟩
    Rearranged [a, b, c] [c, b', a] ∧
      (classify ["cd", "zip", "ls", "zip"] [c, b', a]).status =
        (classify ["cd", "zip", "ls", "zip"] [a, b, c]).status ∧
      (classify ["cd", "zip", "ls", "zip"] [c, b', a]).stages.length = 3 ∧
      (classify ["cd", "zip", "ls", "zip"] [a, b, c]).stages.length = 2 ∧
      (classify ["cd", "zip", "rm"] [c, b', a]).remainder =
        (classify ["cd", "zip", "rm"] [a, b, c]).remainder ∧
      [c, a] ⊆ [a, b, c] ∧
      (classify (classify ["cd", "zip", "rm"] [a, b, c]).remainder [c, a]).remainder =
        (classify ["cd", "zip", "rm"] [a, b, c]).remainder := by
  intro a b c b'
  have h : Rearranged [a, b, c] [c, b', a] := by
    refine ⟨[c, b, a], List.reverse_perm [c, b, a], ?_⟩
    refine .cons (fun _ => Iff.rfl) (.cons (fun name => ?_) (.cons (fun _ => Iff.rfl) .nil))
    simp [b, b', or_comm]
  have hsub : [c, a] ⊆ [a, b, c] := by simp
  obtain ⟨-, hremainder, hagain⟩ := answer_of_rearranged ["cd", "zip", "rm"] h
  exact ⟨h, (answer_of_rearranged _ h).1, by decide, by decide, hremainder, hsub, hagain _ hsub⟩

end

end CommandAudit
