import CommandAudit.Proofs.Remainder
import Mathlib.Data.List.Chain
import Mathlib.Data.List.Forall2

/-!
# The ledger of a classification

The stages of a classification are a ledger of its terms: they belong to the first of the sets, each
stage goes on with what remained at the stage before, and every term is taken by the first set that
holds it, all its occurrences at once (`PassIn.count_removed`). The ledger ends before the last set
only when every term has been taken (`PassIn.exists_holds`).
-/

namespace CommandAudit

/-! ## Splitting a list -/

/-- Every entry of the first list goes to one of the other two, which keep the order. -/
inductive Splits {α : Type} : List α → List α → List α → Prop
  | nil : Splits [] [] []
  | left (x : α) {l a b : List α} : Splits l a b → Splits (x :: l) (x :: a) b
  | right (x : α) {l a b : List α} : Splits l a b → Splits (x :: l) a (x :: b)

theorem splits_filter {α : Type} (p : α → Bool) (l : List α) :
    Splits l (l.filter p) (l.filter fun x => !p x) := by
  induction l with
  | nil => exact .nil
  | cons x l ih =>
    rw [List.filter_cons, List.filter_cons]
    cases p x with
    | true => exact .left x ih
    | false => exact .right x ih

/-! ## The set that takes a term -/

/-- The set has a name equal to `term`. -/
def KnownNames.Holds (k : KnownNames) (term : String) : Prop :=
  .string term ∈ k.names

instance (k : KnownNames) (term : String) : Decidable (k.Holds term) :=
  inferInstanceAs (Decidable (_ ∈ _))

theorem KnownNames.contains_iff (k : KnownNames) (term : String) :
    k.contains term = true ↔ k.Holds term :=
  List.contains_iff_mem

theorem KnownNames.contains_eq_false_iff (k : KnownNames) (term : String) :
    k.contains term = false ↔ ¬ k.Holds term := by
  rw [← k.contains_iff, Bool.not_eq_true]

/-- The place of the first set that holds `term`. -/
def firstHolder? (sets : List KnownNames) (term : String) : Option Nat :=
  sets.findIdx? fun k => decide (k.Holds term)

section

variable {k : KnownNames} {rest : List KnownNames} {t : String}

theorem firstHolder?_cons_of_holds (h : k.Holds t) : firstHolder? (k :: rest) t = some 0 := by
  simp [firstHolder?, List.findIdx?_cons, h]

theorem firstHolder?_cons_of_not_holds (h : ¬ k.Holds t) :
    firstHolder? (k :: rest) t = (firstHolder? rest t).map (· + 1) := by
  simp [firstHolder?, List.findIdx?_cons, h]

end

/-! ## One stage -/

/-- A stage that belongs to the set `k`: it has its name, and takes its names alone. -/
structure Stage.IsOf (stage : Stage) (k : KnownNames) : Prop where
  /-- The stage is named for the set. -/
  name_eq : stage.name = k.name
  /-- It says what the set holds. -/
  label_eq : stage.label = k.label
  /-- What is removed is in the set. -/
  removed : ∀ t ∈ stage.removed, k.Holds t
  /-- What goes on is not. -/
  remaining : ∀ t ∈ stage.remaining, ¬ k.Holds t

section

variable (k : KnownNames) (terms : List String) (t : String)

theorem isOf_applyTo : (k.applyTo terms).IsOf k where
  name_eq := rfl
  label_eq := rfl
  removed := fun t ht => (k.contains_iff t).1 (List.mem_filter.1 ht).2
  remaining := fun t ht => by
    have hout := (List.mem_filter.1 ht).2
    rw [Bool.not_eq_true'] at hout
    exact (k.contains_eq_false_iff t).1 hout

theorem count_removed_applyTo :
    (k.applyTo terms).removed.count t = if k.Holds t then terms.count t else 0 := by
  unfold KnownNames.applyTo
  dsimp only
  split_ifs with h
  · exact List.count_filter ((k.contains_iff t).2 h)
  · rw [List.count_eq_zero, List.mem_filter, k.contains_iff]
    exact fun hmem => h hmem.2

theorem count_remaining_applyTo :
    (k.applyTo terms).remaining.count t = if k.Holds t then 0 else terms.count t := by
  unfold KnownNames.applyTo
  dsimp only
  split_ifs with h
  · rw [List.count_eq_zero, List.mem_filter, Bool.not_eq_true', k.contains_eq_false_iff]
    exact fun hmem => hmem.2 h
  · refine List.count_filter ?_
    rw [(k.contains_eq_false_iff t).2 h]
    rfl

variable {k terms t}

theorem mem_remaining_applyTo (ht : t ∈ terms) (h : ¬ k.Holds t) :
    t ∈ (k.applyTo terms).remaining := by
  rw [← List.count_pos_iff, count_remaining_applyTo, if_neg h]
  exact List.count_pos_iff.2 ht

end

/-! ## All stages -/

/-- The terms pass through the sets in these stages, until nothing remains. -/
inductive PassIn : List String → List KnownNames → List Stage → Prop
  | noSets (terms : List String) : PassIn terms [] []
  | last {terms : List String} {k : KnownNames} (rest : List KnownNames) :
      (k.applyTo terms).remaining = [] → PassIn terms (k :: rest) [k.applyTo terms]
  | next {terms : List String} {k : KnownNames} {rest : List KnownNames} {stages : List Stage} :
      (k.applyTo terms).remaining ≠ [] → PassIn (k.applyTo terms).remaining rest stages →
        PassIn terms (k :: rest) (k.applyTo terms :: stages)

theorem passIn_runStages (terms : List String) (sets : List KnownNames) :
    PassIn terms sets (runStages terms sets) := by
  induction sets generalizing terms with
  | nil => exact .noSets terms
  | cons k rest ih =>
    by_cases hleft : (k.applyTo terms).remaining = []
    · rw [runStages, hleft]
      exact .last rest hleft
    · rw [runStages, if_neg (mt List.isEmpty_iff.1 hleft)]
      exact .next hleft (ih _)

namespace PassIn

variable {terms : List String} {sets : List KnownNames} {stages : List Stage}

/-- The stages belong to the first sets. -/
theorem isOf (h : PassIn terms sets stages) :
    List.Forall₂ Stage.IsOf stages (sets.take stages.length) := by
  induction h with
  | noSets => exact .nil
  | last => exact .cons (isOf_applyTo ..) .nil
  | next _ _ ih => exact .cons (isOf_applyTo ..) ih

theorem splits (h : PassIn terms sets stages) :
    ∀ stage ∈ stages, Splits stage.before stage.removed stage.remaining := by
  induction h with
  | noSets => exact fun stage hstage => absurd hstage List.not_mem_nil
  | last =>
    rw [List.forall_mem_singleton]
    exact splits_filter _ _
  | next _ _ ih =>
    rw [List.forall_mem_cons]
    exact ⟨splits_filter _ _, ih⟩

theorem before_head (h : PassIn terms sets stages) :
    ∀ stage ∈ stages.head?, stage.before = terms := by
  intro stage hstage
  cases h with
  | noSets => exact absurd hstage (by simp)
  | last | next =>
    obtain rfl := Option.some.inj hstage
    rfl

/-- Every stage goes on with what remained at the stage before. -/
theorem isChain (h : PassIn terms sets stages) :
    stages.IsChain fun stage next => next.before = stage.remaining := by
  induction h with
  | noSets => exact .nil
  | last => exact .singleton _
  | next _ hrest ih =>
    rw [List.isChain_cons]
    exact ⟨hrest.before_head, ih⟩

/-- Only the last stage can leave nothing. -/
theorem remaining_ne_nil (h : PassIn terms sets stages) :
    ∀ stage ∈ stages.dropLast, stage.remaining ≠ [] := by
  induction h with
  | noSets | last => exact fun stage hstage => absurd hstage List.not_mem_nil
  | @next _ _ _ stages hleft _ ih =>
    intro stage hstage
    rcases stages with _ | ⟨second, later⟩
    · exact absurd hstage List.not_mem_nil
    · rw [List.dropLast_cons_cons, List.mem_cons] at hstage
      rcases hstage with rfl | hstage
      · exact hleft
      · exact ih stage hstage

/-- A stage takes all occurrences of the terms whose first set it belongs to, and no others. -/
theorem count_removed (h : PassIn terms sets stages) (t : String) (i : Nat) :
    ∀ stage ∈ stages[i]?,
      stage.removed.count t = if firstHolder? sets t = some i then terms.count t else 0 := by
  -- the first stage is the same whether or not others follow
  have hfirst : ∀ (k : KnownNames) (rest : List KnownNames) (terms : List String),
      (k.applyTo terms).removed.count t =
        if firstHolder? (k :: rest) t = some 0 then terms.count t else 0 := by
    intro k rest terms
    rw [count_removed_applyTo]
    by_cases ht : k.Holds t
    · rw [if_pos ht, if_pos (firstHolder?_cons_of_holds ht)]
    · rw [if_neg ht, firstHolder?_cons_of_not_holds ht, if_neg (by simp)]
  induction h generalizing i with
  | noSets => exact fun stage hstage => absurd hstage (by simp)
  | last rest =>
    intro stage hstage
    rcases i with _ | i
    · obtain rfl := Option.some.inj hstage
      exact hfirst _ rest _
    · exact absurd hstage (by simp)
  | @next terms k rest _ _ _ ih =>
    intro stage hstage
    rcases i with _ | i
    · obtain rfl := Option.some.inj hstage
      exact hfirst k rest terms
    · rw [List.getElem?_cons_succ] at hstage
      rw [ih i stage hstage, count_remaining_applyTo]
      by_cases ht : k.Holds t
      · rw [if_pos ht, ite_self, firstHolder?_cons_of_holds ht, if_neg (by simp)]
      · rw [if_neg ht, firstHolder?_cons_of_not_holds ht]
        simp

/-- The stages go on as far as the first set of every term. -/
theorem lt_length (h : PassIn terms sets stages) {t : String} (ht : t ∈ terms) {i : Nat}
    (hi : firstHolder? sets t = some i) : i < stages.length := by
  induction h generalizing i with
  | noSets => exact absurd hi (by simp [firstHolder?])
  | @last terms k rest hnone =>
    have hholds : k.Holds t := by
      by_contra hout
      exact List.ne_nil_of_mem (mem_remaining_applyTo ht hout) hnone
    rw [firstHolder?_cons_of_holds hholds] at hi
    obtain rfl := Option.some.inj hi
    exact Nat.succ_pos _
  | @next terms k rest stages _ _ ih =>
    by_cases hholds : k.Holds t
    · rw [firstHolder?_cons_of_holds hholds] at hi
      obtain rfl := Option.some.inj hi
      exact Nat.succ_pos _
    · rw [firstHolder?_cons_of_not_holds hholds, Option.map_eq_some_iff] at hi
      obtain ⟨j, hj, rfl⟩ := hi
      exact Nat.succ_lt_succ (ih (mem_remaining_applyTo ht hholds) hj)

/-- Sets are left out only when those before them hold every term. -/
theorem exists_holds (h : PassIn terms sets stages) (hlt : stages.length < sets.length) :
    ∀ t ∈ terms, ∃ k ∈ sets.take stages.length, k.Holds t := by
  intro t ht
  induction h with
  | noSets => exact absurd hlt (Nat.lt_irrefl _)
  | @last terms k rest hnone =>
    refine ⟨k, List.mem_cons_self, ?_⟩
    by_contra hout
    exact List.ne_nil_of_mem (mem_remaining_applyTo ht hout) hnone
  | @next terms k rest stages _ _ ih =>
    by_cases hholds : k.Holds t
    · exact ⟨k, List.mem_cons_self, hholds⟩
    · obtain ⟨k', hk', hholds'⟩ :=
        ih (Nat.lt_of_succ_lt_succ hlt) (mem_remaining_applyTo ht hholds)
      exact ⟨k', List.mem_cons_of_mem _ hk', hholds'⟩

end PassIn

/-! ## The ledger -/

/-- The stages of a classification account for the given terms and sets. -/
structure Classification.Accounts (c : Classification) (terms : List String)
    (sets : List KnownNames) : Prop where
  /-- There are no more stages than sets. -/
  length_le : c.stages.length ≤ sets.length
  /-- The stages belong to the first sets, in their order. -/
  isOf : List.Forall₂ Stage.IsOf c.stages (sets.take c.stages.length)
  /-- The terms reach the first stage. -/
  before_head : ∀ stage ∈ c.stages.head?, stage.before = terms
  /-- What remains at a stage reaches the next one. -/
  isChain : c.stages.IsChain fun stage next => next.before = stage.remaining
  /-- A stage neither loses nor repeats nor moves a term. -/
  splits : ∀ stage ∈ c.stages, Splits stage.before stage.removed stage.remaining
  /-- A stage takes all occurrences of a term whose first set it belongs to, and none of any other
  term. -/
  count_removed : ∀ t i, ∀ stage ∈ c.stages[i]?,
    stage.removed.count t = if firstHolder? sets t = some i then terms.count t else 0
  /-- The first set of a term has a stage. -/
  lt_length : ∀ t ∈ terms, ∀ i, firstHolder? sets t = some i → i < c.stages.length
  /-- The stages end when nothing remains. -/
  remaining_ne_nil : ∀ stage ∈ c.stages.dropLast, stage.remaining ≠ []
  /-- Sets are left out only if there are no terms, or if the sets before hold them all. -/
  left_out : c.stages.length < sets.length →
    terms = [] ∨ ∀ t ∈ terms, ∃ k ∈ sets.take c.stages.length, k.Holds t
  /-- The remainder is what remains at the last stage, and all terms if there is none. -/
  remainder_eq : c.remainder = (c.stages.getLast?.map Stage.remaining).getD terms

/-- Every classification keeps a ledger of its terms: what each set took from them, and what was
left for the next. -/
theorem accounts_classify (terms : List String) (sets : List KnownNames) :
    (classify terms sets).Accounts terms sets := by
  by_cases hterms : terms = []
  · subst hterms
    have hstages : (classify [] sets).stages = [] := rfl
    constructor
    all_goals rw [hstages]
    all_goals simp [classify]
  · have hstages : (classify terms sets).stages = runStages terms sets := by
      rw [classify, if_neg (mt List.isEmpty_iff.1 hterms)]
    have hpass := passIn_runStages terms sets
    have hlength : (runStages terms sets).length ≤ sets.length := by
      have hsame := hpass.isOf.length_eq
      rw [List.length_take] at hsame
      omega
    constructor
    all_goals rw [hstages]
    · exact hlength
    · exact hpass.isOf
    · exact hpass.before_head
    · exact hpass.isChain
    · exact hpass.splits
    · exact hpass.count_removed
    · exact fun t ht i => hpass.lt_length ht
    · exact hpass.remaining_ne_nil
    · exact fun hlt => Or.inr (hpass.exists_holds hlt)
    · rw [remainder_classify, remaining_runStages]

end CommandAudit
