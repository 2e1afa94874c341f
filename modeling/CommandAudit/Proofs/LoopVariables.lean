import CommandAudit.Proofs.LineWords

/-!
# Loop variables of a line

The words after `for ` that a line binds. Whether they are reported is decided once for the whole
line: if `for` occurs anywhere behind a `#` or a quote, be it a part of another word, none is
(`Declaration.hasHiddenFor_iff`), and otherwise all that the search finds are. So a loop variable
with no such character before it is lost through what follows it on its line.
-/

namespace CommandAudit

/-- Whether a pattern occurs in a text, by the place at which it does. -/
theorem occursIn_iff {pattern cs : List Char} :
    occursIn pattern cs = true ↔ ∃ i, pattern <+: cs.drop i := by
  induction cs with
  | nil => simp [occursIn]
  | cons c cs ih =>
    rw [occursIn, Bool.or_eq_true, List.isPrefixOf_iff_prefix, ih]
    constructor
    · rintro (h | ⟨i, h⟩)
      · exact ⟨0, h⟩
      · exact ⟨i + 1, h⟩
    · rintro ⟨_ | i, h⟩
      · exact Or.inl h
      · exact Or.inr ⟨i, h⟩

namespace Declaration

/-- A `#` or a quote stands before the offset `i` of the line. -/
def HiddenAt (line : List Char) (i : Nat) : Prop :=
  ∃ c ∈ line.take i, c = '#' ∨ c = '"' ∨ c = '\''

/-- Somewhere behind a `#` or a quote the line has the letters `for`. -/
def ForIsHidden (line : List Char) : Prop :=
  ∃ i, "for".toList <+: line.drop i ∧ HiddenAt line i

theorem hidesFor_iff (c : Char) : hidesFor c = true ↔ c = '#' ∨ c = '"' ∨ c = '\'' := by
  simp [hidesFor, or_assoc]

theorem not_hiddenAt_zero (line : List Char) : ¬ HiddenAt line 0 := by
  simp [HiddenAt]

theorem hiddenAt_succ_iff (c : Char) (line : List Char) (i : Nat) :
    HiddenAt (c :: line) (i + 1) ↔ hidesFor c = true ∨ HiddenAt line i := by
  simp only [HiddenAt, List.take_succ_cons, List.exists_mem_cons_iff, hidesFor_iff]

theorem hasHiddenFor_iff (line : List Char) : hasHiddenFor line = true ↔ ForIsHidden line := by
  induction line with
  | nil => exact iff_of_false (by decide) (by simp [ForIsHidden, HiddenAt])
  | cons c line ih =>
    have hstep : ForIsHidden (c :: line) ↔
        ∃ i, "for".toList <+: line.drop i ∧ (hidesFor c = true ∨ HiddenAt line i) := by
      constructor
      · rintro ⟨_ | i, hfor, hhidden⟩
        · exact absurd hhidden (not_hiddenAt_zero _)
        · exact ⟨i, hfor, (hiddenAt_succ_iff c line i).1 hhidden⟩
      · rintro ⟨i, hfor, hhidden⟩
        exact ⟨i + 1, hfor, (hiddenAt_succ_iff c line i).2 hhidden⟩
    rw [hstep]
    by_cases hc : hidesFor c = true
    · -- the first `#` or quote: all that follows it is behind it
      have htail : hasHiddenFor (c :: line) = occursIn "for".toList line := by
        simp [hasHiddenFor, hc]
      simp only [htail, occursIn_iff, hc, true_or, and_true]
    · have htail : hasHiddenFor (c :: line) = hasHiddenFor line := by
        simp [hasHiddenFor, hc]
      simp only [htail, ih, hc, Bool.false_eq_true, false_or, ForIsHidden]

/-- The loop variables among the declarations of a line. -/
theorem filter_loopVariable_ofLine (line : List Char) :
    (ofLine line).filter (·.kind = .loopVariable) =
      (loopVariables line).map fun name => ⟨.loopVariable, String.ofList name⟩ := by
  simp [ofLine, List.filter_append, List.filter_map, Function.comp_def]

theorem mem_loopVariables_iff {line : List Char} {name : String} :
    ⟨.loopVariable, name⟩ ∈ ofLine line ↔ name ∈ (loopVariables line).map String.ofList := by
  have hfilter : (⟨.loopVariable, name⟩ : Declaration) ∈ ofLine line ↔
      ⟨.loopVariable, name⟩ ∈ (ofLine line).filter (·.kind = .loopVariable) := by
    simp
  rw [hfilter, filter_loopVariable_ofLine]
  simp

/-- The search for `for` and a name finds certain places of the line. If no `for` is hidden, all
their names are reported, in order. A name with no `#` and no quote before it is reported exactly in
this case; and if all names have such a character before them, no loop variable is reported. -/
theorem loopVariables_ofLine (line : List Char) :
    ∃ found, (∀ l, Finds "for ".toList line 0 l ↔ l = found) ∧
      (¬ ForIsHidden line → (ofLine line).filter (·.kind = .loopVariable) =
        found.map fun f => ⟨.loopVariable, String.ofList f.2⟩) ∧
      (∀ i name, (i, name) ∈ found → ¬ HiddenAt line i →
        (⟨.loopVariable, String.ofList name⟩ ∈ ofLine line ↔ ¬ ForIsHidden line)) ∧
      ((∀ i name, (i, name) ∈ found → HiddenAt line i) →
        ∀ name, ⟨.loopVariable, name⟩ ∉ ofLine line) := by
  obtain ⟨found, hfinds, hnames⟩ := exists_namesAfter "for ".toList rfl line
  have hshown : ¬ ForIsHidden line → loopVariables line = found.map Prod.snd := by
    intro h
    rw [loopVariables, if_neg (mt (hasHiddenFor_iff line).1 h), hnames]
  have hhidden : ForIsHidden line → loopVariables line = [] := by
    intro h
    rw [loopVariables, if_pos ((hasHiddenFor_iff line).2 h)]
  refine ⟨found, fun l => ⟨fun h => h.unique hfinds, ?_⟩, fun h => ?_, ?_, ?_⟩
  · rintro rfl
    exact hfinds
  · rw [filter_loopVariable_ofLine, hshown h, List.map_map]
    rfl
  · intro i name hmem _
    constructor
    · intro hname h
      rw [mem_loopVariables_iff, hhidden h] at hname
      exact absurd hname List.not_mem_nil
    · intro h
      rw [mem_loopVariables_iff, hshown h, List.map_map]
      exact List.mem_map_of_mem (f := String.ofList ∘ Prod.snd) hmem
  · intro hall name hname
    have hcase : loopVariables line = [] := by
      rcases found with _ | ⟨⟨i, first⟩, found⟩
      · by_cases h : ForIsHidden line
        · exact hhidden h
        · exact hshown h
      · -- the `for` of a hidden name is itself a hidden `for`
        have hfor : "for".toList <+: line.drop i :=
          (List.prefix_append "for".toList [' ']).trans (hfinds.namedAt List.mem_cons_self).1
        exact hhidden ⟨i, hfor, hall i first List.mem_cons_self⟩
    rw [mem_loopVariables_iff, hcase] at hname
    exact absurd hname List.not_mem_nil

/-- The loop variable `f` has neither a `#` nor a quote before it. It is lost all the same, since
the word `for` stands in a string later on the line. -/
theorem loopVariable_lost :
    let line := "for f in *; do echo \"for $f\"; done".toList
    Finds "for ".toList line 0 [(0, ['f'])] ∧ ¬ HiddenAt line 0 ∧
      ⟨.loopVariable, "f"⟩ ∉ ofLine line := by
  intro line
  obtain ⟨found, hfinds, hnames⟩ := exists_namesAfter "for ".toList rfl line
  have hone : namesAfter "for ".toList 0 line = [['f']] := by decide +kernel
  have hnamed : NamedAt "for ".toList ([] ++ line) 0 ['f'] :=
    (namedAt_append_iff rfl).2 (by decide +kernel)
  obtain rfl : found = [(0, ['f'])] := by
    have hmem := hfinds.mem_of_namedAt hnamed
    have hlength := congrArg List.length (hone.symm.trans hnames)
    rw [List.length_map] at hlength
    obtain ⟨f, rfl⟩ := List.length_eq_one_iff.1 hlength.symm
    rw [List.mem_singleton.1 hmem]
  exact ⟨hfinds, not_hiddenAt_zero line, by decide +kernel⟩

end Declaration

end CommandAudit
