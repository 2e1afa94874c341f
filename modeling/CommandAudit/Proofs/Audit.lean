import CommandAudit.Command.Run
import CommandAudit.Proofs.Remainder
import CommandAudit.Proofs.TermOrder

/-!
# The audit of a script

The answer of an audit, described by the tokens of the script and by the names that are known
(`ScriptReport.Answers`). A name is known if the script binds it, or if it is listed in a stage of
the catalogue, for the platform, or among the further names (`Catalogue.Knows`). Whenever the
catalogue loads, an audit for one of its platforms gives this answer, and an audit for another
platform is refused.
-/

namespace CommandAudit

/-! ## Known names -/

/-- The word is bound by the script, or listed in a stage, for the platform of `entry`, or among the
further names. -/
def Catalogue.Knows (c : Catalogue) (entry : CatalogueEntry) (extra : List Text) (s : Script)
    (word : String) : Prop :=
  word ∈ s.declaredNames ∨ (∃ e ∈ c.stages, .string word ∈ e.names) ∨
    .string word ∈ entry.names ∨ .string word ∈ extra

instance (c : Catalogue) (entry : CatalogueEntry) (extra : List Text) (s : Script) :
    DecidablePred (c.Knows entry extra s) :=
  fun word => inferInstanceAs (Decidable (word ∈ s.declaredNames ∨
    (∃ e ∈ c.stages, .string word ∈ e.names) ∨ .string word ∈ entry.names ∨ .string word ∈ extra))

/-- The numbers that the stages are named by do not matter. -/
theorem Catalogue.any_stages (c : Catalogue) (word : String) :
    ((c.stages.zipIdx.map fun (e, i) => e.toKnownNames s!"stage{i + 1}").any (·.contains word)) =
      c.stages.any fun e => e.names.contains (.string word) := by
  conv_rhs => rw [← List.zipIdx_map_fst 0 c.stages]
  rw [List.any_map, List.any_map]
  rfl

/-- The sets for a platform of the catalogue hold the known words, and no others. -/
theorem Catalogue.exists_setsFor? {c : Catalogue} {platform : Text} {entry : CatalogueEntry}
    (hentry : c.platforms.lookup platform = some entry) (extra : List Text) (s : Script) :
    ∃ sets, c.setsFor? (sortedTexts s.declaredNames) platform extra = some sets ∧
      ∀ word, sets.any (·.contains word) = true ↔ c.Knows entry extra s word := by
  refine ⟨_, by rw [setsFor?, hentry, Option.map_some], fun word => ?_⟩
  have hdeclared : ((sortedTexts s.declaredNames).map Text.string).contains (.string word) = true ↔
      word ∈ s.declaredNames := by
    rw [List.contains_iff_mem, List.mem_map_of_injective fun _ _ => Text.string.inj,
      mem_sortedTexts]
  have hextra : (if extra.isEmpty then [] else
      [(⟨"user", "user-configured commands", extra⟩ : KnownNames)]).any (·.contains word) =
      extra.contains (.string word) := by
    cases extra with
    | nil => rfl
    | cons name rest => exact Bool.or_false _
  rw [List.any_append, List.any_cons, List.any_cons, any_stages, hextra]
  simp only [Bool.or_eq_true, KnownNames.contains, hdeclared, CatalogueEntry.toKnownNames,
    List.any_eq_true, List.contains_iff_mem, or_assoc]
  rfl

/-! ## The answer -/

/-- The report answers for the given tokens which words are not known. -/
structure ScriptReport.Answers (r : ScriptReport) (tokens : List Token) (known : String → Prop)
    [DecidablePred known] : Prop where
  /-- The tokens are counted. -/
  tokenCount : r.tokenCount = tokens.length
  /-- The terms are the texts of the tokens. -/
  mem_terms : ∀ word, word ∈ r.classification.terms ↔ ∃ t ∈ tokens, t.text = word
  /-- The terms strictly increase by their upper-case forms and then by themselves. -/
  pairwise_terms :
    r.classification.terms.Pairwise fun a b => toLex (sortKey a) < toLex (sortKey b)
  /-- The remainder is what is not known. -/
  remainder : r.classification.remainder = r.classification.terms.filter fun word => ¬known word
  /-- There was nothing to classify. -/
  noTokens : r.classification.status = .noTokens ↔ tokens = []
  /-- All words are known. -/
  resolved : r.classification.status = .resolved ↔ tokens ≠ [] ∧ r.classification.remainder = []
  /-- Some word is not known. -/
  unresolved :
    r.classification.status = .unresolved ↔ tokens ≠ [] ∧ r.classification.remainder ≠ []

/-- A report that holds the classification of the texts of its tokens. -/
theorem ScriptReport.answers_of_classify {r : ScriptReport} {tokens : List Token}
    {known : String → Prop} [DecidablePred known] {sets : List KnownNames}
    (hcount : r.tokenCount = tokens.length)
    (hclass : r.classification = classify (sortedTerms (tokens.map Token.text)) sets)
    (hknown : ∀ word, sets.any (·.contains word) = true ↔ known word) :
    r.Answers tokens known := by
  have hterms : r.classification.terms = sortedTerms (tokens.map Token.text) := by
    rw [hclass, terms_classify]
  have hstatus := status_classify (sortedTerms (tokens.map Token.text)) sets
  rw [← hclass] at hstatus
  simp only [sortedTerms_eq_nil_iff, List.map_eq_nil_iff] at hstatus
  refine ⟨hcount, fun word => ?_, ?_, ?_, ?_, ?_, ?_⟩
  · rw [hterms, mem_sortedTerms, List.mem_map]
  · rw [hterms]
    exact pairwise_sortedTerms _
  · rw [hterms, hclass, remainder_classify]
    refine List.filter_congr fun word _ => ?_
    have hany : sets.any (·.contains word) = decide (known word) := by
      rw [Bool.eq_iff_iff, hknown, decide_eq_true_iff]
    rw [hany, decide_not]
  all_goals
    rw [hstatus]
    by_cases htokens : tokens = [] <;> by_cases hrest : r.classification.remainder = [] <;>
      simp [htokens, hrest]

/-- The audit of a script for a platform of the catalogue. -/
theorem Script.exists_audit? (s : Script) {catalogue : Catalogue} {settings : Settings}
    {entry : CatalogueEntry} (hentry : catalogue.platforms.lookup settings.platform = some entry)
    (options : ScanOptions) :
    ∃ r, s.audit? catalogue settings options = some r ∧
      r.Answers (s.tokens options) (catalogue.Knows entry settings.extraNames s) := by
  obtain ⟨sets, hsets, hknown⟩ := Catalogue.exists_setsFor? hentry settings.extraNames s
  rw [audit?, hsets, Option.map_some]
  exact ⟨_, rfl, ScriptReport.answers_of_classify rfl rfl hknown⟩

/-- With a catalogue that loads, the audit for one of its platforms answers which words of the
script are not known, and the audit for another platform is refused, whatever the script holds. -/
theorem FileTree.auditScript_of_catalogueAt (t : FileTree) (s : Script) (settings : Settings)
    (options : ScanOptions) {catalogue : Catalogue}
    (hload : t.catalogueAt settings.catalogue = .ok catalogue) :
    (∀ entry, catalogue.platforms.lookup settings.platform = some entry →
      ∃ r, t.auditScript s settings options = .ok r ∧
        r.Answers (s.tokens options) (catalogue.Knows entry settings.extraNames s)) ∧
    (catalogue.platforms.lookup settings.platform = none →
      ∃ known, t.auditScript s settings options =
        .error (.input { problem := .unknownPlatform settings.platform known })) := by
  refine ⟨fun entry hentry => ?_, fun hnone => ?_⟩
  · obtain ⟨r, haudit, hanswers⟩ := s.exists_audit? hentry options
    refine ⟨r, ?_, hanswers⟩
    simp only [auditScript, hload, haudit, bind, Except.bind]
  · have haudit : s.audit? catalogue settings options = none := by
      rw [Script.audit?, Catalogue.setsFor?, hnone, Option.map_none, Option.map_none]
    simp only [auditScript, hload, haudit, bind, Except.bind]
    exact ⟨_, rfl⟩

/-- A script that binds one of the words it uses, audited for a platform of the bundled catalogue,
and an empty script for a platform that is not in it. -/
theorem FileTree.auditScript_of_bundled :
    FileTree.catalogueAt {} none = .ok .bundled ∧
    (∃ entry r, Catalogue.bundled.platforms.lookup (.string "macos") = some entry ∧
      FileTree.auditScript {} { text := "sync=1\nzap; sync; Zap; ls" } {} {} = .ok r ∧
      (∀ word ∈ ["zap", "Zap"], word ∈ r.classification.remainder) ∧
      (∀ word ∈ ["sync", "ls"], word ∈ r.classification.terms ∧
        word ∉ r.classification.remainder) ∧
      r.Answers (Script.tokens { text := "sync=1\nzap; sync; Zap; ls" } {})
        (Catalogue.bundled.Knows entry [] { text := "sync=1\nzap; sync; Zap; ls" })) ∧
    ∃ known, FileTree.auditScript {} { text := "" } { platform := "plan9" } {} =
      .error (.input { problem := .unknownPlatform "plan9" known }) := by
  refine ⟨rfl, ?_,
    (auditScript_of_catalogueAt {} { text := "" } { platform := "plan9" } {} rfl).2 rfl⟩
  obtain ⟨r, hr, hanswers⟩ :=
    (auditScript_of_catalogueAt {} { text := "sync=1\nzap; sync; Zap; ls" } {} {} rfl).1 _ rfl
  refine ⟨_, r, rfl, hr, ?_, ?_, hanswers⟩
  · simp only [hanswers.remainder, List.mem_filter, hanswers.mem_terms]
    decide +kernel
  · simp only [hanswers.remainder, List.mem_filter, hanswers.mem_terms]
    decide +kernel

end CommandAudit
