import CommandAudit.Proofs.Audit
import CommandAudit.Proofs.MarkedText
import CommandAudit.Proofs.TokenPosition

/-!
# Summaries of reports

The names that a report leaves unresolved are those of its scripts without repetitions
(`Report.unresolved_eq`). They are words, so a summary asks for nothing but styles of the program
(`Report.isOwn_of_mem_summaryBlocks`).
-/

namespace CommandAudit

/-! ## Unresolved names -/

/-- What was seen stays in front, and of the rest only what was not seen is added. -/
theorem reverse_foldl_seen (xs seen : List String) :
    (xs.foldl (fun seen x => if seen.contains x then seen else x :: seen) seen).reverse =
      seen.reverse ++ (xs.filter fun x => !seen.contains x).eraseDups := by
  induction xs generalizing seen with
  | nil => rw [List.filter_nil, List.eraseDups_nil, List.append_nil, List.foldl_nil]
  | cons x xs ih =>
    rw [List.foldl_cons, ih]
    cases hseen : seen.contains x with
    | true => rw [if_pos rfl, List.filter_cons_of_neg (by rw [hseen]; decide)]
    | false =>
      have hfilter : (xs.filter fun y => !seen.contains y).filter (fun y => !y == x) =
          xs.filter fun y => !(x :: seen).contains y := by
        rw [List.filter_filter]
        refine List.filter_congr fun y _ => ?_
        rw [List.contains_cons, Bool.not_or]
      rw [List.filter_cons_of_pos (by rw [hseen]; rfl), List.eraseDups_cons, hfilter,
        if_neg (by decide), List.reverse_cons, List.append_assoc, List.singleton_append]

theorem firstOccurrences_eq_eraseDups (xs : List String) :
    firstOccurrences xs = xs.eraseDups := by
  refine (reverse_foldl_seen xs []).trans ?_
  rw [List.reverse_nil, List.nil_append]
  exact congrArg List.eraseDups (List.filter_eq_self.2 fun _ _ => rfl)

theorem Report.unresolved_eq (r : Report) :
    r.unresolved = (r.scripts.flatMap fun s => s.classification.remainder).eraseDups :=
  firstOccurrences_eq_eraseDups _

/-- A script has unresolved names exactly if this is its status. -/
theorem ScriptReport.Answers.unresolved_iff {r : ScriptReport} {tokens : List Token}
    {known : String → Prop} [DecidablePred known] (h : r.Answers tokens known) :
    r.classification.status = .unresolved ↔ r.classification.remainder ≠ [] := by
  rw [h.unresolved]
  refine ⟨And.right, fun hrest => ⟨?_, hrest⟩⟩
  -- A name that is left is a term, and so the text of a token.
  rintro rfl
  obtain ⟨word, hword⟩ := List.exists_mem_of_ne_nil _ hrest
  rw [h.remainder, List.mem_filter, h.mem_terms] at hword
  obtain ⟨t, ht, -⟩ := hword.1
  exact absurd ht List.not_mem_nil

theorem Report.exists_of_mem_unresolved {r : Report} {word : String} (h : word ∈ r.unresolved) :
    ∃ s ∈ r.scripts, word ∈ s.classification.remainder := by
  rw [unresolved_eq, List.mem_eraseDups] at h
  exact List.mem_flatMap.1 h

/-- The names that are left are words. -/
theorem ScriptReport.Answers.isUnmarked {r : ScriptReport} {s : Script} {o : ScanOptions}
    {known : String → Prop} [DecidablePred known] (h : r.Answers (s.tokens o) known)
    {word : String} (hword : word ∈ r.classification.remainder) : IsUnmarked word := by
  rw [h.remainder, List.mem_filter, h.mem_terms] at hword
  obtain ⟨⟨t, ht, rfl⟩, -⟩ := hword
  obtain ⟨before, line, -, -, ht⟩ := Script.exists_line_of_mem_tokens ht
  exact isUnmarked_of_isWordChar ((placed_lineTokens o before line).stands t ht).isWordChar

/-! ## Writing the summary -/

/-- The verdict on names that are left has four marks of its own. -/
theorem hasMarks_verdict {names noun : String} (hnames : IsUnmarked names)
    (hnoun : IsUnmarked noun) (n : Nat) :
    Markup.HasMarks ("\n  " ++ "[bold yellow][WARN][/bold yellow]" ++ "  " ++ toString n ++
        " distinct unresolved " ++ noun ++ ": [bold]" ++ names ++ "[/bold]").toList
      ["bold yellow".toList, "/bold yellow".toList, "bold".toList, "/bold".toList] := by
  have hcount : IsUnmarked ("  " ++ toString n ++ " distinct unresolved " ++ noun ++ ": ") :=
    ((((IsUnmarked.append (by decide) (isUnmarked_toString n)).append (by decide)).append
      hnoun).append (by decide))
  have hindent : IsUnmarked "\n  " := by decide
  have hsign : IsUnmarked "WARN]" := by decide
  -- From the last mark to the first.
  have hclose := Markup.hasMarks_nil.mark_append (by decide : Markup.IsMark "/bold".toList)
  have hbold := (hclose.plain_append hnames).mark_append
    (by decide : Markup.IsMark "bold".toList)
  have hcounted := (hbold.plain_append hcount).mark_append
    (by decide : Markup.IsMark "/bold yellow".toList)
  have hsigned := (hcounted.plain_append hsign).cons (c := '[') (by decide) rfl
  have hmarks := (hsigned.mark_append
    (by decide : Markup.IsMark "bold yellow".toList)).plain_append hindent
  simpa using hmarks

/-- A summary asks for nothing but styles of the program, if the names that are left are words. -/
theorem Report.isOwn_of_mem_summaryBlocks {r : Report}
    (hwords : ∀ s ∈ r.scripts, ∀ word ∈ s.classification.remainder, IsUnmarked word) {b : Block}
    (hb : b ∈ r.summaryBlocks) : b.IsOwn := by
  have hunresolved : ∀ word ∈ r.unresolved, IsUnmarked word := by
    intro word hword
    obtain ⟨s, hs, hword⟩ := exists_of_mem_unresolved hword
    exact hwords s hs word hword
  have hplain : ∀ {s : String}, Markup.marks s = [] → Markup.areOwn (Markup.marks s) = true := by
    intro s hs
    rw [hs]
    rfl
  unfold summaryBlocks at hb
  dsimp only at hb
  simp only [List.mem_cons, List.not_mem_nil, or_false] at hb
  rcases hb with rfl | rfl
  · intro t ht
    simp only [Block.texts, List.mem_cons, List.mem_flatten, List.mem_map] at ht
    rcases ht with rfl | ⟨_, ⟨s, hs, rfl⟩, ht⟩
    · have hprefix : IsUnmarked "cmdscan: " := by decide
      have hmarks := (Markup.hasMarks_escape r.target).plain_append hprefix
      rw [← String.toList_append] at hmarks
      exact ⟨_, rfl, hplain hmarks.marks_eq⟩
    · simp only [List.mem_cons, List.not_mem_nil, or_false] at ht
      rcases ht with rfl | rfl | rfl | rfl
      · exact ⟨_, rfl, hplain (Markup.hasMarks_escape s.script).marks_eq⟩
      · exact ⟨_, rfl, hplain (isUnmarked_toString s.lineCount).marks_eq⟩
      · refine ⟨_, rfl, ?_⟩
        cases s.classification.status <;> decide +kernel
      · exact ⟨_, rfl, hplain (isUnmarked_intercalate (hwords s hs)).marks_eq⟩
  · intro t ht
    simp only [Block.texts, List.mem_cons, List.not_mem_nil, or_false] at ht
    subst ht
    split
    · exact ⟨_, rfl, by decide +kernel⟩
    · have hnoun : IsUnmarked (plural r.unresolved.length "command") := by
        unfold plural
        split <;> decide
      have hmarks := (hasMarks_verdict (isUnmarked_intercalate hunresolved) hnoun
        r.unresolved.length).marks_eq
      refine ⟨_, rfl, (congrArg Markup.areOwn hmarks).trans (by decide +kernel)⟩

end CommandAudit
