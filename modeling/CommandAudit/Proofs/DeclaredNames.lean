import CommandAudit.Proofs.HeredocOperator
import CommandAudit.Proofs.LineWords
import CommandAudit.Proofs.LocalNames

/-!
# Declared names

Each form of a declaration takes its name as a whole word of the line (`Declaration.exists_wordAt`),
and a line is read for itself. So the names of a script are those of its lines
(`Script.mem_declaredNames_iff`), and they do not depend on the order in which the lines stand.
-/

namespace CommandAudit

/-! ## Names of a line -/

/-- After characters that belong to no word, the word with which the text goes on is a whole one. -/
theorem exists_wordAt_of_gap (before : List Char) {gap rest : List Char}
    (hgap : ∀ c ∈ gap, isWordChar c = false) (hbefore : gap = [] → before = [])
    (hne : leadingWord rest ≠ []) : ∃ i, WordAt (before ++ (gap ++ rest)) i (leadingWord rest) := by
  refine ⟨(before ++ gap).length, ?_⟩
  rw [← List.append_assoc]
  refine (wordAt_append_iff ?_).2 ⟨hne, rfl⟩
  rcases List.eq_nil_or_concat gap with hnil | ⟨gap, d, rfl⟩
  · rw [hbefore hnil, hnil]
    rfl
  · rw [List.concat_eq_append, ← List.append_assoc, List.getLast?_concat]
    exact hgap d (by simp)

namespace Declaration

variable {line name : List Char}

theorem exists_wordAt_of_assigned (h : assigned? line = some name) : ∃ i, WordAt line i name := by
  unfold assigned? at h
  dsimp only at h
  split_ifs at h with hname
  obtain rfl := Option.some.inj h
  have hblanks : ∀ c ∈ line.takeWhile isBlank, isWordChar c = false := by
    intro c hc
    have hblank := List.mem_takeWhile_imp hc
    by_contra hword
    rw [isBlank_of_isWordChar (by simpa using hword)] at hblank
    exact Bool.false_ne_true hblank
  have hword := exists_wordAt_of_gap [] hblanks (fun _ => rfl) hname.1
  rwa [List.nil_append, List.takeWhile_append_dropWhile] at hword

theorem exists_wordAt_of_namesBeforeEquals (h : name ∈ namesBeforeEquals [] line) :
    ∃ i, WordAt line i name := by
  obtain ⟨found, -, hmem, hnames⟩ := exists_namesBeforeEquals line
  rw [hnames, List.mem_map] at h
  obtain ⟨⟨i, name⟩, hname, rfl⟩ := h
  exact ⟨i, ((hmem i name).1 hname).1⟩

theorem exists_wordAt_of_namesAfter {keyword : List Char} (hkeyword : keyword.getLast? = some ' ')
    (h : name ∈ namesAfter keyword 0 line) : ∃ i, WordAt line i name := by
  obtain ⟨found, hfinds, hnames⟩ := exists_namesAfter keyword hkeyword line
  rw [hnames, List.mem_map] at h
  obtain ⟨⟨i, name⟩, hmem, rfl⟩ := h
  exact ⟨_, (hfinds.namedAt hmem).2⟩

/-- The closing word of a here-document stands behind its operator, and perhaps behind a quote. -/
theorem exists_wordAt_of_openedBy {h : Heredoc} (hopen : Heredoc.openedBy? line = some h) :
    ∃ i, WordAt line i h.terminator.toList := by
  obtain ⟨i, ⟨hop, -⟩, -⟩ := Heredoc.openedBy?_eq_some_iff.1 hopen
  obtain ⟨blanks, slash, operand, hblanks, hslash, hword, hdrop⟩ := hop.spelled
  obtain ⟨hstart, hletters⟩ := hop.isIdentifier
  have hne : h.terminator.toList ≠ [] := by
    intro hnil
    rw [hnil] at hstart
    exact Bool.false_ne_true hstart
  have hplain : ∀ c, c = '<' ∨ c = '-' ∨ c = ' ' ∨ c = '\t' ∨ c = '\\' ∨ c = '"' ∨ c = '\'' →
      isWordChar c = false := by
    rintro c (rfl | rfl | rfl | rfl | rfl | rfl | rfl) <;> rfl
  let operator := '<' :: '<' :: ((if h.stripTabs then ['-'] else []) ++ (blanks ++ slash))
  have hoperator : ∀ c ∈ operator, isWordChar c = false := by
    intro c hc
    apply hplain
    simp only [operator, List.mem_cons, List.mem_append] at hc
    rcases hc with hc | hc | hc | hc | hc
    · exact Or.inl hc
    · exact Or.inl hc
    · split_ifs at hc <;> simp_all
    · rcases hblanks c hc with hc | hc <;> simp [hc]
    · rcases hslash with rfl | rfl <;> simp_all
  have hline : line.take i ++ (operator ++ operand) = line := by
    conv_rhs => rw [← List.take_append_drop i line, hdrop]
    simp [operator]
  have hfound : ∀ gap rest, (∀ c ∈ gap, isWordChar c = false) → gap ≠ [] →
      leadingWord rest = h.terminator.toList → line.take i ++ (gap ++ rest) = line →
      ∃ i, WordAt line i h.terminator.toList := by
    intro gap rest hgap hnonempty hleading hline
    have hword := exists_wordAt_of_gap (line.take i) hgap (absurd · hnonempty) (hleading ▸ hne)
    rwa [hline, hleading] at hword
  cases hword with
  | bare rest hrest =>
    exact hfound operator _ hoperator (List.cons_ne_nil _ _) (leadingWord_append hletters hrest)
      hline
  | quoted q rest hq =>
    have hquote : isWordChar q = false := by
      apply hplain
      simp [hq]
    refine hfound (operator ++ [q]) (h.terminator.toList ++ q :: rest) ?_ (by simp)
      (leadingWord_append hletters (by simpa using hquote)) (by simpa using hline)
    intro c hc
    rcases List.mem_append.1 hc with hc | hc
    · exact hoperator c hc
    · rwa [List.mem_singleton.1 hc]

/-- Whatever form a declaration has, its name is a whole word of the line. -/
theorem exists_wordAt {d : Declaration} (hd : d ∈ ofLine line) :
    ∃ i, WordAt line i d.name.toList := by
  simp only [ofLine, List.mem_append, List.mem_map, Option.mem_toList] at hd
  rcases hd with (((⟨name, hname, rfl⟩ | ⟨name, hname, rfl⟩) | ⟨name, hname, rfl⟩) |
    ⟨name, hname, rfl⟩) | ⟨h, hopen, rfl⟩
  · rw [String.toList_ofList]
    exact exists_wordAt_of_assigned hname
  · rw [String.toList_ofList]
    split_ifs at hname with hdeclare
    · exact exists_wordAt_of_namesBeforeEquals hname
    · exact absurd hname List.not_mem_nil
  · rw [String.toList_ofList]
    unfold loopVariables at hname
    split_ifs at hname with hhidden
    · exact absurd hname List.not_mem_nil
    · exact exists_wordAt_of_namesAfter rfl hname
  · rw [String.toList_ofList]
    exact exists_wordAt_of_namesAfter rfl hname
  · exact exists_wordAt_of_openedBy hopen

/-! ## Lines that start with `declare` -/

theorem startsDeclare_of_eq {blanks rest : List Char} (hblanks : ∀ c ∈ blanks, isBlank c = true)
    (hline : line = blanks ++ ("declare".toList ++ rest)) : startsDeclare line = true := by
  have hdrop : line.dropWhile isBlank = "declare".toList ++ rest := by
    rw [hline, List.dropWhile_append_of_pos hblanks]
    exact List.dropWhile_cons_of_neg (by decide)
  rw [startsDeclare, hdrop, List.isPrefixOf_iff_prefix]
  exact List.prefix_append _ _

/-- The names of arrays among the declarations of a line. -/
theorem filter_array_ofLine (line : List Char) : (ofLine line).filter (·.kind = .array) =
    (if startsDeclare line then namesBeforeEquals [] line else []).map
      fun name => ⟨.array, String.ofList name⟩ := by
  simp [ofLine, List.filter_append, List.filter_map, Function.comp_def]

/-- On a line that starts with `declare` the names of arrays are the words directly followed by an
equals sign, in the order of the line. -/
theorem filter_array_ofLine_of_declare {blanks rest : List Char}
    (hblanks : ∀ c ∈ blanks, isBlank c = true)
    (hline : line = blanks ++ ("declare".toList ++ rest)) :
    ∃ found : List (Nat × List Char), found.Pairwise (fun a b => a.1 < b.1) ∧
      (∀ i word, (i, word) ∈ found ↔ AssignedAt line i word) ∧
      (ofLine line).filter (·.kind = .array) =
        found.map fun f => ⟨.array, String.ofList f.2⟩ := by
  obtain ⟨found, hsorted, hmem, hnames⟩ := exists_namesBeforeEquals line
  refine ⟨found, hsorted, hmem, ?_⟩
  rw [filter_array_ofLine, if_pos (startsDeclare_of_eq hblanks hline), hnames, List.map_map]
  rfl

end Declaration

/-! ## Names of a script -/

namespace Script

variable {s t : Script}

/-- A script binds what its lines bind. -/
theorem mem_declaredNames_iff {name : String} :
    name ∈ s.declaredNames ↔
      ∃ line ∈ s.lineTexts, ∃ d ∈ Declaration.ofLine line, d.name = name := by
  constructor
  · intro h
    simp only [declaredNames, declarations, List.mem_map, List.mem_flatMap] at h
    obtain ⟨_, ⟨⟨line, n⟩, hline, d, hd, rfl⟩, rfl⟩ := h
    exact ⟨line, List.fst_mem_of_mem_zipIdx hline, d, hd, rfl⟩
  · rintro ⟨line, hline, d, hd, rfl⟩
    exact mem_declaredNames (s.lineTexts_prefix.subset hline) hd

/-- An empty line binds nothing, so it does not matter whether it counts as a line. -/
theorem mem_declaredNames_iff_pieces {name : String} : name ∈ s.declaredNames ↔
    ∃ line ∈ s.pieces, ∃ d ∈ Declaration.ofLine line, d.name = name := by
  constructor
  · intro h
    obtain ⟨line, hline, hname⟩ := mem_declaredNames_iff.1 h
    exact ⟨line, s.lineTexts_prefix.subset hline, hname⟩
  · rintro ⟨line, hline, d, hd, rfl⟩
    exact mem_declaredNames hline hd

/-- The names of two texts joined by a newline are those of the one and those of the other. -/
theorem mem_declaredNames_append_iff {u name : String} :
    name ∈ { s with text := s.text ++ "\n" ++ u }.declaredNames ↔
      name ∈ s.declaredNames ∨ name ∈ (Script.mk u s.name).declaredNames := by
  simp only [mem_declaredNames_iff_pieces, pieces_append, List.mem_append, or_and_right, exists_or]

theorem declaredNames_subset
    (h : ∀ line ∈ s.lineTexts, line ≠ [] → line ∈ t.lineTexts) :
    s.declaredNames ⊆ t.declaredNames := by
  intro name hname
  obtain ⟨line, hline, d, hd, hname⟩ := mem_declaredNames_iff.1 hname
  refine mem_declaredNames_iff.2 ⟨line, h line hline ?_, d, hd, hname⟩
  rintro rfl
  obtain ⟨i, hword⟩ := Declaration.exists_wordAt hd
  have hstop := hword.stop_le
  have hpos := List.length_pos_iff.2 hword.ne_nil
  rw [List.length_nil] at hstop
  omega

/-- Every name that a script binds is a whole word of one of its lines, and on lines that start with
`declare` the names of arrays are the words before equals signs, in order. The lines are read one by
one: joined texts bind what either binds, and the order and the repetition of lines do not matter,
nor do empty ones. -/
theorem declaredNames_linewise (s : Script) :
    (∀ name ∈ s.declaredNames, ∃ line ∈ s.lineTexts, ∃ i, WordAt line i name.toList) ∧
    (∀ line blanks rest : List Char, (∀ c ∈ blanks, isBlank c = true) →
      line = blanks ++ ("declare".toList ++ rest) →
      ∃ found : List (Nat × List Char), found.Pairwise (fun a b => a.1 < b.1) ∧
        (∀ i word, (i, word) ∈ found ↔ AssignedAt line i word) ∧
        (Declaration.ofLine line).filter (·.kind = .array) =
          found.map fun f => ⟨.array, String.ofList f.2⟩) ∧
    (∀ u name, name ∈ { s with text := s.text ++ "\n" ++ u }.declaredNames ↔
      name ∈ s.declaredNames ∨ name ∈ (Script.mk u s.name).declaredNames) ∧
    (∀ t : Script, (∀ line ≠ [], line ∈ t.lineTexts ↔ line ∈ s.lineTexts) →
      ∀ name, name ∈ t.declaredNames ↔ name ∈ s.declaredNames) := by
  refine ⟨fun name hname => ?_, fun line blanks rest hblanks hline => ?_, fun u name => ?_,
    fun t hlines name => ⟨fun h => ?_, fun h => ?_⟩⟩
  · obtain ⟨line, hline, d, hd, rfl⟩ := mem_declaredNames_iff.1 hname
    exact ⟨line, hline, Declaration.exists_wordAt hd⟩
  · exact Declaration.filter_array_ofLine_of_declare hblanks hline
  · exact mem_declaredNames_append_iff
  · exact declaredNames_subset (fun line hline hne => (hlines line hne).1 hline) h
  · exact declaredNames_subset (fun line hline hne => (hlines line hne).2 hline) h

/-- The two lines of a script in the other order, one of them twice and with an empty line between
them, bind the same names. -/
theorem declaredNames_of_repeated_lines :
    let line := "\tdeclare y=2 z=3".toList
    let s : Script := { text := "x=1\n\tdeclare y=2 z=3" }
    let t : Script := { text := "\tdeclare y=2 z=3\n\nx=1\nx=1\n" }
    line ∈ s.lineTexts ∧ "z" ∈ s.declaredNames ∧
      (∃ l ∈ s.lineTexts, ∃ i, WordAt l i "z".toList) ∧
      (∃ found : List (Nat × List Char), (13, ['z']) ∈ found ∧
        (Declaration.ofLine line).filter (·.kind = .array) =
          found.map fun f => ⟨.array, String.ofList f.2⟩) ∧
      "z" ∈ t.declaredNames := by
  intro line s t
  obtain ⟨hwords, harrays, -, hlines⟩ := s.declaredNames_linewise
  have hs : s.lineTexts = ["x=1".toList, line] := by decide +kernel
  have ht : t.lineTexts = [line, [], "x=1".toList, "x=1".toList] := by decide +kernel
  have hz : "z" ∈ s.declaredNames := by decide +kernel
  have hpast : line = "z 2=y eralced\t".toList.reverse ++ ['=', '3'] := by decide +kernel
  have hassigned : AssignedAt line 13 ['z'] := by
    rw [hpast]
    exact (assignedAt_iff_of_stop rfl).2 (by decide +kernel)
  have hsame : ∀ name ≠ [], name ∈ t.lineTexts ↔ name ∈ s.lineTexts := by
    intro name hne
    rw [hs, ht]
    simp [hne, or_comm]
  obtain ⟨found, -, hmem, harray⟩ := harrays line ['\t'] " y=2 z=3".toList
    (List.forall_mem_singleton.2 (by decide)) (by decide +kernel)
  exact ⟨by simp [hs], hz, hwords _ hz, ⟨found, (hmem 13 ['z']).2 hassigned, harray⟩,
    (hlines t hsame _).2 hz⟩

end Script

end CommandAudit
