import CommandAudit.Proofs.Audit
import CommandAudit.Proofs.TokenPosition

/-!
# Names bound by the script

The declarations of a script are found line by line, without regard to quotes, windows and bodies.
Two kinds of words that a scan may take for commands are among them all the same: the closing words
of the here-documents that the scan opens (`Script.terminator_mem_declaredNames`), and the words that
open a line and are assigned to (`Script.assigned_mem_declaredNames`). An audit never reports them.
-/

namespace CommandAudit

/-! ## Declarations of a script -/

namespace Script

variable {s : Script}

theorem mem_lineTexts {line : List Char} (hline : line ∈ s.pieces) (hne : line ≠ []) :
    line ∈ s.lineTexts := by
  unfold lineTexts
  split_ifs with hlast
  · have hpieces := List.dropLast_append_getLast? [] hlast
    rw [← hpieces, List.mem_append, List.mem_singleton] at hline
    exact hline.resolve_right hne
  · exact hline

/-- What is declared on a line is declared by the script. -/
theorem mem_declaredNames {line : List Char} (hline : line ∈ s.pieces) {d : Declaration}
    (hd : d ∈ Declaration.ofLine line) : d.name ∈ s.declaredNames := by
  have hempty : Declaration.ofLine [] = [] := by decide
  have hne : line ≠ [] := by
    rintro rfl
    rw [hempty] at hd
    exact absurd hd List.not_mem_nil
  obtain ⟨n, hn⟩ := List.mem_iff_getElem?.1 (mem_lineTexts hline hne)
  have hnumbered : (line, 1 + n) ∈ s.lineTexts.zipIdx 1 := by
    rw [List.mem_zipIdx_iff_le_and_getElem?_sub]
    exact ⟨by omega, by simpa using hn⟩
  unfold declaredNames declarations
  rw [List.mem_map]
  refine ⟨(1 + n, d), ?_, rfl⟩
  rw [List.mem_flatMap]
  exact ⟨_, hnumbered, List.mem_map_of_mem hd⟩

/-! ## Closing words -/

/-- The here-document that the scanner opens on line `n`, counted from one. -/
def opensOn (s : Script) (o : ScanOptions) (n : Nat) : Option Heredoc :=
  ((stateAfter o (s.pieces.take (n - 1)).reverse).lookAhead (o.inWindow n)
    (s.pieces.getD (n - 1) [])).1.pending

/-- The closing word of a here-document is a declaration of the line that opens it. -/
theorem terminator_mem_declaredNames {o : ScanOptions} {n : Nat} {h : Heredoc}
    (hopens : s.opensOn o n = some h) : h.terminator ∈ s.declaredNames := by
  unfold opensOn at hopens
  rw [ScanState.pending_lookAhead, List.getD_eq_getElem?_getD] at hopens
  split_ifs at hopens with hread
  rcases hline : s.pieces[n - 1]? with _ | line
  · rw [hline] at hopens
    exact absurd hopens (by simp [Heredoc.openedBy?, Heredoc.leftmost?])
  · rw [hline, Option.getD_some] at hopens
    have hd : (⟨.heredocDelimiter, h.terminator⟩ : Declaration) ∈ Declaration.ofLine line := by
      simp [Declaration.ofLine, hopens]
    exact mem_declaredNames (List.mem_of_getElem? hline) hd

end Script

/-! ## Assigned words -/

/-- The token opens the line, blanks apart, and is directly followed by `=`. -/
def Token.AssignedOn (t : Token) (cs : List Char) : Prop :=
  (cs.take (t.column - 1)).all isBlank = true ∧ cs[t.column - 1 + t.text.length]? = some '='

/-- A line that consists of blanks, a word, an equals sign and a rest assigns to the word. -/
theorem Declaration.assigned?_eq_some {blanks word rest : List Char}
    (hblanks : ∀ c ∈ blanks, isBlank c = true) (hne : word ≠ [])
    (hword : ∀ c ∈ word, isWordChar c = true) :
    Declaration.assigned? (blanks ++ (word ++ '=' :: rest)) = some word := by
  obtain ⟨c, cs, rfl⟩ := List.exists_cons_of_ne_nil hne
  have hstart : isBlank c = false := isBlank_of_isWordChar (hword c List.mem_cons_self)
  have hdrop : (blanks ++ (c :: cs ++ '=' :: rest)).dropWhile isBlank = c :: cs ++ '=' :: rest := by
    rw [List.dropWhile_append_of_pos hblanks, List.cons_append, List.dropWhile_cons_of_neg]
    simp [hstart]
  have hequals : isWordChar '=' = false := by decide
  have hleading : leadingWord (c :: cs ++ '=' :: rest) = c :: cs := by
    unfold leadingWord
    rw [List.takeWhile_append_of_pos hword, List.takeWhile_cons_of_neg (by simp [hequals]),
      List.append_nil]
  have hafter : afterLeadingWord (c :: cs ++ '=' :: rest) = '=' :: rest := by
    unfold afterLeadingWord
    rw [List.dropWhile_append_of_pos hword, List.dropWhile_cons_of_neg (by simp [hequals])]
  unfold Declaration.assigned?
  dsimp only
  rw [hdrop, hleading, hafter]
  simp

/-- A token that opens its line and is assigned to is a declaration of the line. -/
theorem Token.StandsOn.assigned?_eq_some {t : Token} {line : List Char} (h : t.StandsOn line)
    (ht : t.AssignedOn line) : Declaration.assigned? line = some t.text.toList := by
  obtain ⟨hblanks, hequals⟩ := ht
  obtain ⟨hlt, hget⟩ := List.getElem?_eq_some_iff.1 hequals
  have hsplit : line = line.take (t.column - 1) ++
      (t.text.toList ++ '=' :: line.drop (t.column - 1 + t.text.length + 1)) := by
    have hrest := List.drop_eq_getElem_cons hlt
    rw [hget] at hrest
    conv_lhs => rw [← List.take_append_drop (t.column - 1) line]
    congr 1
    conv_lhs => rw [← List.take_append_drop t.text.length (line.drop (t.column - 1))]
    rw [h.slice, List.drop_drop, hrest]
  have hne : t.text.toList ≠ [] := by
    intro hnil
    exact absurd h.letter (by simp [hnil])
  rw [hsplit]
  exact Declaration.assigned?_eq_some (List.all_eq_true.1 hblanks) hne h.isWordChar

theorem Script.assigned_mem_declaredNames {s : Script} {o : ScanOptions} {t : Token}
    (ht : t ∈ s.tokens o) (hassigned : t.AssignedOn (s.line t.line).toList) :
    t.text ∈ s.declaredNames := by
  obtain ⟨before, line, -, hline, ht⟩ := exists_line_of_mem_tokens ht
  have hplaced := placed_lineTokens o before line
  have htext : (s.line t.line).toList = line := by
    rw [hplaced.line t ht, toList_line_succ, List.getD_eq_getElem?_getD, hline]
    rfl
  rw [htext] at hassigned
  have hd : (⟨.variable, t.text⟩ : Declaration) ∈ Declaration.ofLine line := by
    simp [Declaration.ofLine, (hplaced.stands t ht).assigned?_eq_some hassigned]
  exact mem_declaredNames (List.mem_of_getElem? hline) hd

/-! ## The audit -/

/-- Whenever the catalogue loads and has the platform there is a report, and its remainder holds
neither the closing word of a here-document that the scan opens, on whatever line, nor the text of a
token that opens its line and is assigned to. -/
theorem FileTree.remainder_auditScript_of_declared (t : FileTree) (s : Script) (settings : Settings)
    (options : ScanOptions) {catalogue : Catalogue} {entry : CatalogueEntry}
    (hload : t.catalogueAt settings.catalogue = .ok catalogue)
    (hentry : catalogue.platforms.lookup settings.platform = some entry) :
    ∃ r, t.auditScript s settings options = .ok r ∧
      (∀ n h, s.opensOn options n = some h → h.terminator ∉ r.classification.remainder) ∧
      ∀ token ∈ s.tokens options, token.AssignedOn (s.line token.line).toList →
        token.text ∉ r.classification.remainder := by
  obtain ⟨r, haudit, hanswers⟩ := s.exists_audit? hentry options
  have hdeclared : ∀ word ∈ s.declaredNames, word ∉ r.classification.remainder := by
    intro word hword hmem
    rw [hanswers.remainder, List.mem_filter] at hmem
    exact of_decide_eq_true hmem.2 (Or.inl hword)
  refine ⟨r, ?_, fun n h hopens => ?_, fun token htoken hassigned => ?_⟩
  · simp only [auditScript, hload, haudit, bind, Except.bind]
  · exact hdeclared _ (s.terminator_mem_declaredNames hopens)
  · exact hdeclared _ (s.assigned_mem_declaredNames htoken hassigned)

/-- An assignment after blanks, and a here-document opened inside a string, whose closing word is a
token as well. -/
theorem FileTree.remainder_auditScript_of_assignment :
    let s : Script := { text := "\t PORT=80; zap\necho \"<<-MARK\"\n x\n\tMARK; zip" }
    FileTree.catalogueAt {} none = .ok .bundled ∧
      s.opensOn {} 2 = some ⟨"MARK", true⟩ ∧
      ⟨"MARK", 4, 2⟩ ∈ s.tokens {} ∧ ⟨"PORT", 1, 3⟩ ∈ s.tokens {} ∧
      ∃ r, FileTree.auditScript {} s {} {} = .ok r ∧
        "MARK" ∉ r.classification.remainder ∧ "PORT" ∉ r.classification.remainder := by
  intro s
  have hopens : s.opensOn {} 2 = some ⟨"MARK", true⟩ := by decide +kernel
  have hmark : ⟨"MARK", 4, 2⟩ ∈ s.tokens {} := by decide +kernel
  have hport : ⟨"PORT", 1, 3⟩ ∈ s.tokens {} := by decide +kernel
  have hassigned : Token.AssignedOn ⟨"PORT", 1, 3⟩ (s.line 1).toList := by
    unfold Token.AssignedOn
    decide +kernel
  have hload : FileTree.catalogueAt {} none = .ok .bundled := rfl
  obtain ⟨r, haudit, hterminators, htokens⟩ :=
    remainder_auditScript_of_declared {} s {} {} hload rfl
  exact ⟨hload, hopens, hmark, hport, r, haudit, hterminators 2 _ hopens, htokens _ hport hassigned⟩

end CommandAudit
