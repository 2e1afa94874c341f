import CommandAudit.Proofs.TokenPosition
import Mathlib.Data.Nat.Digits.Defs

/-!
# What a scan reports

A scan speaks of itself in two ways: it traces its decisions on some lines, and it reports the lines
it has finished. Neither changes the tokens. The found words of a trace can be read back from its
messages (`foundTerm?_eq_some_iff`), and they are the tokens of the traced lines
(`Script.trace_found`). The lines are reported once each and in order, whatever the listener does
(`Script.tokensReporting_eq`).
-/

namespace CommandAudit

/-! ## Messages of found words -/

/-- The word and the line of a message of the form `Found term 'WORD' on line LINE`. -/
def foundTerm? (message : String) : Option (String × Nat) :=
  let tail := message.toList.reverse
  let digits := (tail.takeWhile Char.isDigit).reverse
  let rest := (tail.drop (digits.length + "' on line ".length)).reverse
  let word := String.ofList (rest.drop "Found term '".length)
  let line := Nat.ofDigitChars 10 digits 0
  if message = s!"Found term '{word}' on line {line}" then some (word, line) else none

/-- The digits at the end of a message are the line, so both parts can be told apart. -/
theorem foundTerm?_eq_some_iff {message word : String} {line : Nat} :
    foundTerm? message = some (word, line) ↔
      message = s!"Found term '{word}' on line {line}" := by
  constructor
  · intro h
    unfold foundTerm? at h
    dsimp only at h
    split_ifs at h with hmessage
    obtain ⟨rfl, rfl⟩ := Prod.mk.inj (Option.some.inj h)
    exact hmessage
  · intro h
    have htail : message.toList.reverse =
        ((Nat.toDigits 10 line).reverse ++ "' on line ".toList.reverse) ++
          ("Found term '".toList ++ word.toList).reverse := by
      rw [h]
      simp [String.toList_append, toString, Nat.toList_repr]
    have hdigits : (message.toList.reverse.takeWhile Char.isDigit).reverse =
        Nat.toDigits 10 line := by
      have hall : ∀ c ∈ (Nat.toDigits 10 line).reverse, c.isDigit = true := fun c hc =>
        Nat.isDigit_of_mem_toDigits (by decide) (by decide) (List.mem_reverse.1 hc)
      rw [htail, List.append_assoc, List.takeWhile_append_of_pos hall]
      simp
    have hrest : (message.toList.reverse.drop
        ((Nat.toDigits 10 line).length + "' on line ".length)).reverse =
          "Found term '".toList ++ word.toList := by
      rw [htail, List.drop_left', List.reverse_reverse]
      rw [List.length_append, List.length_reverse, List.length_reverse, String.length_toList]
    unfold foundTerm?
    dsimp only
    rw [hdigits, hrest, Nat.ofDigitChars_ten_toDigits,
      List.drop_left' String.length_toList, String.ofList_toList, if_pos h]

/-- No other decision is worded like a found word. -/
theorem not_prefix_describe {d : Decision} (hd : d.token? = none) (n : Nat) :
    ¬ "Found term '".toList <+: (d.describe n).toList := by
  cases d with
  | termFound t => exact absurd hd (by simp [Decision.token?])
  | quoteToggled quote column =>
    cases quote <;> unfold Decision.describe <;> simp [String.toList_append, toString]
  | _ => unfold Decision.describe; simp [String.toList_append, toString]

theorem foundTerm?_describe (d : Decision) (n : Nat) :
    foundTerm? (d.describe n) = d.token?.map fun t => (t.text, n) := by
  rcases hd : d.token? with _ | t
  · rw [Option.map_none, Option.eq_none_iff_forall_ne_some]
    rintro ⟨word, line⟩ hread
    apply not_prefix_describe hd n
    rw [foundTerm?_eq_some_iff.1 hread]
    simp [String.toList_append, toString]
  · obtain rfl : d = .termFound t := by
      cases d <;> simp_all [Decision.token?]
    exact foundTerm?_eq_some_iff.2 rfl

/-! ## The trace -/

/-- Every event is a decision taken on its line, read from the state after the lines before it. -/
theorem exists_line_of_mem_events {o : ScanOptions} {before : List (List Char)} {e : ScanEvent}
    (he : e ∈ (before.reverse.foldl (ScriptScan.step o) {}).events.toList) :
    ∃ after text earlier, before = after ++ text :: earlier ∧ e.line = earlier.length + 1 ∧
      e.decision ∈ (scanLine o (earlier.length + 1) (stateAfter o earlier) text).2 := by
  induction before with
  | nil => exact absurd he List.not_mem_nil
  | cons text before ih =>
    rw [List.reverse_cons, List.foldl_append, List.foldl_cons, List.foldl_nil] at he
    simp only [ScriptScan.step, line_foldl, Array.toList_appendList, List.mem_append,
      List.mem_map] at he
    rcases he with he | ⟨d, hd, rfl⟩
    · obtain ⟨after, text', earlier, rfl, hline, hd⟩ := ih he
      exact ⟨text :: after, text', earlier, rfl, hline, hd⟩
    · exact ⟨[], text, before, rfl, rfl, hd⟩

namespace Script

/-- A word is found on the line on which it began: it is ended before the scan leaves the line. -/
theorem line_of_mem_scanEvents {s : Script} {o : ScanOptions} {e : ScanEvent} {t : Token}
    (he : e ∈ s.scanEvents o) (ht : e.decision.token? = some t) :
    t.line = e.line ∧ t.StandsOn (s.line e.line).toList := by
  unfold scanEvents at he
  rw [← List.reverse_reverse s.pieces] at he
  obtain ⟨after, text, before, hpieces, hline, hd⟩ := exists_line_of_mem_events he
  have hplaced := placed_lineTokens o before text
  have hfound : t ∈ lineTokens o (before.length + 1) (stateAfter o before) text :=
    List.mem_filterMap.2 ⟨e.decision, hd, ht⟩
  have hlines : s.pieces = before.reverse ++ text :: after.reverse := by
    rw [← List.reverse_reverse s.pieces, hpieces]
    simp
  have htext : (s.line e.line).toList = text := by
    rw [hline, toList_line_succ, hlines, ← List.length_reverse, List.getD_eq_getElem?_getD,
      List.getElem?_append_right (Nat.le_refl _), Nat.sub_self]
    rfl
  exact ⟨(hplaced.line t hfound).trans hline.symm, htext ▸ hplaced.stands t hfound⟩

/-- Tracing lines does not change the tokens. The messages of the form
`Found term 'WORD' on line LINE` are read back as they were written, and in their order they give
the words and lines of the tokens on the traced lines, the lines on which these tokens stand. -/
theorem trace_found (s : Script) (o : ScanOptions) (first last : Int) :
    let traced : ScanOptions := { o with trace := some ⟨first, last⟩ }
    s.tokens traced = s.tokens { o with trace := none } ∧
      (∀ message word line, foundTerm? message = some (word, line) ↔
        message = s!"Found term '{word}' on line {line}") ∧
      (s.trace traced).filterMap foundTerm? =
        ((s.tokens traced).filter fun t => first ≤ t.line ∧ t.line ≤ last).map
          (fun t => (t.text, t.line)) ∧
      ∀ t ∈ s.tokens traced, t.StandsOn (s.line t.line).toList := by
  intro traced
  refine ⟨rfl, fun message word line => foundTerm?_eq_some_iff, ?_, fun t ht => ?_⟩
  · unfold trace tokens
    rw [List.filterMap_map, List.filterMap_filter, List.filter_filterMap, List.map_filterMap]
    refine List.filterMap_congr fun e he => ?_
    rw [Function.comp_apply, foundTerm?_describe]
    rcases hd : e.decision.token? with _ | t
    · simp
    · obtain ⟨hline, -⟩ := line_of_mem_scanEvents he hd
      by_cases hin : first ≤ e.line ∧ e.line ≤ last <;>
        simp [traced, ScanOptions.isTraced, LineRange.contains, hline, hin, Option.filter]
  · obtain ⟨e, he, hd⟩ := List.mem_filterMap.1 ht
    obtain ⟨hline, hstands⟩ := line_of_mem_scanEvents he hd
    rwa [hline]

end Script

/-! ## Progress -/

/-- The lines that a scan finishes: all of them but a last one without characters. -/
def finishedLines (lines : List (List Char)) : List (List Char) :=
  if lines.getLast? = some [] then lines.dropLast else lines

theorem finishedLines_cons_cons (text next : List Char) (rest : List (List Char)) :
    finishedLines (text :: next :: rest) = text :: finishedLines (next :: rest) := by
  unfold finishedLines
  rw [List.getLast?_cons_cons, List.dropLast_cons_cons]
  split_ifs <;> rfl

/-- To follow a scan of further lines is to hear the numbers of the lines that it finishes, one
after the other. -/
theorem ScriptScan.follow_eq {m : Type → Type} [Monad m] [LawfulMonad m] (o : ScanOptions)
    (report : Nat → m Unit) (k : ScriptScan) (lines : List (List Char)) :
    k.follow o report lines = (do
      forM (List.range' k.line (finishedLines lines).length) report
      pure (lines.foldl (step o) k)) := by
  induction lines generalizing k with
  | nil => simp [follow, finishedLines]
  | cons text rest ih =>
    cases rest with
    | nil => by_cases h : text = [] <;> simp [follow, finishedLines, h]
    | cons next rest =>
      rw [follow, ih, finishedLines_cons_cons, List.length_cons, List.range'_succ,
        List.forM_cons, bind_assoc]
      rfl

/-- A listener that writes the numbers down has them in their order. -/
theorem run_forM_push (numbers : List Nat) (heard : Array Nat) :
    StateT.run (m := Id) (forM numbers fun n => (modify (·.push n) : StateM (Array Nat) Unit))
      heard = ((), heard ++ numbers) := by
  induction numbers generalizing heard with
  | nil => exact congrArg (Prod.mk ()) (by simp : heard = heard ++ ([] : List Nat))
  | cons n numbers ih =>
    rw [List.forM_cons]
    exact (ih (heard.push n)).trans (by simp)

namespace Script

/-- A scan with a listener reports the lines of the script, as many as the script has newlines and
an unterminated rest, once each and in their order, and returns the tokens of a scan without one. -/
theorem tokensReporting_eq {m : Type → Type} [Monad m] [LawfulMonad m] (s : Script)
    (o : ScanOptions) (report : Nat → m Unit) :
    s.tokensReporting o report = (do
        forM (List.range' 1 s.lineCount) report
        pure (s.tokens o)) ∧
      s.progress o = List.range' 1 s.lineCount ∧
      s.lineCount = s.text.toList.count '\n' +
        if s.text.toList.getLast?.all (· == '\n') then 0 else 1 := by
  have hreport : ∀ {m : Type → Type} [Monad m] [LawfulMonad m] (report : Nat → m Unit),
      s.tokensReporting o report = (do
        forM (List.range' 1 s.lineCount) report
        pure (s.tokens o)) := by
    intro m _ _ report
    unfold tokensReporting
    rw [ScriptScan.follow_eq, bind_assoc, lineCount_eq, ← length_lineTexts]
    simp only [pure_bind]
    rfl
  refine ⟨hreport report, ?_, s.lineCount_eq⟩
  unfold progress
  dsimp only
  rw [hreport]
  have hheard := congrArg Prod.snd (run_forM_push (List.range' 1 s.lineCount) #[])
  exact (congrArg Array.toList hheard).trans (by simp)

/-- A listener writes down the lines, latest first, while the scan passes a body and a string that
is never closed. -/
theorem tokensReporting_of_open_string :
    let s : Script := { text := "cat <<E\n'x\n\nE; ls 'a\npwd" }
    let heard : StateM (List Nat) (List Token) := s.tokensReporting {} fun n => modify (n :: ·)
    LawfulMonad (StateM (List Nat)) ∧
      heard.run [] = ([⟨"cat", 1, 1⟩, ⟨"ls", 4, 4⟩], [5, 4, 3, 2, 1]) := by
  intro s heard
  refine ⟨inferInstance, ?_⟩
  have htokens : s.tokens = [⟨"cat", 1, 1⟩, ⟨"ls", 4, 4⟩] := by decide +kernel
  have hcount : s.lineCount = 5 := by decide +kernel
  have hheard : heard = _ := (s.tokensReporting_eq {} fun n => modify (n :: ·)).1
  rw [hheard, htokens, hcount]
  rfl

end Script

end CommandAudit
