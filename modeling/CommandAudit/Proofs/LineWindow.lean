import CommandAudit.Proofs.Continuation

/-!
# Line windows

A line outside the window is passed over: it holds no token (`tokensAfter_of_outside`), and as long
as the window has not begun the scan carries nothing from line to line (`stateAfter_of_outside`). So
a scan with a window finds what a scan of the lines in the window alone finds, apart from the
numbers of the lines, and nothing outside the window matters (`Script.tokens_window`).
-/

namespace CommandAudit

/-! ## Lines outside the window -/

section

variable {o : ScanOptions} {before : List (List Char)}

/-- A line outside the window is passed over. -/
theorem scanLine_of_outside {n : Nat} (h : o.inWindow n = false) (s : ScanState)
    (line : List Char) :
    (scanLine o n s line).1 = (s.lookAhead false line).1 ∧ lineTokens o n s line = [] := by
  have hpass : ¬(o.inWindow n = true ∧ s.waiting.filter (!·.closedBy line) = none) := fun hread =>
    absurd (h.symm.trans hread.1) Bool.false_ne_true
  rw [← h]
  exact scanLine_of_pass hpass

theorem tokensAfter_of_outside {lines : List (List Char)}
    (h : ∀ n, before.length < n → n ≤ before.length + lines.length → o.inWindow n = false) :
    tokensAfter o before lines = [] := by
  induction lines with
  | nil => rfl
  | cons line lines ih =>
    rw [List.length_cons] at h
    have hpass : o.inWindow ((lines ++ before).length + 1) = false := by
      apply h <;> rw [List.length_append] <;> omega
    rw [tokensAfter, ih fun n hn hn' => h n hn (by omega), (scanLine_of_outside hpass _ line).2]
    rfl

/-- A line that is passed over while no here-document is open changes nothing. -/
theorem lookAhead_of_idle {s : ScanState} (hheredoc : s.heredoc = none)
    (hpending : s.pending = none) (line : List Char) : (s.lookAhead false line).1 = s := by
  obtain ⟨context, heredoc, pending, block, ready, wrapped, fresh, word⟩ := s
  subst hheredoc hpending
  rfl

/-- Before the window every line starts alike. -/
theorem stateAfter_of_outside (h : ∀ n, 0 < n → n ≤ before.length → o.inWindow n = false)
    (hne : before ≠ []) : stateAfter o before = ScanState.endLine {} := by
  induction before with
  | nil => exact absurd rfl hne
  | cons line before ih =>
    rw [List.length_cons] at h
    have hpass : o.inWindow (before.length + 1) = false := h _ (by omega) (Nat.le_refl _)
    have hidle : stateAfter o before = {} ∨ stateAfter o before = ScanState.endLine {} := by
      by_cases hnil : before = []
      · subst hnil
        exact Or.inl rfl
      · exact Or.inr (ih (fun n hn hn' => h n hn (by omega)) hnil)
    rw [stateAfter_cons, (scanLine_of_outside hpass _ line).1]
    rcases hidle with hs | hs
    · rw [hs, lookAhead_of_idle rfl rfl]
    · rw [hs, lookAhead_of_idle rfl rfl]
      rfl

end

/-! ## The lines of the window -/

theorem inWindow_iff_of_window_eq_some {o : ScanOptions} {a b : Int} (h : o.window = some ⟨a, b⟩)
    (n : Nat) : o.inWindow n = true ↔ a ≤ n ∧ n ≤ b := by
  simp [ScanOptions.inWindow, h, LineRange.contains]

namespace Script

/-- The lines of a script that are read are those after the first `first` lines up to line
`last`. -/
structure WindowIs (s : Script) (o : ScanOptions) (first last : Nat) : Prop where
  /-- The last of them is a line of the script. -/
  le_length : last ≤ s.pieces.length
  /-- They are the lines in the window. -/
  inWindow_iff : ∀ n, 0 < n → n ≤ s.pieces.length → (o.inWindow n = true ↔ first < n ∧ n ≤ last)

namespace WindowIs

variable {s : Script} {o : ScanOptions} {first last : Nat}

theorem inWindow_eq_false (h : s.WindowIs o first last) {n : Nat} (hn : 0 < n)
    (hn' : n ≤ s.pieces.length) (hout : n ≤ first ∨ last < n) : o.inWindow n = false := by
  rw [← Bool.not_eq_true, h.inWindow_iff n hn hn']
  omega

/-- Only the lines in the window hold tokens. -/
theorem tokens_eq_tokensAfter (h : s.WindowIs o first last) (hle : first ≤ last) : s.tokens o =
    tokensAfter o (s.pieces.take first).reverse ((s.pieces.take last).drop first).reverse := by
  have hlast := h.le_length
  have hupto : (s.pieces.take last).reverse =
      ((s.pieces.take last).drop first).reverse ++ (s.pieces.take first).reverse := by
    have htake : s.pieces.take first = (s.pieces.take last).take first := by
      rw [List.take_take, Nat.min_eq_left hle]
    rw [htake, ← List.reverse_append, List.take_append_drop]
  have hall : s.pieces.reverse = (s.pieces.drop last).reverse ++ (s.pieces.take last).reverse := by
    rw [← List.reverse_append, List.take_append_drop]
  have hafter : tokensAfter o (s.pieces.take last).reverse (s.pieces.drop last).reverse = [] := by
    apply tokensAfter_of_outside
    intro n hn hn'
    rw [List.length_reverse, List.length_take] at hn hn'
    rw [List.length_reverse, List.length_drop] at hn'
    exact h.inWindow_eq_false (by omega) (by omega) (by omega)
  have hbefore : tokensOf o (s.pieces.take first).reverse = [] := by
    rw [← List.append_nil (s.pieces.take first).reverse, tokensOf_append]
    apply tokensAfter_of_outside
    intro n hn hn'
    rw [List.length_reverse, List.length_take, List.length_nil] at hn'
    exact h.inWindow_eq_false hn (by omega) (by omega)
  rw [tokens_eq_tokensOf, hall, tokensOf_append, hafter, List.append_nil, hupto, tokensOf_append,
    hbefore, List.nil_append]

/-- A line of the window is read, as every line is without a window. -/
theorem inWindow_add (h : s.WindowIs o first last) {n d : Nat} (hn : first < n + d)
    (hn' : n + d ≤ last) :
    o.inWindow (n + d) = ScanOptions.inWindow { o with window := none } n := by
  have hlast := h.le_length
  exact (h.inWindow_iff _ (by omega) (by omega)).2 ⟨hn, hn'⟩

/-- A window that begins with the first line. -/
theorem tokens_eq_of_start (h : s.WindowIs o 0 last) (hpos : 0 < last) :
    s.tokens o = (Script.mk (s.excerpt 1 last) s.name).tokens { o with window := none } := by
  have hmode : o.escapeMode = ScanOptions.escapeMode { o with window := none } := rfl
  have hpieces : (Script.mk (s.excerpt 1 last) s.name).pieces = (s.pieces.take last).drop 0 :=
    pieces_excerpt s hpos h.le_length
  have hread : ∀ n, 0 < n → n ≤ 0 + ((s.pieces.take last).drop 0).reverse.length →
      o.inWindow n = ScanOptions.inWindow { o with window := none } n := by
    intro n hn hn'
    rw [List.length_reverse, List.length_drop, List.length_take] at hn'
    exact h.inWindow_add (d := 0) (by omega) (by omega)
  have hsame := tokensAfter_congr hmode [] [] rfl rfl hread
  rw [h.tokens_eq_tokensAfter (Nat.zero_le _), tokens_eq_tokensOf, hpieces, List.take_zero,
    List.reverse_nil, hsame, ← List.append_nil (List.reverse _), tokensOf_append, List.append_nil]
  rfl

/-- A window that begins further down. The empty line in front of the excerpt stands for the lines
above the window: it too leaves the scan at the start of a line that is not the first. -/
theorem tokens_eq_of_later (h : s.WindowIs o first last) (hfirst : 0 < first) (hlt : first < last) :
    s.tokens o = ((Script.mk ("\n" ++ s.excerpt (first + 1 : Nat) last) s.name).tokens
      { o with window := none }).map (Token.moveDown (first - 1)) := by
  have hmode : o.escapeMode = ScanOptions.escapeMode { o with window := none } := rfl
  have hlast := h.le_length
  have hpieces : (Script.mk ("\n" ++ s.excerpt (first + 1 : Nat) last) s.name).pieces =
      [[]] ++ (s.pieces.take last).drop first := by
    have happend := pieces_append (Script.mk "" s.name) (s.excerpt (first + 1 : Nat) last)
    rw [String.empty_append] at happend
    rw [← pieces_excerpt s hlt hlast]
    exact happend
  have hlen : (s.pieces.take first).reverse.length = 1 + (first - 1) := by
    rw [List.length_reverse, List.length_take]
    omega
  have hstate : stateAfter o (s.pieces.take first).reverse =
      stateAfter { o with window := none } [[]] := by
    apply stateAfter_of_outside
    · intro n hn hn'
      exact h.inWindow_eq_false hn (by omega) (by omega)
    · exact List.ne_nil_of_length_pos (by omega)
  have hread : ∀ n, ([[]] : List (List Char)).length < n →
      n ≤ ([[]] : List (List Char)).length + ((s.pieces.take last).drop first).reverse.length →
      o.inWindow (n + (first - 1)) = ScanOptions.inWindow { o with window := none } n := by
    intro n hn hn'
    rw [List.length_singleton] at hn hn'
    rw [List.length_reverse, List.length_drop, List.length_take] at hn'
    exact h.inWindow_add (by omega) (by omega)
  have hnil : tokensOf { o with window := none } [[]] = [] := by
    rw [tokensOf_cons, tokensOf_nil]
    exact lineTokens_of_nil _ []
  rw [h.tokens_eq_tokensAfter (Nat.le_of_lt hlt), tokens_eq_tokensOf, hpieces, List.reverse_append,
    List.reverse_singleton, tokensOf_append, hnil, List.nil_append]
  exact (tokensAfter_add hmode _ _ hlen hstate hread).2

end WindowIs

/-- A scan with the window from `a` to `b` finds the tokens that a scan without a window finds in
the lines of the window: as they are if the window begins with the first line, and else after an
empty line and moved down. -/
theorem tokens_of_window (s : Script) (o : ScanOptions) (a b : Int) :
    let first : Int := max a 1
    let last : Int := min b (s.text.toList.count '\n' + 1 : Nat)
    s.tokens { o with window := some ⟨a, b⟩ } =
      if last < first then []
      else if first = 1 then
        (Script.mk (s.excerpt first last) s.name).tokens { o with window := none }
      else
        ((Script.mk ("\n" ++ s.excerpt first last) s.name).tokens { o with window := none }).map
          (Token.moveDown (first - 2).toNat) := by
  intro first last
  have hfirst : first = max a 1 := rfl
  have hlast : last = min b (s.text.toList.count '\n' + 1 : Nat) := rfl
  clear_value first last
  rw [← length_pieces] at hlast
  have hwindow : ∀ k m : Nat, first = (k + 1 : Nat) → last = m →
      s.WindowIs { o with window := some ⟨a, b⟩ } k m := by
    intro k m hk hm
    refine ⟨by omega, fun n hn hn' => ?_⟩
    rw [inWindow_iff_of_window_eq_some rfl]
    omega
  split_ifs with hempty hone
  · rw [tokens_eq_tokensOf, ← List.append_nil s.pieces.reverse, tokensOf_append]
    apply tokensAfter_of_outside
    intro n hn hn'
    rw [List.length_reverse, List.length_nil] at hn'
    rw [← Bool.not_eq_true, inWindow_iff_of_window_eq_some rfl]
    omega
  · obtain ⟨m, rfl⟩ : ∃ m : Nat, last = m := ⟨last.toNat, by omega⟩
    have h := hwindow 0 m (by omega) rfl
    rw [hone, h.tokens_eq_of_start (by omega)]
  · obtain ⟨m, rfl⟩ : ∃ m : Nat, last = m := ⟨last.toNat, by omega⟩
    obtain ⟨k, rfl⟩ : ∃ k : Nat, first = (k + 1 : Nat) := ⟨(first - 1).toNat, by omega⟩
    have h := hwindow k m rfl rfl
    have hmove : (((k + 1 : Nat) : Int) - 2).toNat = k - 1 := by omega
    rw [hmove, h.tokens_eq_of_later (by omega) (by omega)]

/-- The tokens of a scan with a window are those of its lines alone, and two scripts that agree on
these lines have the same tokens there, whatever stands above and below. -/
theorem tokens_window (s : Script) (o : ScanOptions) (a b : Int) :
    let first : Int := max a 1
    let last : Int := min b (s.text.toList.count '\n' + 1 : Nat)
    let windowed : ScanOptions := { o with window := some ⟨a, b⟩ }
    let whole : ScanOptions := { o with window := none }
    s.tokens windowed =
        (if last < first then []
        else if first = 1 then (Script.mk (s.excerpt first last) s.name).tokens whole
        else
          ((Script.mk ("\n" ++ s.excerpt first last) s.name).tokens whole).map
            (Token.moveDown (first - 2).toNat)) ∧
      ∀ s' : Script, min b (s'.text.toList.count '\n' + 1 : Nat) = last →
        (∀ n : Int, first ≤ n → n ≤ last → s'.line n = s.line n) →
        s'.tokens windowed = s.tokens windowed := by
  intro first last windowed whole
  refine ⟨tokens_of_window s o a b, fun s' hlast hlines => ?_⟩
  have hexcerpt : s'.excerpt first last = s.excerpt first last := by
    refine congrArg "\n".intercalate (List.map_congr_left fun i hi => ?_)
    rw [List.mem_range] at hi
    exact hlines _ (by omega) (by omega)
  have hname : ∀ text : String, (Script.mk text s'.name).tokens whole =
      (Script.mk text s.name).tokens whole := fun _ => rfl
  rw [tokens_of_window, tokens_of_window, hlast, hexcerpt, hname, hname]

/-- An open string above the window and a case statement below it, against an open here-document. -/
theorem tokens_window_of_same_lines :
    (∀ n : Int, 2 ≤ n → n ≤ 3 →
        (Script.mk "cat <<EOF\nls; foo\nsudo pwd" "").line n =
          (Script.mk "echo 'x\nls; foo\nsudo pwd\ncase y in" "").line n) ∧
      (Script.mk "cat <<EOF\nls; foo\nsudo pwd" "").tokens { window := some ⟨2, 3⟩ } =
        (Script.mk "echo 'x\nls; foo\nsudo pwd\ncase y in" "").tokens
          { window := some ⟨2, 3⟩ } := by
  have h : ∀ n : Int, 2 ≤ n → n ≤ 3 → (Script.mk "cat <<EOF\nls; foo\nsudo pwd" "").line n =
      (Script.mk "echo 'x\nls; foo\nsudo pwd\ncase y in" "").line n := by
    intro n hn hn'
    obtain rfl | rfl : n = 2 ∨ n = 3 := by omega
    all_goals decide +kernel
  exact ⟨h, (tokens_window _ {} 2 3).2 _ (by decide +kernel) h⟩

end Script

end CommandAudit
