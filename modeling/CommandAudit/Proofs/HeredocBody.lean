import CommandAudit.Proofs.ScriptScan

/-!
# Bodies of here-documents

A line in the body of a here-document takes no decision and leaves the same state behind whatever
it says, as long as it does not close the body (`scanLine_of_body`). So lines of bodies may be
replaced at will without any effect on the tokens (`Script.tokens_eq_of_bodies_replaced`).
-/

namespace CommandAudit

/-- The here-document that is open on line `n`, counted from one, once the scanner has looked at
the line. -/
def Script.openOn (s : Script) (o : ScanOptions) (n : Nat) : Option Heredoc :=
  ((stateAfter o (s.pieces.take (n - 1)).reverse).lookAhead (o.inWindow n)
    (s.pieces.getD (n - 1) [])).1.heredoc

/-! ## One line -/

section

variable {s : ScanState} {h : Heredoc}

/-- A here-document is open after the look at a line if it waited and the line does not close it. -/
theorem heredoc_lookAhead_eq_some_iff (isRead : Bool) (line : List Char) :
    (s.lookAhead isRead line).1.heredoc = some h ↔
      s.waiting = some h ∧ h.closedBy line = false := by
  rw [s.heredoc_lookAhead, Option.filter_eq_some_iff, Bool.not_eq_true']

/-- Looking at a line of a body. -/
theorem lookAhead_of_body (isRead : Bool) {line : List Char} (hw : s.waiting = some h)
    (hc : h.closedBy line = false) :
    s.lookAhead isRead line = ({ s with heredoc := some h, pending := none }, []) := by
  have hw' : (s.pending <|> s.heredoc) = some h := hw
  simp [ScanState.lookAhead, hw', Option.filter, hc]

/-- A line of a body is passed over: its text plays no part in the outcome. -/
theorem scanLine_of_body (o : ScanOptions) (n : Nat) {line : List Char} (hw : s.waiting = some h)
    (hc : h.closedBy line = false) :
    scanLine o n s line = ({ s with heredoc := some h, pending := none }, []) := by
  unfold scanLine
  rw [lookAhead_of_body _ hw hc]
  simp

end

/-! ## All lines -/

section

variable {s s' : Script} {o : ScanOptions}

/-- The lines of `s'` are those of `s`, apart from lines of bodies, which do not close them. -/
def BodiesReplaced (o : ScanOptions) (s s' : Script) : Prop :=
  s'.pieces.length = s.pieces.length ∧ ∀ i < s.pieces.length,
    s'.pieces.getD i [] = s.pieces.getD i [] ∨
      ∃ h ∈ s.openOn o (i + 1), h.closedBy (s'.pieces.getD i []) = false

/-- After any number of lines the two scans have taken the same decisions and are in the same
state. -/
theorem BodiesReplaced.foldl_take (hs : BodiesReplaced o s s') (m : Nat) :
    (s'.pieces.take m).foldl (ScriptScan.step o) {} =
      (s.pieces.take m).foldl (ScriptScan.step o) {} := by
  obtain ⟨hlen, hline⟩ := hs
  induction m with
  | zero => rfl
  | succ m ih =>
    by_cases hm : m < s.pieces.length
    · have hm' : m < s'.pieces.length := hlen ▸ hm
      rw [take_succ_eq_append_getD hm', take_succ_eq_append_getD hm, List.foldl_append,
        List.foldl_append, ih]
      rcases hline m hm with heq | ⟨h, hopen, hclosed⟩
      · rw [heq]
      · rw [Option.mem_def, Script.openOn, heredoc_lookAhead_eq_some_iff, Nat.add_sub_cancel,
          stateAfter, List.reverse_reverse] at hopen
        simp only [List.foldl_cons, List.foldl_nil, ScriptScan.step]
        rw [scanLine_of_body o _ hopen.1 hopen.2, scanLine_of_body o _ hopen.1 hclosed]
    · rw [List.take_of_length_le (by omega), List.take_of_length_le (by omega)]
      rw [List.take_of_length_le (by omega), List.take_of_length_le (by omega)] at ih
      exact ih

/-- Whatever the lines of here-document bodies are replaced by, line for line and without closing a
body, the scan finds the same tokens at the same lines and columns. -/
theorem Script.tokens_eq_of_bodies_replaced (o : ScanOptions) (s s' : Script)
    (hs : BodiesReplaced o s s') : s'.tokens o = s.tokens o := by
  have h := hs.foldl_take s.pieces.length
  rw [List.take_length, List.take_of_length_le (Nat.le_of_eq hs.1)] at h
  unfold Script.tokens Script.scanEvents
  rw [h]

end

/-- A body with a quote, a case pattern and a shift, replaced by another text. -/
theorem Script.tokens_eq_of_body_replaced :
    BodiesReplaced {} ⟨"cat <<-EOF; ls\n\tit's\ncase) <<X\n\tEOF\npwd", ""⟩
        ⟨"cat <<-EOF; ls\nrm \"\n\\\n\tEOF\npwd", ""⟩ ∧
      Script.tokens ⟨"cat <<-EOF; ls\nrm \"\n\\\n\tEOF\npwd", ""⟩ {} =
        Script.tokens ⟨"cat <<-EOF; ls\n\tit's\ncase) <<X\n\tEOF\npwd", ""⟩ {} := by
  have h : BodiesReplaced {} ⟨"cat <<-EOF; ls\n\tit's\ncase) <<X\n\tEOF\npwd", ""⟩
      ⟨"cat <<-EOF; ls\nrm \"\n\\\n\tEOF\npwd", ""⟩ := by
    unfold BodiesReplaced
    decide +kernel
  exact ⟨h, Script.tokens_eq_of_bodies_replaced _ _ _ h⟩

end CommandAudit
