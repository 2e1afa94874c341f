import CommandAudit.Proofs.ScriptLines
import CommandAudit.Proofs.StringContent

/-!
# Shell quoting

The quoting rules of the shell as an automaton with one escape bit (`Quoting.step`). It is fed with
the lines outside the bodies of here-documents (`shellText`). A strict scan carries no such bit: it
counts the backslashes in front of a quote, whatever they stand in. A run of backslashes ends before
any character that changes the context, so in code and between double quotes the bit is the parity
of the run (`Quoting.Follows`), and after every character the scan is in the context of the
automaton (`Script.context_strict`).
-/

namespace CommandAudit

/-! ## The automaton -/

/-- The state of the quoting automaton. -/
structure Quoting where
  /-- What the characters belong to. -/
  context : Context := .code
  /-- The next character is escaped. -/
  escaped : Bool := false
  /-- The character before. -/
  last : Option Char := none
  deriving DecidableEq, Repr

namespace Quoting

/-- The context after the character `c`. -/
def nextContext (q : Quoting) (c : Char) : Context :=
  match q.context with
  | .code =>
    if c = '#' ∧ q.last ≠ some '$' ∧ q.last ≠ some '\x7b' then .comment
    else if c = '\'' ∧ q.escaped = false then .singleQuoted
    else if c = '"' ∧ q.escaped = false then .doubleQuoted
    else .code
  | .doubleQuoted => if c = '"' ∧ q.escaped = false then .code else .doubleQuoted
  | .singleQuoted => if c = '\'' then .code else .singleQuoted
  | .comment => if c = '\n' then .code else .comment

/-- The escape bit after the character `c`: a backslash escapes in code and between double quotes
only, and a newline never leaves it on. -/
def nextEscaped (q : Quoting) (c : Char) : Bool :=
  match q.context with
  | .code | .doubleQuoted => c == '\\' && !q.escaped
  | .singleQuoted | .comment => q.escaped && c != '\n'

/-- Reads one character. -/
def step (q : Quoting) (c : Char) : Quoting where
  context := q.nextContext c
  escaped := q.nextEscaped c
  last := some c

/-- Reads a text from the start. -/
def run (text : List Char) : Quoting :=
  text.foldl step {}

end Quoting

/-- The lines outside bodies, each with its newline, in the order of the text; `before` is latest
first. -/
def shellText (o : ScanOptions) : List (List Char) → List Char
  | [] => []
  | line :: before =>
    shellText o before ++ if bodyOf o before line = none then line ++ ['\n'] else []

/-! ## Escape bit and parity -/

/-- A backslash can escape the character after it. -/
def Context.allowsEscapes : Context → Bool
  | .code | .doubleQuoted => true
  | .singleQuoted | .comment => false

namespace Quoting

/-- The automaton agrees with a strict scan that is in `context` after the characters `past` of a
line, latest first. -/
structure Follows (context : Context) (past : List Char) (q : Quoting) : Prop where
  /-- The contexts are the same. -/
  context_eq : q.context = context
  /-- The escape bit is the parity of the run of backslashes. -/
  escaped_eq : q.escaped = (context.allowsEscapes && backslashRun past % 2 == 1)
  /-- The scan does not look back over the start of the line. -/
  head?_eq : past.head? = q.last.filter (· != '\n')

namespace Follows

variable {context : Context} {past : List Char} {q : Quoting} {c : Char}

theorem last_eq_some_iff (h : Follows context past q) (hc : c ≠ '\n') :
    q.last = some c ↔ past.head? = some c := by
  rw [h.head?_eq, Option.filter_eq_some_iff]
  simp [hc]

/-- Where backslashes escape, the bit tells whether a quote is escaped. -/
theorem escapedBy_eq (h : Follows context past q) (hcontext : context.allowsEscapes = true) :
    escapedBy .strict context c (backslashRun past) = q.escaped := by
  rw [h.escaped_eq, hcontext, Bool.true_and]
  cases context with
  | code | doubleQuoted => simp [escapedBy]
  | singleQuoted | comment => exact absurd hcontext (by decide)

/-- The scan changes its context as the automaton does. -/
theorem nextContext_eq (h : Follows context past q) (hc : c ≠ '\n') :
    q.nextContext c = context.next .strict past c := by
  unfold nextContext
  rw [h.context_eq]
  by_cases hash : c = '#'
  · have hdollar := h.last_eq_some_iff (c := '$') (by decide)
    have hbrace := h.last_eq_some_iff (c := '\x7b') (by decide)
    subst hash
    rw [next_hash]
    cases context <;> simp [hdollar, hbrace]
  · rcases hquote : quotedBy? c with _ | own
    · have hplain : c ≠ '\'' ∧ c ≠ '"' := by
        unfold quotedBy? at hquote
        split_ifs at hquote with hs hd
        exact ⟨hs, hd⟩
      rw [next_other _ _ _ hash hquote]
      cases context <;> simp [hash, hplain, hc]
    · rw [next_quote _ _ _ hquote]
      unfold quotedBy? at hquote
      split_ifs at hquote with hs hd
      all_goals
        obtain rfl := Option.some.inj hquote
        subst c
        cases context with
        | code | doubleQuoted =>
          rw [h.escapedBy_eq rfl]
          cases q.escaped <;> simp [toggle]
        | singleQuoted | comment => simp [escapedBy, toggle]

/-- The run of backslashes decides on the bit, because it ends where the context changes. -/
theorem nextEscaped_eq (h : Follows context past q) (hc : c ≠ '\n') : q.nextEscaped c =
    ((context.next .strict past c).allowsEscapes && backslashRun (c :: past) % 2 == 1) := by
  have hparity : ∀ r : Nat, ((r + 1) % 2 == 1) = !(r % 2 == 1) := by
    intro r
    rw [Bool.eq_iff_iff]
    simp only [beq_iff_eq, Bool.not_eq_true', beq_eq_false_iff_ne, ne_eq]
    omega
  rw [← h.nextContext_eq hc, backslashRun_cons]
  unfold nextEscaped nextContext
  rw [h.context_eq, h.escaped_eq]
  by_cases hslash : c = '\\'
  · subst hslash
    rw [if_pos rfl, hparity]
    cases context <;> simp [Context.allowsEscapes]
  · cases context <;> simp [hslash, Context.allowsEscapes]

/-- One character of a line. -/
theorem step (h : Follows context past q) (hc : c ≠ '\n') :
    Follows (context.next .strict past c) (c :: past) (q.step c) where
  context_eq := h.nextContext_eq hc
  escaped_eq := h.nextEscaped_eq hc
  head?_eq := by simp [Quoting.step, Option.filter, hc]

/-- The newline ends a comment and the look back. -/
theorem newline (h : Follows context past q) :
    Follows (if context = .comment then .code else context) [] (q.step '\n') where
  context_eq := by
    unfold Quoting.step nextContext
    rw [h.context_eq]
    cases context <;> simp
  escaped_eq := by
    unfold Quoting.step nextEscaped
    rw [h.context_eq]
    cases context <;> simp [backslashRun]
  head?_eq := rfl

/-- The characters of a line. -/
theorem foldl_step {text : List Char} (h : Follows context [] q) (htext : '\n' ∉ text) :
    Follows (contextAfter .strict context text.reverse) text.reverse (text.foldl Quoting.step q) := by
  induction text using List.reverseRecOn with
  | nil => exact h
  | append_singleton text c ih =>
    rw [List.mem_append, List.mem_singleton, not_or] at htext
    rw [List.foldl_append, List.reverse_append, List.reverse_singleton, List.singleton_append,
      contextAfter_cons]
    exact (ih htext.1).step (Ne.symm htext.2)

end Follows

/-- A strict scan of all lines starts every line in the context of the automaton. -/
theorem follows_run_shellText {o : ScanOptions} (hmode : o.escapeMode = .strict)
    (hwindow : o.window = none) {before : List (List Char)} (hbefore : ∀ line ∈ before, '\n' ∉ line) :
    Follows (startContext o before) [] (run (shellText o before)) := by
  induction before with
  | nil => exact ⟨rfl, rfl, rfl⟩
  | cons line before ih =>
    have hfollows := ih fun l hl => hbefore l (List.mem_cons_of_mem _ hl)
    have hread : IsRead o before line ↔ bodyOf o before line = none := by
      unfold IsRead ScanOptions.inWindow
      simp [hwindow]
    rw [startContext, shellText]
    by_cases hbody : bodyOf o before line = none
    · have hline := hfollows.foldl_step (hbefore line List.mem_cons_self)
      rw [if_pos (hread.2 hbody), if_pos hbody, hmode]
      unfold run
      rw [List.foldl_append, List.foldl_append]
      exact hline.newline
    · rw [if_neg (mt hread.1 hbody), if_neg hbody, List.append_nil]
      exact hfollows

end Quoting

/-! ## Strict scans -/

/-- A strict scan of a script follows the quoting rules of the shell. On a line outside every body
its context is that of the automaton after each character of the line, and after the newline. -/
theorem Script.context_strict (s : Script) (o : ScanOptions) (hmode : o.escapeMode = .strict)
    (hwindow : o.window = none) (n : Nat) (hn : n < s.pieces.length)
    (hbody : bodyOf o (s.pieces.take n).reverse (s.pieces.getD n []) = none) :
    let before := (s.pieces.take n).reverse
    let line := s.pieces.getD n []
    (∀ i ≤ line.length, scanContext o before line i =
        (Quoting.run (shellText o before ++ line.take i)).context) ∧
      (stateAfter o (line :: before)).context =
        (Quoting.run (shellText o before ++ line ++ ['\n'])).context := by
  intro before line
  have hpieces : ∀ l ∈ s.pieces, '\n' ∉ l := fun l hl => not_mem_of_mem_splitOn hl
  have hline : '\n' ∉ line := hpieces _ (getD_mem_pieces hn)
  have hbefore : ∀ l ∈ before, '\n' ∉ l := fun l hl =>
    hpieces _ (List.mem_of_mem_take (List.mem_reverse.1 hl))
  constructor
  · intro i hi
    have hpart : '\n' ∉ line.take i := fun h => hline (List.mem_of_mem_take h)
    have hfollows := (Quoting.follows_run_shellText hmode hwindow hbefore).foldl_step hpart
    unfold scanContext
    rw [context_readPart, context_stateAfter, hmode, ← hfollows.context_eq]
    unfold Quoting.run
    rw [List.foldl_append]
  · have hall : ∀ l ∈ line :: before, '\n' ∉ l := by
      simpa using ⟨hline, hbefore⟩
    have hfollows := Quoting.follows_run_shellText hmode hwindow hall
    rw [shellText, if_pos hbody, ← List.append_assoc] at hfollows
    rw [context_stateAfter, hfollows.context_eq]

/-- A line with an odd run of backslashes between double quotes and one before a single quote, after
a comment and a body that hold quotes. -/
theorem Script.context_strict_after_body :
    let s : Script := ⟨"cat <<EOF # it's\nls \"\nEOF\ntr \"\\\\\\\"\" 'a\\' \\'", ""⟩
    let o : ScanOptions := { escapeMode := .strict }
    bodyOf o (s.pieces.take 3).reverse (s.pieces.getD 3 []) = none ∧
      (∀ i ≤ 17, scanContext o (s.pieces.take 3).reverse (s.pieces.getD 3 []) i =
        (Quoting.run ("cat <<EOF # it's\nEOF\n".toList ++ (s.pieces.getD 3 []).take i)).context) ∧
      (Quoting.run "cat <<EOF # it's\nEOF\ntr \"\\\\\\\"".toList).context = .doubleQuoted := by
  intro s o
  have hbody : bodyOf o (s.pieces.take 3).reverse (s.pieces.getD 3 []) = none := by decide +kernel
  have htext : shellText o (s.pieces.take 3).reverse = "cat <<EOF # it's\nEOF\n".toList := by
    decide +kernel
  refine ⟨hbody, fun i hi => ?_, by decide +kernel⟩
  rw [← htext]
  exact (Script.context_strict s o rfl rfl 3 (by decide +kernel) hbody).1 i
    (Nat.le_trans hi (by decide +kernel))

end CommandAudit
