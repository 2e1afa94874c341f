import CommandAudit.Proofs.ScriptLoading
import CommandAudit.Proofs.Utf8Decoding

/-!
# Line ends and bytes of scripts

A text without carriage returns is read back however its line ends are written
(`unifyLineEnds_write`), and no text that is read has a carriage return. So a script that is loaded
does not show how its lines end in the file, and only the number of its bytes decides whether it is
loaded (`FileTree.loadScript_file`).
-/

namespace CommandAudit

/-! ## Line ends -/

/-- A way of ending a line. -/
inductive LineEnd
  /-- A newline. -/
  | newline
  /-- A carriage return and a newline. -/
  | both
  /-- A carriage return. -/
  | carriageReturn
  deriving DecidableEq, Repr

namespace LineEnd

/-- The characters that end a line. -/
def chars : LineEnd → List Char
  | .newline => ['\n']
  | .both => ['\r', '\n']
  | .carriageReturn => ['\r']

/-- A text with its line ends written in the given way. -/
def write (e : LineEnd) (cs : List Char) : List Char :=
  cs.flatMap fun c => if c = '\n' then e.chars else [c]

theorem write_cons (e : LineEnd) (c : Char) (cs : List Char) :
    e.write (c :: cs) = (if c = '\n' then e.chars else [c]) ++ e.write cs :=
  List.flatMap_cons

/-- A line end is read as one newline, unless a newline follows a carriage return. -/
theorem foldl_chars (e : LineEnd) (acc : List Char) {afterReturn : Bool}
    (h : afterReturn = false ∨ e = .carriageReturn) :
    e.chars.foldl lineEndStep (acc, afterReturn) = ('\n' :: acc, e == .carriageReturn) := by
  cases e with
  | newline =>
    rcases h with rfl | h
    · rfl
    · exact absurd h (by decide)
  | both | carriageReturn => rfl

/-- Where line ends are carriage returns, no newline is written that could follow one: the induction
is on the text, for all that was read before. -/
theorem foldl_write (e : LineEnd) {cs : List Char} (hcs : '\r' ∉ cs) (acc : List Char)
    {afterReturn : Bool} (h : afterReturn = false ∨ e = .carriageReturn) :
    ((e.write cs).foldl lineEndStep (acc, afterReturn)).1 = cs.reverse ++ acc := by
  induction cs generalizing acc afterReturn with
  | nil => rfl
  | cons c cs ih =>
    rw [List.mem_cons, not_or] at hcs
    rw [write_cons, List.foldl_append, List.reverse_cons, List.append_assoc, List.singleton_append]
    by_cases hc : c = '\n'
    · have hnext : (e == .carriageReturn) = false ∨ e = .carriageReturn := by
        cases e <;> decide
      rw [if_pos hc, e.foldl_chars acc h, ih hcs.2 _ hnext, hc]
    · have hstep : lineEndStep (acc, afterReturn) c = (c :: acc, false) := by
        simp [lineEndStep, Ne.symm hcs.1, hc]
      rw [if_neg hc, List.foldl_cons, List.foldl_nil, hstep, ih hcs.2 _ (.inl rfl)]

end LineEnd

/-- A text without carriage returns is read back, in whichever way its line ends are written. -/
theorem unifyLineEnds_write (e : LineEnd) {cs : List Char} (h : '\r' ∉ cs) :
    unifyLineEnds (e.write cs) = cs := by
  rw [unifyLineEnds, e.foldl_write h [] (.inl rfl), List.append_nil, List.reverse_reverse]

theorem not_mem_foldl_lineEndStep (cs : List Char) {acc : List Char × Bool} (h : '\r' ∉ acc.1) :
    '\r' ∉ (cs.foldl lineEndStep acc).1 := by
  induction cs generalizing acc with
  | nil => exact h
  | cons c cs ih =>
    refine ih ?_
    unfold lineEndStep
    split
    · simpa using h
    · next hc =>
      have hc : '\r' ≠ c := fun heq => hc (by rw [heq, beq_self_eq_true])
      split
      · exact h
      · simp [hc, h]

theorem not_mem_unifyLineEnds (cs : List Char) : '\r' ∉ unifyLineEnds cs := by
  rw [unifyLineEnds, List.mem_reverse]
  exact not_mem_foldl_lineEndStep cs List.not_mem_nil

theorem not_mem_scriptText (bytes : List UInt8) : '\r' ∉ (scriptText bytes).toList := by
  rw [scriptText, String.toList_ofList]
  exact not_mem_unifyLineEnds _

theorem scriptText_encodeUtf8_write (e : LineEnd) {text : String} (h : '\r' ∉ text.toList) :
    scriptText (encodeUtf8 (e.write text.toList)) = text := by
  rw [scriptText, decodeUtf8Lossy_encodeUtf8, unifyLineEnds_write e h, String.ofList_toList]

/-! ## Loading -/

/-- Whether a script of the given size may be loaded under the settings. -/
def Settings.Admits (s : Settings) (size : Nat) : Prop :=
  s.minSize ≤ size ∧ size ≤ s.maxSize

namespace FileTree

theorem loadScript_of_file {t : FileTree} {p : Path} {bytes : List UInt8}
    (h : t.node? p = .ok (some (.file bytes))) {settings : Settings} (name : String)
    (hsize : settings.Admits bytes.length) :
    t.loadScript p settings name =
      .ok { text := scriptText bytes, name := if name = "" then p.toString else name } := by
  obtain ⟨hleast, hgreatest⟩ := hsize
  rw [loadScript_of_some h, if_neg (by simp [FileNode.isFile])]
  exact if_neg (not_or.2 ⟨not_lt.2 hleast, not_lt.2 hgreatest⟩)

theorem loadScript_of_size {t : FileTree} {p : Path} {bytes : List UInt8}
    (h : t.node? p = .ok (some (.file bytes))) {settings : Settings} (name : String)
    (hsize : ¬settings.Admits bytes.length) :
    t.loadScript p settings name = refuseSize bytes.length settings p := by
  have hbounds : (bytes.length : Int) < settings.minSize ∨ settings.maxSize < bytes.length := by
    rwa [Settings.Admits, not_and_or, not_le, not_le] at hsize
  rw [loadScript_of_some h, if_neg (by simp [FileNode.isFile])]
  exact if_pos hbounds

/-- A size is refused as a problem of the input exactly if both bounds can be named. -/
theorem exists_refuseSize_eq_input_iff {α : Type} {size : Nat} {settings : Settings} {p : Path} :
    (∃ e, (refuseSize size settings p : Outcome α) = .error (.input e)) ↔
      (integerText? settings.minSize).isSome = true ∧
        (integerText? settings.maxSize).isSome = true := by
  unfold refuseSize
  split
  · next h => exact ⟨fun _ => h, fun _ => ⟨_, rfl⟩⟩
  · next h => exact ⟨fun ⟨e, he⟩ => by simp at he, fun hnamed => absurd hnamed h⟩

/-- A text without carriage returns is loaded from its bytes, however its lines end there, so the
audit under a given name is that of the text. Whatever its bytes are, a file is loaded exactly if
their number is within the bounds, and then the text has no carriage return; otherwise it is refused
if both bounds can be named, and if not, the run ends. -/
theorem loadScript_file (t : FileTree) (settings : Settings) (name : String) :
    (∀ (p : Path) (e : LineEnd) (text : String), '\r' ∉ text.toList →
      t.node? p = .ok (some (.file (encodeUtf8 (e.write text.toList)))) →
      settings.Admits (encodeUtf8 (e.write text.toList)).length →
      t.loadScript p settings name =
        .ok { text, name := if name = "" then p.toString else name } ∧
      ∀ options, (t.loadScript p settings name >>= fun s => t.auditScript s settings options) =
        t.auditScript { text, name := if name = "" then p.toString else name } settings options) ∧
    ∀ (p : Path) (bytes : List UInt8), t.node? p = .ok (some (.file bytes)) →
      ((∃ script, t.loadScript p settings name = .ok script) ↔ settings.Admits bytes.length) ∧
      (∀ script, t.loadScript p settings name = .ok script → '\r' ∉ script.text.toList) ∧
      ((∃ e, t.loadScript p settings name = .error (.input e)) ↔
        ¬settings.Admits bytes.length ∧ (integerText? settings.minSize).isSome = true ∧
          (integerText? settings.maxSize).isSome = true) := by
  refine ⟨fun p e text htext hnode hsize => ?_, fun p bytes hnode => ?_⟩
  · have hload := loadScript_of_file hnode name hsize
    rw [scriptText_encodeUtf8_write e htext] at hload
    refine ⟨hload, fun options => ?_⟩
    rw [hload]
    rfl
  · by_cases hsize : settings.Admits bytes.length
    · rw [loadScript_of_file hnode name hsize]
      refine ⟨by simp [hsize], fun script hscript => ?_, by simp [hsize]⟩
      obtain rfl := Except.ok.inj hscript
      exact not_mem_scriptText bytes
    · rw [loadScript_of_size hnode name hsize]
      have hnot : ∀ script : Script, refuseSize bytes.length settings p ≠ .ok script := by
        intro script h
        unfold refuseSize at h
        split at h <;> simp [refuse] at h
      refine ⟨by simp [hsize, hnot], fun script h => absurd h (hnot script), ?_⟩
      rw [exists_refuseSize_eq_input_iff]
      simp [hsize]

/-- A directory with a script whose lines end in a carriage return and a newline, and an empty
script. -/
def returnedLines : FileTree where
  root := .directory
    [("a.sh", .file [0xC3, 0xA9, 0x0D, 0x0A, 0x6C, 0x73]), ("b.sh", .file [])]

theorem loadScript_of_returned_lines :
    returnedLines.loadScript { parts := ["a.sh"] } {} = .ok { text := "é\nls", name := "a.sh" } ∧
      ∃ e, returnedLines.loadScript { parts := ["b.sh"] } {} = .error (.input e) := by
  obtain ⟨htext, hfile⟩ := loadScript_file returnedLines {} ""
  have hsize : ¬({} : Settings).Admits 0 := fun h => absurd h.1 (by decide)
  have hbytes : encodeUtf8 (LineEnd.both.write "é\nls".toList) =
      [0xC3, 0xA9, 0x0D, 0x0A, 0x6C, 0x73] := by decide +kernel
  refine ⟨?_, (hfile { parts := ["b.sh"] } [] rfl).2.2.2 ⟨hsize, by decide +kernel⟩⟩
  exact (htext { parts := ["a.sh"] } .both "é\nls" (by decide +kernel) (by rw [hbytes]; rfl)
    ⟨by rw [hbytes]; decide, by rw [hbytes]; decide⟩).1

/-- A script that is too small and is not refused, since the greatest size has too many digits to be
named: the run ends. -/
theorem loadScript_of_long_bound :
    ¬({ maxSize := Nat.pow 10 digitLimit } : Settings).Admits 0 ∧
      returnedLines.loadScript { parts := ["b.sh"] } { maxSize := Nat.pow 10 digitLimit } =
        .error (.breakdown .numberTooLong) := by
  refine ⟨fun h => absurd h.1 (by decide), ?_⟩
  decide +kernel

end FileTree

end CommandAudit
