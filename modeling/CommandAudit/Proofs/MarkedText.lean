import CommandAudit.Console
import CommandAudit.Text.Word

/-!
# Marks in a text

The marks of a text are found from the front: `HasMarks` has one rule for each kind of text that may
come first. So the text that `escape` makes of any text has no marks (`hasMarks_escape`). What a
terminal makes of a text in which other marks stand than those of the program is left open; of one
that has only these, each closed before the next is opened, `Terminal.ShowsStyles` expects that it
is written. `Terminal.plain` does so (`Terminal.showsStyles_plain`), since there the marks alone
decide whether a text can be shown (`isOk_plain_of_marks`).
-/

namespace CommandAudit

namespace Markup

/-- The text of the mark that a part is. -/
def Part.mark? : Part → Option (List Char)
  | .plain _ => none
  | .mark cs => some cs

/-- The marks of a text, in their order. -/
def marks (s : String) : List (List Char) :=
  (parts s.toList).filterMap Part.mark?

/-! ## Marks decide -/

section

variable {hasValue : List Char → Bool}

/-- The styles of what is read depend on the marks alone. -/
theorem styles_readParts (ps : List Part) (opened : List Opened) {content content' : Content}
    (h : content.styles = content'.styles) :
    (readParts hasValue opened content ps).map Content.styles =
      (readParts hasValue opened content' ((ps.filterMap Part.mark?).map .mark)).map
        Content.styles := by
  induction ps generalizing opened content content' with
  | nil => exact congrArg Except.ok h
  | cons p ps ih =>
    cases p with
    | plain cs => exact ih opened h
    | mark cs =>
      have hmark : (Part.mark cs :: ps).filterMap Part.mark? = cs :: ps.filterMap Part.mark? := rfl
      rw [hmark, List.map_cons]
      simp only [readParts]
      split
      · next name _ =>
        cases close name opened with
        | error e => rfl
        | ok result =>
          simp only [bind, Except.bind]
          split
          · exact ih _ h
          · rfl
      · cases styleName _ with
        | error e => rfl
        | ok normal =>
          refine ih _ ?_
          dsimp only
          rw [h]

/-- Whether a text can be shown depends on its marks alone. -/
theorem isOk_plain_of_marks {s : String} {content : Content}
    (h : readParts hasValue [] {} ((marks s).map .mark) = .ok content)
    (hstyles : content.styles.any Style.isIncomplete = false) :
    (plain hasValue s).isOk = true := by
  have hmarks : (readParts hasValue [] {} (parts s.toList)).map Content.styles =
      (readParts hasValue [] {} ((marks s).map .mark)).map Content.styles :=
    styles_readParts (parts s.toList) [] rfl
  rw [h] at hmarks
  rw [plain, read]
  cases hread : readParts hasValue [] {} (parts s.toList) with
  | error e => exact absurd (hread ▸ hmarks) (by simp [Except.map])
  | ok content' =>
    rw [hread] at hmarks
    have heq : content'.styles = content.styles := Except.ok.inj hmarks
    simp only [bind, Except.bind, heq, hstyles]
    rfl

end

/-! ## The styles of the program -/

/-- The styles that the program asks for. -/
def ownStyles : List (List Char) :=
  ["bold", "dim", "red", "green", "yellow", "blue", "bold green", "bold yellow",
    "bold blue"].map String.toList

/-- The marks are styles of the program, each of them closed before the next is opened; the last may
stay open. -/
def areOwn : List (List Char) → Bool
  | [] => true
  | [m] => ownStyles.contains m
  | m :: closing :: rest => ownStyles.contains m && closing == '/' :: m && areOwn rest

/-- A style is named by the text of its mark as it stands. -/
structure NamesItself (m : List Char) : Prop where
  /-- There is a text. -/
  nonempty : m ≠ []
  /-- It does not close a style. -/
  opens : m.head? ≠ some '/'
  /-- It opens no event. -/
  noEvent : m.head? ≠ some '@'
  /-- It has no parameters. -/
  noParameters : m.takeWhile (· != '=') = m
  /-- There are no blanks at its ends. -/
  trimmed : trim m = m
  /-- It is in normal form. -/
  normal : styleName m = .ok (String.ofList m)
  /-- No colour is incomplete. -/
  complete : Style.isIncomplete m = false

theorem namesItself_of_mem_ownStyles {m : List Char} (h : m ∈ ownStyles) : NamesItself m := by
  have hall : ∀ m ∈ ownStyles, m ≠ [] ∧ m.head? ≠ some '/' ∧ m.head? ≠ some '@' ∧
      m.takeWhile (· != '=') = m ∧ trim m = m ∧
      (styleName m).toOption = some (String.ofList m) ∧ Style.isIncomplete m = false := by
    decide +kernel
  obtain ⟨hne, hopens, hevent, hparameters, htrimmed, hnormal, hcomplete⟩ := hall m h
  refine ⟨hne, hopens, hevent, hparameters, htrimmed, ?_, hcomplete⟩
  cases hname : styleName m with
  | error e => simp [hname, Except.toOption] at hnormal
  | ok normal =>
    rw [hname] at hnormal
    exact congrArg Except.ok (Option.some.inj hnormal)

section

variable {hasValue : List Char → Bool} {m : List Char}

/-- What the mark of a style opens that it names as it stands. -/
def openedBy (m : List Char) : Opened :=
  { name := String.ofList m }

theorem NamesItself.isEvent_openedBy (hm : NamesItself m) : (openedBy m).isEvent = false := by
  simpa [Opened.isEvent, openedBy] using hm.noEvent

theorem NamesItself.readParts_open (hm : NamesItself m) (opened : List Opened) (content : Content)
    (rest : List Part) :
    readParts hasValue opened content (.mark m :: rest) =
      readParts hasValue (openedBy m :: opened)
        { content with styles := m :: content.styles } rest := by
  have hopened : ({ name := String.ofList m, parameters := (m.drop m.length).tail? } : Opened) =
      openedBy m := by
    rw [List.drop_length]
    rfl
  have hstyle : (openedBy m).style = m := by simp [Opened.style, openedBy]
  simp only [readParts, hm.noParameters]
  split
  · exact absurd rfl hm.opens
  · simp only [hm.normal, bind, Except.bind, hopened, hm.isEvent_openedBy, hstyle,
      Bool.false_eq_true, if_false]

theorem NamesItself.readParts_close (hm : NamesItself m) (opened : List Opened) (content : Content)
    (rest : List Part) :
    readParts hasValue (openedBy m :: opened) content (.mark ('/' :: m) :: rest) =
      readParts hasValue opened content rest := by
  have hclose : close m (openedBy m :: opened) = .ok (openedBy m, opened) := by
    unfold close
    rw [hm.trimmed]
    split
    · exact absurd rfl hm.nonempty
    · simp [hm.normal, bind, Except.bind, openedBy]
  have hclosable : (openedBy m).isClosable hasValue = true := by
    rw [Opened.isClosable, hm.isEvent_openedBy]
    rfl
  have hmark : ('/' :: m).takeWhile (· != '=') = '/' :: m := by
    rw [List.takeWhile_cons_of_pos (by decide), hm.noParameters]
  simp only [readParts, hmark, hclose, bind, Except.bind, hclosable, if_true]

/-- The marks of the program are read, and all styles are complete. -/
theorem exists_readParts_of_areOwn {ms : List (List Char)} (h : areOwn ms = true)
    {content : Content} (hstyles : content.styles.any Style.isIncomplete = false) :
    ∃ content', readParts hasValue [] content (ms.map .mark) = .ok content' ∧
      content'.styles.any Style.isIncomplete = false := by
  have hcomplete : ∀ {m : List Char} {content : Content}, NamesItself m →
      content.styles.any Style.isIncomplete = false →
      (m :: content.styles).any Style.isIncomplete = false := by
    intro m content hm hstyles
    rw [List.any_cons, hm.complete, hstyles]
    rfl
  fun_induction areOwn ms generalizing content with
  | case1 => exact ⟨content, rfl, hstyles⟩
  | case2 m =>
    have hm := namesItself_of_mem_ownStyles (List.contains_iff_mem.1 h)
    refine ⟨{ content with styles := m :: content.styles }, ?_, hcomplete hm hstyles⟩
    rw [List.map_singleton, hm.readParts_open]
    rfl
  | case3 m closing rest ih =>
    simp only [Bool.and_eq_true, List.contains_iff_mem, beq_iff_eq] at h
    obtain ⟨⟨hmem, rfl⟩, hrest⟩ := h
    have hm := namesItself_of_mem_ownStyles hmem
    rw [List.map_cons, List.map_cons, hm.readParts_open, hm.readParts_close]
    exact ih hrest (hcomplete hm hstyles)

/-- A text that asks for nothing but styles of the program can be shown. -/
theorem isOk_plain_of_areOwn {s : String} (h : areOwn (marks s) = true) :
    (plain hasValue s).isOk = true := by
  have hempty : ({} : Content).styles.any Style.isIncomplete = false := rfl
  obtain ⟨content, hread, hstyles⟩ := exists_readParts_of_areOwn h hempty
  exact isOk_plain_of_marks hread hstyles

end

/-! ## Finding marks -/

/-- The marks of the text are the given ones, whatever was read before it. -/
def HasMarks (cs : List Char) (ms : List (List Char)) : Prop :=
  ∀ fuel before, cs.length ≤ fuel → (partsFrom fuel before cs).filterMap Part.mark? = ms

theorem HasMarks.marks_eq {s : String} {ms : List (List Char)} (h : HasMarks s.toList ms) :
    marks s = ms :=
  h _ [] (Nat.le_refl _)

theorem filterMap_plainPart (cs : List Char) : (plainPart cs).filterMap Part.mark? = [] := by
  unfold plainPart
  split <;> rfl

theorem hasMarks_nil : HasMarks [] [] := by
  intro fuel before _
  cases fuel with
  | zero =>
    rw [partsFrom, filterMap_plainPart]
  | succ fuel => rw [partsFrom, filterMap_plainPart]

/-- What may stand in a mark behind the bracket. -/
def inMark (c : Char) : Bool :=
  c != '[' && c != ']'

theorem inMark_of_startsMark {c : Char} (h : startsMark c = true) : inMark c = true := by
  simp only [inMark, Bool.and_eq_true, bne_iff_ne]
  constructor <;> rintro rfl <;> exact absurd h (by decide)

/-- The text of a mark. -/
structure IsMark (m : List Char) : Prop where
  /-- It begins as marks do. -/
  starts : m.head?.any startsMark = true
  /-- It has no brackets. -/
  inMark : ∀ c ∈ m, inMark c = true

instance (m : List Char) : Decidable (IsMark m) :=
  decidable_of_iff (m.head?.any startsMark = true ∧ m.all inMark = true)
    ⟨fun h => ⟨h.1, List.all_eq_true.1 h.2⟩, fun h => ⟨h.starts, List.all_eq_true.2 h.inMark⟩⟩

theorem takeMark?_eq_some_iff {cs m rest : List Char} :
    takeMark? cs = some (m, rest) ↔ IsMark m ∧ cs = '[' :: m ++ ']' :: rest := by
  constructor
  · intro h
    unfold takeMark? at h
    split at h
    · next c cs =>
      dsimp only at h
      split at h
      · next rest hrest =>
        split at h
        · next hstart =>
          obtain ⟨rfl, rfl⟩ := Prod.mk.inj (Option.some.inj h)
          have hbody := List.prefix_iff_eq_take.1 (List.takeWhile_prefix inMark (l := cs))
          have hsplit := List.take_append_drop (cs.takeWhile inMark).length cs
          rw [← hbody] at hsplit
          refine ⟨⟨hstart, List.forall_mem_cons.2 ⟨inMark_of_startsMark hstart, ?_⟩⟩, ?_⟩
          · exact List.all_eq_true.1 List.all_takeWhile
          · exact congrArg _ (congrArg _ (hsplit.symm.trans (congrArg _ hrest)))
        · simp at h
      · simp at h
    · simp at h
  · rintro ⟨hm, rfl⟩
    obtain ⟨c, body, rfl, hstart⟩ : ∃ c body, m = c :: body ∧ startsMark c = true := by
      cases m with
      | nil => exact absurd hm.starts (by simp)
      | cons c body => exact ⟨c, body, rfl, hm.starts⟩
    have hbody : (body ++ ']' :: rest).takeWhile inMark = body := by
      rw [List.takeWhile_append_of_pos (List.forall_mem_cons.1 hm.inMark).2,
        List.takeWhile_cons_of_neg (by decide), List.append_nil]
    unfold inMark at hbody
    simp only [takeMark?, List.cons_append, hbody, List.drop_left, hstart, if_true]

/-- A plain character. -/
theorem HasMarks.cons {c : Char} {cs : List Char} {ms : List (List Char)} (h : HasMarks cs ms)
    (hc : c ≠ '\\') (hnone : takeMark? (c :: cs) = none) : HasMarks (c :: cs) ms := by
  intro fuel before hfuel
  obtain ⟨fuel, rfl⟩ : ∃ k, fuel = k + 1 := ⟨fuel - 1, by simp at hfuel; omega⟩
  have hbackslashes : (c :: cs).takeWhile (· == '\\') = [] := by simp [hc]
  rw [partsFrom]
  simp only [hbackslashes, List.length_nil, List.drop_zero, hnone, List.isEmpty_nil, if_true]
  exact h fuel _ (Nat.le_of_succ_le_succ hfuel)

theorem takeWhile_backslashes {cs : List Char} (hhead : cs.head? ≠ some '\\') (k : Nat) :
    (List.replicate k '\\' ++ cs).takeWhile (· == '\\') = List.replicate k '\\' := by
  have hcs : cs.takeWhile (· == '\\') = [] := by
    cases cs with
    | nil => rfl
    | cons c cs => exact List.takeWhile_cons_of_neg (by simpa using hhead)
  rw [List.takeWhile_append_of_pos (by simp), hcs, List.append_nil]

/-- Some backslashes and a mark, which an odd number of backslashes makes plain. -/
theorem HasMarks.mark {m cs : List Char} {ms : List (List Char)} (h : HasMarks cs ms)
    (hm : IsMark m) (k : Nat) :
    HasMarks (List.replicate k '\\' ++ ('[' :: m ++ ']' :: cs))
      (if k % 2 = 0 then m :: ms else ms) := by
  intro fuel before hfuel
  obtain ⟨fuel, rfl⟩ : ∃ n, fuel = n + 1 := ⟨fuel - 1, by simp at hfuel; omega⟩
  have hpass : partsFrom (fuel + 1) before (List.replicate k '\\' ++ ('[' :: m ++ ']' :: cs)) =
      plainPart before.reverse ++ markedPart k m ++ partsFrom fuel [] cs := by
    obtain ⟨c, rest, htext⟩ := List.exists_cons_of_ne_nil
      (l := List.replicate k '\\' ++ ('[' :: m ++ ']' :: cs)) (by simp)
    rw [htext, partsFrom, ← htext]
    simp only [takeWhile_backslashes (by simp : ('[' :: m ++ ']' :: cs).head? ≠ some '\\'),
      List.length_replicate, List.drop_left' List.length_replicate,
      takeMark?_eq_some_iff.2 ⟨hm, rfl⟩]
  have hrest : (partsFrom fuel [] cs).filterMap Part.mark? = ms :=
    h fuel [] (by simp at hfuel; omega)
  rw [hpass, List.filterMap_append, List.filterMap_append, filterMap_plainPart, hrest, markedPart,
    List.filterMap_append, filterMap_plainPart]
  split <;> rfl

/-- A mark. -/
theorem HasMarks.mark_append {m cs : List Char} {ms : List (List Char)} (h : HasMarks cs ms)
    (hm : IsMark m) : HasMarks ('[' :: m ++ ']' :: cs) (m :: ms) :=
  h.mark hm 0

/-- Some backslashes and no mark after them. -/
theorem HasMarks.backslashes {cs : List Char} {ms : List (List Char)} (h : HasMarks cs ms)
    (hhead : cs.head? ≠ some '\\') (hnone : takeMark? cs = none) (k : Nat) :
    HasMarks (List.replicate k '\\' ++ cs) ms := by
  cases k with
  | zero => exact h
  | succ k =>
    intro fuel before hfuel
    obtain ⟨fuel, rfl⟩ : ∃ n, fuel = n + 1 := ⟨fuel - 1, by simp at hfuel; omega⟩
    rw [List.replicate_succ, List.cons_append, partsFrom, ← List.cons_append, ← List.replicate_succ]
    simp only [takeWhile_backslashes hhead, List.drop_left, hnone, List.isEmpty_replicate]
    exact h fuel _ (by simp at hfuel; omega)

/-- Characters that neither begin a mark nor make one plain. -/
theorem HasMarks.plain_append {p cs : List Char} {ms : List (List Char)} (h : HasMarks cs ms)
    (hp : ∀ c ∈ p, c ≠ '[' ∧ c ≠ '\\') : HasMarks (p ++ cs) ms := by
  induction p with
  | nil => exact h
  | cons c p ih =>
    obtain ⟨⟨hbracket, hbackslash⟩, hp⟩ := List.forall_mem_cons.1 hp
    refine (ih hp).cons hbackslash (Option.eq_none_iff_forall_not_mem.2 fun ⟨m, rest⟩ hmark => ?_)
    exact hbracket (List.cons.inj (takeMark?_eq_some_iff.1 hmark).2).1

/-! ## Escaping -/

/-- `escapeFrom` makes the second text of the first. -/
inductive Escapes : List Char → List Char → Prop
  | nil : Escapes [] []
  | mark {m cs out : List Char} (k : Nat) : IsMark m → Escapes cs out →
      Escapes (List.replicate k '\\' ++ ('[' :: m ++ ']' :: cs))
        (List.replicate (2 * k + 1) '\\' ++ ('[' :: m ++ ']' :: out))
  | cons {c : Char} {cs out : List Char} : c ≠ '\\' → takeMark? (c :: cs) = none → Escapes cs out →
      Escapes (c :: cs) (c :: out)
  | backslashes {cs out : List Char} (k : Nat) : cs.head? ≠ some '\\' → takeMark? cs = none →
      Escapes cs out →
      Escapes (List.replicate (k + 1) '\\' ++ cs) (List.replicate (k + 1) '\\' ++ out)

theorem exists_backslashes (cs : List Char) :
    ∃ k rest, rest.head? ≠ some '\\' ∧ cs = List.replicate k '\\' ++ rest := by
  induction cs with
  | nil => exact ⟨0, [], by simp, rfl⟩
  | cons c cs ih =>
    by_cases hc : c = '\\'
    · obtain ⟨k, rest, hhead, rfl⟩ := ih
      exact ⟨k + 1, rest, hhead, by rw [hc, List.replicate_succ, List.cons_append]⟩
    · exact ⟨0, c :: cs, by simpa using hc, rfl⟩

theorem escapeFrom_backslashes (fuel k : Nat) {rest : List Char} (hhead : rest.head? ≠ some '\\')
    {c : Char} {cs : List Char} (htext : List.replicate k '\\' ++ rest = c :: cs) :
    escapeFrom (fuel + 1) (c :: cs) =
      match takeMark? rest with
      | some (mark, after) => List.replicate k '\\' ++ List.replicate k '\\' ++
          '\\' :: '[' :: mark ++ ']' :: escapeFrom fuel after
      | none =>
        if k = 0 then c :: escapeFrom fuel cs
        else List.replicate k '\\' ++ escapeFrom fuel rest := by
  rw [escapeFrom, ← htext]
  cases hmark : takeMark? rest <;>
    simp only [takeWhile_backslashes hhead, List.length_replicate,
      List.drop_left' List.length_replicate, List.isEmpty_replicate, decide_eq_true_eq, hmark]

theorem escapes_escapeFrom (fuel : Nat) {cs : List Char} (hfuel : cs.length ≤ fuel) :
    Escapes cs (escapeFrom fuel cs) := by
  induction fuel generalizing cs with
  | zero =>
    rw [List.eq_nil_of_length_eq_zero (Nat.le_zero.1 hfuel), escapeFrom]
    exact .nil
  | succ fuel ih =>
    cases cs with
    | nil => exact .nil
    | cons c cs =>
      obtain ⟨k, rest, hhead, htext⟩ := exists_backslashes (c :: cs)
      rw [escapeFrom_backslashes fuel k hhead htext.symm]
      have hlen := congrArg List.length htext
      rw [List.length_append, List.length_replicate, List.length_cons] at hlen
      rw [List.length_cons] at hfuel
      cases hmark : takeMark? rest with
      | some found =>
        obtain ⟨m, after⟩ := found
        obtain ⟨hm, rfl⟩ := takeMark?_eq_some_iff.1 hmark
        have hout : ∀ out : List Char, List.replicate k '\\' ++ List.replicate k '\\' ++
            '\\' :: '[' :: m ++ ']' :: out =
              List.replicate (2 * k + 1) '\\' ++ ('[' :: m ++ ']' :: out) := by
          intro out
          rw [List.replicate_append_replicate, List.replicate_succ']
          simp [Nat.two_mul]
        rw [htext]
        dsimp only
        rw [hout]
        simp only [List.length_cons, List.length_append] at hlen
        exact .mark k hm (ih (by omega))
      | none =>
        dsimp only
        cases k with
        | zero =>
          obtain rfl : c :: cs = rest := htext
          exact .cons (by simpa using hhead) hmark (ih (by omega))
        | succ k =>
          rw [if_neg (Nat.succ_ne_zero k), htext]
          exact .backslashes k hhead hmark (ih (by omega))

/-- The text closes no bracket that was opened before it. -/
def ClosesNone (tail : List Char) : Prop :=
  ∀ m rest, (∀ c ∈ m, inMark c = true) → tail ≠ m ++ ']' :: rest

theorem closesNone_nil : ClosesNone [] := by
  intro m rest _ h
  simp at h

theorem ClosesNone.append {p tail : List Char} (h : ClosesNone tail) (hp : ']' ∉ p) :
    ClosesNone (p ++ tail) := by
  intro m rest hm htext
  rcases List.append_eq_append_iff.1 htext with ⟨inner, rfl, htail⟩ | ⟨inner, rfl, hinner⟩
  · exact h inner rest (fun c hc => hm c (List.mem_append_right _ hc)) htail
  · cases inner with
    | nil => exact h [] rest (by simp) hinner.symm
    | cons c inner =>
      obtain ⟨rfl, -⟩ := List.cons.inj hinner
      exact hp (by simp)

theorem closesNone_mark (m cs : List Char) : ClosesNone ('[' :: m ++ ']' :: cs) := by
  intro m' rest hm' h
  cases m' with
  | nil => exact absurd (List.cons.inj h).1 (by decide)
  | cons c m' =>
    obtain ⟨rfl, -⟩ := List.cons.inj h
    exact absurd (hm' _ List.mem_cons_self) (by decide)

/-- Escaping leaves everything up to a closing bracket as it is. -/
theorem Escapes.exists_close {cs out : List Char} (h : Escapes cs out) {tail m rest : List Char}
    (htail : ClosesNone tail) (hm : ∀ c ∈ m, inMark c = true)
    (hout : out ++ tail = m ++ ']' :: rest) : ∃ rest', cs = m ++ ']' :: rest' := by
  induction h generalizing m with
  | nil => exact absurd hout (htail m rest hm)
  | @mark m' cs out k hm' h ih =>
    -- The first bracket is an opening one.
    have hfirst := congrArg (List.dropWhile inMark) hout
    rw [List.append_assoc, List.dropWhile_append_of_pos (by simp; decide),
      List.dropWhile_append_of_pos hm, List.cons_append, List.cons_append,
      List.dropWhile_cons_of_neg (by decide), List.dropWhile_cons_of_neg (by decide)] at hfirst
    exact absurd (List.cons.inj hfirst).1 (by decide)
  | @cons c cs out hc hnone h ih =>
    cases m with
    | nil => exact ⟨cs, congrArg (· :: cs) (List.cons.inj hout).1⟩
    | cons d m =>
      obtain ⟨rfl, hrest⟩ := List.cons.inj hout
      obtain ⟨rest', rfl⟩ := ih (List.forall_mem_cons.1 hm).2 hrest
      exact ⟨rest', rfl⟩
  | @backslashes cs out k hhead hnone h ih =>
    generalize k + 1 = n at hout ⊢
    induction n generalizing m with
    | zero => exact ih hm hout
    | succ n ihn =>
      cases m with
      | nil => exact absurd (List.cons.inj hout).1 (by decide)
      | cons d m =>
        obtain ⟨rfl, hrest⟩ := List.cons.inj hout
        obtain ⟨rest', htext⟩ := ihn (List.forall_mem_cons.1 hm).2 hrest
        exact ⟨rest', congrArg _ htext⟩

/-- If a text begins with neither a backslash nor a mark, its first character is left as it is. -/
theorem Escapes.eq_nil_or_cons {cs out : List Char} (h : Escapes cs out)
    (hhead : cs.head? ≠ some '\\') (hnone : takeMark? cs = none) :
    cs = [] ∧ out = [] ∨ ∃ c cs' out', cs = c :: cs' ∧ out = c :: out' ∧ Escapes cs' out' := by
  cases h with
  | nil => exact .inl ⟨rfl, rfl⟩
  | @mark m cs out k hm h =>
    cases k with
    | zero =>
      have hmark : takeMark? ('[' :: m ++ ']' :: cs) = some (m, cs) :=
        takeMark?_eq_some_iff.2 ⟨hm, rfl⟩
      exact absurd (hmark.symm.trans hnone) (by simp)
    | succ k => exact absurd rfl hhead
  | cons _ _ h => exact .inr ⟨_, _, _, rfl, rfl, h⟩
  | backslashes k => exact absurd rfl hhead

/-- No mark comes up where there was none. -/
theorem Escapes.takeMark?_cons_eq_none {c : Char} {cs out : List Char} (h : Escapes cs out)
    {tail : List Char} (htail : ClosesNone tail) (hnone : takeMark? (c :: cs) = none) :
    takeMark? (c :: (out ++ tail)) = none := by
  refine Option.eq_none_iff_forall_not_mem.2 fun ⟨m, rest⟩ hmark => ?_
  obtain ⟨hm, htext⟩ := takeMark?_eq_some_iff.1 hmark
  obtain ⟨rfl, hout⟩ := List.cons.inj htext
  obtain ⟨rest', rfl⟩ := h.exists_close htail hm.inMark hout
  have hmark' : takeMark? ('[' :: (m ++ ']' :: rest')) = some (m, rest') :=
    takeMark?_eq_some_iff.2 ⟨hm, rfl⟩
  exact absurd (hmark'.symm.trans hnone) (by simp)

theorem hasMarks_backslashes (k : Nat) : HasMarks (List.replicate k '\\') [] := by
  have h := hasMarks_nil.backslashes (by simp) rfl k
  rwa [List.append_nil] at h

/-- What escaping makes has no marks of its own: those of a text with it in front are the marks of
the text behind some backslashes. -/
theorem Escapes.exists_hasMarks_append {cs out tail : List Char} {p : List (List Char) → Prop}
    (h : Escapes cs out) (hclose : ClosesNone tail)
    (htail : ∀ k, ∃ ms, p ms ∧ HasMarks (List.replicate k '\\' ++ tail) ms) :
    ∃ ms, p ms ∧ HasMarks (out ++ tail) ms := by
  induction h with
  | nil => exact htail 0
  | @mark m cs out k hm h ih =>
    obtain ⟨ms, hms, ih⟩ := ih
    have hmarks := ih.mark hm (2 * k + 1)
    rw [if_neg (by omega)] at hmarks
    exact ⟨ms, hms, by simpa using hmarks⟩
  | cons hc hnone h ih =>
    obtain ⟨ms, hms, ih⟩ := ih
    exact ⟨ms, hms, ih.cons hc (h.takeMark?_cons_eq_none hclose hnone)⟩
  | @backslashes cs out k hhead hnone h ih =>
    rcases h.eq_nil_or_cons hhead hnone with ⟨-, rfl⟩ | ⟨c, cs', out', rfl, rfl, h'⟩
    · rw [List.append_nil]
      exact htail (k + 1)
    · obtain ⟨ms, hms, ih⟩ := ih
      rw [List.append_assoc]
      exact ⟨ms, hms, ih.backslashes hhead (h'.takeMark?_cons_eq_none hclose hnone) (k + 1)⟩

theorem not_mem_backslashes (k : Nat) : ']' ∉ List.replicate k '\\' :=
  fun h => absurd (List.eq_of_mem_replicate h) (by decide)

theorem exists_escape_eq (s : String) :
    ∃ out j, Escapes s.toList out ∧ (escape s).toList = out ++ List.replicate j '\\' := by
  have hescapes := escapes_escapeFrom s.length (Nat.le_of_eq (String.length_toList (s := s)))
  rw [escape, String.toList_ofList]
  unfold guardEnd
  split
  · exact ⟨_, 0, hescapes, (List.append_nil _).symm⟩
  · exact ⟨_, 1, hescapes, rfl⟩
  · exact ⟨_, 0, hescapes, (List.append_nil _).symm⟩

/-- An escaped text has no marks. -/
theorem hasMarks_escape (s : String) : HasMarks (escape s).toList [] := by
  obtain ⟨out, j, hescapes, htext⟩ := exists_escape_eq s
  have hclose : ClosesNone (List.replicate j '\\') := by
    simpa using closesNone_nil.append (not_mem_backslashes j)
  obtain ⟨_, rfl, hmarks⟩ := hescapes.exists_hasMarks_append (p := (· = [])) hclose fun k =>
    ⟨[], rfl, by rw [List.replicate_append_replicate]; exact hasMarks_backslashes _⟩
  rwa [htext]

/-- A mark behind an escaped text is the only one, unless backslashes at the end of the text make it
plain. -/
theorem hasMarks_escape_append (s : String) {m : List Char} (hm : IsMark m) :
    HasMarks ((escape s).toList ++ ('[' :: m ++ [']'])) [m] ∨
      HasMarks ((escape s).toList ++ ('[' :: m ++ [']'])) [] := by
  obtain ⟨out, j, hescapes, htext⟩ := exists_escape_eq s
  have hclose := (closesNone_mark m []).append (not_mem_backslashes j)
  obtain ⟨ms, hms, hmarks⟩ := hescapes.exists_hasMarks_append (p := fun ms => ms = [m] ∨ ms = [])
    hclose fun k => by
      rw [← List.append_assoc, List.replicate_append_replicate]
      refine ⟨_, ?_, hasMarks_nil.mark hm (k + j)⟩
      split
      · exact .inl rfl
      · exact .inr rfl
  rw [htext, List.append_assoc]
  rcases hms with rfl | rfl
  · exact .inl hmarks
  · exact .inr hmarks

end Markup

/-! ## Blocks -/

/-- The texts of the block ask for nothing but styles of the program. -/
def Block.IsOwn (b : Block) : Prop :=
  ∀ t ∈ b.texts, ∃ s : String, t = .string s ∧ Markup.areOwn (Markup.marks s) = true

/-- The terminal writes the block. -/
def Terminal.Writes (terminal : Terminal) (b : Block) : Prop :=
  ∃ lines, terminal.write b = .ok lines

/-- The terminal writes all blocks that ask for nothing but styles of the program. -/
def Terminal.ShowsStyles (terminal : Terminal) : Prop :=
  ∀ b : Block, b.IsOwn → terminal.Writes b

theorem exists_mapM_eq_ok {ε α β : Type} {f : α → Except ε β} {xs : List α}
    (h : ∀ x ∈ xs, ∃ y, f x = .ok y) : ∃ ys, xs.mapM f = .ok ys := by
  induction xs with
  | nil => exact ⟨[], rfl⟩
  | cons x xs ih =>
    obtain ⟨⟨y, hy⟩, hxs⟩ := List.forall_mem_cons.1 h
    obtain ⟨ys, hys⟩ := ih hxs
    exact ⟨y :: ys, by rw [List.mapM_cons, hy, hys]; rfl⟩

/-- A block can be laid out if each of its texts can be shown. -/
theorem Block.exists_layout {hasValue : List Char → Bool} {b : Block}
    (h : ∀ t ∈ b.texts, ∃ s, unmarked hasValue t = .ok s) :
    ∃ lines, b.layout hasValue = .ok lines := by
  cases b with
  | lines t =>
    obtain ⟨s, hs⟩ := h t List.mem_cons_self
    exact ⟨[s], by rw [layout, hs]; rfl⟩
  | panel title body =>
    obtain ⟨s, hs⟩ := h title List.mem_cons_self
    obtain ⟨s', hs'⟩ := h body (List.mem_cons_of_mem _ List.mem_cons_self)
    exact ⟨framed s s', by rw [layout, hs, hs']; rfl⟩
  | table title header rows =>
    obtain ⟨⟨s, hs⟩, hcells⟩ := List.forall_mem_cons.1 h
    obtain ⟨cells, hrows⟩ := exists_mapM_eq_ok (f := fun row => row.mapM (unmarked hasValue))
      fun row hrow => exists_mapM_eq_ok fun t ht => hcells t (List.mem_flatten.2 ⟨row, hrow, ht⟩)
    exact ⟨_, by rw [layout, hs, hrows]; rfl⟩

theorem Terminal.showsStyles_plain (hasValue : List Char → Bool) :
    (Terminal.plain hasValue).ShowsStyles := by
  intro b hown
  have hunmarked : ∀ t ∈ b.texts, ∃ s, unmarked hasValue t = .ok s := by
    intro t ht
    obtain ⟨s, rfl, hs⟩ := hown t ht
    have hok : (Markup.plain hasValue s).isOk = true := Markup.isOk_plain_of_areOwn hs
    unfold unmarked Text.lossy
    cases hplain : Markup.plain hasValue s with
    | ok shown => exact ⟨shown, rfl⟩
    | error e => simp [hplain, Except.isOk, Except.toBool] at hok
  have hencodable : b.texts.all Text.isEncodable = true := by
    refine List.all_eq_true.2 fun t ht => ?_
    obtain ⟨s, rfl, -⟩ := hown t ht
    rfl
  obtain ⟨lines, hlines⟩ := Block.exists_layout hunmarked
  refine ⟨lines.flatMap CommandAudit.plainLines, ?_⟩
  change b.plainLines hasValue = _
  rw [Block.plainLines, hlines, hencodable]
  rfl

/-! ## Texts without marks -/

theorem mem_toList_intercalate {c : Char} {separator : String} {xs : List String}
    (h : c ∈ (separator.intercalate xs).toList) :
    c ∈ separator.toList ∨ ∃ x ∈ xs, c ∈ x.toList := by
  rw [String.toList_intercalate] at h
  induction xs with
  | nil => exact absurd h List.not_mem_nil
  | cons x xs ih =>
    cases xs with
    | nil => exact .inr ⟨x, List.mem_cons_self, by simpa using h⟩
    | cons y xs =>
      rw [List.map_cons, List.map_cons, List.intercalate_cons_cons, List.mem_append,
        List.mem_append] at h
      rcases h with (h | h) | h
      · exact .inr ⟨x, List.mem_cons_self, h⟩
      · exact .inl h
      · exact (ih h).imp_right fun ⟨z, hz, hc⟩ => ⟨z, List.mem_cons_of_mem _ hz, hc⟩

/-- No character of the text has a meaning in a marked-up text. -/
def IsUnmarked (s : String) : Prop :=
  ∀ c ∈ s.toList, c ≠ '[' ∧ c ≠ '\\'

instance (s : String) : Decidable (IsUnmarked s) :=
  List.decidableBAll (fun c => c ≠ '[' ∧ c ≠ '\\') s.toList

theorem isUnmarked_of_isWordChar {s : String} (h : ∀ c ∈ s.toList, isWordChar c = true) :
    IsUnmarked s := by
  intro c hc
  have hword := h c hc
  constructor <;> rintro rfl <;> exact absurd hword (by decide)

theorem isUnmarked_toString (n : Nat) : IsUnmarked (toString n) := by
  intro c hc
  have hdigit : c.isDigit = true :=
    Nat.isDigit_of_mem_toDigits (by decide) (by decide) (Nat.toList_repr ▸ hc)
  constructor <;> rintro rfl <;> exact absurd hdigit (by decide)

theorem isUnmarked_intercalate {xs : List String} (h : ∀ x ∈ xs, IsUnmarked x) :
    IsUnmarked (", ".intercalate xs) := by
  intro c hc
  have hseparator : IsUnmarked ", " := by decide
  rcases mem_toList_intercalate hc with hc | ⟨x, hx, hc⟩
  · exact hseparator c hc
  · exact h x hx c hc

theorem IsUnmarked.marks_eq {s : String} (h : IsUnmarked s) : Markup.marks s = [] := by
  have hmarks := Markup.hasMarks_nil.plain_append h
  rw [List.append_nil] at hmarks
  exact hmarks.marks_eq

theorem IsUnmarked.append {s t : String} (hs : IsUnmarked s) (ht : IsUnmarked t) :
    IsUnmarked (s ++ t) := by
  intro c hc
  rw [String.toList_append, List.mem_append] at hc
  exact hc.elim (hs c) (ht c)

end CommandAudit
