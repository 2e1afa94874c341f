import CommandAudit.Proofs.JsonGrammar
import CommandAudit.Proofs.KeyOrder
import CommandAudit.Report
import Mathlib.Tactic.IntervalCases

/-!
# Canonical texts

What `JsonValue.render` writes is a text of the value (`reads_render`), whatever comes after it. So
the canonical text of a value is a text of its normal form and of nothing else
(`document_canonical_iff`), and equal canonical texts mean the same data (`canonical_eq_iff`). The
data of a report determines the report (`Report.eq_of_sameData`).
-/

namespace CommandAudit

namespace JsonValue

/-! ## Writing is reading backwards -/

/-- A control character is written as its code unit. -/
theorem codeUnit?_hexDigits {n : Nat} (h : n < 0x20) :
    ∃ a b c d, hexDigits 4 n = [a, b, c, d] ∧ codeUnit? a b c d = some n := by
  interval_cases n <;> exact ⟨_, _, _, _, rfl, rfl⟩

theorem chars_renderChar {c : Char} {s cs t : List Char} (h : Chars s cs t) :
    Chars (renderChar c ++ s) (c :: cs) t := by
  unfold renderChar
  split_ifs with hquote hback hn hr ht hb hf hcontrol
  · obtain rfl := eq_of_beq hquote
    exact .escape rfl h
  · obtain rfl := eq_of_beq hback
    exact .escape rfl h
  · obtain rfl := eq_of_beq hn
    exact .escape rfl h
  · obtain rfl := eq_of_beq hr
    exact .escape rfl h
  · obtain rfl := eq_of_beq ht
    exact .escape rfl h
  · obtain rfl := eq_of_beq hb
    exact .escape rfl h
  · obtain rfl := eq_of_beq hf
    exact .escape rfl h
  · obtain ⟨a, b, d, e, hdigits, hunit⟩ := codeUnit?_hexDigits hcontrol
    have hread := Chars.unit hunit (.inl (by omega)) h
    rw [hdigits]
    rwa [Char.ofNat_toNat] at hread
  · rw [beq_iff_eq] at hquote hback
    exact .plain hquote hback (by omega) h

theorem chars_flatMap_renderChar (cs t : List Char) :
    Chars (cs.flatMap renderChar ++ '"' :: t) cs t := by
  induction cs with
  | nil => exact .close t
  | cons c cs ih =>
    rw [List.flatMap_cons, List.append_assoc]
    exact chars_renderChar ih

theorem renderText_append (s : String) (t : List Char) :
    renderText s ++ t = '"' :: (s.toList.flatMap renderChar ++ '"' :: t) := by
  simp [renderText]

/-- The digits of a number other than zero do not start with a zero. -/
theorem head?_toDigits {n : Nat} (hn : 0 < n) : (Nat.toDigits 10 n).head? ≠ some '0' := by
  induction n using Nat.strongRecOn with
  | ind n ih =>
    by_cases h : n < 10
    · rw [Nat.toDigits_of_lt_base h]
      interval_cases n <;> simp [Nat.digitChar]
    · -- The first digit is the first digit of the tens.
      have htens : 0 < n / 10 := by omega
      have hsplit :=
        Nat.toDigits_append_toDigits (by decide : 1 < 10) htens (Nat.mod_lt n (by decide))
      rw [Nat.div_add_mod] at hsplit
      rw [← hsplit, List.head?_append_of_ne_nil _ Nat.toDigits_ne_nil]
      exact ih (n / 10) (by omega) htens

theorem numeral_toDigits (n : Nat) (t : List Char) : Numeral (Nat.toDigits 10 n ++ t) n t := by
  refine ⟨Nat.toDigits 10 n, rfl, ?_, Nat.toDigits_ne_nil, ?_, ?_⟩
  · exact (Nat.ofDigitChars_toDigits (by decide) (by decide)).symm
  · exact fun c hc => Nat.isDigit_of_mem_toDigits (by decide) (by decide) hc
  · intro hzero
    by_cases hn : n = 0
    · subst hn
      rfl
    · exact absurd hzero (head?_toDigits (Nat.pos_of_ne_zero hn))

theorem reads_renderInt (n : Int) (t : List Char) : Reads (renderInt n ++ t) (.int n) t := by
  unfold renderInt
  split_ifs with hn
  · have h := Reads.neg (numeral_toDigits n.natAbs t)
    rwa [Int.ofNat_natAbs_of_nonpos hn.le, Int.neg_neg] at h
  · have h := Reads.nat (numeral_toDigits n.natAbs t)
    rwa [Int.natAbs_of_nonneg (by omega)] at h

theorem spaces_newLine (depth : Nat) (t : List Char) : Spaces (newLine depth ++ t) t := by
  have hblanks : ∀ k : Nat, Spaces (List.replicate k ' ' ++ t) t := by
    intro k
    induction k with
    | zero => exact .done t
    | succ k ih => exact .skip rfl ih
  exact .skip rfl (hblanks (2 * depth))

theorem readsField_renderText (k : String) {v : JsonValue} {s t : List Char} (h : Reads s v t) :
    ReadsField (renderText k ++ ':' :: ' ' :: s) k v t := by
  have hspace : Spaces (' ' :: s) s := .skip rfl (.done s)
  have hfield := ReadsField.mk (chars_flatMap_renderChar k.toList _) (.done _) hspace h
  rwa [← renderText_append, String.ofList_toList] at hfield

mutual

/-- A text of the value is written, at any depth. -/
theorem reads_render (depth : Nat) (v : JsonValue) (t : List Char) :
    Reads (render depth v ++ t) v t := by
  match v with
  | .null => exact .null t
  | .bool true => exact .yes t
  | .bool false => exact .no t
  | .int n => exact reads_renderInt n t
  | .text s =>
    have h := Reads.text (chars_flatMap_renderChar s.toList t)
    rwa [← renderText_append, String.ofList_toList] at h
  | .array [] => exact .emptyArray (.done _)
  | .array (v :: rest) =>
    have hrest := moreItems_renderItems (depth + 1) rest (spaces_newLine depth (']' :: t))
    have h := Reads.array (spaces_newLine (depth + 1) _) (reads_render (depth + 1) v _) hrest
    simpa [render] using h
  | .object [] => exact .emptyObject (.done _)
  | .object ((k, v) :: rest) =>
    have hrest := moreFields_renderFields (depth + 1) rest (spaces_newLine depth ('\x7d' :: t))
    have h := Reads.object (spaces_newLine (depth + 1) _)
      (readsField_renderText k (reads_render (depth + 1) v _)) hrest
    simpa [render] using h
termination_by sizeOf v

theorem moreItems_renderItems (depth : Nat) (items : List JsonValue) {s t : List Char}
    (hclose : Spaces s (']' :: t)) : MoreItems (renderItems depth items ++ s) items t := by
  match items with
  | [] => exact .close hclose
  | v :: rest =>
    have hrest := moreItems_renderItems depth rest hclose
    have h := MoreItems.next (.done _) (spaces_newLine depth _) (reads_render depth v _) hrest
    simpa [renderItems] using h
termination_by sizeOf items

theorem moreFields_renderFields (depth : Nat) (fields : List (String × JsonValue))
    {s t : List Char} (hclose : Spaces s ('\x7d' :: t)) :
    MoreFields (renderFields depth fields ++ s) fields t := by
  match fields with
  | [] => exact .close hclose
  | (k, v) :: rest =>
    have hrest := moreFields_renderFields depth rest hclose
    have h := MoreFields.next (.done _) (spaces_newLine depth _)
      (readsField_renderText k (reads_render depth v _)) hrest
    simpa [renderFields] using h
termination_by sizeOf fields

end

/-! ## Canonical texts -/

/-- The canonical text is a text of the normal form, and of no other value. -/
theorem document_canonical_iff {v w : JsonValue} :
    Document v.canonical.toList w ↔ w = v.sortKeys := by
  have hcanonical : Document v.canonical.toList v.sortKeys := by
    refine ⟨_, ['\n'], ?_, reads_render 0 v.sortKeys ['\n'], .skip rfl (.done [])⟩
    rw [canonical, String.toList_ofList]
    exact .done _
  refine ⟨fun h => h.unique hcanonical, ?_⟩
  rintro rfl
  exact hcanonical

theorem sameData_of_canonical_eq {v w : JsonValue} (h : v.canonical = w.canonical) :
    SameData v w :=
  sameData_of_sortKeys_eq (document_canonical_iff.1 (h ▸ document_canonical_iff.2 rfl))

theorem canonical_eq_iff {v w : JsonValue} (hv : v.DistinctKeys) :
    v.canonical = w.canonical ↔ SameData v w := by
  refine ⟨sameData_of_canonical_eq, fun h => ?_⟩
  rw [canonical, canonical, (sortKeys_eq_iff hv).2 h]

end JsonValue

/-! ## Reports -/

open JsonValue

theorem eq_of_sameData_textArray {xs ys : List String}
    (h : SameData (textArray xs) (textArray ys)) : xs = ys :=
  h.eq_of_map fun _ _ _ _ hxy => hxy.eq_of_text

/-- Texts that can be written are told apart. -/
theorem Text.eq_of_lossy_eq {a b : Text} (ha : a.isEncodable = true) (hb : b.isEncodable = true)
    (h : a.lossy = b.lossy) : a = b := by
  cases a with
  | string s =>
    cases b with
    | string t => exact congrArg Text.string h
    | broken => exact absurd hb Bool.false_ne_true
  | broken => exact absurd ha Bool.false_ne_true

/-- Whether the texts of a stage can be written. -/
def Stage.IsEncodable (s : Stage) : Prop :=
  s.name.isEncodable = true ∧ s.label.isEncodable = true

theorem Stage.eq_of_sameData {a b : Stage} (ha : a.IsEncodable) (hb : b.IsEncodable)
    (h : SameData a.toJson b.toJson) : a = b := by
  have hfields := h.forall₂ rfl (by simp)
  simp only [List.forall₂_cons] at hfields
  obtain ⟨hname, hlabel, hbefore, hremoved, hremaining, -⟩ := hfields
  rw [Stage.mk.injEq]
  exact ⟨Text.eq_of_lossy_eq ha.1 hb.1 hname.eq_of_text,
    Text.eq_of_lossy_eq ha.2 hb.2 hlabel.eq_of_text, eq_of_sameData_textArray hbefore,
    eq_of_sameData_textArray hremoved, eq_of_sameData_textArray hremaining⟩

theorem ScanStatus.label_injective : Function.Injective ScanStatus.label := by
  intro a b h
  cases a <;> cases b <;> first | rfl | exact absurd h (by decide)

theorem EscapeMode.label_injective : Function.Injective EscapeMode.label :=
  fun a b h => Option.some.inj ((ofLabel?_label a).symm.trans (h ▸ ofLabel?_label b))

theorem Classification.eq_of_sameData {a b : Classification}
    (ha : ∀ stage ∈ a.stages, stage.IsEncodable) (hb : ∀ stage ∈ b.stages, stage.IsEncodable)
    (h : SameData a.toJson b.toJson) : a = b := by
  have hfields := h.forall₂ rfl (by simp)
  simp only [List.forall₂_cons] at hfields
  obtain ⟨hstatus, hterms, hstages, hremainder, -⟩ := hfields
  rw [Classification.mk.injEq]
  exact ⟨ScanStatus.label_injective hstatus.eq_of_text, eq_of_sameData_textArray hterms,
    hstages.eq_of_map fun x hx y hy => Stage.eq_of_sameData (ha x hx) (hb y hy),
    eq_of_sameData_textArray hremainder⟩

theorem ScriptReport.eq_of_sameData {a b : ScriptReport}
    (ha : ∀ stage ∈ a.classification.stages, stage.IsEncodable)
    (hb : ∀ stage ∈ b.classification.stages, stage.IsEncodable)
    (h : SameData a.toJson b.toJson) : a = b := by
  have hfields := h.forall₂ rfl (by simp)
  simp only [List.forall₂_cons] at hfields
  obtain ⟨hscript, hlines, hdeclarations, htokens, hclassification, -⟩ := hfields
  rw [ScriptReport.mk.injEq]
  exact ⟨hscript.eq_of_text, Int.ofNat.inj hlines.eq_of_int,
    eq_of_sameData_textArray hdeclarations, Int.ofNat.inj htokens.eq_of_int,
    Classification.eq_of_sameData ha hb hclassification⟩

theorem Report.isEncodable_iff {r : Report} :
    r.isEncodable = true ↔ r.platform.isEncodable = true ∧
      ∀ script ∈ r.scripts, ∀ stage ∈ script.classification.stages, stage.IsEncodable := by
  simp only [Report.isEncodable, Stage.IsEncodable, Bool.and_eq_true, List.all_eq_true]

/-- The data of a report that can be written determines the report. -/
theorem Report.eq_of_sameData {a b : Report} (ha : a.isEncodable = true)
    (hb : b.isEncodable = true) (h : SameData a.toJson b.toJson) : a = b := by
  rw [Report.isEncodable_iff] at ha hb
  have hfields := h.forall₂ rfl (by simp)
  simp only [List.forall₂_cons] at hfields
  obtain ⟨-, htarget, htimestamp, hplatform, hmode, hscripts, -⟩ := hfields
  rw [Report.mk.injEq]
  exact ⟨htarget.eq_of_text, htimestamp.eq_of_text,
    Text.eq_of_lossy_eq ha.1 hb.1 hplatform.eq_of_text,
    EscapeMode.label_injective hmode.eq_of_text,
    hscripts.eq_of_map fun x hx y hy => ScriptReport.eq_of_sameData (ha.2 x hx) (hb.2 y hy)⟩

/-- The objects of a report have distinct keys. -/
theorem Report.distinctKeys_toJson (r : Report) : r.toJson.DistinctKeys := by
  have htexts : ∀ xs, (textArray xs).DistinctKeys := by
    intro xs
    induction xs with
    | nil => trivial
    | cons x xs ih => exact ⟨trivial, ih⟩
  have hstages : ∀ stages : List Stage, DistinctKeysItems (stages.map Stage.toJson) := by
    intro stages
    induction stages with
    | nil => trivial
    | cons stage rest ih =>
      refine ⟨⟨by simp, ?_⟩, ih⟩
      exact ⟨trivial, trivial, htexts _, htexts _, htexts _, trivial⟩
  have hscripts : ∀ scripts : List ScriptReport,
      DistinctKeysItems (scripts.map ScriptReport.toJson) := by
    intro scripts
    induction scripts with
    | nil => trivial
    | cons script rest ih =>
      refine ⟨⟨by simp, ?_⟩, ih⟩
      refine ⟨trivial, trivial, htexts _, trivial, ⟨by simp, ?_⟩, trivial⟩
      exact ⟨trivial, htexts _, hstages _, htexts _, trivial⟩
  refine ⟨by simp, ?_⟩
  exact ⟨trivial, trivial, trivial, trivial, trivial, hscripts _, trivial⟩

/-- The canonical text of data with distinct keys is a text of this data and of no other, and texts
are equal exactly for equal data, where the order of keys does not count at any depth. Reports are
such data, and those that can be written have equal texts only if they are equal. -/
theorem JsonValue.canonical_faithful (v w : JsonValue) (hv : v.DistinctKeys) :
    (∃ u, u.DistinctKeys ∧ SameData v u ∧ ∀ u', Document v.canonical.toList u' ↔ u' = u) ∧
    (v.canonical = w.canonical ↔ SameData v w) ∧
    (∀ r : Report, r.toJson.DistinctKeys) ∧
    ∀ r r' : Report, r.isEncodable = true → r'.isEncodable = true →
      (r.toJson.canonical = r'.toJson.canonical ↔ r = r') := by
  refine ⟨⟨v.sortKeys, hv.sortKeys, sameData_sortKeys v, fun _ => document_canonical_iff⟩,
    canonical_eq_iff hv, Report.distinctKeys_toJson, fun r r' hr hr' => ?_⟩
  refine ⟨fun h => ?_, fun h => by rw [h]⟩
  exact Report.eq_of_sameData hr hr' (sameData_of_canonical_eq h)

theorem JsonValue.canonical_faithful_reordered :
    (JsonValue.object
        [("b", .int (-12)), ("a", .object [("y", .null), ("x", .text "é\"\n")])]).canonical =
      (JsonValue.object
        [("a", .object [("x", .text "é\"\n"), ("y", .null)]), ("b", .int (-12))]).canonical ∧
    ({ target := "a.sh", timestamp := "1" } : Report).toJson.canonical ≠
      ({ target := "a.sh", timestamp := "2" } : Report).toJson.canonical := by
  have hkeys : (JsonValue.object
      [("b", .int (-12)), ("a", .object [("y", .null), ("x", .text "é\"\n")])]).DistinctKeys :=
    ⟨by simp, trivial, ⟨by simp, trivial, trivial, trivial⟩, trivial⟩
  obtain ⟨-, htexts, -, hreports⟩ := canonical_faithful _
    (.object [("a", .object [("x", .text "é\"\n"), ("y", .null)]), ("b", .int (-12))]) hkeys
  refine ⟨htexts.2 (.object ?_), fun h => ?_⟩
  · refine @SameFields.cons _ _ _ _ [("a", _)] [] (.int (-12)) ?_
    refine @SameFields.cons _ _ _ _ [] [] (.object ?_) .nil
    refine @SameFields.cons _ _ _ _ [("x", _)] [] .null ?_
    exact @SameFields.cons _ _ _ _ [] [] (.text "é\"\n") .nil
  · exact absurd ((hreports _ _ rfl rfl).1 h) (by decide)

end CommandAudit
