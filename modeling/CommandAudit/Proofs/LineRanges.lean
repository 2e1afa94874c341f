import CommandAudit.LineRange
import CommandAudit.Proofs.IntegerText
import Mathlib.Data.List.TakeWhile

/-!
# Reading line ranges

A text is read as a range of lines or refused, and a range has its first line not below one and its
last line not before the first. Two integers in decimal with a colon between them, or one alone, are
read back unless they have too many digits (`LineRange.ofTextBy_exact`). No integer has a colon in
it, so that the first colon of a text is its only one.
-/

namespace CommandAudit

/-- Under the usual rules, integers from a certain size on are not read. -/
theorem IntegerRules.admitsInt_usual_iff (n : Int) :
    usual.admitsInt n = true ↔ n.natAbs < Nat.pow 10 digitLimit := by
  rw [Nat.pow_eq, ← Nat.length_toDigits_le_iff (by decide) (by decide)]
  exact decide_eq_true_iff

/-- A text of characters that may stand around an integer. -/
def IntegerRules.Pads (r : IntegerRules) (s : String) : Prop :=
  ∀ c ∈ s.toList, r.isPadding c = true

instance (r : IntegerRules) (s : String) : Decidable (r.Pads s) :=
  decidable_of_iff (s.toList.all r.isPadding = true) List.all_eq_true

namespace LineRange

variable {r : IntegerRules} {cs first last : List Char}

/-! ## Texts without a colon -/

theorem not_mem_colon_of_isBlank (h : ∀ c ∈ cs, isBlank c = true) : ':' ∉ cs :=
  fun hmem => absurd (h ':' hmem) (by decide)

theorem not_mem_colon_toString (n : Int) : ':' ∉ (toString n).toList :=
  fun hmem => absurd (eq_dash_or_isDigit_of_mem_toString hmem) (by decide)

theorem integerBy?_of_colon (h : ':' ∈ cs) : integerBy? r cs = none := by
  rw [Option.eq_none_iff_forall_ne_some]
  intro n hn
  exact absurd ((mem_of_integerBy? hn).2 ':' h) (by decide)

/-- Integers with padding around them have no colon. -/
theorem not_mem_colon_padded (n : Int) {p q : String} (hp : r.Pads p) (hq : r.Pads q) :
    ':' ∉ p.toList ++ ((toString n).toList ++ q.toList) := by
  have hpads : ∀ {s : String}, r.Pads s → ':' ∉ s.toList := fun hs =>
    not_mem_colon_of_isBlank fun c hc => r.isBlank_of_isPadding c (hs c hc)
  simp only [List.mem_append, not_or]
  exact ⟨hpads hp, not_mem_colon_toString n, hpads hq⟩

/-! ## The first colon -/

theorem bounds?_of_not_mem (h : ':' ∉ cs) :
    bounds? r cs = (integerBy? r cs).map fun n => (n, n) := by
  have hne : ∀ c ∈ cs, (c != ':') = true := fun c hc => bne_iff_ne.2 fun heq => h (heq ▸ hc)
  unfold bounds?
  rw [List.dropWhile_eq_nil_iff.2 hne, List.takeWhile_eq_self_iff.2 hne]

theorem bounds?_append (h : ':' ∉ first) : bounds? r (first ++ ':' :: last) =
    (integerBy? r first).bind fun a => (integerBy? r last).map fun b => (a, b) := by
  have hne : ∀ c ∈ first, (c != ':') = true := fun c hc => bne_iff_ne.2 fun heq => h (heq ▸ hc)
  unfold bounds?
  rw [List.dropWhile_append_of_pos hne, List.takeWhile_append_of_pos hne,
    List.dropWhile_cons_of_neg (by decide), List.takeWhile_cons_of_neg (by decide),
    List.append_nil]
  dsimp only
  cases integerBy? r first <;> cases integerBy? r last <;> rfl

/-- A text with two colons has no bounds, since what stands behind the first is no integer. -/
theorem bounds?_of_two_colons (h : 2 ≤ cs.count ':') : bounds? r cs = none := by
  have hcolon : ':' ∈ cs := List.count_pos_iff.1 (by omega)
  obtain ⟨first, last, rfl, hfirst⟩ := List.eq_append_cons_of_mem hcolon
  rw [List.count_append, List.count_cons_self, List.count_eq_zero.2 hfirst] at h
  have hlast : ':' ∈ last := List.count_pos_iff.1 (by omega)
  rw [bounds?_append hfirst, integerBy?_of_colon hlast]
  cases integerBy? r first <;> rfl

theorem bounds?_of_blank_first (h : ∀ c ∈ first, isBlank c = true) :
    bounds? r (first ++ ':' :: last) = none := by
  rw [bounds?_append (not_mem_colon_of_isBlank h), integerBy?_of_isBlank r h]
  rfl

theorem bounds?_of_blank_last (h : ∀ c ∈ last, isBlank c = true) :
    bounds? r (first ++ ':' :: last) = none := by
  by_cases hfirst : ':' ∈ first
  · refine bounds?_of_two_colons ?_
    rw [List.count_append, List.count_cons_self]
    have := List.count_pos_iff.2 hfirst
    omega
  · rw [bounds?_append hfirst, integerBy?_of_isBlank r h]
    cases integerBy? r first <;> rfl

/-! ## Ranges -/

theorem ofTextBy_of_none {s : String} (h : bounds? r s.toList = none) :
    ofTextBy r s = .error (.malformed s) := by
  rw [ofTextBy, h]

theorem ofTextBy_of_some {s : String} {a b : Int} (h : bounds? r s.toList = some (a, b)) :
    ofTextBy r s = if a < 1 ∨ b < a then .error (.outOfOrder s) else .ok ⟨a, b⟩ := by
  rw [ofTextBy, h]

/-- Two integers with a colon between them are a range if they are in order. -/
theorem ofTextBy_pair (a b : Int) {p q u v : String} (hp : r.Pads p) (hq : r.Pads q)
    (hu : r.Pads u) (hv : r.Pads v) :
    let s := p ++ toString a ++ q ++ ":" ++ u ++ toString b ++ v
    ofTextBy r s =
      if r.admitsInt a ∧ r.admitsInt b then
        if a < 1 ∨ b < a then .error (.outOfOrder s) else .ok ⟨a, b⟩
      else .error (.malformed s) := by
  intro s
  have hs : s.toList = (p.toList ++ ((toString a).toList ++ q.toList)) ++
      ':' :: (u.toList ++ ((toString b).toList ++ v.toList)) := by
    simp [s]
  have hbounds : bounds? r s.toList =
      if r.admitsInt a ∧ r.admitsInt b then some (a, b) else none := by
    rw [hs, bounds?_append (not_mem_colon_padded a hp hq), integerBy?_of_decimal r a hp hq,
      integerBy?_of_decimal r b hu hv]
    cases r.admitsInt a <;> cases r.admitsInt b <;> rfl
  split_ifs at hbounds ⊢ with hadmits horder
  · rw [ofTextBy_of_some hbounds, if_pos horder]
  · rw [ofTextBy_of_some hbounds, if_neg horder]
  · exact ofTextBy_of_none hbounds

/-- A single integer is a range if it is a line number. -/
theorem ofTextBy_single (a : Int) {p q : String} (hp : r.Pads p) (hq : r.Pads q) :
    let s := p ++ toString a ++ q
    ofTextBy r s =
      if r.admitsInt a then if a < 1 then .error (.outOfOrder s) else .ok ⟨a, a⟩
      else .error (.malformed s) := by
  intro s
  have hs : s.toList = p.toList ++ ((toString a).toList ++ q.toList) := by
    simp [s]
  have hbounds : bounds? r s.toList = if r.admitsInt a then some (a, a) else none := by
    rw [hs, bounds?_of_not_mem (not_mem_colon_padded a hp hq), integerBy?_of_decimal r a hp hq]
    cases r.admitsInt a <;> rfl
  split_ifs at hbounds ⊢ with hadmits hfirst
  · rw [ofTextBy_of_some hbounds, if_pos (.inl hfirst)]
  · rw [ofTextBy_of_some hbounds, if_neg (by omega)]
  · exact ofTextBy_of_none hbounds

/-- A text is refused as a whole or gives a range of line numbers in order. -/
theorem ofTextBy_cases (r : IntegerRules) (s : String) :
    (∃ range, ofTextBy r s = .ok range ∧ 1 ≤ range.first ∧ range.first ≤ range.last) ∨
      ofTextBy r s = .error (.malformed s) ∨ ofTextBy r s = .error (.outOfOrder s) := by
  cases hbounds : bounds? r s.toList with
  | none => exact .inr (.inl (ofTextBy_of_none hbounds))
  | some bounds =>
    obtain ⟨a, b⟩ := bounds
    have hs := ofTextBy_of_some hbounds
    split_ifs at hs with horder
    · exact .inr (.inr hs)
    · exact .inl ⟨⟨a, b⟩, hs, by dsimp only; omega, by dsimp only; omega⟩

/-- A text gives a range of line numbers in order, or is refused. Two integers in decimal, with
padding around each and a colon between them, give this range if they are line numbers in order, and
one integer alone gives a single line, provided that the rules admit so many digits. A text with two
colons and a text with nothing but blanks on one side of a colon are refused. The liberal rules take
all blanks for padding and admit every integer; the usual rules admit those below a limit. -/
theorem ofTextBy_exact (r : IntegerRules) :
    (∀ s, (∃ range, ofTextBy r s = .ok range ∧ 1 ≤ range.first ∧ range.first ≤ range.last) ∨
        ofTextBy r s = .error (.malformed s) ∨ ofTextBy r s = .error (.outOfOrder s)) ∧
      (∀ (a b : Int) (p q u v : String), r.Pads p → r.Pads q → r.Pads u → r.Pads v →
        let s := p ++ toString a ++ q ++ ":" ++ u ++ toString b ++ v
        ofTextBy r s =
          if r.admitsInt a ∧ r.admitsInt b then
            if a < 1 ∨ b < a then .error (.outOfOrder s) else .ok ⟨a, b⟩
          else .error (.malformed s)) ∧
      (∀ (a : Int) (p q : String), r.Pads p → r.Pads q →
        let s := p ++ toString a ++ q
        ofTextBy r s =
          if r.admitsInt a then if a < 1 then .error (.outOfOrder s) else .ok ⟨a, a⟩
          else .error (.malformed s)) ∧
      (∀ s : String, 2 ≤ s.toList.count ':' → ofTextBy r s = .error (.malformed s)) ∧
      (∀ blanks s : String, (∀ c ∈ blanks.toList, isBlank c = true) →
        ofTextBy r (blanks ++ ":" ++ s) = .error (.malformed (blanks ++ ":" ++ s)) ∧
          ofTextBy r (s ++ ":" ++ blanks) = .error (.malformed (s ++ ":" ++ blanks))) ∧
      (∀ n, IntegerRules.liberal.admitsInt n = true) ∧
      (∀ s, IntegerRules.liberal.Pads s ↔ ∀ c ∈ s.toList, isBlank c = true) ∧
      ∀ n, IntegerRules.usual.admitsInt n = true ↔ n.natAbs < Nat.pow 10 digitLimit := by
  refine ⟨ofTextBy_cases r, fun a b p q u v => ofTextBy_pair a b, fun a p q => ofTextBy_single a,
    fun s hs => ofTextBy_of_none (bounds?_of_two_colons hs), fun blanks s hblanks => ⟨?_, ?_⟩,
    fun n => rfl, fun s => Iff.rfl, IntegerRules.admitsInt_usual_iff⟩
  · refine ofTextBy_of_none ?_
    rw [String.toList_append, String.toList_append, List.append_assoc]
    exact bounds?_of_blank_first hblanks
  · refine ofTextBy_of_none ?_
    rw [String.toList_append, String.toList_append, List.append_assoc]
    exact bounds?_of_blank_last hblanks

/-- The least number with too many digits for the usual rules, between an information separator and
a newline. -/
theorem ofTextBy_of_long_number : ∃ n : Int, n = Nat.pow 10 digitLimit ∧
    ofTextBy .liberal
        ("\x1c" ++ toString (7 : Int) ++ "\u2003" ++ ":" ++ "" ++ toString n ++ "\n") =
      .ok ⟨7, n⟩ ∧
    ofText ("" ++ toString n ++ "\n") = .error (.malformed ("" ++ toString n ++ "\n")) := by
  have hpow : ∀ {k : Nat}, 1 ≤ k → 10 ≤ Nat.pow 10 k := fun hk =>
    Nat.le_self_pow (Nat.ne_of_gt hk) 10
  have hlarge := hpow (by decide : 1 ≤ digitLimit)
  obtain ⟨n, hn⟩ : ∃ n : Nat, n = Nat.pow 10 digitLimit := ⟨_, rfl⟩
  have hlong := IntegerRules.admitsInt_usual_iff n
  rw [← hn] at hlong hlarge ⊢
  refine ⟨n, rfl, ?_, ?_⟩
  · have h := (ofTextBy_exact .liberal).2.1 7 n "\x1c" "\u2003" "" "\n" (by decide) (by decide)
      (by decide) (by decide)
    dsimp only at h
    rwa [if_pos ⟨rfl, rfl⟩, if_neg (by omega)] at h
  · have h := (ofTextBy_exact .usual).2.2.1 n "" "\n" (by decide) (by decide)
    dsimp only at h
    rwa [if_neg fun hadmits => absurd (hlong.1 hadmits) (Nat.lt_irrefl n)] at h

end LineRange

end CommandAudit
