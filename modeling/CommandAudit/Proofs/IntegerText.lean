import CommandAudit.Text.Integer
import Mathlib.Data.List.Basic

/-!
# Integers in decimal

The decimal text of an integer is read as this integer, also with padding around it, provided that
it has no more digits than the rules admit (`integerBy?_of_decimal`). Conversely, a text that is
read as an integer holds blanks, signs, underscores and digits only (`mem_of_integerBy?`), and
blanks alone are none (`integerBy?_of_isBlank`).
-/

namespace CommandAudit

/-! ## Digits and blanks -/

theorem decimalDigit?_of_isDigit {c : Char} (h : c.isDigit = true) :
    decimalDigit? c = some (c.toNat - '0'.toNat) := by
  have hrange : 48 ≤ c.toNat ∧ c.toNat ≤ 57 := by
    simpa [Char.isDigit, UInt32.le_iff_toNat_le] using h
  unfold decimalDigit? decimalZeros
  rw [List.find?_cons_of_pos (by simp; omega)]
  rfl

/-- No blank is a digit of any script. -/
theorem decimalDigit?_of_isBlank {c : Char} (h : isBlank c = true) : decimalDigit? c = none := by
  have hdigits : ∀ base ∈ decimalZeros, ∀ d < 10, isBlank (Char.ofNat (base + d)) = false := by
    decide +kernel
  unfold decimalDigit?
  rw [Option.map_eq_none_iff, List.find?_eq_none]
  intro base hbase hrange
  simp only [Bool.and_eq_true, decide_eq_true_eq] at hrange
  have hblank := hdigits base hbase (c.toNat - base) (by omega)
  rw [Nat.add_sub_cancel' hrange.1, Char.ofNat_toNat, h] at hblank
  exact absurd hblank (by decide)

theorem digitCount_append (cs ds : List Char) :
    digitCount (cs ++ ds) = digitCount cs + digitCount ds := by
  unfold digitCount
  rw [List.filter_append, List.length_append]

theorem digitCount_of_isBlank {cs : List Char} (h : ∀ c ∈ cs, isBlank c = true) :
    digitCount cs = 0 := by
  unfold digitCount
  rw [List.length_eq_zero_iff, List.filter_eq_nil_iff]
  intro c hc
  rw [decimalDigit?_of_isBlank (h c hc)]
  decide

theorem digitCount_of_isDigit {cs : List Char} (h : ∀ c ∈ cs, c.isDigit = true) :
    digitCount cs = cs.length := by
  unfold digitCount
  rw [List.filter_eq_self.2]
  intro c hc
  rw [decimalDigit?_of_isDigit (h c hc)]
  rfl

/-! ## Trimming -/

/-- What is trimmed off stands at the two ends. -/
theorem exists_trimWhere (p : Char → Bool) (cs : List Char) :
    ∃ before after, cs = before ++ (trimWhere p cs ++ after) ∧
      ∀ c ∈ before ++ after, p c = true := by
  refine ⟨cs.takeWhile p, ((cs.dropWhile p).reverse.takeWhile p).reverse, ?_, ?_⟩
  · unfold trimWhere
    rw [← List.reverse_append, List.takeWhile_append_dropWhile, List.reverse_reverse,
      List.takeWhile_append_dropWhile]
  · intro c hc
    rw [List.mem_append, List.mem_reverse] at hc
    have hall : ∀ {ds : List Char}, c ∈ ds.takeWhile p → p c = true :=
      List.all_eq_true.1 List.all_takeWhile c
    exact hc.elim hall hall

theorem dropWhile_append_of_forall {p : Char → Bool} {before cs : List Char}
    (hbefore : ∀ c ∈ before, p c = true) (hcs : ∀ c ∈ cs.head?, p c = false) :
    (before ++ cs).dropWhile p = cs := by
  rw [List.dropWhile_append_of_pos hbefore]
  cases cs with
  | nil => rfl
  | cons c cs => rw [List.dropWhile_cons_of_neg (by rw [hcs c rfl]; decide)]

/-- Trimming gives back what stands between characters that are trimmed off. -/
theorem trimWhere_append {p : Char → Bool} {before cs after : List Char}
    (hbefore : ∀ c ∈ before, p c = true) (hafter : ∀ c ∈ after, p c = true) (hne : cs ≠ [])
    (hcs : ∀ c ∈ cs, p c = false) : trimWhere p (before ++ (cs ++ after)) = cs := by
  have hfirst : ∀ c ∈ (cs ++ after).head?, p c = false := by
    intro c hc
    rw [List.head?_append_of_ne_nil _ hne] at hc
    exact hcs c (List.mem_of_mem_head? hc)
  have hlast : ∀ c ∈ cs.reverse.head?, p c = false := fun c hc =>
    hcs c (List.mem_reverse.1 (List.mem_of_mem_head? hc))
  unfold trimWhere
  rw [dropWhile_append_of_forall hbefore hfirst, List.reverse_append,
    dropWhile_append_of_forall (fun c hc => hafter c (List.mem_reverse.1 hc)) hlast,
    List.reverse_reverse]

/-! ## Decimal texts -/

theorem digitsFrom?_of_isDigit {cs : List Char} (h : ∀ c ∈ cs, c.isDigit = true) (acc : Nat) :
    digitsFrom? decimalDigit? acc true cs = some (Nat.ofDigitChars 10 cs acc) := by
  induction cs generalizing acc with
  | nil => rfl
  | cons c cs ih =>
    rw [List.forall_mem_cons] at h
    rw [digitsFrom?, decimalDigit?_of_isDigit h.1, Nat.ofDigitChars_cons, Nat.mul_comm 10]
    exact ih h.2 _

theorem isDigit_of_mem_toDigits {n : Nat} {c : Char} (h : c ∈ Nat.toDigits 10 n) :
    c.isDigit = true :=
  Nat.isDigit_of_mem_toDigits (by decide) (by decide) h

theorem exists_toDigits_eq_cons (n : Nat) :
    ∃ c cs, Nat.toDigits 10 n = c :: cs ∧ c.isDigit = true := by
  obtain ⟨c, cs, hcs⟩ := List.exists_cons_of_ne_nil (Nat.toDigits_ne_nil (b := 10) (n := n))
  exact ⟨c, cs, hcs, isDigit_of_mem_toDigits (hcs ▸ List.mem_cons_self)⟩

theorem digitsFrom?_toDigits (n : Nat) :
    digitsFrom? decimalDigit? 0 false (Nat.toDigits 10 n) = some n := by
  obtain ⟨c, cs, hcs, hc⟩ := exists_toDigits_eq_cons n
  have hdigits : ∀ d ∈ cs, d.isDigit = true := fun d hd =>
    isDigit_of_mem_toDigits (hcs ▸ List.mem_cons_of_mem c hd)
  have hvalue : Nat.ofDigitChars 10 (c :: cs) 0 = n := by
    rw [← hcs]
    exact Nat.ofDigitChars_ten_toDigits
  rw [Nat.ofDigitChars_cons] at hvalue
  rw [hcs, digitsFrom?, decimalDigit?_of_isDigit hc]
  dsimp only
  rw [digitsFrom?_of_isDigit hdigits, Nat.mul_comm 0, hvalue]

/-- The text of an integer is that of its magnitude, with a minus sign if it is negative. -/
theorem toList_toString_int (n : Int) : (toString n).toList =
    (if n < 0 then ['-'] else []) ++ Nat.toDigits 10 n.natAbs := by
  rw [Int.toString_eq_repr]
  cases n with
  | ofNat m =>
    rw [if_neg (by simp)]
    exact Nat.toList_repr
  | negSucc m =>
    rw [if_pos (Int.negSucc_lt_zero m)]
    exact (String.toList_append ..).trans (congrArg _ Nat.toList_repr)

theorem signed?_toString {magnitude? : List Char → Option Nat} {n : Int}
    (h : magnitude? (Nat.toDigits 10 n.natAbs) = some n.natAbs) :
    signed? magnitude? (toString n).toList = some n := by
  rw [toList_toString_int]
  split_ifs with hn
  · rw [List.singleton_append, signed?, h]
    change some (-(n.natAbs : Int)) = some n
    rw [Int.ofNat_natAbs_of_nonpos (Int.le_of_lt hn), Int.neg_neg]
  · obtain ⟨c, cs, hcs, hc⟩ := exists_toDigits_eq_cons n.natAbs
    rw [List.nil_append]
    unfold signed?
    split
    · next rest heq =>
      obtain rfl : c = '-' := (List.cons.inj (hcs.symm.trans heq)).1
      exact absurd hc (by decide)
    · next rest heq =>
      obtain rfl : c = '+' := (List.cons.inj (hcs.symm.trans heq)).1
      exact absurd hc (by decide)
    · rw [h]
      exact congrArg some (Int.natAbs_of_nonneg (Int.not_lt.1 hn))

theorem eq_dash_or_isDigit_of_mem_toString {n : Int} {c : Char} (h : c ∈ (toString n).toList) :
    c = '-' ∨ c.isDigit = true := by
  rw [toList_toString_int, List.mem_append] at h
  rcases h with h | h
  · split_ifs at h
    · exact .inl (List.mem_singleton.1 h)
    · exact absurd h List.not_mem_nil
  · exact .inr (isDigit_of_mem_toDigits h)

theorem isBlank_of_mem_toString {n : Int} {c : Char} (h : c ∈ (toString n).toList) :
    isBlank c = false := by
  rcases eq_dash_or_isDigit_of_mem_toString h with rfl | hdigit
  · decide
  · by_contra hblank
    have hnone := decimalDigit?_of_isBlank (Bool.not_eq_false _ ▸ hblank)
    rw [decimalDigit?_of_isDigit hdigit] at hnone
    exact absurd hnone (by simp)

theorem digitCount_toString (n : Int) :
    digitCount (toString n).toList = (Nat.toDigits 10 n.natAbs).length := by
  have hsign : digitCount (if n < 0 then ['-'] else []) = 0 := by
    split_ifs <;> decide
  rw [toList_toString_int, digitCount_append, hsign, Nat.zero_add,
    digitCount_of_isDigit fun c hc => isDigit_of_mem_toDigits hc]

/-- Whether an integer in decimal has no more digits than are read. -/
def IntegerRules.admitsInt (r : IntegerRules) (n : Int) : Bool :=
  r.admits (Nat.toDigits 10 n.natAbs).length

/-- An integer in decimal is read with padding around it. -/
theorem integerBy?_of_decimal (r : IntegerRules) (n : Int) {before after : List Char}
    (hbefore : ∀ c ∈ before, r.isPadding c = true) (hafter : ∀ c ∈ after, r.isPadding c = true) :
    integerBy? r (before ++ ((toString n).toList ++ after)) =
      if r.admitsInt n then some n else none := by
  have hcount : digitCount (before ++ ((toString n).toList ++ after)) =
      (Nat.toDigits 10 n.natAbs).length := by
    rw [digitCount_append, digitCount_append,
      digitCount_of_isBlank fun c hc => r.isBlank_of_isPadding c (hbefore c hc),
      digitCount_of_isBlank fun c hc => r.isBlank_of_isPadding c (hafter c hc),
      digitCount_toString, Nat.zero_add, Nat.add_zero]
  have hne : (toString n).toList ≠ [] := by
    rw [toList_toString_int]
    exact List.append_ne_nil_of_right_ne_nil _ Nat.toDigits_ne_nil
  have hplain : ∀ c ∈ (toString n).toList, r.isPadding c = false := by
    intro c hc
    by_contra hpadding
    have hblank := r.isBlank_of_isPadding c (Bool.not_eq_false _ ▸ hpadding)
    exact absurd (hblank.symm.trans (isBlank_of_mem_toString hc)) (by decide)
  unfold integerBy? IntegerRules.admitsInt
  rw [hcount, trimWhere_append hbefore hafter hne hplain,
    signed?_toString (digitsFrom?_toDigits n.natAbs)]

/-! ## What an integer is written with -/

theorem mem_of_digitsFrom? {digit? : Char → Option Nat} {acc n : Nat} {afterDigit : Bool}
    {cs : List Char} (h : digitsFrom? digit? acc afterDigit cs = some n) :
    ∀ c ∈ cs, (digit? c).isSome ∨ c = '_' := by
  induction cs generalizing acc afterDigit with
  | nil => exact fun c hc => absurd hc List.not_mem_nil
  | cons c cs ih =>
    rw [List.forall_mem_cons]
    rw [digitsFrom?] at h
    split at h
    · next d hd => exact ⟨.inl (by rw [hd]; rfl), ih h⟩
    · split_ifs at h with hunderscore
      rw [Bool.and_eq_true, beq_iff_eq] at hunderscore
      exact ⟨.inr hunderscore.1, ih h⟩

theorem exists_digit_of_digitsFrom? {digit? : Char → Option Nat} {acc n : Nat} {cs : List Char}
    (h : digitsFrom? digit? acc false cs = some n) : ∃ c ∈ cs, (digit? c).isSome := by
  cases cs with
  | nil => simp [digitsFrom?] at h
  | cons c cs =>
    rw [digitsFrom?] at h
    split at h
    · next d hd => exact ⟨c, List.mem_cons_self, by rw [hd]; rfl⟩
    · simp at h

theorem exists_sign_of_signed? {magnitude? : List Char → Option Nat} {cs : List Char} {n : Int}
    (h : signed? magnitude? cs = some n) :
    ∃ sign rest k, cs = sign ++ rest ∧ (∀ c ∈ sign, c = '-' ∨ c = '+') ∧
      magnitude? rest = some k := by
  have hsome : ∀ {rest : List Char} {f : Int → Int},
      (do let k ← magnitude? rest; pure (k : Int)).map f = some n →
        ∃ k, magnitude? rest = some k := by
    intro rest f hf
    cases hrest : magnitude? rest with
    | none => simp [hrest] at hf
    | some k => exact ⟨k, rfl⟩
  unfold signed? at h
  split at h
  · obtain ⟨k, hk⟩ := hsome h
    exact ⟨['-'], _, k, rfl, by simp, hk⟩
  · obtain ⟨k, hk⟩ := hsome h
    exact ⟨['+'], _, k, rfl, by simp, hk⟩
  · obtain ⟨k, hk⟩ := hsome h
    exact ⟨[], _, k, rfl, by simp, hk⟩

/-- A text that is read as an integer has digits, and blanks, signs and underscores besides. -/
theorem mem_of_integerBy? {r : IntegerRules} {cs : List Char} {n : Int}
    (h : integerBy? r cs = some n) :
    (∃ c ∈ cs, (decimalDigit? c).isSome) ∧ ∀ c ∈ cs,
      (decimalDigit? c).isSome ∨ isBlank c = true ∨ c = '-' ∨ c = '+' ∨ c = '_' := by
  unfold integerBy? at h
  split_ifs at h
  obtain ⟨before, after, hcs, hpadding⟩ := exists_trimWhere r.isPadding cs
  obtain ⟨sign, digits, k, htrim, hsign, hdigits⟩ := exists_sign_of_signed? h
  rw [htrim] at hcs
  subst hcs
  constructor
  · obtain ⟨c, hc, hdigit⟩ := exists_digit_of_digitsFrom? hdigits
    exact ⟨c, by simp [hc], hdigit⟩
  · intro c hc
    have hparts : c ∈ before ++ after ∨ c ∈ sign ∨ c ∈ digits := by
      simp only [List.mem_append] at hc ⊢
      tauto
    rcases hparts with hc | hc | hc
    · exact .inr (.inl (r.isBlank_of_isPadding c (hpadding c hc)))
    · exact .inr (.inr ((hsign c hc).imp_right .inl))
    · exact (mem_of_digitsFrom? hdigits c hc).imp_right fun h => .inr (.inr (.inr h))

/-- Blanks alone are no integer. -/
theorem integerBy?_of_isBlank (r : IntegerRules) {cs : List Char}
    (h : ∀ c ∈ cs, isBlank c = true) : integerBy? r cs = none := by
  rw [Option.eq_none_iff_forall_ne_some]
  intro n hn
  obtain ⟨c, hc, hdigit⟩ := (mem_of_integerBy? hn).1
  rw [decimalDigit?_of_isBlank (h c hc)] at hdigit
  exact absurd hdigit (by decide)

end CommandAudit
