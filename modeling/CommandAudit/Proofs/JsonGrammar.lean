import CommandAudit.Json
import CommandAudit.Text.Integer
import Mathlib.Data.List.TakeWhile

/-!
# The grammar of JSON texts

`JsonValue.Reads s v t` says that the text `s` starts with a text of the value `v` and that `t`
comes after it; an object is read with its fields in the order of the text. The data has integers
for numbers, so a number with a fraction or an exponent is not read.

The grammar is not deterministic character by character: white space and digits may go on. A value
is followed by white space or by a punctuation mark, and this is enough to make it unambiguous
(`Reads.unique`): a whole text is a text of at most one value (`Document.unique`).
-/

namespace CommandAudit

namespace JsonValue

/-! ## White space -/

/-- White space between the parts of a JSON text. -/
def isSpace (c : Char) : Bool :=
  c == ' ' || c == '\t' || c == '\n' || c == '\r'

/-- The text `s` is `t` after some white space. -/
inductive Spaces : List Char → List Char → Prop
  | done (t : List Char) : Spaces t t
  | skip {c : Char} {s t : List Char} : isSpace c = true → Spaces s t → Spaces (c :: s) t

theorem Spaces.dropWhile_eq {s t : List Char} (h : Spaces s t) :
    s.dropWhile isSpace = t.dropWhile isSpace := by
  induction h with
  | done => rfl
  | skip hc _ ih => rw [List.dropWhile_cons_of_pos hc, ih]

theorem Spaces.unique {s t u : List Char} (ht : Spaces s t) (hu : Spaces s u)
    (htop : t.head?.any isSpace = false) (hutop : u.head?.any isSpace = false) : t = u := by
  have hstop : ∀ r : List Char, r.head?.any isSpace = false → r.dropWhile isSpace = r := by
    intro r hr
    cases r <;> simp_all
  rw [← hstop t htop, ← ht.dropWhile_eq, hu.dropWhile_eq, hstop u hutop]

theorem isSpace_eq_false_of_isDigit {c : Char} (h : c.isDigit = true) : isSpace c = false := by
  by_contra hc
  rw [Bool.not_eq_false] at hc
  simp only [isSpace, Bool.or_eq_true, beq_iff_eq] at hc
  obtain ((rfl | rfl) | rfl) | rfl := hc <;> exact absurd h (by decide)

/-- White space and a mark are not the continuation of a number. -/
theorem Spaces.head?_any_isDigit {s t : List Char} (h : Spaces s t)
    (ht : t.head?.any Char.isDigit = false) : s.head?.any Char.isDigit = false := by
  cases h with
  | done => exact ht
  | skip hc _ =>
    by_contra hd
    rw [Bool.not_eq_false, List.head?_cons, Option.any_some] at hd
    rw [isSpace_eq_false_of_isDigit hd] at hc
    exact absurd hc (by simp)

/-! ## Numbers -/

/-- The text `s` starts with the decimal digits of `n`, without superfluous zeros in front, and `t`
comes after them. -/
def Numeral (s : List Char) (n : Nat) (t : List Char) : Prop :=
  ∃ digits : List Char, s = digits ++ t ∧ n = Nat.ofDigitChars 10 digits 0 ∧ digits ≠ [] ∧
    (∀ c ∈ digits, c.isDigit = true) ∧ (digits.head? = some '0' → digits = ['0'])

theorem Numeral.exists_head {s t : List Char} {n : Nat} (h : Numeral s n t) :
    ∃ c r, s = c :: r ∧ c.isDigit = true := by
  obtain ⟨digits, rfl, -, hne, hdigit, -⟩ := h
  cases digits with
  | nil => exact absurd rfl hne
  | cons c r => exact ⟨c, r ++ t, rfl, hdigit c List.mem_cons_self⟩

theorem Numeral.isDigit {c : Char} {s t : List Char} {n : Nat} (h : Numeral (c :: s) n t) :
    c.isDigit = true := by
  obtain ⟨d, r, heq, hd⟩ := h.exists_head
  rwa [(List.cons.inj heq).1]

theorem Numeral.unique {s t u : List Char} {m n : Nat} (hm : Numeral s m t) (hn : Numeral s n u)
    (ht : t.head?.any Char.isDigit = false) (hu : u.head?.any Char.isDigit = false) :
    m = n ∧ t = u := by
  obtain ⟨ds, rfl, rfl, -, hds, -⟩ := hm
  obtain ⟨es, heq, rfl, -, hes, -⟩ := hn
  have hstop : ∀ r : List Char,
      r.head?.any Char.isDigit = false → r.takeWhile Char.isDigit = [] := by
    intro r hr
    cases r <;> simp_all
  -- Both lists of digits are the longest one.
  have hdigits : ds = es := by
    have h := congrArg (List.takeWhile Char.isDigit) heq
    rw [List.takeWhile_append_of_pos hds, List.takeWhile_append_of_pos hes, hstop t ht, hstop u hu]
      at h
    simpa using h
  subst hdigits
  exact ⟨rfl, List.append_cancel_left heq⟩

/-! ## Strings -/

/-- The character that a backslash and a letter or a mark stand for. -/
def escaped? : Char → Option Char
  | '"' => some '"'
  | '\\' => some '\\'
  | '/' => some '/'
  | 'b' => some '\x08'
  | 'f' => some '\x0c'
  | 'n' => some '\n'
  | 'r' => some '\r'
  | 't' => some '\t'
  | _ => none

/-- The code unit that four digits in base sixteen stand for. -/
def codeUnit? (a b c d : Char) : Option Nat := do
  let a ← hexDigit? a
  let b ← hexDigit? b
  let c ← hexDigit? c
  let d ← hexDigit? d
  return ((a * 16 + b) * 16 + c) * 16 + d

/-- The text `s`, inside a string, starts with the characters `cs` and the closing quote, and `t`
comes after it. A character outside the first plane may be escaped as two code units. -/
inductive Chars : List Char → List Char → List Char → Prop
  | close (t : List Char) : Chars ('"' :: t) [] t
  | plain {c : Char} {s cs t : List Char} : c ≠ '"' → c ≠ '\\' → 0x20 ≤ c.toNat → Chars s cs t →
      Chars (c :: s) (c :: cs) t
  | escape {e c : Char} {s cs t : List Char} : escaped? e = some c → Chars s cs t →
      Chars ('\\' :: e :: s) (c :: cs) t
  | unit {a b c d : Char} {n : Nat} {s cs t : List Char} : codeUnit? a b c d = some n →
      n.isValidChar → Chars s cs t → Chars ('\\' :: 'u' :: a :: b :: c :: d :: s) (.ofNat n :: cs) t
  | units {a b c d a' b' c' d' : Char} {high low : Nat} {s cs t : List Char} :
      codeUnit? a b c d = some (0xD800 + high) → high < 0x400 →
      codeUnit? a' b' c' d' = some (0xDC00 + low) → low < 0x400 → Chars s cs t →
      Chars ('\\' :: 'u' :: a :: b :: c :: d :: '\\' :: 'u' :: a' :: b' :: c' :: d' :: s)
        (.ofNat (0x10000 + high * 0x400 + low) :: cs) t

/-- The first of two code units is not a character. -/
theorem not_isValidChar_of_high {high : Nat} (h : high < 0x400) :
    ¬ (0xD800 + high).isValidChar := by
  simp only [Nat.isValidChar]
  omega

theorem Chars.unique {s cs ds t u : List Char} (hc : Chars s cs t) (hd : Chars s ds u) :
    cs = ds ∧ t = u := by
  induction hc generalizing ds u with
  | close t =>
    cases hd with
    | close => exact ⟨rfl, rfl⟩
    | plain hq _ _ _ => exact absurd rfl hq
  | plain hq hb _ _ ih =>
    cases hd with
    | close => exact absurd rfl hq
    | plain _ _ _ hd => exact ⟨congrArg _ (ih hd).1, (ih hd).2⟩
    | escape | unit | units => exact absurd rfl hb
  | escape he _ ih =>
    cases hd with
    | plain _ hb _ _ => exact absurd rfl hb
    | escape he' hd =>
      obtain rfl : _ = _ := Option.some.inj (he.symm.trans he')
      exact ⟨congrArg _ (ih hd).1, (ih hd).2⟩
    | unit | units => exact absurd he (by simp [escaped?])
  | unit hn hvalid _ ih =>
    cases hd with
    | plain _ hb _ _ => exact absurd rfl hb
    | escape he _ => exact absurd he (by simp [escaped?])
    | unit hn' _ hd =>
      obtain rfl : _ = _ := Option.some.inj (hn.symm.trans hn')
      exact ⟨congrArg _ (ih hd).1, (ih hd).2⟩
    | units hhigh hlt _ _ _ =>
      obtain rfl : _ = _ := Option.some.inj (hn.symm.trans hhigh)
      exact absurd hvalid (not_isValidChar_of_high hlt)
  | units hhigh hlt hlow _ _ ih =>
    cases hd with
    | plain _ hb _ _ => exact absurd rfl hb
    | escape he _ => exact absurd he (by simp [escaped?])
    | unit hn hvalid _ =>
      obtain rfl : _ = _ := Option.some.inj (hn.symm.trans hhigh)
      exact absurd hvalid (not_isValidChar_of_high hlt)
    | units hhigh' _ hlow' _ hd =>
      have hhigh := Nat.add_left_cancel (Option.some.inj (hhigh.symm.trans hhigh'))
      have hlow := Nat.add_left_cancel (Option.some.inj (hlow.symm.trans hlow'))
      rw [hhigh, hlow]
      exact ⟨congrArg _ (ih hd).1, (ih hd).2⟩

/-! ## Values -/

mutual

/-- The text `s` starts with a text of the value, and `t` comes after it. -/
inductive Reads : List Char → JsonValue → List Char → Prop
  | null (t : List Char) : Reads ('n' :: 'u' :: 'l' :: 'l' :: t) .null t
  | yes (t : List Char) : Reads ('t' :: 'r' :: 'u' :: 'e' :: t) (.bool true) t
  | no (t : List Char) : Reads ('f' :: 'a' :: 'l' :: 's' :: 'e' :: t) (.bool false) t
  | nat {n : Nat} {s t : List Char} : Numeral s n t → Reads s (.int n) t
  | neg {n : Nat} {s t : List Char} : Numeral s n t → Reads ('-' :: s) (.int (-n)) t
  | text {s cs t : List Char} : Chars s cs t → Reads ('"' :: s) (.text (String.ofList cs)) t
  | emptyArray {s t : List Char} : Spaces s (']' :: t) → Reads ('[' :: s) (.array []) t
  | array {s s' r t : List Char} {v : JsonValue} {items : List JsonValue} :
      Spaces s s' → Reads s' v r → MoreItems r items t → Reads ('[' :: s) (.array (v :: items)) t
  | emptyObject {s t : List Char} : Spaces s ('\x7d' :: t) → Reads ('\x7b' :: s) (.object []) t
  | object {s s' r t : List Char} {k : String} {v : JsonValue}
      {fields : List (String × JsonValue)} :
      Spaces s s' → ReadsField s' k v r → MoreFields r fields t →
      Reads ('\x7b' :: s) (.object ((k, v) :: fields)) t

/-- The text `s`, after an item, goes on with the given items and the closing bracket, and `t`
comes after it. -/
inductive MoreItems : List Char → List JsonValue → List Char → Prop
  | close {s t : List Char} : Spaces s (']' :: t) → MoreItems s [] t
  | next {s r r' s' t : List Char} {v : JsonValue} {items : List JsonValue} :
      Spaces s (',' :: r) → Spaces r r' → Reads r' v s' → MoreItems s' items t →
      MoreItems s (v :: items) t

/-- The text `s` starts with a key, a colon and a value, and `t` comes after them. -/
inductive ReadsField : List Char → String → JsonValue → List Char → Prop
  | mk {s s' r r' cs t : List Char} {v : JsonValue} :
      Chars s cs s' → Spaces s' (':' :: r) → Spaces r r' → Reads r' v t →
      ReadsField ('"' :: s) (String.ofList cs) v t

/-- The text `s`, after a field, goes on with the given fields and the closing brace, and `t` comes
after it. -/
inductive MoreFields : List Char → List (String × JsonValue) → List Char → Prop
  | close {s t : List Char} : Spaces s ('\x7d' :: t) → MoreFields s [] t
  | next {s r r' s' t : List Char} {k : String} {v : JsonValue}
      {fields : List (String × JsonValue)} :
      Spaces s (',' :: r) → Spaces r r' → ReadsField r' k v s' → MoreFields s' fields t →
      MoreFields s ((k, v) :: fields) t

end

/-- The whole text is a text of the value, with white space around it. -/
def Document (s : List Char) (v : JsonValue) : Prop :=
  ∃ r t, Spaces s r ∧ Reads r v t ∧ Spaces t []

/-! ## One value -/

/-- A value starts with a digit or with one of a few letters and marks. -/
theorem Reads.exists_head {s t : List Char} {v : JsonValue} (h : Reads s v t) :
    ∃ c r, s = c :: r ∧
      (c.isDigit || ['n', 't', 'f', '-', '"', '[', '\x7b'].contains c) = true := by
  cases h with
  | nat hn =>
    obtain ⟨c, r, rfl, hc⟩ := hn.exists_head
    exact ⟨c, r, rfl, by rw [hc, Bool.true_or]⟩
  | null | yes | no | neg | text | emptyArray | array | emptyObject | object =>
    exact ⟨_, _, rfl, by decide⟩

theorem Reads.head?_any_isSpace {s t : List Char} {v : JsonValue} (h : Reads s v t) :
    s.head?.any isSpace = false := by
  obtain ⟨c, r, rfl, hc⟩ := h.exists_head
  rw [List.head?_cons, Option.any_some]
  rcases Bool.or_eq_true_iff.1 hc with hc | hc
  · exact isSpace_eq_false_of_isDigit hc
  · simp only [List.contains_iff_mem, List.mem_cons, List.not_mem_nil, or_false] at hc
    obtain rfl | rfl | rfl | rfl | rfl | rfl | rfl := hc <;> decide

theorem ReadsField.exists_head {s t : List Char} {k : String} {v : JsonValue}
    (h : ReadsField s k v t) : ∃ r, s = '"' :: r := by
  cases h
  exact ⟨_, rfl⟩

theorem ReadsField.head?_any_isSpace {s t : List Char} {k : String} {v : JsonValue}
    (h : ReadsField s k v t) : s.head?.any isSpace = false := by
  obtain ⟨r, rfl⟩ := h.exists_head
  rfl

/-- An array with an item is not closed at once. -/
theorem Reads.not_spaces {s s' t u : List Char} {v : JsonValue} (h : Reads s' v t)
    (hs : Spaces s s') : ¬ Spaces s (']' :: u) := by
  intro hclose
  obtain rfl := hs.unique hclose h.head?_any_isSpace rfl
  obtain ⟨c, r, heq, hc⟩ := h.exists_head
  rw [← (List.cons.inj heq).1] at hc
  exact absurd hc (by decide)

/-- An object with a field is not closed at once. -/
theorem ReadsField.not_spaces {s s' t u : List Char} {k : String} {v : JsonValue}
    (h : ReadsField s' k v t) (hs : Spaces s s') : ¬ Spaces s ('\x7d' :: u) := by
  intro hclose
  obtain rfl := hs.unique hclose h.head?_any_isSpace rfl
  obtain ⟨r, heq⟩ := h.exists_head
  exact absurd heq (by simp)

theorem MoreItems.head?_any_isDigit {s t : List Char} {items : List JsonValue}
    (h : MoreItems s items t) : s.head?.any Char.isDigit = false := by
  cases h with
  | close hs | next hs => exact hs.head?_any_isDigit rfl

theorem MoreFields.head?_any_isDigit {s t : List Char} {fields : List (String × JsonValue)}
    (h : MoreFields s fields t) : s.head?.any Char.isDigit = false := by
  cases h with
  | close hs | next hs => exact hs.head?_any_isDigit rfl

-- The induction is on the size of the first value. Its first character tells its kind, except that
-- `nat` has no mark of its own; inside an array or an object the value is followed by a mark, so
-- that the condition on the next character holds again.
mutual

/-- A text is read in one way up to a character that does not continue a number. -/
theorem Reads.unique {v w : JsonValue} {s t u : List Char} (hv : Reads s v t) (hw : Reads s w u)
    (ht : t.head?.any Char.isDigit = false) (hu : u.head?.any Char.isDigit = false) :
    v = w ∧ t = u := by
  cases hv with
  | null =>
    cases hw with
    | null => exact ⟨rfl, rfl⟩
    | nat hn => exact absurd hn.isDigit (by decide)
  | yes =>
    cases hw with
    | yes => exact ⟨rfl, rfl⟩
    | nat hn => exact absurd hn.isDigit (by decide)
  | no =>
    cases hw with
    | no => exact ⟨rfl, rfl⟩
    | nat hn => exact absurd hn.isDigit (by decide)
  | nat hm =>
    cases hw with
    | nat hn =>
      obtain ⟨rfl, rfl⟩ := hm.unique hn ht hu
      exact ⟨rfl, rfl⟩
    | null | yes | no | neg | text | emptyArray | array | emptyObject | object =>
      exact absurd hm.isDigit (by decide)
  | neg hm =>
    cases hw with
    | nat hn => exact absurd hn.isDigit (by decide)
    | neg hn =>
      obtain ⟨rfl, rfl⟩ := hm.unique hn ht hu
      exact ⟨rfl, rfl⟩
  | text hc =>
    cases hw with
    | nat hn => exact absurd hn.isDigit (by decide)
    | text hd =>
      obtain ⟨rfl, rfl⟩ := hc.unique hd
      exact ⟨rfl, rfl⟩
  | emptyArray hs =>
    cases hw with
    | nat hn => exact absurd hn.isDigit (by decide)
    | emptyArray hs' => exact ⟨rfl, (List.cons.inj (hs.unique hs' rfl rfl)).2⟩
    | array hs' hw _ => exact absurd hs (hw.not_spaces hs')
  | array hs hv hitems =>
    cases hw with
    | nat hn => exact absurd hn.isDigit (by decide)
    | emptyArray hs' => exact absurd hs' (hv.not_spaces hs)
    | array hs' hw hitems' =>
      obtain rfl := hs.unique hs' hv.head?_any_isSpace hw.head?_any_isSpace
      obtain ⟨rfl, rfl⟩ := hv.unique hw hitems.head?_any_isDigit hitems'.head?_any_isDigit
      obtain ⟨rfl, rfl⟩ := hitems.unique hitems'
      exact ⟨rfl, rfl⟩
  | emptyObject hs =>
    cases hw with
    | nat hn => exact absurd hn.isDigit (by decide)
    | emptyObject hs' => exact ⟨rfl, (List.cons.inj (hs.unique hs' rfl rfl)).2⟩
    | object hs' hw _ => exact absurd hs (hw.not_spaces hs')
  | object hs hv hfields =>
    cases hw with
    | nat hn => exact absurd hn.isDigit (by decide)
    | emptyObject hs' => exact absurd hs' (hv.not_spaces hs)
    | object hs' hw hfields' =>
      obtain rfl := hs.unique hs' hv.head?_any_isSpace hw.head?_any_isSpace
      obtain ⟨rfl, rfl, rfl⟩ := hv.unique hw hfields.head?_any_isDigit hfields'.head?_any_isDigit
      obtain ⟨rfl, rfl⟩ := hfields.unique hfields'
      exact ⟨rfl, rfl⟩
termination_by (sizeOf v, 0)

theorem MoreItems.unique {items items' : List JsonValue} {s t u : List Char}
    (h : MoreItems s items t) (h' : MoreItems s items' u) : items = items' ∧ t = u := by
  cases h with
  | close hs =>
    cases h' with
    | close hs' => exact ⟨rfl, (List.cons.inj (hs.unique hs' rfl rfl)).2⟩
    | next hs' => exact absurd (hs.unique hs' rfl rfl) (by simp)
  | next hs hr hv hitems =>
    cases h' with
    | close hs' => exact absurd (hs.unique hs' rfl rfl) (by simp)
    | next hs' hr' hw hitems' =>
      obtain rfl := (List.cons.inj (hs.unique hs' rfl rfl)).2
      obtain rfl := hr.unique hr' hv.head?_any_isSpace hw.head?_any_isSpace
      obtain ⟨rfl, rfl⟩ := hv.unique hw hitems.head?_any_isDigit hitems'.head?_any_isDigit
      obtain ⟨rfl, rfl⟩ := hitems.unique hitems'
      exact ⟨rfl, rfl⟩
termination_by (sizeOf items, 0)

theorem ReadsField.unique {k l : String} {v w : JsonValue} {s t u : List Char}
    (hv : ReadsField s k v t) (hw : ReadsField s l w u) (ht : t.head?.any Char.isDigit = false)
    (hu : u.head?.any Char.isDigit = false) : k = l ∧ v = w ∧ t = u := by
  obtain ⟨hk, hs, hr, hv⟩ := hv
  obtain ⟨hl, hs', hr', hw⟩ := hw
  obtain ⟨rfl, rfl⟩ := hk.unique hl
  obtain rfl := (List.cons.inj (hs.unique hs' rfl rfl)).2
  obtain rfl := hr.unique hr' hv.head?_any_isSpace hw.head?_any_isSpace
  obtain ⟨rfl, rfl⟩ := hv.unique hw ht hu
  exact ⟨rfl, rfl, rfl⟩
termination_by (sizeOf v, 1)

theorem MoreFields.unique {fields fields' : List (String × JsonValue)} {s t u : List Char}
    (h : MoreFields s fields t) (h' : MoreFields s fields' u) : fields = fields' ∧ t = u := by
  cases h with
  | close hs =>
    cases h' with
    | close hs' => exact ⟨rfl, (List.cons.inj (hs.unique hs' rfl rfl)).2⟩
    | next hs' => exact absurd (hs.unique hs' rfl rfl) (by simp)
  | next hs hr hv hfields =>
    cases h' with
    | close hs' => exact absurd (hs.unique hs' rfl rfl) (by simp)
    | next hs' hr' hw hfields' =>
      obtain rfl := (List.cons.inj (hs.unique hs' rfl rfl)).2
      obtain rfl := hr.unique hr' hv.head?_any_isSpace hw.head?_any_isSpace
      obtain ⟨rfl, rfl, rfl⟩ := hv.unique hw hfields.head?_any_isDigit hfields'.head?_any_isDigit
      obtain ⟨rfl, rfl⟩ := hfields.unique hfields'
      exact ⟨rfl, rfl⟩
termination_by (sizeOf fields, 0)

end

/-- A text is a text of at most one value. -/
theorem Document.unique {s : List Char} {v w : JsonValue} (hv : Document s v)
    (hw : Document s w) : v = w := by
  obtain ⟨r, t, hs, hv, ht⟩ := hv
  obtain ⟨r', t', hs', hw, ht'⟩ := hw
  obtain rfl := hs.unique hs' hv.head?_any_isSpace hw.head?_any_isSpace
  exact (hv.unique hw (ht.head?_any_isDigit rfl) (ht'.head?_any_isDigit rfl)).1

end JsonValue

end CommandAudit
