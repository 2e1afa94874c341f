/-!
# Word characters

Names in a script are made of ASCII letters, ASCII digits and the underscore. A word is a
maximal run of such characters.
-/

namespace CommandAudit

/-- An ASCII letter, an ASCII digit or the underscore. -/
def isWordChar (c : Char) : Bool :=
  c.isAlphanum || c == '_'

/-- A character that may begin an identifier: a word character that is no digit. -/
def isNameStart (c : Char) : Bool :=
  c.isAlpha || c == '_'

/-- The run of word characters at the start of `cs`. -/
def leadingWord (cs : List Char) : List Char :=
  cs.takeWhile isWordChar

/-- What follows the run of word characters at the start of `cs`. -/
def afterLeadingWord (cs : List Char) : List Char :=
  cs.dropWhile isWordChar

theorem leadingWord_append_afterLeadingWord (cs : List Char) :
    leadingWord cs ++ afterLeadingWord cs = cs :=
  List.takeWhile_append_dropWhile

theorem isWordChar_of_isNameStart {c : Char} (h : isNameStart c = true) : isWordChar c = true := by
  simp only [isNameStart, isWordChar, Char.isAlphanum, Bool.or_eq_true] at h ⊢
  rcases h with h | h
  · exact Or.inl (Or.inl h)
  · exact Or.inr h

end CommandAudit
