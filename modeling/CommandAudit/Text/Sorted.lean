/-!
# Sorted lists without repetition

`sortDistinct` sorts a list and keeps one of each run of equal elements; `sortedTexts` does so for
texts, which are ordered by their code points.
-/

namespace CommandAudit

/-- Keeps the first of every run of equal elements. -/
def dropRepeats {α : Type} [DecidableEq α] : List α → List α
  | a :: b :: rest => if a = b then dropRepeats (b :: rest) else a :: dropRepeats (b :: rest)
  | rest => rest

/-- The elements of a list in increasing order, each once. -/
def sortDistinct {α : Type} [DecidableEq α] (le : α → α → Bool) (xs : List α) : List α :=
  dropRepeats (xs.mergeSort le)

/-- The texts of a list in the order of their code points, each once. -/
def sortedTexts (xs : List String) : List String :=
  sortDistinct (fun a b => decide (a ≤ b)) xs

end CommandAudit
