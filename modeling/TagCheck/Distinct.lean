/-!
# Lists without repeats

A list that grows only by what it does not hold yet, so that every element keeps the place where it came
first.
-/

namespace TagCheck

variable {α : Type} [DecidableEq α]

/-- The list with `a` at its end, unless `a` is in it already. -/
def insertNew (as : List α) (a : α) : List α :=
  if a ∈ as then as else as ++ [a]

/-- The list with those elements of the other at its end that it does not hold yet. -/
def appendNew (as bs : List α) : List α :=
  bs.foldl insertNew as

/-- The first occurrences of the elements. -/
def distinct (as : List α) : List α :=
  appendNew [] as

end TagCheck
