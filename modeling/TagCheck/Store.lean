/-!
# Stores

A store hands out numbers for the values put into it, in order from zero, and finds a value again by its
number.
-/

namespace TagCheck

structure Store (α : Type) where
  items : List α := []

namespace Store

variable {α : Type}

/-- The store with one more value, and the number of that value. -/
def add (s : Store α) (a : α) : Nat × Store α :=
  (s.items.length, ⟨s.items ++ [a]⟩)

def get? (s : Store α) (n : Nat) : Option α :=
  s.items[n]?

def size (s : Store α) : Nat :=
  s.items.length

/-- The values with their numbers. -/
def entries (s : Store α) : List (Nat × α) :=
  s.items.zipIdx.map Prod.swap

/-- A number as traces show it. -/
def idText (n : Nat) : String :=
  "Id(" ++ toString n ++ ")"

end Store

end TagCheck
