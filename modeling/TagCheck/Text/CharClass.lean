/-!
# Classes of characters

A class of characters is a list of ranges of code points in increasing order. The classes that the
checker needs stand in modules of their own, one for each Unicode property.
-/

namespace TagCheck

/-- A set of characters, as increasing ranges of code points with both ends included. -/
structure CharClass where
  ranges : List (Nat × Nat)

namespace CharClass

/-- Whether a code point lies in one of the ranges; the search ends at the first range above it. -/
def covers (n : Nat) : List (Nat × Nat) → Bool
  | [] => false
  | (lo, hi) :: rest => if n < lo then false else n ≤ hi || covers n rest

def contains (k : CharClass) (c : Char) : Bool :=
  covers c.toNat k.ranges

end CharClass

end TagCheck
