/-!
# Locations

A span is a range of bytes in one of the source files, an anchor names the declaration or expression
that a problem belongs to, and a location is both.
-/

namespace TagCheck

/-- The bytes from `start` up to `stop` in the file of number `file`. -/
structure Span where
  start : UInt32 := 0
  stop : UInt32 := 0
  file : UInt32 := 0
  deriving DecidableEq, Repr

namespace Span

/-- The number of bytes; a span that ends before it starts has none. -/
def length (s : Span) : Nat :=
  s.stop.toNat - s.start.toNat

def isEmpty (s : Span) : Bool :=
  s.length == 0

def text (s : Span) : String :=
  "(span start: " ++ toString s.start ++ " end: " ++ toString s.stop ++ " file: " ++ toString s.file ++ ")"

end Span

/-- A method, a typed assignment or a call, by its number in the snapshot. -/
inductive Anchor where
  | method (n : Nat)
  | assignment (n : Nat)
  | call (n : Nat)
  deriving DecidableEq, Repr

structure Location where
  anchor : Anchor
  span : Span
  deriving DecidableEq, Repr

end TagCheck
