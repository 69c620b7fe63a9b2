import TagCheck.Problem.Basic

/-!
# Collecting problems

Two problems of the same kind with the same message at the same location are one finding, and only the
first of them is kept. The collected problems are listed by position and then by code; problems that agree
in both keep the order in which they were found.
-/

namespace TagCheck

/-- What tells two findings apart. -/
structure ProblemKey where
  kind : ProblemKind
  location : Location
  message : String
  deriving DecidableEq, Repr

def Problem.key (p : Problem) : ProblemKey :=
  ⟨p.kind, p.location, p.message⟩

theorem Problem.mem_keys_nil_iff (key : ProblemKey) :
    key ∈ ([] : List ProblemKey) ↔ ∃ p ∈ ([] : List Problem), p.key = key := by
  simp

/-- The problems found so far, the latest first, and the keys seen so far. -/
structure Collector where
  found : List Problem := []
  seen : List ProblemKey := []
  /-- The keys are in step with the problems. -/
  mem_seen_iff : ∀ key, key ∈ seen ↔ ∃ p ∈ found, p.key = key := by exact Problem.mem_keys_nil_iff

namespace Collector

/-- Whether the problem is new, and the collector with the problem added if it is. -/
def push (c : Collector) (p : Problem) : Bool × Collector :=
  if c.seen.contains p.key then (false, c)
  else
    (true, {
      found := p :: c.found
      seen := p.key :: c.seen
      mem_seen_iff := by simp [c.mem_seen_iff, eq_comm] })

def size (c : Collector) : Nat :=
  c.found.length

/-- The order of the list: by the start of the span, then by code. -/
def precedes (a b : Problem) : Bool :=
  a.location.span.start < b.location.span.start ||
    (a.location.span.start == b.location.span.start && a.code ≤ b.code)

/-- The problems in the order of the list. -/
def problems (c : Collector) : List Problem :=
  c.found.reverse.mergeSort precedes

end Collector

end TagCheck
