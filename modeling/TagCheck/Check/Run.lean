import TagCheck.Check.Event
import TagCheck.Problem.Collector

/-!
# The state of a run

A run remembers what it has worked out: the meaning of every tag and the signature of every method that it
needed. Both are worked out at their first use and looked up afterwards. It also holds the problems and
the events so far.
-/

namespace TagCheck

structure Run where
  resolutions : List (TagKey × Resolution) := []
  signatures : List (Nat × Signature) := []
  problems : Collector := {}
  /-- The events so far, the latest first. -/
  events : List Event := []

namespace Run

def note (r : Run) (e : Event) : Run :=
  { r with events := e :: r.events }

/-- The run with one more finding. -/
def report (r : Run) (location : Location) (f : Finding) : Run :=
  { r with problems := (r.problems.push (f.report location)).2 }

/-- What a tag means, worked out at its first use. -/
def resolve (t : Task) (r : Run) (key : TagKey) : Resolution × Run :=
  match r.resolutions.lookup key with
  | some resolution => (resolution, r)
  | none =>
    let resolution := t.resolution key
    (resolution, { r with resolutions := (key, resolution) :: r.resolutions }.note (.tag key resolution))

/-- The signature of a method, worked out at its first use. -/
def signature (t : Task) (r : Run) (n : Nat) : Except CheckError Signature × Run :=
  match r.signatures.lookup n with
  | some s => (.ok s, r)
  | none =>
    match t.signature n with
    | .error e => (.error e, r)
    | .ok s =>
      (.ok s, { r with signatures := (n, s) :: r.signatures }.note (.signature s.path s.paramsText))

end Run

end TagCheck
