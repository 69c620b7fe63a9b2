import TagCheck.Check.Calls
import TagCheck.Check.Tags

/-!
# Checking a program

A run applies the families of rules in a fixed order: return types, typed assignments, parameter tags and
calls. Only a call can bring a run to an end, and then the run has no problems to show but still has its
events.
-/

namespace TagCheck

/-- What a run has to show: its events in order, and its problems unless the snapshot could not be
checked. -/
structure Outcome where
  events : List Event
  result : Except CheckError (List Problem)

namespace Task

/-- Applies the rules of one family. -/
def applyFamily (t : Task) (r : Run) : RuleFamily → Except CheckError Unit × Run
  | .returns => (.ok (), t.program.snapshot.methods.zipIdx.foldl (fun r (m, n) => checkReturn t r m n) r)
  | .variables =>
    (.ok (), t.program.snapshot.assignments.zipIdx.foldl (fun r (a, n) => checkVariable t r a n) r)
  | .params => (.ok (), t.program.snapshot.methods.zipIdx.foldl (fun r (m, n) => checkParams t r m n) r)
  | .calls => checkCalls t r t.program.snapshot.calls.zipIdx

/-- Applies the families in order, less those that the settings leave out. -/
def applyFamilies (t : Task) : Run → List RuleFamily → Except CheckError Unit × Run
  | r, [] => (.ok (), r)
  | r, family :: rest =>
    if t.settings.checks family then
      match t.applyFamily (r.note (.family family)) family with
      | (.error e, r) => (.error e, r)
      | (.ok (), r) => t.applyFamilies r rest
    else t.applyFamilies r rest

/-- The families in the order in which they are applied. -/
def families : List RuleFamily :=
  [.returns, .variables, .params, .calls]

/-- The run that a check starts from: nothing is remembered yet. -/
def start (t : Task) : Run :=
  { events := .started t.settings.profile :: t.ancestry.events.reverse }

/-- Checks a program under its settings. -/
def check (t : Task) : Outcome :=
  match t.applyFamilies t.start families with
  | (.error e, r) => ⟨r.events.reverse, .error e⟩
  | (.ok (), r) => ⟨(r.note (.finished r.problems.size)).events.reverse, .ok r.problems.problems⟩

end Task

end TagCheck
