import TagCheck.Check.Run
import TagCheck.Conformance
import TagCheck.Signature.Binding

/-!
# The rules for calls

A call passes if one of the methods that it reaches accepts its arguments. Otherwise what is wrong with the
call is what the nearest of them finds: missing keyword arguments, arguments of the wrong type and, if the
settings ask for it, arguments that no parameter accepts. The tag of a parameter that collects arguments
describes the collection and is not compared with each of them.
-/

namespace TagCheck

/-- Compares an argument with the tag of its parameter. -/
def checkArgument (t : Task) (s : Signature) (call : CallSite) (r : Run) (p : Parameter) (arg : Argument) :
    Option Finding × Run :=
  if !p.isTyped || p.kind == .rest || p.kind == .doubleRest then (none, r)
  else
    match p.tag with
    | none => (none, r)
    | some text =>
      let (resolution, r) := r.resolve t ⟨.method s.method, p.inheritedFrom.or s.owner, text⟩
      match resolution with
      | .unresolved _ _ => (none, r)
      | .resolved expected =>
        let received := t.ancestry.infer call.within arg.value
        if expected.accepts t.ancestry received then (none, r)
        else (some (.wrongArgument s.path p.name expected.text received.text), r)

/-- Compares the bound arguments with the tags of their parameters, in order. -/
def checkPairs (t : Task) (s : Signature) (call : CallSite) :
    Run → List (Parameter × Argument) → List Finding × Run
  | r, [] => ([], r)
  | r, (p, arg) :: rest =>
    let (finding, r) := checkArgument t s call r p arg
    let (findings, r) := checkPairs t s call r rest
    (finding.toList ++ findings, r)

/-- What is wrong with a call if it reaches a method with this signature. -/
def checkArguments (t : Task) (r : Run) (s : Signature) (call : CallSite) : List Finding × Run :=
  let binding := s.bind call.args call.kwargs
  let missing := binding.missing.map fun p => Finding.missingKeyword s.path p.name
  let (wrong, r) := checkPairs t s call r binding.pairs
  let surplus :=
    if t.settings.arity = .report ∧ binding.unbound ≠ [] then
      [Finding.tooManyArguments s.path binding.unbound]
    else []
  (missing ++ wrong ++ surplus, r)

/-- What is wrong with a call that reaches the given methods, where `reported` is what the nearest method
found, if it was asked already. -/
def judge (t : Task) (call : CallSite) :
    Option (List Finding) → Run → List Nat → Except CheckError (List Finding) × Run
  | reported, r, [] => (.ok (reported.getD []), r)
  | reported, r, n :: ns =>
    match r.signature t n with
    | (.error e, r) => (.error e, r)
    | (.ok s, r) =>
      let (found, r) := checkArguments t r s call
      let r := r.note (.candidate s.path found.length)
      if found.isEmpty then (.ok [], r) else judge t call (reported.or (some found)) r ns

/-- Checks one call. -/
def checkCall (t : Task) (r : Run) (call : CallSite) (n : Nat) : Except CheckError Unit × Run :=
  match t.program.callees call with
  | [] => (.ok (), r.note (.unreached call.method))
  | candidates =>
    match judge t call none r candidates with
    | (.error e, r) => (.error e, r)
    | (.ok found, r) => (.ok (), found.foldl (fun r f => r.report ⟨.call n, call.span⟩ f) r)

/-- Checks the calls in order, up to the first that cannot be checked. -/
def checkCalls (t : Task) : Run → List (CallSite × Nat) → Except CheckError Unit × Run
  | r, [] => (.ok (), r)
  | r, (call, n) :: rest =>
    match checkCall t r call n with
    | (.error e, r) => (.error e, r)
    | (.ok (), r) => checkCalls t r rest

end TagCheck
