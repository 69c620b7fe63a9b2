/-!
# Settings

What a run checks and how: the profile, what happens to surplus arguments, the families of rules that are
left out, and the type names that count as declared.
-/

namespace TagCheck

/-- The strictness of a run. All profiles have the same rules so far. -/
inductive Profile where
  | normal
  | typed
  | strict
  | strong
  deriving DecidableEq, Repr

/-- Whether arguments that no parameter accepts are reported. -/
inductive ArityPolicy where
  | ignore
  | report
  deriving DecidableEq, Repr

inductive RuleFamily where
  | returns
  | variables
  | params
  | calls
  deriving DecidableEq, Repr

def Profile.table : List (String × Profile) :=
  [("normal", .normal), ("typed", .typed), ("strict", .strict), ("strong", .strong)]

def ArityPolicy.table : List (String × ArityPolicy) :=
  [("ignore", .ignore), ("report", .report)]

def RuleFamily.table : List (String × RuleFamily) :=
  [("returns", .returns), ("variables", .variables), ("params", .params), ("calls", .calls)]

def Profile.name : Profile → String
  | .normal => "normal"
  | .typed => "typed"
  | .strict => "strict"
  | .strong => "strong"

def ArityPolicy.name : ArityPolicy → String
  | .ignore => "ignore"
  | .report => "report"

def RuleFamily.name : RuleFamily → String
  | .returns => "returns"
  | .variables => "variables"
  | .params => "params"
  | .calls => "calls"

structure Settings where
  profile : Profile := .normal
  arity : ArityPolicy := .ignore
  skip : List RuleFamily := []
  builtins : List String := []
  deriving DecidableEq, Repr

/-- Whether the rules of a family are applied. -/
def Settings.checks (s : Settings) (family : RuleFamily) : Bool :=
  !s.skip.contains family

end TagCheck
