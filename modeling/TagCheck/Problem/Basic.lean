import TagCheck.Location

/-!
# Problems

What the checker finds and how it says so. A finding is a statement about one declaration or call; a
problem is a finding put into words, with a code, a kind, a severity and notes.
-/

namespace TagCheck

inductive Severity where
  | info
  | warning
  | error
  | hint
  deriving DecidableEq, Repr

/-- The category of a problem, whatever its wording. -/
inductive ProblemKind where
  | mismatch
  | unresolved
  | missingKeyword
  | wrongArgumentType
  | arityOverflow
  deriving DecidableEq, Repr

def Severity.name : Severity → String
  | .info => "info"
  | .warning => "warning"
  | .error => "error"
  | .hint => "hint"

def ProblemKind.tag : ProblemKind → String
  | .mismatch => "mismatch"
  | .unresolved => "unresolved"
  | .missingKeyword => "missing-keyword"
  | .wrongArgumentType => "wrong-argument-type"
  | .arityOverflow => "arity-overflow"

def Severity.table : List (String × Severity) :=
  [("info", .info), ("warning", .warning), ("error", .error), ("hint", .hint)]

def ProblemKind.table : List (String × ProblemKind) :=
  [("mismatch", .mismatch), ("unresolved", .unresolved), ("missing-keyword", .missingKeyword),
    ("wrong-argument-type", .wrongArgumentType), ("arity-overflow", .arityOverflow)]

structure Problem where
  kind : ProblemKind
  severity : Severity
  message : String
  code : String
  location : Location
  notes : List String := []
  deriving DecidableEq, Repr

def Problem.isError (p : Problem) : Bool :=
  p.severity == .error

/-- What is wrong with a declaration or a call. -/
inductive Finding where
  | returnMismatch (method declared inferred : String) (inheritedFrom : Option String)
  | variableMismatch (name declared inferred : String)
  | unresolvedReturn (method tag : String) (missing : List String)
  | unresolvedParam (method param tag : String) (missing : List String)
  | unresolvedVariable (name tag : String) (missing : List String)
  | missingKeyword (method param : String)
  | wrongArgument (method param expected received : String)
  | tooManyArguments (method : String) (unbound : List String)
  deriving DecidableEq, Repr

namespace Finding

def kind : Finding → ProblemKind
  | .returnMismatch .. | .variableMismatch .. => .mismatch
  | .unresolvedReturn .. | .unresolvedParam .. | .unresolvedVariable .. => .unresolved
  | .missingKeyword .. => .missingKeyword
  | .wrongArgument .. => .wrongArgumentType
  | .tooManyArguments .. => .arityOverflow

def code : Finding → String
  | .returnMismatch .. => "Y0001"
  | .variableMismatch .. => "Y0002"
  | .unresolvedReturn .. => "Y0010"
  | .unresolvedParam .. => "Y0011"
  | .unresolvedVariable .. => "Y0012"
  | .missingKeyword .. => "Y0020"
  | .wrongArgument .. => "Y0021"
  | .tooManyArguments .. => "Y0022"

def severity : Finding → Severity
  | .tooManyArguments .. => .warning
  | _ => .error

def message : Finding → String
  | .returnMismatch method declared inferred _ =>
    "Declared return type " ++ declared ++ " does not match inferred type " ++ inferred ++ " for " ++ method
  | .variableMismatch name declared inferred =>
    "Declared type " ++ declared ++ " does not match inferred type " ++ inferred ++ " for variable " ++ name
  | .unresolvedReturn method tag _ => "Unresolved return type " ++ tag ++ " for " ++ method
  | .unresolvedParam method param tag _ =>
    "Unresolved type " ++ tag ++ " for " ++ param ++ " param on " ++ method
  | .unresolvedVariable name tag _ => "Unresolved type " ++ tag ++ " for variable " ++ name
  | .missingKeyword method param => "Call to " ++ method ++ " is missing keyword argument " ++ param
  | .wrongArgument method param expected received =>
    "Wrong argument type for " ++ method ++ ": " ++ param ++ " expected " ++ expected ++ ", received " ++
      received
  | .tooManyArguments method unbound =>
    "Too many arguments to " ++ method ++ ": " ++ ", ".intercalate unbound ++ " not accepted"

def notes : Finding → List String
  | .returnMismatch _ _ _ (some owner) => ["return type inherited from " ++ owner]
  | .unresolvedReturn _ _ missing | .unresolvedParam _ _ _ missing | .unresolvedVariable _ _ missing =>
    ["not found: " ++ ", ".intercalate missing]
  | _ => []

/-- The finding in words. -/
def report (f : Finding) (location : Location) : Problem where
  kind := f.kind
  severity := f.severity
  message := f.message
  code := f.code
  location := location
  notes := f.notes

end Finding

end TagCheck
