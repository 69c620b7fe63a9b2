import TagCheck.Check.Event

/-!
# How much a run tells

Progress lines are shown unless the run is quiet. Two marks of verbosity, or debugging, also show the main
events, three show all, and the events of each topic can be asked for by themselves.
-/

namespace TagCheck

/-- The parts of the checker whose events can be traced. -/
inductive Topic where
  | types
  | hierarchy
  | signature
  | rules
  | cli
  deriving DecidableEq, Repr

def Topic.table : List (String × Topic) :=
  [("types", .types), ("hierarchy", .hierarchy), ("signature", .signature), ("rules", .rules),
    ("cli", .cli)]

def Topic.name : Topic → String
  | .types => "types"
  | .hierarchy => "hierarchy"
  | .signature => "signature"
  | .rules => "rules"
  | .cli => "cli"

inductive OutputLevel where
  | quiet
  | detailed
  | verbose
  deriving DecidableEq, Repr

structure Verbosity where
  quiet : Bool := false
  debug : Bool := false
  verbose : Nat := 0
  topics : List Topic := []

namespace Verbosity

def outputLevel (v : Verbosity) : OutputLevel :=
  if v.quiet then .quiet else if v.verbose > 0 then .verbose else .detailed

/-- How verbose the run is once quiet and debugging are taken into account. -/
def level (v : Verbosity) : Nat :=
  if v.quiet then 0 else if v.debug then max v.verbose 2 else v.verbose

def showsProgress (v : Verbosity) : Bool :=
  !v.quiet

def showsMain (v : Verbosity) : Bool :=
  v.level ≥ 2

def showsAll (v : Verbosity) : Bool :=
  v.level ≥ 3

def traces (v : Verbosity) (topic : Topic) : Bool :=
  !v.quiet && (v.debug || v.topics.contains topic)

/-- One line of a topic, if it is traced. -/
def traceLine (v : Verbosity) (topic : Topic) (text : String) : List String :=
  if v.traces topic then ["debug[" ++ topic.name ++ "]: " ++ text] else []

/-- One of the main lines, if they are shown. -/
def mainLine (v : Verbosity) (text : String) : List String :=
  if v.showsMain then ["debug: " ++ text] else []

/-- The line that an event shows as, if it is shown. -/
def eventLine (v : Verbosity) (e : Event) : List String :=
  match e with
  | .lineage .. => v.traceLine .hierarchy e.text
  | .tag .. => v.traceLine .types e.text
  | .signature .. => v.traceLine .signature e.text
  | .family .. | .returned .. | .assigned .. | .candidate .. => v.traceLine .rules e.text
  | .started .. | .finished .. => v.mainLine e.text
  | .unreached .. => if v.showsAll then ["trace: " ++ e.text] else []

end Verbosity

end TagCheck
