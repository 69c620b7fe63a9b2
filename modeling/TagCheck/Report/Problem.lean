import TagCheck.Problem.Basic
import TagCheck.Report.Style
import TagCheck.Source

/-!
# Showing a problem

A problem is shown with its severity, code and message, then the place it is at, the line of source text
with carets under the span, and its notes. As for source texts, no arithmetic is checked for overflow: the
blanks before a column of zero are as many as a word can count. A problem that would take more text than
there can be is not shown.
-/

namespace TagCheck

def Severity.title : Severity → String
  | .info => "Info"
  | .warning => "Warning"
  | .error => "Error"
  | .hint => "Hint"

def Severity.color : Severity → Color
  | .info => .blue
  | .warning => .yellow
  | .error => .red
  | .hint => .cyan

/-- The number, or the bound that it is beyond. Bounds that are out of order bound nothing. -/
def clamp? (low high n : Nat) : Option Nat :=
  if low ≤ high then some (max low (min high n)) else none

/-- How many carets are shown: as many as the span has bytes, but at least one, and none beyond the end of
the line. -/
def caretCount? (spanLength lineLength indent : Nat) : Option Nat :=
  clamp? 1 (max 1 (lineLength - indent)) spanLength

/-- The number of bytes that a text may have. -/
def textCapacity : Nat :=
  0x7fffffffffffffff

/-- A character over and over, unless a text cannot be that long. -/
def copies? (c : Char) (n : Nat) : Option String :=
  if n * c.utf8Size ≤ textCapacity then some (String.ofList (List.replicate n c)) else none

namespace Problem

/-- The severity, the code and the message. -/
def header (p : Problem) (styled : Bool) : String :=
  let color := some p.severity.color
  bold styled color p.severity.title ++ "[" ++ bold styled color p.code ++ "]: " ++
    bold styled none p.message ++ "\n"

/-- A line of source text with carets under a span that starts in the given column. Widths are words of
64 bits and wrap around. -/
def excerpt? (styled : Bool) (line column : UInt32) (spanLength : Nat) (text : String) : Option String := do
  let indent := (column.toUInt64 - 1).toNat
  let width ← caretCount? spanLength text.utf8ByteSize indent
  let carets ← copies? '^' width
  let blanks ← copies? ' ' indent
  let pipe := bold styled (some .blue) (padRight 3 "|")
  return "   " ++ pipe ++ "\n" ++
    bold styled (some .blue) (padRight 3 (toString line)) ++ pipe ++ text ++ "\n" ++
    "   " ++ pipe ++ blanks ++ bold styled (some .red) carets ++ "\n"

/-- The line of source text with the given number, if there is one. -/
def shownLine? (sources : SourceMap) (file line : UInt32) : Option String :=
  (sources.file? file).bind fun f => f.lines[line.toNat - 1]?

/-- The row that says where a problem is. -/
def placeRow (styled : Bool) (path : String) (line column : UInt32) : String :=
  "  " ++ bold styled (some .blue) "-->" ++ " " ++ bold styled none path ++ ":" ++
    bold styled none (toString line) ++ ":" ++ bold styled none (toString column) ++ "\n"

/-- Where the problem is, and the line of source text if there is one. -/
def body? (p : Problem) (styled : Bool) (sources : SourceMap) : Option String :=
  let span := p.location.span
  let (line, column) := sources.lineCol span.file span.start
  let path := (sources.file? span.file).elim "<snapshot>" SourceFile.path
  let place := placeRow styled path line column
  match shownLine? sources span.file line with
  | none => some place
  | some text => (excerpt? styled line column span.length text).map (place ++ ·)

/-- The problem as it is shown, followed by an empty line; nothing if the blanks before its column have wrapped
around. -/
def render? (p : Problem) (styled : Bool) (sources : SourceMap) : Option String :=
  let note (text : String) := "  " ++ bold styled (some .cyan) "note:" ++ " " ++ text ++ "\n"
  (p.body? styled sources).map fun body =>
    p.header styled ++ body ++ String.join (p.notes.map note) ++ "\n"

end Problem

end TagCheck
