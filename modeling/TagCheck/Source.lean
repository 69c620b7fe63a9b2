import TagCheck.Snapshot.Basic
import TagCheck.Store

/-!
# Source texts

The files that problems point into. Positions are byte offsets of 32 bits; lines and columns count from
one, and a column counts bytes. The arithmetic is that of a build without overflow checks: a number that has
no room in 32 bits wraps around.
-/

namespace TagCheck

/-! ### Searching -/

/-- What a search in an increasing list ends with: the place of the value, or the place where it would have
to be put. -/
inductive Place where
  | found (i : Nat)
  | gap (i : Nat)
  deriving DecidableEq, Repr

/-- One of the `size` places from `base` on, found by halving: the last that does not hold more than
`value`. -/
def narrow (values : Array UInt32) (value : UInt32) (base size : Nat) : Nat :=
  if size ≤ 1 then base
  else
    let middle := base + size / 2
    if value < values.getD middle 0 then narrow values value base (size - size / 2)
    else narrow values value middle (size - size / 2)
termination_by size

/-- Searches for a value in an increasing list. -/
def search (values : Array UInt32) (value : UInt32) : Place :=
  let i := narrow values value 0 values.size
  match values[i]? with
  | none => .gap 0
  | some found =>
    if found = value then .found i else if found < value then .gap (i + 1) else .gap i

/-! ### Lines and columns -/

/-- The byte that ends a line. -/
def newline : UInt8 :=
  10

/-- The positions just after the newlines of a text that starts at `pos`. -/
def startsAfterNewlines (pos : UInt32) : List UInt8 → List UInt32
  | [] => []
  | b :: bs =>
    let rest := startsAfterNewlines (pos + 1) bs
    if b == newline then (pos + 1) :: rest else rest

structure SourceFile where
  path : String
  text : String

namespace SourceFile

def bytes (f : SourceFile) : List UInt8 :=
  f.text.toUTF8.data.toList

/-- The positions where the lines start. -/
def lineStarts (f : SourceFile) : Array UInt32 :=
  (0 :: startsAfterNewlines 0 f.bytes).toArray

/-- The number of the line that holds a position, counted from zero: the last line that starts at or
before it. -/
def lineIndex (f : SourceFile) (pos : UInt32) : Nat :=
  match search f.lineStarts pos with
  | .found i => i
  | .gap i => i - 1

/-- The position where the line that holds a position starts. -/
def lineStart (f : SourceFile) (pos : UInt32) : UInt32 :=
  f.lineStarts.getD (f.lineIndex pos) 0

/-- The line and the column of a position; either wraps around if it is too large. -/
def lineCol (f : SourceFile) (pos : UInt32) : UInt32 × UInt32 :=
  ((f.lineIndex pos).toUInt32 + 1, pos - f.lineStart pos + 1)

end SourceFile

abbrev SourceMap := Store SourceFile

namespace SourceMap

def file? (sources : SourceMap) (file : UInt32) : Option SourceFile :=
  sources.get? file.toNat

/-- The line and the column of a position; either wraps around if it is too large. A file without a text is
one line. -/
def lineCol (sources : SourceMap) (file pos : UInt32) : UInt32 × UInt32 :=
  match sources.file? file with
  | some f => f.lineCol pos
  | none => (1, pos + 1)

end SourceMap

/-- The source text of a snapshot as a file. -/
def Snapshot.sources (s : Snapshot) : SourceMap :=
  ⟨s.source.toList.map fun source => ⟨source.path, source.text⟩⟩

/-- A line without the carriage return at its end; the line is reversed. -/
def dropReturn : List Char → List Char
  | '\r' :: cs => cs
  | cs => cs

/-- The lines of a text, where `line` is the line under way, reversed. A line ends at a newline, and a
carriage return directly before the newline is not part of it. -/
def linesFrom (line : List Char) : List Char → List (List Char)
  | [] => if line.isEmpty then [] else [line.reverse]
  | c :: cs =>
    if c == '\n' then (dropReturn line).reverse :: linesFrom [] cs else linesFrom (c :: line) cs

/-- The lines of a text; after a final newline there is no further line. -/
def SourceFile.lines (f : SourceFile) : List String :=
  (linesFrom [] f.text.toList).map String.ofList

end TagCheck
