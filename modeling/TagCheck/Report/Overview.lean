import TagCheck.Check.Program
import TagCheck.Problem.Basic
import TagCheck.Report.Table
import TagCheck.Source

/-!
# Overviews

Tables of the lineages, the signatures and the problems of a program.
-/

namespace TagCheck

/-- The types and their ancestors. -/
def Ancestry.overview (a : Ancestry) : String :=
  Table.render ["Type", "Lineage"] <| a.typeNames.map fun name =>
    [name, " < ".intercalate ((a.lineage name).drop 1)]

/-- The methods with their parameters and return tags; a dash stands for parameters that are not known. -/
def Task.signatureOverview (t : Task) : String :=
  Table.render ["Method", "Parameters", "Returns"] <| t.program.snapshot.methods.zipIdx.map fun (m, n) =>
    let params := match t.signature n with
      | .ok s => s.paramsText
      | .error _ => "-"
    [m.path, params, m.returnTag?.getD ""]

def problemOverview (sources : SourceMap) (problems : List Problem) : String :=
  Table.render ["At", "Code", "Kind", "Severity", "Message"] <| problems.map fun p =>
    let (line, column) := sources.lineCol p.location.span.file p.location.span.start
    [toString line ++ ":" ++ toString column, p.code, p.kind.tag, p.severity.name, p.message]

end TagCheck
