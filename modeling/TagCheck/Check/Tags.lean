import TagCheck.Check.Run
import TagCheck.Conformance

/-!
# The rules for tags

Every tag that a declaration writes has to name known types. The return tag of a method, its own or an
inherited one, is compared with what its body returns, and the tag of an assignment with the assigned
value. An inherited tag that names unknown types is reported at the ancestor that writes it.
-/

namespace TagCheck

/-- Compares what a method returns with its return tag. -/
def checkReturn (t : Task) (r : Run) (m : MethodDecl) (n : Nat) : Run :=
  match t.returnTag? m with
  | none => r
  | some (text, inheritedFrom) =>
    let location : Location := ⟨.method n, m.span⟩
    let (resolution, r) := r.resolve t ⟨.method n, inheritedFrom.or m.owner, text⟩
    match resolution with
    | .unresolved _ missing =>
      if inheritedFrom.isSome then r
      else r.report location (.unresolvedReturn m.path (trim text) missing)
    | .resolved declared =>
      if declared.isUnchecked then r
      else
        let inferred := t.ancestry.inferBody n
        let r := r.note (.returned m.path inferred declared)
        if declared.accepts t.ancestry inferred then r
        else r.report location (.returnMismatch m.path declared.text inferred.text inheritedFrom)

/-- Compares the value of an assignment with its tag. -/
def checkVariable (t : Task) (r : Run) (a : Assignment) (n : Nat) : Run :=
  if isBlankText a.tag then r
  else
    let location : Location := ⟨.assignment n, a.span⟩
    let (resolution, r) := r.resolve t ⟨.assignment n, a.within, a.tag⟩
    match resolution with
    | .unresolved _ missing => r.report location (.unresolvedVariable a.name (trim a.tag) missing)
    | .resolved declared =>
      if declared.isUnchecked then r
      else
        let inferred := t.ancestry.infer a.within a.value
        let r := r.note (.assigned a.name inferred declared)
        if declared.accepts t.ancestry inferred then r
        else r.report location (.variableMismatch a.name declared.text inferred.text)

/-- Looks at one parameter tag that a method writes. -/
def checkParamTag (t : Task) (m : MethodDecl) (n : Nat) (r : Run) (tag : ParamTag) : Run :=
  if isBlankText tag.text then r
  else
    let (resolution, r) := r.resolve t ⟨.method n, m.owner, tag.text⟩
    match resolution with
    | .unresolved _ missing =>
      r.report ⟨.method n, m.span⟩ (.unresolvedParam m.path tag.name (trim tag.text) missing)
    | .resolved _ => r

/-- Looks at the parameter tags that a method writes. -/
def checkParams (t : Task) (r : Run) (m : MethodDecl) (n : Nat) : Run :=
  m.paramTags.foldl (checkParamTag t m n) r

end TagCheck
