import TagCheck.Ancestry
import TagCheck.DocType.Basic

/-!
# Conformance

Whether a value of an inferred type may stand where a documented type is asked for. Only a contradiction
counts against it: what is not known about a type is taken to be in order.
-/

namespace TagCheck

/-- The class of the values that a name stands for. -/
def className : String → String
  | "true" => "TrueClass"
  | "false" => "FalseClass"
  | name => name

/-- Whether a value of the alternative `actual` meets the alternative `declared`. -/
def Variant.satisfies (a : Ancestry) (declared actual : Variant) : Bool :=
  if ["Object", "BasicObject", "undefined"].contains declared.name then true
  else if actual.name == "undefined" || actual.isDuck then true
  else if actual.isNil then declared.nilable || declared.isNil
  else if declared.isNil then false
  else
    match declared.duckMethod? with
    | some method => (a.respondsTo? actual.name method).getD true
    | none =>
      let actualClass := className actual.name
      if declared.name == "Boolean" then
        ["TrueClass", "FalseClass", "Boolean"].contains actualClass
      else if declared.name == actualClass then true
      else if !a.knows actualClass then true
      else (a.lineage actualClass).contains declared.name

/-- Whether some alternative of the inferred type meets some alternative of the documented one. Types that
are unchecked or undetermined conform to everything. -/
def DocType.accepts (a : Ancestry) (declared : DocType) : Inferred → Bool
  | .undetermined => true
  | .known actual =>
    declared.isUnchecked || actual.isUnchecked ||
      declared.variants.any fun d => actual.variants.any fun v => d.satisfies a v

end TagCheck
