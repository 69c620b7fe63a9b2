import TagCheck.Check.Program
import TagCheck.Text.Quoted

/-!
# Events of a run

What a run has to tell beside its problems, in the order in which it happens: the lineages, the tags and
the signatures it worked out, and how the rules were applied.
-/

namespace TagCheck

inductive Event where
  | lineage (name : String) (ancestors : List String)
  | started (profile : Profile)
  | family (which : RuleFamily)
  | tag (key : TagKey) (resolution : Resolution)
  | signature (path params : String)
  | returned (path : String) (inferred : Inferred) (declared : DocType)
  | assigned (name : String) (inferred : Inferred) (declared : DocType)
  | unreached (method : String)
  | candidate (path : String) (problems : Nat)
  | finished (problems : Nat)

/-! ### Types in full

A type with all of its parts by name, as traces show it. -/

def Shape.outline : Shape → String
  | .list => "List"
  | .keyValue => "KeyValue"
  | .fixed => "Fixed"

mutual

def Variant.outline : Variant → String
  | ⟨name, params, shape, nilable⟩ =>
    "SimpleType \x7b name: " ++ quote name ++ ", params: [" ++ ", ".intercalate (outlineOfParams params) ++
      "], shape: " ++ shape.outline ++ ", nilable: " ++ (if nilable then "true" else "false") ++ " \x7d"

def DocType.outline : DocType → String
  | .absent => "Absent"
  | .void => "Void"
  | .union vs => "Union([" ++ ", ".intercalate (outlineOfVariants vs) ++ "])"

def outlineOfVariants : List Variant → List String
  | [] => []
  | v :: vs => v.outline :: outlineOfVariants vs

def outlineOfParams : List DocType → List String
  | [] => []
  | t :: ts => t.outline :: outlineOfParams ts

end

def Resolution.outline : Resolution → String
  | .resolved t => "Resolved(" ++ t.outline ++ ")"
  | .unresolved t missing =>
    "Unresolved \x7b annotation: " ++ t.outline ++ ", missing: " ++ quoteList missing ++ " \x7d"

def Anchor.outline : Anchor → String
  | .method n => "Method(" ++ toString n ++ ")"
  | .assignment n => "Assignment(" ++ toString n ++ ")"
  | .call n => "Call(" ++ toString n ++ ")"

def RuleFamily.title : RuleFamily → String
  | .returns => "return types"
  | .variables => "typed assignments"
  | .params => "parameter tags"
  | .calls => "call sites"

/-- The event in words. -/
def Event.text : Event → String
  | .lineage name ancestors => "lineage of " ++ name ++ ": " ++ quoteList ancestors
  | .started profile => "checking with the " ++ profile.name ++ " profile"
  | .family which => which.title
  | .tag key resolution => key.anchor.outline ++ " `" ++ key.text ++ "` -> " ++ resolution.outline
  | .signature path params => path ++ "(" ++ params ++ ")"
  | .returned path inferred declared =>
    path ++ " returns " ++ inferred.text ++ ", declared " ++ declared.text
  | .assigned name inferred declared => name ++ " = " ++ inferred.text ++ ", declared " ++ declared.text
  | .unreached method => "call to " ++ method ++ " resolves to no method"
  | .candidate path problems => "call to " ++ path ++ ": " ++ toString problems ++ " problems"
  | .finished problems => toString problems ++ " problems"

/-- The events of working out the lineages of all types. -/
def Ancestry.events (a : Ancestry) : List Event :=
  a.index.typeNames.map fun name => .lineage name (a.lineage name)

end TagCheck
