import TagCheck.Ancestry
import TagCheck.DocType.Parser
import TagCheck.Scope

/-!
# Inference

The type of an expression, as far as literals, constructors, constants and the documented return types of
the called methods tell it. All else is undetermined. A call reaches the nearest definition of its method
along the lineage of whatever it is sent to.
-/

namespace TagCheck

/-- The type of a class or module itself. -/
def DocType.classOf (name : String) : DocType :=
  .union [⟨"Class", [.named name], .list, false⟩]

namespace Ancestry

/-- The names as seen from a namespace. -/
def scope (a : Ancestry) (within : Option String) : Scope :=
  { index := a.index, within := within }

/-! ### Callees -/

/-- The nearest definition of a method along the lineage of a type. -/
def definition? (a : Ancestry) (name method : String) (scope : MethodScope) : Option Nat :=
  match a.lineage name with
  | [] => a.index.member? name method scope
  | lineage => lineage.findSome? fun owner => a.index.member? owner method scope

/-- The method that a call without a receiver reaches: one of the enclosing type, or else one without an
owner. -/
def calleesOfSelf (a : Ancestry) (within : Option String) (method : String) : List Nat :=
  ((within.bind fun name => a.definition? name method .onInstance).or (a.index.topLevel? method)).toList

/-- The method that a call on a constant reaches; `new` reaches the constructor of the instances. -/
def calleesOfConst (a : Ancestry) (within : Option String) (name method : String) : List Nat :=
  match (a.scope within).qualify? name with
  | none => []
  | some name =>
    if method == "new" then (a.definition? name "initialize" .onInstance).toList
    else (a.definition? name method .onClass).toList

/-- The method that a call on a value of one alternative reaches. -/
def calleeOfVariant? (a : Ancestry) (method : String) (v : Variant) : Option Nat :=
  if v.isNil || v.isDuck then none
  else
    match v.name == "Class", v.params with
    | true, param :: _ =>
      param.variants.head?.bind fun inner => a.definition? inner.name method .onClass
    | _, _ => a.definition? v.name method .onInstance

/-- The methods that a call on a value reaches, one for each alternative of its type. -/
def calleesOfValue (a : Ancestry) (method : String) : Inferred → List Nat
  | .undetermined => []
  | .known t => distinct (t.variants.filterMap (a.calleeOfVariant? method))

/-! ### Types -/

/-- The return type that a method documents, itself or through the nearest ancestor that does, as seen
from its owner. -/
def documentedReturn (a : Ancestry) (n : Nat) : Inferred :=
  match a.index.methods[n]? with
  | none => .undetermined
  | some m =>
    let inherited := m.owner.bind fun owner => a.nearestTag? owner m.name m.scope .returned true
    match m.returnTag?.or (inherited.map Prod.snd) with
    | none => .undetermined
    | some text =>
      let t := DocType.parse text
      let t := m.owner.elim t fun owner => t.replaceSelf owner
      match (a.scope m.owner).resolve t with
      | .resolved t => .ofType t
      | .unresolved _ _ => .undetermined

/-- What the given methods return between them. -/
def documentedReturns (a : Ancestry) : List Nat → Inferred
  | [] => .undetermined
  | n :: ns => ns.foldl (fun i n => i.join (a.documentedReturn n)) (a.documentedReturn n)

/-- The type of a new instance. Modules have none. -/
def inferNew (a : Ancestry) (within : Option String) (name : String) : Inferred :=
  match (a.scope within).qualify? name with
  | some name => if a.index.kind? name = some .moduleType then .undetermined else .named name
  | none => .undetermined

/-- The type of an expression that stands in the given namespace. -/
def infer (a : Ancestry) (within : Option String) : Expr → Inferred
  | .literal typeName => .named typeName
  | .nil => .known .nil
  | .new name => a.inferNew within name
  | .const name => ((a.scope within).qualify? name).elim .undetermined fun name => .known (.classOf name)
  | .selfRef => within.elim .undetermined .named
  | .typed text =>
    match (a.scope within).resolve (.parse text) with
    | .resolved t => .ofType t
    | .unresolved _ _ => .undetermined
  | .call (.const name) method _ =>
    if method == "new" then a.inferNew within name
    else a.documentedReturns (a.calleesOfConst within name method)
  | .call receiver method _ =>
    a.documentedReturns (a.calleesOfValue method (a.infer within receiver))
  | .send method _ => a.documentedReturns (a.calleesOfSelf within method)
  | .unknown => .undetermined

/-- The type of what comes from the expressions or has the type `i`. Once it is undetermined, no further
expression is looked at. -/
def inferRest (a : Ancestry) (within : Option String) (i : Inferred) : List Expr → Inferred
  | [] => i
  | e :: es => if i.isUndetermined then i else a.inferRest within (i.join (a.infer within e)) es

/-- The type of what a method returns; an empty body returns nil. -/
def inferBody (a : Ancestry) (n : Nat) : Inferred :=
  match a.index.methods[n]? with
  | none => .undetermined
  | some m =>
    match m.body with
    | [] => .known .nil
    | e :: es => a.inferRest m.owner (a.infer m.owner e) es

/-- The methods that a call site reaches; a call that names no namespace stands in the given one. -/
def callees (a : Ancestry) (within : Option String) (call : CallSite) : List Nat :=
  let within := call.within.or within
  match call.receiver with
  | none => a.calleesOfSelf within call.method
  | some (.const name) => a.calleesOfConst within name call.method
  | some receiver => a.calleesOfValue call.method (a.infer within receiver)

end Ancestry

end TagCheck
