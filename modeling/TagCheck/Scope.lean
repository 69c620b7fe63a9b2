import TagCheck.DocType.Basic
import TagCheck.Index.Basic

/-!
# Looking names up

A name is looked up as it stands and then in the enclosing namespaces from the inside out; a name that
starts with `::` only as it stands. One pass through a documented type writes every name in full that was
found and collects the names that are not known. The type is resolved if there are none.
-/

namespace TagCheck

/-- The text without the pairs of colons at its front. -/
def stripColons : List Char → List Char
  | ':' :: ':' :: cs => stripColons cs
  | cs => cs

/-- What stands before the last pair of colons, if there is one; both texts are reversed. -/
def beforeLastPair? : List Char → Option (List Char)
  | ':' :: ':' :: cs => some cs
  | _ :: cs => beforeLastPair? cs
  | [] => none

/-- The namespace around a namespace: what stands before its last pair of colons. -/
def outer? (ns : String) : Option String :=
  (beforeLastPair? ns.toList.reverse).map fun cs => String.ofList cs.reverse

theorem length_lt_of_beforeLastPair? {cs rest : List Char} (h : beforeLastPair? cs = some rest) :
    rest.length < cs.length := by
  fun_induction beforeLastPair? cs with
  | case1 cs =>
    obtain rfl := Option.some.inj h
    simp only [List.length_cons]
    omega
  | case2 c cs _ ih =>
    have := ih h
    simp only [List.length_cons]
    omega
  | case3 => cases h

theorem length_lt_of_outer? {ns around : String} (h : outer? ns = some around) : around.length < ns.length := by
  obtain ⟨rest, hrest, rfl⟩ := Option.map_eq_some_iff.1 h
  have hlt := length_lt_of_beforeLastPair? hrest
  rw [List.length_reverse, String.length_toList] at hlt
  rwa [String.length_ofList, List.length_reverse]

/-- The name in a namespace or in one around it: the first of these names that is a type, from the inside
out. -/
def searchOutward (isType : String → Bool) (bare ns : String) : Option String :=
  let candidate := ns ++ "::" ++ bare
  if isType candidate then some candidate
  else
    match h : outer? ns with
    | none => none
    | some around =>
      have := length_lt_of_outer? h
      searchOutward isType bare around
termination_by ns.length

/-- Where names are looked up: the index, the namespace around the text, and the names that are configured
to be known. -/
structure Scope where
  index : Index
  within : Option String := none
  builtins : List String := []

/-- What became of a documented type: all of its names are known, or some are missing. -/
inductive Resolution where
  | resolved (type : DocType)
  | unresolved (type : DocType) (missing : List String)
  deriving DecidableEq

/-- The resolved type, if the type is resolved. -/
def Resolution.type? : Resolution → Option DocType
  | .resolved t => some t
  | .unresolved _ _ => none

namespace Scope

/-- The full name of the type that a name stands for. -/
def qualify? (s : Scope) (name : String) : Option String :=
  let bare := String.ofList (stripColons name.toList)
  if s.index.contains bare then some bare
  else if name.startsWith "::" then none
  else
    match s.within with
    | none => none
    | some ns => searchOutward s.index.contains bare ns

/-- Whether a name may stand in a documented type. -/
def isKnown (s : Scope) (name : String) : Bool :=
  (Variant.named name).isBuiltin || (Variant.named name).isDuck || s.builtins.contains name ||
    (s.qualify? name).isSome

/-- The full name of a name, or the name itself if it has none. -/
def fullName (s : Scope) (name : String) : String :=
  (s.qualify? name).getD name

/-- A name in full. A name that is not known stays as it is and is put down as missing, once. -/
def qualifyName (s : Scope) (name : String) : StateM (List String) String := do
  if s.isKnown name then
    return s.fullName name
  else
    modify fun missing => insertNew missing name
    return name

mutual

/-- The variant with its names in full, at any depth; the state holds the names that are missing. -/
def qualifyVariant (s : Scope) : Variant → StateM (List String) Variant
  | ⟨name, params, shape, nilable⟩ => do
    return ⟨← s.qualifyName name, ← qualifyParams s params, shape, nilable⟩

/-- The type with its names in full, at any depth; the state holds the names that are missing. -/
def qualifyType (s : Scope) : DocType → StateM (List String) DocType
  | .union vs => do return .union (← qualifyVariants s vs)
  | t => return t

def qualifyVariants (s : Scope) : List Variant → StateM (List String) (List Variant)
  | [] => return []
  | v :: vs => do return (← qualifyVariant s v) :: (← qualifyVariants s vs)

def qualifyParams (s : Scope) : List DocType → StateM (List String) (List DocType)
  | [] => return []
  | t :: ts => do return (← qualifyType s t) :: (← qualifyParams s ts)

end

/-- The type with full names, or the names of it that are not known. -/
def resolve (s : Scope) (t : DocType) : Resolution :=
  let (type, missing) := (s.qualifyType t).run []
  if missing.isEmpty then .resolved type else .unresolved t missing

end Scope

end TagCheck
