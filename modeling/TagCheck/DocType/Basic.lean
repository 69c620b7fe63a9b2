import TagCheck.Distinct

/-!
# Documented types

A type as a documentation comment writes it: alternatives such as `Array<String>`, `Hash{Symbol =>
String}`, `Array(String, Integer)`, `Integer?` or `#call`, or the word `void`, or nothing at all.
Types are merged alternative by alternative, the first occurrence of each alternative is kept, and
what was inferred for an expression is a documented type or unknown.
-/

namespace TagCheck

/-- How the parameters of a variant are written: `A<T>`, `A{K => V}` or `A(T, U)`. -/
inductive Shape where
  | list
  | keyValue
  | fixed
  deriving DecidableEq, Repr

mutual

/-- One alternative of a documented type. -/
structure Variant where
  name : String
  params : List DocType
  shape : Shape
  nilable : Bool

/-- A documented type. Nothing written is `absent`, a value that nobody uses is `void`. -/
inductive DocType where
  | absent
  | void
  | union (variants : List Variant)

end

/-! ### Equality -/

mutual

def Variant.decEq : (a b : Variant) → Decidable (a = b)
  | ⟨n, ps, s, q⟩, ⟨n', ps', s', q'⟩ =>
    if h : n = n' ∧ s = s' ∧ q = q' then
      match decEqParams ps ps' with
      | isTrue hp => isTrue (by simp [h, hp])
      | isFalse hp => isFalse (by simp [hp])
    else isFalse (by simp only [Variant.mk.injEq]; exact fun e => h ⟨e.1, e.2.2⟩)

def DocType.decEq : (a b : DocType) → Decidable (a = b)
  | .absent, .absent => isTrue rfl
  | .void, .void => isTrue rfl
  | .union vs, .union ws =>
    match decEqVariants vs ws with
    | isTrue h => isTrue (by rw [h])
    | isFalse h => isFalse (by simp [h])
  | .absent, .void | .absent, .union _ | .void, .absent | .void, .union _
  | .union _, .absent | .union _, .void => isFalse (by simp)

def decEqVariants : (vs ws : List Variant) → Decidable (vs = ws)
  | [], [] => isTrue rfl
  | v :: vs, w :: ws =>
    match Variant.decEq v w, decEqVariants vs ws with
    | isTrue h, isTrue h' => isTrue (by rw [h, h'])
    | isFalse h, _ => isFalse (by simp [h])
    | _, isFalse h => isFalse (by simp [h])
  | [], _ :: _ | _ :: _, [] => isFalse (by simp)

def decEqParams : (ts us : List DocType) → Decidable (ts = us)
  | [], [] => isTrue rfl
  | t :: ts, u :: us =>
    match DocType.decEq t u, decEqParams ts us with
    | isTrue h, isTrue h' => isTrue (by rw [h, h'])
    | isFalse h, _ => isFalse (by simp [h])
    | _, isFalse h => isFalse (by simp [h])
  | [], _ :: _ | _ :: _, [] => isFalse (by simp)

end

instance : DecidableEq Variant := Variant.decEq

instance : DecidableEq DocType := DocType.decEq

/-! ### Variants -/

/-- The names that need no declaration. -/
def builtinNames : List String :=
  ["void", "undefined", "nil", "NilClass", "self", "Boolean", "true", "false", "TrueClass",
    "FalseClass", "Object", "BasicObject", "Class", "Module"]

namespace Variant

/-- A plain name: no parameters and no nilable mark. -/
def named (name : String) : Variant :=
  ⟨name, [], .list, false⟩

/-- The method that a duck type such as `#call` asks for. A lone `#` asks for nothing. -/
def duckMethod? (v : Variant) : Option String :=
  match v.name.toList with
  | '#' :: c :: cs => some (String.ofList (c :: cs))
  | _ => none

def isDuck (v : Variant) : Bool :=
  v.duckMethod?.isSome

def isNil (v : Variant) : Bool :=
  v.name == "nil" || v.name == "NilClass"

def isBuiltin (v : Variant) : Bool :=
  builtinNames.contains v.name

end Variant

/-! ### Types -/

namespace DocType

/-- The type of one plain name. -/
def named (name : String) : DocType :=
  .union [.named name]

/-- The alternatives as a type; no alternatives at all count as nothing written. -/
def ofVariants (vs : List Variant) : DocType :=
  if vs.isEmpty then .absent else .union vs

def nil : DocType :=
  .named "nil"

def variants : DocType → List Variant
  | .union vs => vs
  | _ => []

def isAbsent (t : DocType) : Bool :=
  t matches .absent

def isVoid (t : DocType) : Bool :=
  t matches .void

/-- Absent and void types are never compared with anything. -/
def isUnchecked (t : DocType) : Bool :=
  t.isAbsent || t.isVoid

/-- Both types together: `absent` adds nothing, `void` swallows everything, and of two lists of
alternatives the first occurrences are kept in order. -/
def merge : DocType → DocType → DocType
  | .absent, t => t
  | t, .absent => t
  | .union vs, .union ws => .union (appendNew vs ws)
  | _, _ => .void

theorem merge_absent (t : DocType) : t.merge .absent = t := by
  cases t <;> rfl

theorem void_merge (t : DocType) : merge .void t = .void := by
  cases t <;> rfl

theorem merge_void (t : DocType) : t.merge .void = .void := by
  cases t <;> rfl

/-- All of the types together, from left to right. -/
def mergeAll (ts : List DocType) : DocType :=
  ts.foldl merge .absent

end DocType

/-! ### Names -/

mutual

/-- Every name that a variant mentions, its own name first. -/
def Variant.names : Variant → List String
  | ⟨name, params, _, _⟩ => name :: namesOfParams params

/-- Every name that a type mentions, alternative by alternative. -/
def DocType.names : DocType → List String
  | .union vs => namesOfVariants vs
  | _ => []

def namesOfVariants : List Variant → List String
  | [] => []
  | v :: vs => v.names ++ namesOfVariants vs

def namesOfParams : List DocType → List String
  | [] => []
  | t :: ts => t.names ++ namesOfParams ts

end

mutual

/-- The variant with every name changed by `f`, at any depth. -/
def Variant.mapNames (f : String → String) : Variant → Variant
  | ⟨name, params, shape, nilable⟩ => ⟨f name, mapNamesOfParams f params, shape, nilable⟩

/-- The type with every name changed by `f`, at any depth. -/
def DocType.mapNames (f : String → String) : DocType → DocType
  | .union vs => .union (mapNamesOfVariants f vs)
  | t => t

def mapNamesOfVariants (f : String → String) : List Variant → List Variant
  | [] => []
  | v :: vs => v.mapNames f :: mapNamesOfVariants f vs

def mapNamesOfParams (f : String → String) : List DocType → List DocType
  | [] => []
  | t :: ts => t.mapNames f :: mapNamesOfParams f ts

end

/-- The type with `self` read as the type `concrete`. -/
def DocType.replaceSelf (concrete : String) (t : DocType) : DocType :=
  t.mapNames fun name => if name == "self" then concrete else name

/-! ### Text -/

/-- The parameters in the brackets of their shape. A variant without parameters has no brackets. -/
def Shape.bracket : Shape → List String → String
  | _, [] => ""
  | .list, params => "<" ++ ", ".intercalate params ++ ">"
  | .keyValue, params => "\x7b" ++ " => ".intercalate params ++ "\x7d"
  | .fixed, params => "(" ++ ", ".intercalate params ++ ")"

mutual

def Variant.text : Variant → String
  | ⟨name, params, shape, nilable⟩ =>
    name ++ shape.bracket (textsOfParams params) ++ (if nilable then "?" else "")

def DocType.text : DocType → String
  | .absent => "undefined"
  | .void => "void"
  | .union vs => ", ".intercalate (textsOfVariants vs)

def textsOfVariants : List Variant → List String
  | [] => []
  | v :: vs => v.text :: textsOfVariants vs

def textsOfParams : List DocType → List String
  | [] => []
  | t :: ts => t.text :: textsOfParams ts

end

/-! ### Inferred types -/

/-- What is known of the type of an expression or of a method's body. -/
inductive Inferred where
  | undetermined
  | known (type : DocType)
  deriving DecidableEq

namespace Inferred

/-- A type that says something is known; an absent or void one leaves the matter open. -/
def ofType (t : DocType) : Inferred :=
  if t.isUnchecked then .undetermined else .known t

def named (name : String) : Inferred :=
  .known (.named name)

def isUndetermined (i : Inferred) : Bool :=
  i matches .undetermined

/-- The type of a value that comes from either of two places. -/
def join : Inferred → Inferred → Inferred
  | .known t, .known u => .known (t.merge u)
  | _, _ => .undetermined

theorem undetermined_join (i : Inferred) : undetermined.join i = .undetermined := rfl

theorem join_undetermined (i : Inferred) : i.join .undetermined = .undetermined := by
  cases i <;> rfl

def text : Inferred → String
  | .undetermined => "undefined"
  | .known t => t.text

end Inferred

end TagCheck
