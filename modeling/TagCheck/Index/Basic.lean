import TagCheck.Distinct
import TagCheck.Index.CoreTypes

/-!
# The index of a snapshot

What the declarations of a snapshot say of each class or module by its name, together with the core
types, and which method a name stands for. A type may be declared several times: the first declaration
fixes its kind, the last superclass counts, and includes add up. A method may be defined several times,
and then its last definition counts.
-/

namespace TagCheck

namespace TypeEntry

/-- A type of which only the name and the kind are known. -/
def fresh (name : String) (kind : TypeKind) : TypeEntry where
  kind := kind
  superclass := if kind = .classType ∧ name ≠ "BasicObject" then some "Object" else none
  includes := []
  coreMethods := []

/-- What one more declaration of the type adds. -/
def declare (entry : TypeEntry) (decl : TypeDecl) : TypeEntry :=
  { entry with
    superclass := decl.superclass.or entry.superclass
    includes := appendNew entry.includes decl.includes }

end TypeEntry

/-- The types with that of the given name changed by `f`; a new type starts as `fresh`. -/
def alterType (name : String) (fresh : TypeEntry) (f : TypeEntry → TypeEntry) :
    List (String × TypeEntry) → List (String × TypeEntry)
  | [] => [(name, f fresh)]
  | (key, entry) :: rest =>
    if key == name then (key, f entry) :: rest else (key, entry) :: alterType name fresh f rest

/-- The types after one more declaration. -/
def declareType (types : List (String × TypeEntry)) (decl : TypeDecl) : List (String × TypeEntry) :=
  alterType decl.name (.fresh decl.name decl.kind) (·.declare decl) types

/-- The types after one more method: its owner is a class if nothing else is known of it. -/
def declareOwner (types : List (String × TypeEntry)) (method : MethodDecl) :
    List (String × TypeEntry) :=
  match method.owner with
  | some owner => alterType owner (.fresh owner .classType) id types
  | none => types

/-- What a method is found by: its owner, its scope and its name. -/
structure MemberKey where
  owner : Option String
  scope : MethodScope
  name : String
  deriving DecidableEq, Repr

/-- The key of a method. A method without an owner is found by its name alone. -/
def MethodDecl.key (m : MethodDecl) : MemberKey :=
  match m.owner with
  | some owner => ⟨some owner, m.scope, m.name⟩
  | none => ⟨none, .onInstance, m.name⟩

/-- The types and methods of a snapshot. The latest definition of a method stands first in `members`. -/
structure Index where
  types : List (String × TypeEntry)
  members : List (MemberKey × Nat)
  methods : List MethodDecl

/-- The methods by their keys, the latest first, where `n` is the number of the first method. -/
def memberTable (n : Nat) (table : List (MemberKey × Nat)) : List MethodDecl → List (MemberKey × Nat)
  | [] => table
  | m :: ms => memberTable (n + 1) ((m.key, n) :: table) ms

/-- Which of a member's tags is asked for. -/
inductive TagSelector where
  | returned
  | param (name : String)
  deriving DecidableEq, Repr

/-- The tag of a method that is asked for. -/
def MethodDecl.tag? (m : MethodDecl) : TagSelector → Option String
  | .returned => m.returnTag?
  | .param param => m.paramTag? param

namespace Index

def ofSnapshot (s : Snapshot) : Index where
  types := s.methods.foldl declareOwner (s.types.foldl declareType coreTypes)
  members := memberTable 0 [] s.methods
  methods := s.methods

def entry? (ix : Index) (name : String) : Option TypeEntry :=
  ix.types.lookup name

def contains (ix : Index) (name : String) : Bool :=
  (ix.entry? name).isSome

def kind? (ix : Index) (name : String) : Option TypeKind :=
  (ix.entry? name).map TypeEntry.kind

def superclass? (ix : Index) (name : String) : Option String :=
  (ix.entry? name).bind TypeEntry.superclass

/-- The modules that a type includes, in order. -/
def mixins (ix : Index) (name : String) : List String :=
  (ix.entry? name).elim [] TypeEntry.includes

/-- The superclass and then the included modules. -/
def ancestors (ix : Index) (name : String) : List String :=
  (ix.superclass? name).toList ++ ix.mixins name

/-- The names of the types in increasing order. -/
def typeNames (ix : Index) : List String :=
  (ix.types.map Prod.fst).mergeSort fun a b => decide (a ≤ b)

/-- The number of the method that the type itself defines. -/
def member? (ix : Index) (owner name : String) (scope : MethodScope) : Option Nat :=
  ix.members.lookup ⟨some owner, scope, name⟩

/-- The number of the method of that name without an owner. -/
def topLevel? (ix : Index) (name : String) : Option Nat :=
  ix.members.lookup ⟨none, .onInstance, name⟩

/-- Whether the type itself has the method, by a declaration or as a core method. -/
def declares (ix : Index) (owner name : String) (scope : MethodScope) : Bool :=
  (ix.member? owner name scope).isSome ||
    (scope == .onInstance && (ix.entry? owner).any fun entry => entry.coreMethods.contains name)

/-- The tag that the type itself writes for a member. -/
def tag? (ix : Index) (owner name : String) (scope : MethodScope) (selector : TagSelector) :
    Option String := do
  let n ← ix.member? owner name scope
  let m ← ix.methods[n]?
  m.tag? selector

end Index

end TagCheck
