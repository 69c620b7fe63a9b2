import TagCheck.Location
import TagCheck.Snapshot.Expr
import TagCheck.Text.Blank

/-!
# Snapshots

A snapshot holds what the checker is told of one unit of source text: classes and modules, methods with
the tags of their documentation comments, assignments with a type comment, and call sites. A tag that is
blank counts as not written.
-/

namespace TagCheck

inductive TypeKind where
  | classType
  | moduleType
  deriving DecidableEq, Repr

/-- Whether a method belongs to the instances of its owner or to the owner itself. -/
inductive MethodScope where
  | onInstance
  | onClass
  deriving DecidableEq, Repr

structure SourceText where
  path : String
  text : String
  deriving DecidableEq, Repr

/-- A class or module, and what it inherits from. -/
structure TypeDecl where
  name : String
  kind : TypeKind := .classType
  superclass : Option String := none
  includes : List String := []
  span : Span := {}

inductive ParamKind where
  /-- `a` -/
  | required
  /-- `a = 1` -/
  | optional
  /-- `*a` -/
  | rest
  /-- `a:` -/
  | keyword
  /-- `a: 1` -/
  | optionalKeyword
  /-- `**a` -/
  | doubleRest
  /-- `&a` -/
  | block
  deriving DecidableEq, Repr

namespace ParamKind

def isPositional : ParamKind → Bool
  | .required | .optional => true
  | _ => false

def isKeyword : ParamKind → Bool
  | .keyword | .optionalKeyword => true
  | _ => false

end ParamKind

structure ParamDecl where
  name : String
  kind : ParamKind
  deriving DecidableEq, Repr

/-- The documented type of a parameter. -/
structure ParamTag where
  name : String
  text : String
  deriving DecidableEq, Repr

/-- A method with its tags. `body` lists the expressions that it may return, and `params` is absent if
its parameters are not known. -/
structure MethodDecl where
  owner : Option String := none
  name : String
  scope : MethodScope := .onInstance
  params : Option (List ParamDecl) := some []
  paramTags : List ParamTag := []
  returnTag : Option String := none
  body : List Expr := []
  span : Span := {}

/-- The text unless it is blank. -/
def written? (text : String) : Option String :=
  if isBlankText text then none else some text

namespace MethodDecl

/-- The text of the first tag for a parameter, unless that tag is blank. -/
def paramTag? (m : MethodDecl) (param : String) : Option String :=
  (m.paramTags.find? fun tag => tag.name == param).bind fun tag => written? tag.text

def returnTag? (m : MethodDecl) : Option String :=
  m.returnTag.bind written?

/-- `Owner#name`, `Owner.name`, or the name alone for a method without an owner. -/
def path (m : MethodDecl) : String :=
  match m.owner, m.scope with
  | some owner, .onInstance => owner ++ "#" ++ m.name
  | some owner, .onClass => owner ++ "." ++ m.name
  | none, _ => m.name

end MethodDecl

/-- An assignment with the documented type of its variable. -/
structure Assignment where
  name : String
  tag : String
  value : Expr
  /-- The class or module that the assignment stands in. -/
  within : Option String := none
  span : Span := {}

structure KeywordArg where
  name : String
  value : Expr

structure CallSite where
  receiver : Option Expr := none
  method : String
  args : List Expr := []
  kwargs : List KeywordArg := []
  /-- The class or module that the call stands in. -/
  within : Option String := none
  span : Span := {}

structure Snapshot where
  source : Option SourceText := none
  types : List TypeDecl := []
  methods : List MethodDecl := []
  assignments : List Assignment := []
  calls : List CallSite := []

end TagCheck
