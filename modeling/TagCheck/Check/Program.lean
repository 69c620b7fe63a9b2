import TagCheck.Inference
import TagCheck.Settings.Basic
import TagCheck.Signature.Basic

/-!
# Programs under check

A program is a snapshot with the lineages of its types and the methods that each of its calls reaches. A
task is a program with the settings to check it under. What a tag means and which parameters a method has
depend on the task alone.
-/

namespace TagCheck

structure Program where
  snapshot : Snapshot
  ancestry : Ancestry
  /-- The numbers of the methods that a call reaches, the nearest first. -/
  callees : CallSite → List Nat

def Program.ofSnapshot (s : Snapshot) : Program :=
  let ancestry := Ancestry.ofIndex (.ofSnapshot s)
  ⟨s, ancestry, ancestry.callees none⟩

/-- Why a snapshot cannot be checked. -/
inductive CheckError where
  /-- A call reaches a method whose parameters are not known. -/
  | missingSignature (path : String)
  /-- A call reaches a method that the snapshot does not have. -/
  | unknownMethod (n : Nat)
  deriving DecidableEq, Repr

def CheckError.message : CheckError → String
  | .missingSignature path => "method " ++ path ++ " has no parameter list"
  | .unknownMethod n => "call resolved to unknown method #" ++ toString n

/-- A tag as it is read: the declaration that needs it, the namespace of its names, and its text. -/
structure TagKey where
  anchor : Anchor
  within : Option String
  text : String
  deriving DecidableEq, Repr

structure Task where
  program : Program
  settings : Settings

namespace Task

def ancestry (t : Task) : Ancestry :=
  t.program.ancestry

/-- What a tag means: `self` is the namespace around it. -/
def resolution (t : Task) (key : TagKey) : Resolution :=
  let type := DocType.parse key.text
  let type := key.within.elim type fun ns => type.replaceSelf ns
  Scope.resolve ⟨t.ancestry.index, key.within, t.settings.builtins⟩ type

/-- A tag of a method: its own, or that of the nearest ancestor which has one, and then that ancestor. -/
def tagInEffect? (t : Task) (selector : TagSelector) (m : MethodDecl) : Option (String × Option String) :=
  match m.tag? selector with
  | some text => some (text, none)
  | none => do
    let owner ← m.owner
    let (ancestor, text) ← t.ancestry.nearestTag? owner m.name m.scope selector true
    return (text, some ancestor)

def paramTag? (t : Task) (m : MethodDecl) (param : String) : Option (String × Option String) :=
  t.tagInEffect? (.param param) m

def returnTag? (t : Task) (m : MethodDecl) : Option (String × Option String) :=
  t.tagInEffect? .returned m

/-- The signature of a method by its number. -/
def signature (t : Task) (n : Nat) : Except CheckError Signature :=
  match t.program.snapshot.methods[n]? with
  | none => .error (.unknownMethod n)
  | some m =>
    match m.params with
    | none => .error (.missingSignature m.path)
    | some params => .ok (.build n m params (t.paramTag? m))

end Task

end TagCheck
