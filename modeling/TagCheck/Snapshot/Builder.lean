import TagCheck.Snapshot.Basic

/-!
# Building snapshots

Snapshots and their declarations put together step by step.
-/

namespace TagCheck

namespace MethodDecl

/-- A method of the instances of a class or module. -/
def onInstance (owner name : String) : MethodDecl :=
  { owner := some owner, name := name }

/-- A method of a class or module itself. -/
def onClass (owner name : String) : MethodDecl :=
  { owner := some owner, name := name, scope := .onClass }

/-- A method without an owner. -/
def topLevel (name : String) : MethodDecl :=
  { name := name }

/-- The method without a parameter list. -/
def withoutParams (m : MethodDecl) : MethodDecl :=
  { m with params := none }

/-- The method with one more parameter. It gets a parameter list if it had none. -/
def addParam (m : MethodDecl) (p : ParamDecl) : MethodDecl :=
  { m with params := some (m.params.getD [] ++ [p]) }

def addParams (m : MethodDecl) (ps : List ParamDecl) : MethodDecl :=
  ps.foldl addParam m

end MethodDecl

namespace CallSite

/-- A call of a method without a receiver. -/
def ofMethod (method : String) : CallSite :=
  { method := method }

/-- The call on a new instance of a class. -/
def onNew (c : CallSite) (className : String) : CallSite :=
  { c with receiver := some (.new className) }

end CallSite

namespace Snapshot

def addType (s : Snapshot) (t : TypeDecl) : Snapshot :=
  { s with types := s.types ++ [t] }

def addMethod (s : Snapshot) (m : MethodDecl) : Snapshot :=
  { s with methods := s.methods ++ [m] }

def addAssignment (s : Snapshot) (a : Assignment) : Snapshot :=
  { s with assignments := s.assignments ++ [a] }

def addCall (s : Snapshot) (c : CallSite) : Snapshot :=
  { s with calls := s.calls ++ [c] }

end Snapshot

end TagCheck
