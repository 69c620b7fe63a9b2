import TagCheck.DocType.Parser
import TagCheck.Snapshot.Basic

/-!
# Signatures

The parameters of a method together with their documented types, which the method writes itself or
inherits.
-/

namespace TagCheck

structure Parameter where
  name : String
  kind : ParamKind
  /-- The text of the tag, own or inherited. -/
  tag : Option String
  /-- The type that the text spells. -/
  declared : DocType
  /-- The ancestor that writes the tag, unless the method does itself. -/
  inheritedFrom : Option String

namespace Parameter

def isTyped (p : Parameter) : Bool :=
  !p.declared.isUnchecked

/-- The parameter as a method head shows it, with its tag in brackets. -/
def text (p : Parameter) : String :=
  let head := match p.kind with
    | .required => p.name
    | .optional => p.name ++ " = ..."
    | .rest => "*" ++ p.name
    | .keyword => p.name ++ ":"
    | .optionalKeyword => p.name ++ ": ..."
    | .doubleRest => "**" ++ p.name
    | .block => "&" ++ p.name
  head ++ p.tag.elim "" fun tag => " [" ++ tag ++ "]"

end Parameter

structure Signature where
  /-- The number of the method. -/
  method : Nat
  path : String
  owner : Option String
  params : List Parameter

namespace Signature

/-- The parameter with the tag that was found for it, if any, and the ancestor that writes it. -/
def parameter (p : ParamDecl) (tag : Option (String × Option String)) : Parameter where
  name := p.name
  kind := p.kind
  tag := tag.map Prod.fst
  declared := tag.elim .absent fun (text, _) => .parse text
  inheritedFrom := tag.bind Prod.snd

/-- The signature of method number `n` with the given parameters. `tagFor` finds the tag of a parameter,
and the ancestor that writes it. -/
def build (n : Nat) (m : MethodDecl) (params : List ParamDecl)
    (tagFor : String → Option (String × Option String)) : Signature where
  method := n
  path := m.path
  owner := m.owner
  params := params.map fun p => parameter p (tagFor p.name)

/-- The parameters, separated by commas. -/
def paramsText (s : Signature) : String :=
  ", ".intercalate (s.params.map Parameter.text)

/-- Whether keyword arguments are told apart by their names. -/
def hasKeywords (s : Signature) : Bool :=
  s.params.any fun p => p.kind.isKeyword || p.kind == .doubleRest

end Signature

end TagCheck
