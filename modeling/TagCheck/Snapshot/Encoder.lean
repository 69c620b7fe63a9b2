import TagCheck.Json.Basic
import TagCheck.Snapshot.Basic
import TagCheck.Snapshot.Decoder

/-!
# Encoding a snapshot

The JSON form of a snapshot with every field written, in the order of the records' descriptions.
-/

namespace TagCheck

namespace Encode

/-- The name of a choice. -/
def choice {α : Type} [DecidableEq α] (table : List (String × α)) (a : α) : Json :=
  .text? ((table.find? fun entry => entry.2 == a).map Prod.fst)

def list {α : Type} (encode : α → Json) (as : List α) : Json :=
  .array (as.map encode)

def nullable {α : Type} (encode : α → Json) (a : Option α) : Json :=
  a.elim .null encode

def word32 (n : UInt32) : Json :=
  .int n.toNat

def span (s : Span) : Json :=
  .object [("start", word32 s.start), ("end", word32 s.stop), ("file", word32 s.file)]

mutual

def expr : Expr → Json
  | .literal typeName => .object [("kind", .str "literal"), ("type_name", .str typeName)]
  | .nil => .object [("kind", .str "nil")]
  | .new className => .object [("kind", .str "new"), ("class", .str className)]
  | .const name => .object [("kind", .str "const"), ("name", .str name)]
  | .selfRef => .object [("kind", .str "self_ref")]
  | .call receiver method args => .object [("kind", .str "call"), ("receiver", expr receiver),
      ("method", .str method), ("args", .array (exprs args))]
  | .send method args => .object [("kind", .str "call"), ("receiver", .null), ("method", .str method),
      ("args", .array (exprs args))]
  | .typed text => .object [("kind", .str "typed"), ("annotation", .str text)]
  | .unknown => .object [("kind", .str "unknown")]

def exprs : List Expr → List Json
  | [] => []
  | e :: es => expr e :: exprs es

end

def sourceText (s : SourceText) : Json :=
  .object [("path", .str s.path), ("text", .str s.text)]

def typeDecl (t : TypeDecl) : Json :=
  .object [("name", .str t.name), ("kind", choice TypeKind.table t.kind),
    ("superclass", .text? t.superclass), ("includes", list .str t.includes), ("span", span t.span)]

def paramDecl (p : ParamDecl) : Json :=
  .object [("name", .str p.name), ("kind", choice ParamKind.table p.kind)]

def paramTag (t : ParamTag) : Json :=
  .object [("name", .str t.name), ("text", .str t.text)]

def methodDecl (m : MethodDecl) : Json :=
  .object [("owner", .text? m.owner), ("name", .str m.name),
    ("scope", choice MethodScope.table m.scope), ("params", nullable (list paramDecl) m.params),
    ("param_tags", list paramTag m.paramTags), ("return_tag", .text? m.returnTag),
    ("body", list expr m.body), ("span", span m.span)]

def assignment (a : Assignment) : Json :=
  .object [("name", .str a.name), ("annotation", .str a.tag), ("value", expr a.value),
    ("namespace", .text? a.within), ("span", span a.span)]

def keywordArg (a : KeywordArg) : Json :=
  .object [("name", .str a.name), ("value", expr a.value)]

def callSite (c : CallSite) : Json :=
  .object [("receiver", nullable expr c.receiver), ("method", .str c.method), ("args", list expr c.args),
    ("kwargs", list keywordArg c.kwargs), ("namespace", .text? c.within), ("span", span c.span)]

def snapshot (s : Snapshot) : Json :=
  .object [("source", nullable sourceText s.source), ("types", list typeDecl s.types),
    ("methods", list methodDecl s.methods), ("assignments", list assignment s.assignments),
    ("calls", list callSite s.calls)]

end Encode

end TagCheck
