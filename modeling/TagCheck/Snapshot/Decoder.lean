import TagCheck.Json.Decoder
import TagCheck.Snapshot.Basic

/-!
# Decoding a snapshot

The JSON form of a snapshot. Records follow the rules of `Fields`. An expression is an object whose field
`kind` names its form; the object is read as a whole, and after that the fields of that form are decoded.
-/

namespace TagCheck

def TypeKind.table : List (String × TypeKind) :=
  [("class", .classType), ("module", .moduleType)]

def MethodScope.table : List (String × MethodScope) :=
  [("instance", .onInstance), ("class", .onClass)]

def ParamKind.table : List (String × ParamKind) :=
  [("required", .required), ("optional", .optional), ("rest", .rest), ("keyword", .keyword),
    ("optional_keyword", .optionalKeyword), ("double_rest", .doubleRest), ("block", .block)]

namespace Decode

def span : Decode Span :=
  Fields.decode "Span" <| Span.mk
    <$> .required "start" word32
    <*> .required "end" word32
    <*> .withDefault "file" 0 word32

/-! ### Expressions -/

/-- The forms of an expression, by the names that the field `kind` gives them. -/
inductive ExprForm where
  | literal
  | nil
  | new
  | const
  | selfRef
  | call
  | typed
  | unknown

def ExprForm.table : List (String × ExprForm) :=
  [("literal", .literal), ("nil", .nil), ("new", .new), ("const", .const), ("self_ref", .selfRef),
    ("call", .call), ("typed", .typed), ("unknown", .unknown)]

/-- The form that the field `kind` names. Inside another expression its number will do. -/
def exprForm (inner : Bool) : Decode ExprForm
  | .str name => chosen ExprForm.table name
  | .int n =>
    if inner && 0 ≤ n then
      match ExprForm.table[n.toNat]? with
      | some (_, form) => pure form
      | none => throw (.invalidValue n "variant index 0 <= i < 8")
    else throw (.invalidType (.int n) "variant identifier")
  | v => mismatch "variant identifier" v

/-- The error of a value that cannot be read as a whole. -/
def checkReadable (v : Json) : Except DecodeError Unit :=
  match v.readFault? with
  | some fault => throw (.unreadable fault)
  | none => pure ()

/-- The form of an expression written as an object; every other field has to be readable. -/
def formOfFields (inner : Bool) (form : Option ExprForm) :
    List (String × Json) → Except DecodeError (Option ExprForm)
  | [] => pure form
  | (key, v) :: rest =>
    if key == "kind" then
      if form.isSome then throw (.duplicateField "kind")
      else do
        let form ← exprForm inner v
        formOfFields inner (some form) rest
    else do
      checkReadable v
      formOfFields inner form rest

/-- A form without fields. -/
def plain (e : Expr) : Fields Expr where
  names := []
  read _ _ := .ok e

/-- The fields of a form, given the decoder of the expressions inside it. -/
def fieldsOfForm (expr : Decode Expr) : ExprForm → String × Fields Expr
  | .literal => ("Literal", Expr.literal <$> .required "type_name" text)
  | .nil => ("Nil", plain .nil)
  | .new => ("New", Expr.new <$> .required "class" text)
  | .const => ("Const", Expr.const <$> .required "name" text)
  | .selfRef => ("SelfRef", plain .selfRef)
  | .call => ("Call", Expr.callOn
      <$> .withDefault "receiver" none (nullable expr)
      <*> .required "method" text
      <*> .withDefault "args" [] (list expr))
  | .typed => ("Typed", Expr.typed <$> .required "annotation" text)
  | .unknown => ("Unknown", plain .unknown)

/-- The error of an array of more items than its form has fields. -/
def surplusItems (size n : Nat) : DecodeError :=
  .invalidLength n (toString size ++ (if size == 1 then " element" else " elements") ++ " in sequence")

/-- An expression nested to at most the given depth; `inner` tells that it stands inside another. -/
def exprWithin (inner : Bool) : Nat → Decode Expr
  | 0, v => mismatch "internally tagged enum Expr" v
  | depth + 1, .obj fields stop => do
    let form ← formOfFields inner none fields
    checkStop stop
    match form with
    | none => throw (.missingField "kind")
    | some form =>
      let (_, reader) := fieldsOfForm (exprWithin true depth) form
      reader.ofObject (fields.filter fun field => field.1 != "kind") none
  | _ + 1, .arr [] stop => do
    checkStop stop
    throw (.missingField "kind")
  | depth + 1, .arr (v :: items) stop => do
    let form ← exprForm inner v
    items.forM checkReadable
    checkStop stop
    let (name, reader) := fieldsOfForm (exprWithin true depth) form
    reader.ofArray ("struct variant Expr::" ++ name) (surplusItems reader.names.length) items none
  | _ + 1, v => mismatch "internally tagged enum Expr" v

def expr : Decode Expr :=
  fun v => exprWithin false (v.depth + 1) v

/-! ### Declarations -/

def sourceText : Decode SourceText :=
  Fields.decode "SourceText" <| SourceText.mk
    <$> .required "path" text
    <*> .required "text" text

def typeDecl : Decode TypeDecl :=
  Fields.decode "TypeDecl" <| TypeDecl.mk
    <$> .required "name" text
    <*> .withDefault "kind" .classType (choice TypeKind.table)
    <*> .withDefault "superclass" none (nullable text)
    <*> .withDefault "includes" [] (list text)
    <*> .withDefault "span" {} span

def paramDecl : Decode ParamDecl :=
  Fields.decode "ParamDecl" <| ParamDecl.mk
    <$> .required "name" text
    <*> .required "kind" (choice ParamKind.table)

def paramTag : Decode ParamTag :=
  Fields.decode "ParamTag" <| ParamTag.mk
    <$> .required "name" text
    <*> .required "text" text

def methodDecl : Decode MethodDecl :=
  Fields.decode "MethodDecl" <| MethodDecl.mk
    <$> .withDefault "owner" none (nullable text)
    <*> .required "name" text
    <*> .withDefault "scope" .onInstance (choice MethodScope.table)
    <*> .withDefault "params" (some []) (nullable (list paramDecl))
    <*> .withDefault "param_tags" [] (list paramTag)
    <*> .withDefault "return_tag" none (nullable text)
    <*> .withDefault "body" [] (list expr)
    <*> .withDefault "span" {} span

def assignment : Decode Assignment :=
  Fields.decode "TypedAssignment" <| Assignment.mk
    <$> .required "name" text
    <*> .required "annotation" text
    <*> .required "value" expr
    <*> .withDefault "namespace" none (nullable text)
    <*> .withDefault "span" {} span

def keywordArg : Decode KeywordArg :=
  Fields.decode "KeywordArg" <| KeywordArg.mk
    <$> .required "name" text
    <*> .required "value" expr

def callSite : Decode CallSite :=
  Fields.decode "CallSite" <| CallSite.mk
    <$> .withDefault "receiver" none (nullable expr)
    <*> .required "method" text
    <*> .withDefault "args" [] (list expr)
    <*> .withDefault "kwargs" [] (list keywordArg)
    <*> .withDefault "namespace" none (nullable text)
    <*> .withDefault "span" {} span

def snapshot : Decode Snapshot :=
  Fields.decode "SnapshotFile" <| Snapshot.mk
    <$> .withDefault "source" none (nullable sourceText)
    <*> .withDefault "types" [] (list typeDecl)
    <*> .withDefault "methods" [] (list methodDecl)
    <*> .withDefault "assignments" [] (list assignment)
    <*> .withDefault "calls" [] (list callSite)

end Decode

/-- The snapshot that a text spells; text after the document is noticed last. -/
def Snapshot.ofText (text : String) : Except DecodeError Snapshot := do
  let document := Document.read text
  let snapshot ← Decode.snapshot document.value
  if document.hasMore then throw (.unreadable .malformed)
  return snapshot

end TagCheck
