/-!
# Expressions

The expressions that a method may return, that a variable is assigned or that a call passes.
-/

namespace TagCheck

inductive Expr where
  /-- A literal such as `'text'`, `100` or `:sym`, by its type. -/
  | literal (typeName : String)
  | nil
  /-- `Foo.new` -/
  | new (className : String)
  /-- A constant such as `Foo`. -/
  | const (name : String)
  | selfRef
  /-- `receiver.method(args)` -/
  | call (receiver : Expr) (method : String) (args : List Expr)
  /-- `method(args)` -/
  | send (method : String) (args : List Expr)
  /-- A value whose type is known, as the text of a documented type. -/
  | typed (text : String)
  | unknown
  deriving Inhabited

namespace Expr

/-- A call with or without a receiver. -/
def callOn (receiver : Option Expr) (method : String) (args : List Expr) : Expr :=
  match receiver with
  | some r => .call r method args
  | none => .send method args

end Expr

end TagCheck
