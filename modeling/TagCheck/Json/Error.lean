import TagCheck.Json.Basic
import TagCheck.Text.Quoted

/-!
# Errors of documents

What can be wrong with a document: its text cannot be read, or something else stands where a value of some
kind was expected.
-/

namespace TagCheck

/-- What stands where something else was expected. -/
inductive Found where
  | null
  | bool (b : Bool)
  | int (n : Int)
  | float (text : String)
  | str (s : String)
  | sequence
  | map
  deriving DecidableEq, Repr

def Found.text : Found → String
  | .null => "null"
  | .bool b => "boolean `" ++ (if b then "true" else "false") ++ "`"
  | .int n => "integer `" ++ toString n ++ "`"
  | .float text => "floating point `" ++ text ++ "`"
  | .str s => "string " ++ quote s
  | .sequence => "sequence"
  | .map => "map"

/-- Why a value of a document is not what was expected there. -/
inductive DecodeError where
  | unreadable (fault : Fault)
  | missingField (name : String)
  | duplicateField (name : String)
  | unknownVariant (name : String) (known : List String)
  | invalidType (found : Found) (expected : String)
  | invalidValue (n : Int) (expected : String)
  | invalidLength (n : Nat) (expected : String)
  deriving DecidableEq, Repr

namespace DecodeError

/-- The names of the choices that there are. -/
def choices : List String → String
  | [a] => "`" ++ a ++ "`"
  | [a, b] => "`" ++ a ++ "` or `" ++ b ++ "`"
  | names => "one of " ++ ", ".intercalate (names.map fun a => "`" ++ a ++ "`")

/-- What is wrong with the document. A fault of the text itself has no message. -/
def message? : DecodeError → Option String
  | .unreadable _ => none
  | .missingField name => some ("missing field `" ++ name ++ "`")
  | .duplicateField name => some ("duplicate field `" ++ name ++ "`")
  | .unknownVariant name known =>
    some ("unknown variant `" ++ name ++ "`, expected " ++ choices known)
  | .invalidType found expected => some ("invalid type: " ++ found.text ++ ", expected " ++ expected)
  | .invalidValue n expected =>
    some ("invalid value: integer `" ++ toString n ++ "`, expected " ++ expected)
  | .invalidLength n expected => some ("invalid length " ++ toString n ++ ", expected " ++ expected)

end DecodeError

end TagCheck
