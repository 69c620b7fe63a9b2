import TagCheck.Json.Basic

/-!
# Writing a document

The text of a JSON value on one line. A place that could not be read is written as `null`.
-/

namespace TagCheck

namespace Json

def hexDigit (n : Nat) : Char :=
  Nat.digitChar (n % 16)

/-- A character inside a JSON string. -/
def escapeChar (c : Char) : List Char :=
  if c == '"' then ['\\', '"']
  else if c == '\\' then ['\\', '\\']
  else if c == '\n' then ['\\', 'n']
  else if c == '\r' then ['\\', 'r']
  else if c == '\t' then ['\\', 't']
  else if c.toNat < 0x20 then ['\\', 'u', '0', '0', hexDigit (c.toNat / 16), hexDigit c.toNat]
  else [c]

def stringText (s : String) : String :=
  "\"" ++ String.ofList (s.toList.flatMap escapeChar) ++ "\""

mutual

def render : Json → String
  | .null => "null"
  | .bool b => if b then "true" else "false"
  | .int n => toString n
  | .float text => text
  | .str s => stringText s
  | .arr items _ => "[" ++ ",".intercalate (renderItems items) ++ "]"
  | .obj fields _ => "\x7b" ++ ",".intercalate (renderFields fields) ++ "\x7d"
  | .broken _ => "null"

def renderItems : List Json → List String
  | [] => []
  | v :: vs => render v :: renderItems vs

def renderFields : List (String × Json) → List String
  | [] => []
  | (key, v) :: fields => (stringText key ++ ":" ++ render v) :: renderFields fields

end

end Json

end TagCheck
