import TagCheck.Toml.Basic

/-!
# Writing TOML

A string is written in the plainest form that keeps its characters as they are: on one line or over several,
and with escapes between double quotes or without any between single quotes. If none does, it has escapes.
An array with more than one item has one item on a line.
-/

namespace TagCheck

namespace Toml

/-- The forms of a string: with escapes or as it is, on one line or over several. -/
inductive StringForm where
  | basic
  | literal
  | longBasic
  | longLiteral
  deriving DecidableEq, Repr

def isControl (c : Char) : Bool :=
  c.toNat < 0x20 || c.toNat == 0x7f

/-- The length of the longest run of `q` in a text, after a run of `n`. -/
def longestRun (q : Char) (n : Nat) : List Char → Nat
  | [] => n
  | c :: cs => if c == q then longestRun q (n + 1) cs else max n (longestRun q 0 cs)

/-- The form in which a string is written. -/
def formOf (cs : List Char) : StringForm :=
  let newline := cs.contains '\n'
  let backslash := cs.contains '\\'
  if cs.any fun c => isControl c && c != '\t' && c != '\n' then
    if newline then .longBasic else .basic
  else if !newline && !backslash && !cs.contains '"' then .basic
  else if !newline && !cs.contains '\'' then .literal
  else if !backslash && longestRun '"' 0 cs ≤ 2 then .longBasic
  else if longestRun '\'' 0 cs ≤ 2 then .longLiteral
  else if newline then .longBasic else .basic

def hexDigit (n : Nat) : Char :=
  if n < 10 then Char.ofNat (48 + n) else Char.ofNat (55 + n)

/-- A character other than a quote between double quotes. -/
def escaped (long : Bool) (c : Char) : List Char :=
  match c with
  | '\x08' => ['\\', 'b']
  | '\t' => ['\\', 't']
  | '\n' => if long then ['\n'] else ['\\', 'n']
  | '\x0c' => ['\\', 'f']
  | '\r' => ['\\', 'r']
  | '\\' => ['\\', '\\']
  | c =>
    if isControl c then ['\\', 'u', '0', '0', hexDigit (c.toNat / 16), hexDigit (c.toNat % 16)] else [c]

/-- A text between double quotes, after `run` quotes of the text. Over several lines two quotes in a row may
stand as they are. -/
def escapedText (long : Bool) (run : Nat) : List Char → List Char
  | [] => []
  | c :: cs =>
    if c == '"' then
      if long && run < 2 then '"' :: escapedText long (run + 1) cs
      else '\\' :: '"' :: escapedText long 0 cs
    else escaped long c ++ escapedText long 0 cs

/-- A string with its quotes. A string of several lines starts on a line of its own. -/
def quoted (s : String) : String :=
  let cs := s.toList
  let start := if cs.contains '\n' then "\n" else ""
  match formOf cs with
  | .basic => "\"" ++ String.ofList (escapedText false 0 cs) ++ "\""
  | .literal => "'" ++ s ++ "'"
  | .longBasic => "\"\"\"" ++ start ++ String.ofList (escapedText true 0 cs) ++ "\"\"\""
  | .longLiteral => "'''" ++ start ++ s ++ "'''"

/-- An array of strings. -/
def quotedList : List String → String
  | [] => "[]"
  | [s] => "[" ++ quoted s ++ "]"
  | ss => "[\n" ++ String.join (ss.map fun s => "    " ++ quoted s ++ ",\n") ++ "]"

end Toml

end TagCheck
