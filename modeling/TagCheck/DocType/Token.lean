import TagCheck.Text.Alphanumeric
import TagCheck.Text.Blank

/-!
# Tokens of a documented type

The text of a documented type is a row of names and marks. A name is a maximal run of name characters,
the arrow `=>` is written without a gap, and blank characters may stand between any two tokens.
-/

namespace TagCheck

inductive Token where
  | name (text : String)
  | comma
  | bar
  | less
  | greater
  | leftBrace
  | arrow
  | rightBrace
  | leftParen
  | rightParen
  | question
  /-- A character that no documented type has at this place. -/
  | stray (c : Char)
  deriving DecidableEq, Repr

namespace Token

/-- The name read so far, its characters in reverse, if there is one. -/
def pending (run : List Char) : List Token :=
  if run.isEmpty then [] else [.name (String.ofList run.reverse)]

/-- The mark that a single character stands for. -/
def ofMark : Char → Token
  | ',' => .comma
  | '|' => .bar
  | '<' => .less
  | '>' => .greater
  | '\x7b' => .leftBrace
  | '\x7d' => .rightBrace
  | '(' => .leftParen
  | ')' => .rightParen
  | '?' => .question
  | c => .stray c

/-- The tokens of a text, where `run` is the name under way, its characters in reverse. -/
def scanFrom (run : List Char) : List Char → List Token
  | [] => pending run
  | '=' :: '>' :: cs => pending run ++ .arrow :: scanFrom [] cs
  | c :: cs =>
    if isNameChar c then scanFrom (c :: run) cs
    else if isBlank c then pending run ++ scanFrom [] cs
    else pending run ++ ofMark c :: scanFrom [] cs

def scan (cs : List Char) : List Token :=
  scanFrom [] cs

end Token

end TagCheck
