/-!
# Styled text

Text for a terminal. A styled text stands between the escape code that switches its style on and the one
that switches all styles off; where the text itself switches styles off, its own style is switched on again.
-/

namespace TagCheck

inductive Color where
  | red
  | yellow
  | blue
  | cyan
  deriving DecidableEq, Repr

def Color.code : Color → String
  | .red => "31"
  | .yellow => "33"
  | .blue => "34"
  | .cyan => "36"

/-- The escape code that switches all styles off. -/
def resetCode : List Char :=
  ['\x1b', '[', '0', 'm']

/-- The text with `code` after each place where it switches styles off. -/
def repeatAfterReset (code : List Char) : List Char → List Char
  | '\x1b' :: '[' :: '0' :: 'm' :: cs => resetCode ++ code ++ repeatAfterReset code cs
  | c :: cs => c :: repeatAfterReset code cs
  | [] => []

/-- Bold text, in a colour if one is given, or the plain text if styles are not enabled. -/
def bold (enabled : Bool) (color : Option Color) (text : String) : String :=
  if enabled then
    let code := ("\x1b[1" ++ color.elim "" (fun c => ";" ++ c.code) ++ "m").toList
    String.ofList (code ++ repeatAfterReset code text.toList ++ resetCode)
  else text

/-- The text with blanks at its end up to a width in characters. -/
def padRight (width : Nat) (text : String) : String :=
  text ++ String.ofList (List.replicate (width - text.length) ' ')

end TagCheck
