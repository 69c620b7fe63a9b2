import TagCheck.Text.Unprintable

/-!
# Quoted text

A text between double quotes as messages and traces show it. The quote and the backslash have a
backslash before them, line ends, tabs and the null character have a letter or digit, and unprintable
characters stand by their number in braces.
-/

namespace TagCheck

/-- A character inside double quotes. -/
def quoteChar (c : Char) : String :=
  if c == '"' then "\\\""
  else if c == '\\' then "\\\\"
  else if c == '\n' then "\\n"
  else if c == '\r' then "\\r"
  else if c == '\t' then "\\t"
  else if c.toNat == 0 then "\\0"
  else if CharClass.unprintable.contains c then
    "\\u\x7b" ++ String.ofList (Nat.toDigits 16 c.toNat) ++ "\x7d"
  else c.toString

/-- The text between double quotes. -/
def quote (text : String) : String :=
  "\"" ++ String.join (text.toList.map quoteChar) ++ "\""

/-- A list of quoted texts between square brackets. -/
def quoteList (texts : List String) : String :=
  "[" ++ ", ".intercalate (texts.map quote) ++ "]"

end TagCheck
