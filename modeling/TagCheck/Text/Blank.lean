import TagCheck.Text.CharClass

/-!
# Blank characters

The characters with the Unicode property `White_Space`, and texts cut free of them at both ends.
A text that holds nothing else counts as not written at all.
-/

namespace TagCheck

/-- The Unicode property `White_Space`. -/
def CharClass.blank : CharClass where
  ranges := [
    (0x0009, 0x000d), (0x0020, 0x0020), (0x0085, 0x0085), (0x00a0, 0x00a0), (0x1680, 0x1680),
    (0x2000, 0x200a), (0x2028, 0x2029), (0x202f, 0x202f), (0x205f, 0x205f), (0x3000, 0x3000)
  ]

def isBlank (c : Char) : Bool :=
  CharClass.blank.contains c

/-- The characters without the blank ones at either end. -/
def trimChars (cs : List Char) : List Char :=
  ((cs.dropWhile isBlank).reverse.dropWhile isBlank).reverse

/-- The text without the blank characters at either end. -/
def trim (text : String) : String :=
  String.ofList (trimChars text.toList)

/-- A text of blank characters only, the empty text included. -/
def isBlankText (text : String) : Bool :=
  (trimChars text.toList).isEmpty

end TagCheck
