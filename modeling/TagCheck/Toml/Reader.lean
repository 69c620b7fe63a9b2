import TagCheck.Toml.Basic
import TagCheck.Toml.Scalar

/-!
# Reading TOML

A document is a row of lines, each with a key and its value or with the header of a table, and with a
comment at its end if need be.
-/

namespace TagCheck

namespace Toml

def isGap (c : Char) : Bool :=
  c == ' ' || c == '\t'

def skipGaps (cs : List Char) : List Char :=
  cs.dropWhile isGap

/-- A character that may stand in a comment or, quotes and backslashes apart, in a string. -/
def isPlain (c : Char) : Bool :=
  c == '\t' || (0x20 ≤ c.toNat && c.toNat != 0x7f)

/-- The text after a comment, if one stands in front. -/
def skipComment : List Char → List Char
  | '#' :: cs => cs.dropWhile isPlain
  | cs => cs

/-- The text after a newline in front. -/
def newline? : List Char → Option (List Char)
  | '\n' :: cs => some cs
  | '\r' :: '\n' :: cs => some cs
  | _ => none

/-! ### Strings -/

def hexNat? (cs : List Char) : Option Nat :=
  if cs.all isHexDigit then some (valueInBase 16 cs) else none

/-- The character of a number, which must not be half of a surrogate pair. -/
def charOf? (n : Nat) : Option Char :=
  if n.isValidChar then some (Char.ofNat n) else none

/-- The character of an escape whose backslash has been read. -/
def escapeAt : List Char → Except TomlError (Char × List Char)
  | 'b' :: cs => .ok ('\x08', cs)
  | 't' :: cs => .ok ('\t', cs)
  | 'n' :: cs => .ok ('\n', cs)
  | 'f' :: cs => .ok ('\x0c', cs)
  | 'r' :: cs => .ok ('\r', cs)
  | '"' :: cs => .ok ('"', cs)
  | '\\' :: cs => .ok ('\\', cs)
  | 'u' :: a :: b :: c :: d :: cs =>
    match (hexNat? [a, b, c, d]).bind charOf? with
    | some c => .ok (c, cs)
    | none => .error .malformed
  | 'U' :: a :: b :: c :: d :: e :: f :: g :: h :: cs =>
    match (hexNat? [a, b, c, d, e, f, g, h]).bind charOf? with
    | some c => .ok (c, cs)
    | none => .error .malformed
  | _ => .error .malformed

/-- The rest of a string on one line between double quotes. -/
def basicAt : Nat → List Char → Except TomlError (List Char × List Char)
  | 0, _ => .error .malformed
  | _ + 1, [] => .error .malformed
  | _ + 1, '"' :: cs => .ok ([], cs)
  | fuel + 1, '\\' :: cs => do
    let (c, cs) ← escapeAt cs
    let (s, cs) ← basicAt fuel cs
    return (c :: s, cs)
  | fuel + 1, c :: cs =>
    if isPlain c then do
      let (s, cs) ← basicAt fuel cs
      return (c :: s, cs)
    else .error .malformed

/-- The rest of a string on one line between single quotes. -/
def literalAt : List Char → Except TomlError (List Char × List Char)
  | [] => .error .malformed
  | '\'' :: cs => .ok ([], cs)
  | c :: cs =>
    if isPlain c then do
      let (s, cs) ← literalAt cs
      return (c :: s, cs)
    else .error .malformed

/-- The end of a string over several lines: three quotes, with at most two quotes of the string before
them. -/
def closing? (q : Char) (cs : List Char) : Option (List Char × List Char) :=
  let quotes := cs.takeWhile (· == q)
  if quotes.length < 3 then none
  else
    let inside := min 2 (quotes.length - 3)
    some (List.replicate inside q, cs.drop (inside + 3))

/-- The text after blanks and newlines. -/
def skipBlankLines : List Char → List Char
  | [] => []
  | '\r' :: '\n' :: cs => skipBlankLines cs
  | c :: cs => if isGap c || c == '\n' then skipBlankLines cs else c :: cs

/-- The text after a backslash that ends a line, without the blanks and newlines that follow it. -/
def lineEnd? (cs : List Char) : Option (List Char) :=
  (newline? (skipGaps cs)).map skipBlankLines

/-- The rest of a string over several lines between double quotes. -/
def longBasicAt : Nat → List Char → Except TomlError (List Char × List Char)
  | 0, _ => .error .malformed
  | fuel + 1, cs =>
    match closing? '"' cs with
    | some (quotes, rest) => .ok (quotes, rest)
    | none =>
      match newline? cs with
      | some rest => do
        let (s, rest) ← longBasicAt fuel rest
        return ('\n' :: s, rest)
      | none =>
        match cs with
        | [] => .error .malformed
        | '\\' :: rest =>
          match lineEnd? rest with
          | some rest => longBasicAt fuel rest
          | none => do
            let (c, rest) ← escapeAt rest
            let (s, rest) ← longBasicAt fuel rest
            return (c :: s, rest)
        | c :: rest =>
          if isPlain c then do
            let (s, rest) ← longBasicAt fuel rest
            return (c :: s, rest)
          else .error .malformed

/-- The rest of a string over several lines between single quotes. -/
def longLiteralAt : Nat → List Char → Except TomlError (List Char × List Char)
  | 0, _ => .error .malformed
  | fuel + 1, cs =>
    match closing? '\'' cs with
    | some (quotes, rest) => .ok (quotes, rest)
    | none =>
      match newline? cs with
      | some rest => do
        let (s, rest) ← longLiteralAt fuel rest
        return ('\n' :: s, rest)
      | none =>
        match cs with
        | [] => .error .malformed
        | c :: rest =>
          if isPlain c then do
            let (s, rest) ← longLiteralAt fuel rest
            return (c :: s, rest)
          else .error .malformed

/-- The text after a newline directly behind the opening quotes, which is not part of the string. -/
def dropFirstNewline (cs : List Char) : List Char :=
  (newline? cs).getD cs

/-- The characters that were read as a string. -/
def asText (r : Except TomlError (List Char × List Char)) : Except TomlError (String × List Char) :=
  r.map fun (cs, rest) => (String.ofList cs, rest)

/-- A string of any kind. -/
def stringAt (cs : List Char) : Except TomlError (String × List Char) :=
  match cs with
  | '"' :: '"' :: '"' :: cs => asText (longBasicAt (cs.length + 1) (dropFirstNewline cs))
  | '\'' :: '\'' :: '\'' :: cs => asText (longLiteralAt (cs.length + 1) (dropFirstNewline cs))
  | '"' :: cs => asText (basicAt (cs.length + 1) cs)
  | '\'' :: cs => asText (literalAt cs)
  | _ => .error .malformed

/-! ### Keys -/

def isBareKeyChar (c : Char) : Bool :=
  c.isAlphanum || c == '_' || c == '-'

/-- One part of a key. A quoted part stays on one line. -/
def keyPartAt (cs : List Char) : Except TomlError (String × List Char) :=
  match cs with
  | '"' :: cs => asText (basicAt (cs.length + 1) cs)
  | '\'' :: cs => asText (literalAt cs)
  | cs =>
    match cs.span isBareKeyChar with
    | ([], _) => .error .malformed
    | (run, rest) => .ok (String.ofList run, rest)

/-- The deepest level of arrays and inline tables, and the largest number of parts of a key. -/
def maxLevels : Nat := 79

/-- A key of up to the given number of parts, with dots between them. -/
def keyAt : Nat → List Char → Except TomlError (TomlKey × List Char)
  | 0, _ => .error .malformed
  | parts + 1, cs => do
    let (part, cs) ← keyPartAt (skipGaps cs)
    match skipGaps cs with
    | '.' :: cs => do
      let (key, cs) ← keyAt parts cs
      return (⟨part :: key.path, key.last⟩, cs)
    | cs => return (⟨[], part⟩, cs)

/-! ### Values -/

/-- The text after blanks, newlines and comments. -/
def skipLines : Nat → List Char → List Char
  | 0, cs => cs
  | fuel + 1, cs =>
    let cs := skipComment (skipGaps cs)
    match newline? cs with
    | some rest => skipLines fuel rest
    | none => cs

def isScalarChar (c : Char) : Bool :=
  c.isAlphanum || c == '_' || c == '+' || c == '-' || c == '.' || c == ':'

/-- A number, a truth value or a date. A date and a time may have a space between them. -/
def scalarAt (cs : List Char) : Except TomlError (Toml × List Char) :=
  let (run, rest) := cs.span isScalarChar
  let (run, rest) := match rest with
    | ' ' :: c :: more =>
      if isDate run && c.isDigit then
        let (time, rest) := (c :: more).span isScalarChar
        (run ++ ' ' :: time, rest)
      else (run, rest)
    | _ => (run, rest)
  if isScalar run then .ok (.scalar (String.ofList run), rest)
  else if isDateTime run || isTime run then .ok (.date (String.ofList run), rest)
  else .error .malformed

mutual

/-- A value, with arrays and inline tables of up to `levels` levels. -/
def valueAt : Nat → Nat → List Char → Except TomlError (Toml × List Char)
  | 0, _, _ => .error .malformed
  | fuel + 1, levels, cs =>
    match levels, cs with
    | _, '"' :: _ | _, '\'' :: _ => (stringAt cs).map fun (s, rest) => (.string s, rest)
    | 0, '[' :: _ | 0, '\x7b' :: _ => .error .malformed
    | levels + 1, '[' :: rest => do
      let (items, rest) ← itemsAt fuel levels rest
      return (.array items, rest)
    | levels + 1, '\x7b' :: rest =>
      match skipGaps rest with
      | '\x7d' :: rest => .ok (.table [], rest)
      | rest => do
        let (t, rest) ← pairsAt fuel levels .empty rest
        return (t.toToml, rest)
    | _, cs => scalarAt cs

/-- The items of an array up to its closing bracket. -/
def itemsAt : Nat → Nat → List Char → Except TomlError (List Toml × List Char)
  | 0, _, _ => .error .malformed
  | fuel + 1, levels, cs =>
    match skipLines cs.length cs with
    | ']' :: rest => .ok ([], rest)
    | cs => do
      let (v, rest) ← valueAt fuel levels cs
      match skipLines rest.length rest with
      | ',' :: rest => do
        let (vs, rest) ← itemsAt fuel levels rest
        return (v :: vs, rest)
      | ']' :: rest => return ([v], rest)
      | _ => .error .malformed

/-- The keys and values of an inline table from one key on. -/
def pairsAt : Nat → Nat → TomlTable → List Char → Except TomlError (TomlTable × List Char)
  | 0, _, _, _ => .error .malformed
  | fuel + 1, levels, t, cs => do
    let ((key, v), rest) ← pairAt fuel levels cs
    let t ← t.define key v
    match skipGaps rest with
    | ',' :: rest => pairsAt fuel levels t rest
    | '\x7d' :: rest => return (t, rest)
    | _ => .error .malformed

/-- A key and its value. -/
def pairAt : Nat → Nat → List Char → Except TomlError ((TomlKey × Toml) × List Char)
  | 0, _, _ => .error .malformed
  | fuel + 1, levels, cs => do
    let (key, rest) ← keyAt maxLevels cs
    match rest with
    | '=' :: rest => do
      let (v, rest) ← valueAt fuel levels (skipGaps rest)
      return ((key, v), rest)
    | _ => .error .malformed

end

/-! ### Documents -/

/-- The document so far, and the path of the table that the next keys belong to. -/
structure Draft where
  root : TomlTable := .empty
  path : List String := []

/-- The key of a header up to its closing brackets. -/
def headerAt (close cs : List Char) : Except TomlError (TomlKey × List Char) := do
  let (key, rest) ← keyAt maxLevels cs
  if close.isPrefixOf rest then return (key, rest.drop close.length) else .error .malformed

/-- The content of a line: a header, a key and its value, or nothing. -/
def lineAt (d : Draft) (cs : List Char) : Except TomlError (Draft × List Char) :=
  match skipGaps cs with
  | [] => .ok (d, [])
  | '[' :: '[' :: cs => do
    let (key, rest) ← headerAt [']', ']'] cs
    let root ← d.root.openRow key
    return (⟨root, key.parts⟩, rest)
  | '[' :: cs => do
    let (key, rest) ← headerAt [']'] cs
    let root ← d.root.openTable key
    return (⟨root, key.parts⟩, rest)
  | c :: cs =>
    if c == '#' || (newline? (c :: cs)).isSome then .ok (d, c :: cs)
    else do
      let ((key, v), rest) ← pairAt (2 * cs.length + 4) maxLevels (c :: cs)
      let root ← d.root.alter false (·.define key v) d.path
      return (⟨root, d.path⟩, rest)

/-- The lines of a document. -/
def linesAt : Nat → Draft → List Char → Except TomlError Draft
  | 0, _, _ => .error .malformed
  | fuel + 1, d, cs => do
    let (d, rest) ← lineAt d cs
    let rest := skipComment (skipGaps rest)
    match rest, newline? rest with
    | [], _ => return d
    | _, some rest => linesAt fuel d rest
    | _, none => .error .malformed

end Toml

/-- The table that a text spells. A byte order mark may stand in front. -/
def Toml.ofText (text : String) : Except TomlError Toml :=
  let cs := match text.toList with
    | '\uFEFF' :: cs => cs
    | cs => cs
  (Toml.linesAt (cs.length + 1) {} cs).map (·.root.toToml)

end TagCheck
