import TagCheck.Double
import TagCheck.Json.Basic

/-!
# Reading a document

From text to a document. After a fault nothing more is read. Arrays and objects of a document may be nested
to 127 levels; a deeper one can be passed over but not read.
-/

namespace TagCheck

namespace Json

/-- A value, and the text after it unless reading has stopped for good. -/
abbrev Reading := Json × Option (List Char)

def stopped (f : Fault) : Reading :=
  (.broken (.hard f), none)

def isGap (c : Char) : Bool :=
  c == ' ' || c == '\n' || c == '\t' || c == '\r'

def skipGaps (cs : List Char) : List Char :=
  cs.dropWhile isGap

/-- The fault of a text that should go on: it may have ended. -/
def faultAt (cs : List Char) : Fault :=
  if cs.isEmpty then .truncated else .malformed

/-! ### Strings -/

def hexValue? (c : Char) : Option Nat :=
  if '0' ≤ c && c ≤ '9' then some (c.toNat - '0'.toNat)
  else if 'a' ≤ c && c ≤ 'f' then some (c.toNat - 'a'.toNat + 10)
  else if 'A' ≤ c && c ≤ 'F' then some (c.toNat - 'A'.toNat + 10)
  else none

/-- The number that four hexadecimal digits spell. -/
def hexUnit? (a b c d : Char) : Option Nat := do
  return (← hexValue? a) * 4096 + (← hexValue? b) * 256 + (← hexValue? c) * 16 + (← hexValue? d)

/-- The fault of an escape that is not followed by four digits: the text has ended if fewer than four
bytes are left. -/
def hexFault (cs : List Char) : Fault :=
  if (cs.map Char.utf8Size).foldl (· + ·) 0 < 4 then .truncated else .malformed

def isControl (c : Char) : Bool :=
  c.toNat < 0x20

/-- The character that a letter after a backslash stands for. -/
def unescape? : Char → Option Char
  | '"' => some '"'
  | '\\' => some '\\'
  | '/' => some '/'
  | 'b' => some '\x08'
  | 'f' => some '\x0c'
  | 'n' => some '\n'
  | 'r' => some '\r'
  | 't' => some '\t'
  | _ => none

/-- The text after a string whose opening quote has been read, without a look at what the escapes
mean. -/
def passString : List Char → Except Fault (List Char)
  | [] => .error .truncated
  | '"' :: cs => .ok cs
  | '\\' :: 'u' :: a :: b :: c :: d :: cs =>
    if (hexUnit? a b c d).isSome then passString cs else .error .malformed
  | '\\' :: 'u' :: cs => .error (hexFault cs)
  | '\\' :: c :: cs => if (unescape? c).isSome then passString cs else .error .malformed
  | c :: cs => if c == '\\' then .error .truncated
    else if isControl c then .error .malformed else passString cs

def isHighSurrogate (n : Nat) : Bool :=
  0xd800 ≤ n && n ≤ 0xdbff

def isLowSurrogate (n : Nat) : Bool :=
  0xdc00 ≤ n && n ≤ 0xdfff

/-- The fault of a high surrogate with no low one after it. -/
def surrogateFault : List Char → Fault
  | [] => .truncated
  | '\\' :: [] => .truncated
  | '\\' :: 'u' :: cs => hexFault cs
  | _ => .malformed

/-- The characters of a string whose opening quote has been read. -/
def readString : List Char → Except Fault (List Char)
  | [] => .error .truncated
  | '"' :: _ => .ok []
  | '\\' :: 'u' :: a :: b :: c :: d :: '\\' :: 'u' :: e :: f :: g :: h :: cs =>
    match hexUnit? a b c d with
    | none => .error .malformed
    | some n =>
      if isHighSurrogate n then
        match hexUnit? e f g h with
        | none => .error .malformed
        | some low =>
          if isLowSurrogate low then
            (Char.ofNat (0x10000 + (n - 0xd800) * 0x400 + (low - 0xdc00)) :: ·) <$> readString cs
          else .error .malformed
      else if isLowSurrogate n then .error .malformed
      else (Char.ofNat n :: ·) <$> readString ('\\' :: 'u' :: e :: f :: g :: h :: cs)
  | '\\' :: 'u' :: a :: b :: c :: d :: cs =>
    match hexUnit? a b c d with
    | none => .error .malformed
    | some n =>
      if isHighSurrogate n then .error (surrogateFault cs)
      else if isLowSurrogate n then .error .malformed
      else (Char.ofNat n :: ·) <$> readString cs
  | '\\' :: 'u' :: cs => .error (hexFault cs)
  | '\\' :: c :: cs =>
    match unescape? c with
    | none => .error .malformed
    | some c => (c :: ·) <$> readString cs
  | c :: cs => if c == '\\' then .error .truncated
    else if isControl c then .error .malformed else (c :: ·) <$> readString cs

/-- A string whose opening quote has been read. -/
def stringAt (cs : List Char) : Reading :=
  match readString cs, passString cs with
  | .ok s, .ok rest => (.str (String.ofList s), some rest)
  | .error f, .ok rest => (.broken ⟨f, none, f⟩, some rest)
  | .error f, .error g => (.broken ⟨f, some g, f⟩, none)
  | .ok _, .error g => stopped g

/-! ### Numbers and words -/

def digitValue (c : Char) : Nat :=
  c.toNat - '0'.toNat

/-- The number that decimal digits spell. -/
def natOfDigits (cs : List Char) : Nat :=
  cs.foldl (fun n c => 10 * n + digitValue c) 0

/-- A run of one or more digits. -/
def digitsAt (cs : List Char) : Except Fault (List Char × List Char) :=
  match cs.span Char.isDigit with
  | ([], _) => .error (faultAt cs)
  | run => .ok run

/-- The digits before the point: a zero has no digit after it. -/
def wholeAt : List Char → Except Fault (List Char × List Char)
  | '0' :: cs => if cs.head?.any Char.isDigit then .error .malformed else .ok (['0'], cs)
  | cs => digitsAt cs

/-- The digits after the point, if there is a point. -/
def fractionAt : List Char → Except Fault (List Char × List Char)
  | '.' :: cs => digitsAt cs
  | cs => .ok ([], cs)

/-- The exponent, if there is one. -/
def exponentAt : List Char → Except Fault (Option Int × List Char)
  | c :: cs =>
    if c == 'e' || c == 'E' then
      match cs with
      | '-' :: cs => (digitsAt cs).map fun (ds, rest) => (some (-(natOfDigits ds : Int)), rest)
      | '+' :: cs => (digitsAt cs).map fun (ds, rest) => (some (natOfDigits ds : Int), rest)
      | cs => (digitsAt cs).map fun (ds, rest) => (some (natOfDigits ds : Int), rest)
    else .ok (none, c :: cs)
  | [] => .ok (none, [])

/-- A number given by its digits; one that is out of range can only be passed over. -/
def ofDigits (negative : Bool) (whole fraction : List Char) (exponent : Option Int) : Json :=
  let n := natOfDigits whole
  let digits (cs : List Char) := cs.map digitValue
  let float := match doubleText? negative (digits whole) (digits fraction) (exponent.getD 0) with
    | some text => .float text
    | none => .broken ⟨.malformed, none, .malformed⟩
  if fraction.isEmpty && exponent.isNone then
    if negative then
      if n == 0 || 1 <<< 63 < n then float else .int (-(n : Int))
    else if 1 <<< 64 ≤ n then float else .int n
  else float

/-- A number, whose sign has been read. One that ends too early is malformed for those who pass over it. -/
def numberAt (negative : Bool) (cs : List Char) : Reading :=
  let parts : Except Fault Reading := do
    let (whole, cs) ← wholeAt cs
    let (fraction, cs) ← fractionAt cs
    let (exponent, cs) ← exponentAt cs
    return (ofDigits negative whole fraction exponent, some cs)
  match parts with
  | .ok reading => reading
  | .error f => (.broken ⟨f, some .malformed, .malformed⟩, none)

/-- The rest of a word such as `null`, letter by letter. -/
def wordAt (value : Json) : List Char → List Char → Reading
  | [], cs => (value, some cs)
  | _ :: _, [] => (.broken (Stop.hard .truncated).nameless, none)
  | w :: word, c :: cs => if w == c then wordAt value word cs else stopped .malformed

/-! ### Values -/

mutual

/-- The value at the front of a text. -/
def valueAt : Nat → List Char → Reading
  | 0, _ => stopped .malformed
  | fuel + 1, cs =>
    match skipGaps cs with
    | [] => stopped .truncated
    | c :: cs =>
      if c == '"' then stringAt cs
      else if c == '[' then
        match skipGaps cs with
        | ']' :: rest => (.array [], some rest)
        | [] => (.arr [] (some (.hard .truncated)), none)
        | cs =>
          let (items, stop, rest) := itemsAt fuel cs
          (.arr items stop, rest)
      else if c == '\x7b' then
        match skipGaps cs with
        | '\x7d' :: rest => (.object [], some rest)
        | cs =>
          let (fields, stop, rest) := fieldsAt fuel cs
          (.obj fields stop, rest)
      else if c == 'n' then wordAt .null ['u', 'l', 'l'] cs
      else if c == 't' then wordAt (.bool true) ['r', 'u', 'e'] cs
      else if c == 'f' then wordAt (.bool false) ['a', 'l', 's', 'e'] cs
      else if c == '-' then numberAt true cs
      else if c.isDigit then numberAt false (c :: cs)
      else stopped .malformed

/-- The items of an array from one item on. -/
def itemsAt : Nat → List Char → List Json × Option Stop × Option (List Char)
  | 0, _ => ([], some (.hard .malformed), none)
  | fuel + 1, cs =>
    match valueAt fuel cs with
    | (v, none) => ([v], none, none)
    | (v, some rest) =>
      match skipGaps rest with
      | ',' :: rest =>
        let (vs, stop, rest) := itemsAt fuel rest
        (v :: vs, stop, rest)
      | ']' :: rest => ([v], none, some rest)
      | rest => ([v], some (.hard (faultAt rest)), none)

/-- The fields of an object from one key on. -/
def fieldsAt : Nat → List Char → List (String × Json) × Option Stop × Option (List Char)
  | 0, _ => ([], some (.hard .malformed), none)
  | fuel + 1, cs =>
    match skipGaps cs with
    | '"' :: cs =>
      match stringAt cs with
      | (.str key, some rest) =>
        let (v, fields, stop, rest) := entriesAt fuel rest
        ((key, v) :: fields, stop, rest)
      | (key, some rest) =>
        let (v, fields, stop, rest) := entriesAt fuel rest
        let fault := key.readFault?.getD .malformed
        ([], some ⟨fault, (Json.obj (("", v) :: fields) stop).passFault?, fault⟩, rest)
      | (key, none) =>
        let fault := key.readFault?.getD .malformed
        ([], some ⟨fault, key.passFault?, fault⟩, none)
    | rest => ([], some (.hard (faultAt rest)), none)

/-- The value of a key, and the fields after it. -/
def entriesAt : Nat → List Char → Json × List (String × Json) × Option Stop × Option (List Char)
  | 0, _ => (.broken (.hard .malformed), [], none, none)
  | fuel + 1, cs =>
    let (v, rest) := match skipGaps cs with
      | ':' :: cs => valueAt fuel cs
      | cs => stopped (faultAt cs)
    match rest with
    | none => (v, [], none, none)
    | some rest =>
      match skipGaps rest with
      | ',' :: rest =>
        let (fields, stop, rest) := fieldsAt fuel rest
        (v, fields, stop.map Stop.nameless, rest)
      | '\x7d' :: rest => (v, [], none, some rest)
      | rest => (v, [], some (.hard (faultAt rest)), none)

end

end Json

/-- A document, and whether other text follows it. -/
structure Document where
  value : Json
  hasMore : Bool

/-- The document that a text spells, however deeply it is nested. Each step of the reader uses up a
character or is followed by one that does. -/
def Document.readDeep (text : String) : Document :=
  let cs := text.toList
  let (value, rest) := Json.valueAt (2 * cs.length + 2) cs
  ⟨value, rest.any fun rest => !(Json.skipGaps rest).isEmpty⟩

/-- The document that a text spells. -/
def Document.read (text : String) : Document :=
  let document := Document.readDeep text
  { document with value := document.value.within 127 }

end TagCheck
