import TagCheck.DocType.Basic
import TagCheck.DocType.Token

/-!
# Reading a documented type

Alternatives are separated by `,` or `|`. An alternative is a name, then perhaps parameters in brackets,
then perhaps the mark `?`. Inside round brackets the comma separates the elements, so the alternatives
of an element are separated by `|` alone. A text that is not of this form is kept whole as one name, so
that whoever looks the name up reports it.
-/

namespace TagCheck

namespace Token

/-- Whether a token separates two alternatives outside round brackets. -/
def separates : Token → Bool
  | .comma | .bar => true
  | _ => false

/-- Whether a token separates two alternatives of an element. -/
def separatesInElement : Token → Bool
  | .bar => true
  | _ => false

end Token

/-- The mark `?` after an alternative, if it is there. -/
def takeQuestion : List Token → Bool × List Token
  | .question :: ts => (true, ts)
  | ts => (false, ts)

mutual

/-- One alternative at the front of the tokens, and the tokens after it. -/
def readVariant : Nat → List Token → Option (Variant × List Token)
  | 0, _ => none
  | fuel + 1, .name name :: ts => do
    let (params, shape, ts) ← readParams fuel ts
    let (nilable, ts) := takeQuestion ts
    return (⟨name, params, shape, nilable⟩, ts)
  | _, _ => none

/-- The parameters in brackets at the front of the tokens, if a bracket opens there. -/
def readParams : Nat → List Token → Option (List DocType × Shape × List Token)
  | 0, _ => none
  | fuel + 1, .less :: ts => do
    let (vs, ts) ← readUnion Token.separates fuel ts
    match ts with
    | .greater :: ts => return ([.ofVariants vs], .list, ts)
    | _ => none
  | fuel + 1, .leftBrace :: ts => do
    let (keys, ts) ← readUnion Token.separates fuel ts
    match ts with
    | .arrow :: ts => do
      let (values, ts) ← readUnion Token.separates fuel ts
      match ts with
      | .rightBrace :: ts => return ([.ofVariants keys, .ofVariants values], .keyValue, ts)
      | _ => none
    | _ => none
  | fuel + 1, .leftParen :: ts => do
    let (elements, ts) ← readElements fuel ts
    match ts with
    | .rightParen :: ts => return (elements, .fixed, ts)
    | _ => none
  | _, ts => return ([], .list, ts)

/-- Alternatives at the front of the tokens, as far as the separators reach. -/
def readUnion (separates : Token → Bool) : Nat → List Token → Option (List Variant × List Token)
  | 0, _ => none
  | fuel + 1, ts => do
    let (v, ts) ← readVariant fuel ts
    match ts with
    | t :: rest =>
      if separates t then do
        let (vs, ts) ← readUnion separates fuel rest
        return (v :: vs, ts)
      else return ([v], t :: rest)
    | [] => return ([v], [])

/-- The elements between round brackets. -/
def readElements : Nat → List Token → Option (List DocType × List Token)
  | 0, _ => none
  | fuel + 1, ts => do
    let (vs, ts) ← readUnion Token.separatesInElement fuel ts
    match ts with
    | .comma :: ts => do
      let (elements, ts) ← readElements fuel ts
      return (.ofVariants vs :: elements, ts)
    | _ => return ([.ofVariants vs], ts)

end

/-- The alternatives that a row of tokens spells out, if it is of the right form. Each step inwards
uses up a token and passes at most four readers, which bounds the depth. -/
def readTokens? (ts : List Token) : Option (List Variant) :=
  match readUnion Token.separates (4 * ts.length + 4) ts with
  | some (vs, []) => some vs
  | _ => none

/-- The type that a text spells out. Blank text spells nothing, a lone `void` without parameters is
void, and a text of any other form is one name. -/
def DocType.parse (text : String) : DocType :=
  let cs := trimChars text.toList
  if cs.isEmpty then .absent
  else
    match readTokens? (Token.scan cs) with
    | some [v] => if v.name == "void" && v.params.isEmpty then .void else .union [v]
    | some vs => .ofVariants vs
    | none => .named (String.ofList cs)

/-- The types of several texts together. -/
def DocType.parseAll (texts : List String) : DocType :=
  .mergeAll (texts.map DocType.parse)

end TagCheck
