import TagCheck.Double

/-!
# Numbers, truth values and dates in TOML

Whether a run of characters is a number, a truth value, a date or a time. Of a value only its range counts
here.
-/

namespace TagCheck

namespace Toml

def isHexDigit (c : Char) : Bool :=
  c.isDigit || ('a' ≤ c && c ≤ 'f') || ('A' ≤ c && c ≤ 'F')

/-- Digits with single underscores between them. -/
def isDigitRun (digit : Char → Bool) : List Char → Bool
  | [] => false
  | [c] => digit c
  | c :: '_' :: cs => digit c && isDigitRun digit cs
  | c :: cs => digit c && isDigitRun digit cs

/-- The text without a sign in front. -/
def unsigned : List Char → List Char
  | '+' :: cs | '-' :: cs => cs
  | cs => cs

/-- Decimal digits without a zero in front, or a lone zero. -/
def isWhole : List Char → Bool
  | ['0'] => true
  | '0' :: _ => false
  | cs => isDigitRun Char.isDigit cs

def natOf (cs : List Char) : Nat :=
  cs.foldl (fun n c => if c.isDigit then 10 * n + (c.toNat - '0'.toNat) else n) 0

/-- Whether a whole number fits 64 bits with a sign. -/
def fits (cs : List Char) : Bool :=
  match cs with
  | '-' :: ds => natOf ds ≤ 1 <<< 63
  | ds => natOf ds < 1 <<< 63

/-- The value of digits in some base. -/
def valueInBase (base : Nat) (cs : List Char) : Nat :=
  (cs.filter (· != '_')).foldl (fun n c =>
    base * n + (if c.isDigit then c.toNat - '0'.toNat else c.toLower.toNat - 'a'.toNat + 10)) 0

def isInteger : List Char → Bool
  | '0' :: 'x' :: cs => isDigitRun isHexDigit cs && valueInBase 16 cs < 1 <<< 63
  | '0' :: 'o' :: cs => isDigitRun (fun c => '0' ≤ c && c ≤ '7') cs && valueInBase 8 cs < 1 <<< 63
  | '0' :: 'b' :: cs => isDigitRun (fun c => c == '0' || c == '1') cs && valueInBase 2 cs < 1 <<< 63
  | cs => isWhole (unsigned cs) && fits cs

/-- Whether a number with the given digits before and after the point and the given exponent is too large
for double precision. -/
def isTooLarge (whole fraction power : List Char) : Bool :=
  let exponent : Int := if power.head? == some '-' then -(natOf power : Int) else natOf power
  Double.overflows (natOf (whole ++ fraction)) (exponent - (fraction.filter Char.isDigit).length)

/-- A number with a fraction or an exponent, or one of the words for infinity and for no number. One that is
too large is taken for infinity only if it is negative. -/
def isFloat (cs : List Char) : Bool :=
  let body := unsigned cs
  if body == ['i', 'n', 'f'] || body == ['n', 'a', 'n'] then true
  else
    let isE (c : Char) := c == 'e' || c == 'E'
    let (mantissa, power) := body.span (!isE ·)
    let (whole, fraction) := mantissa.span (· != '.')
    let fractionOk := match fraction with
      | [] => !power.isEmpty
      | _ :: digits => isDigitRun Char.isDigit digits
    let powerOk := match power with
      | [] => true
      | _ :: digits => isDigitRun Char.isDigit (unsigned digits)
    isWhole whole && fractionOk && powerOk &&
      (cs.head? == some '-' || !isTooLarge whole (fraction.drop 1) (power.drop 1))

/-- The days of a month. -/
def daysIn (year month : Nat) : Nat :=
  if month == 2 then
    if year % 4 == 0 && (year % 100 != 0 || year % 400 == 0) then 29 else 28
  else if [4, 6, 9, 11].contains month then 30 else 31

def isDate : List Char → Bool
  | [y1, y2, y3, y4, '-', m1, m2, '-', d1, d2] =>
    let month := natOf [m1, m2]
    let day := natOf [d1, d2]
    [y1, y2, y3, y4, m1, m2, d1, d2].all Char.isDigit && 1 ≤ month && month ≤ 12 && 1 ≤ day &&
      day ≤ daysIn (natOf [y1, y2, y3, y4]) month
  | _ => false

/-- Hours and minutes. -/
def isClock : List Char → Bool
  | [h1, h2, ':', m1, m2] =>
    [h1, h2, m1, m2].all Char.isDigit && natOf [h1, h2] ≤ 23 && natOf [m1, m2] ≤ 59
  | _ => false

def isTime (cs : List Char) : Bool :=
  let (clock, seconds) := (cs.take 5, cs.drop 5)
  let (whole, fraction) := (seconds.take 3, seconds.drop 3)
  let wholeOk := match whole with
    | [':', s1, s2] => s1.isDigit && s2.isDigit && natOf [s1, s2] ≤ 60
    | _ => false
  let fractionOk := match fraction with
    | [] => true
    | '.' :: digits => !digits.isEmpty && digits.all Char.isDigit
    | _ => false
  isClock clock && wholeOk && fractionOk

/-- A time, with a time zone or without. -/
def isZonedTime (cs : List Char) : Bool :=
  let zone := cs.drop (cs.length - 6)
  match cs.getLast? with
  | some 'Z' | some 'z' => isTime cs.dropLast
  | _ =>
    isTime cs ||
      (match zone with
        | '+' :: clock | '-' :: clock => isClock clock && isTime (cs.take (cs.length - 6))
        | _ => false)

def isDateTime (cs : List Char) : Bool :=
  match cs.drop 10 with
  | [] => isDate cs
  | c :: time => (c == 'T' || c == 't' || c == ' ') && isDate (cs.take 10) && isZonedTime time

def isScalar (cs : List Char) : Bool :=
  cs == ['t', 'r', 'u', 'e'] || cs == ['f', 'a', 'l', 's', 'e'] || isInteger cs || isFloat cs

end Toml

end TagCheck
