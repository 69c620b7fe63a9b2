/-!
# Numbers of double precision

A number of double precision is of the form `m * 2 ^ q`. A decimal is read from its leading digits, as many
as fit 64 bits, and a power of ten: both are rounded to double precision, and so is their product or
quotient. A number is written with the fewest digits that only this number is the nearest to; of several
such texts the nearest one is written. Ties of rounding go to the even `m`.
-/

namespace TagCheck

/-- A positive number `m * 2 ^ q` of double precision. -/
structure Double where
  m : Nat
  q : Int

namespace Double

/-- The nearest whole number to `num / den`, a tie going to the even one. -/
def roundDiv (num den : Nat) : Nat :=
  let d := num / den
  let r := num % den
  if den < 2 * r || (2 * r == den && d % 2 == 1) then d + 1 else d

/-- `num / den` scaled by `base ^ e`, as a fraction. -/
def scale (base : Nat) (e : Int) (num den : Nat) : Nat × Nat :=
  if e ≥ 0 then (num * Nat.pow base e.toNat, den) else (num, den * Nat.pow base (-e).toNat)

/-- The nearest double to `num / den`, with no bound from above; nothing if that is zero. -/
def ofFraction (num den : Nat) : Option Double :=
  let guess : Int := (num.log2 : Int) - den.log2 - 52
  let tooHigh := let (a, b) := scale 2 (-guess) num den; a < (1 <<< 52) * b
  let q := max (-1074) (if tooHigh then guess - 1 else guess)
  let (a, b) := scale 2 (-q) num den
  let m := roundDiv a b
  if m == 1 <<< 53 then some ⟨1 <<< 52, q + 1⟩ else if m == 0 then none else some ⟨m, q⟩

def isFinite (x : Double) : Bool :=
  x.q ≤ 971

/-- Whether the decimal `n * 10 ^ e` is too large for double precision. The largest double has 309 digits
before its point. -/
def overflows (n : Nat) (e : Int) : Bool :=
  let places : Int := (Nat.toDigits 10 n).length + e
  n != 0 && (309 < places ||
    (places == 309 && (let (num, den) := scale 10 e n 1; (ofFraction num den).any (!·.isFinite))))

/-- The number times a power of ten, which is rounded first; nothing if that is zero. -/
def timesTenTo (x : Double) (e : Int) : Option Double := do
  let p ← ofFraction (Nat.pow 10 e.natAbs) 1
  let (num, den) :=
    if e ≥ 0 then scale 2 (x.q + p.q) (x.m * p.m) 1 else scale 2 (x.q - p.q) x.m p.m
  ofFraction num den

/-- The number times a power of ten that is reached in steps of at most 308 places downwards. Fewer than
four steps lead from any whole number of 64 bits to zero. -/
def shifted : Nat → Double → Int → Option Double
  | 0, _, _ => none
  | steps + 1, x, e =>
    if e < -308 then (x.timesTenTo (-308)).bind fun x => shifted steps x (e + 308) else x.timesTenTo e

/-- Whether the number is the nearest to the decimal `d * 10 ^ k`. -/
def reads (x : Double) (d : Nat) (k : Int) : Bool :=
  let below := if x.m == 1 <<< 52 && x.q > -1074 then 4 * x.m - 1 else 4 * x.m - 2
  let above := 4 * x.m + 2
  let (a, b) := scale 10 k d 1
  let (a, b) := scale 2 (2 - x.q) a b
  if x.m % 2 == 0 then below * b ≤ a && a ≤ above * b else below * b < a && a < above * b

/-- The exponent of the leading decimal digit of a positive fraction. -/
def leading (num den : Nat) : Int :=
  let guess : Int := ((Nat.toDigits 10 num).length : Int) - (Nat.toDigits 10 den).length
  let (a, b) := scale 10 (-guess) num den
  if a < b then guess - 1 else guess

/-- The decimal `d * 10 ^ k` with `n` digits that is nearest to the number among those that read back as
it. -/
def digits? (x : Double) (n : Nat) : Option (Nat × Int) :=
  let (num, den) := scale 2 x.q x.m 1
  let k := leading num den - n + 1
  let (a, b) := scale 10 (-k) num den
  let d := a / b
  let near := roundDiv a b
  let far := if near == d then d + 1 else d
  if x.reads near k then some (near, k) else if x.reads far k then some (far, k) else none

/-- The fewest digits that read back as the number; seventeen always do. -/
def shortest (x : Double) : Nat × Int :=
  ((List.range 17).findSome? fun n => x.digits? (n + 1)).getD (0, 0)

/-- Digits without the zeros at their end. -/
def stripZeros : Nat → Nat → Int → Nat × Int
  | 0, d, k => (d, k)
  | fuel + 1, d, k => if d % 10 == 0 && d != 0 then stripZeros fuel (d / 10) (k + 1) else (d, k)

/-- The text of `d * 10 ^ k`: positional if its point falls close to the digits, and with an exponent
otherwise. -/
def positional (d : Nat) (k : Int) : String :=
  let digits := Nat.toDigits 10 d
  let point : Int := digits.length + k
  if 0 ≤ k && point ≤ 16 then
    String.ofList digits ++ String.ofList (List.replicate k.toNat '0') ++ ".0"
  else if 0 < point && point ≤ 16 then
    String.ofList (digits.take point.toNat) ++ "." ++ String.ofList (digits.drop point.toNat)
  else if -5 < point && point ≤ 0 then
    "0." ++ String.ofList (List.replicate (-point).toNat '0') ++ String.ofList digits
  else
    let mantissa := match digits with
      | [c] => String.ofList [c]
      | c :: cs => String.ofList (c :: '.' :: cs)
      | [] => ""
    mantissa ++ (if 0 < point then "e+" else "e") ++ toString (point - 1)

def text (x : Double) : String :=
  let (d, k) := x.shortest
  let (d, k) := stripZeros 17 d k
  positional d k

end Double

/-- The leading digits before the point that fit 64 bits, from the number `n` on, and the count of those
that are left out. -/
def wholePart (n : Nat) : List Nat → Nat × Int
  | [] => (n, 0)
  | d :: ds => if 1 <<< 64 ≤ 10 * n + d then (n, ds.length + 1) else wholePart (10 * n + d) ds

/-- The digits after the point as far as they fit 64 bits too, from the decimal `n * 10 ^ e` on. -/
def withFraction (n : Nat) (e : Int) : List Nat → Nat × Int
  | [] => (n, e)
  | d :: ds => if 1 <<< 64 ≤ 10 * n + d then (n, e) else withFraction (10 * n + d) (e - 1) ds

/-- The text of the double that a decimal is read as, or nothing if it is too large. -/
def doubleText? (negative : Bool) (whole fraction : List Nat) (exponent : Int) : Option String :=
  let sign := if negative then "-" else ""
  let (n, e) := wholePart 0 whole
  let (n, e) := withFraction n e fraction
  let e := e + exponent
  if n == 0 then some (sign ++ "0.0")
  else if e > 308 then none
  else
    match (Double.ofFraction n 1).bind fun x => Double.shifted 4 x e with
    | none => some (sign ++ "0.0")
    | some x => if x.isFinite then some (sign ++ x.text) else none

end TagCheck
