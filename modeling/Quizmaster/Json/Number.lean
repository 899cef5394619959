import Quizmaster.Binary64.Shortest
import Quizmaster.Numeral

namespace Quizmaster.Json

/-- JSON numbers. Whole numbers of 64 bits are kept exactly; every other numeral becomes a binary64
    number by one multiplication or division of its first digits, which is quick and may miss the
    nearest number by one place. -/
inductive Number
  | natural (n : Nat)
  /-- The number `-n` for a positive `n`. -/
  | negative (n : Nat)
  | float (x : Binary64)
deriving DecidableEq, Repr

namespace Number

/-- The significand is collected in 64 bits. -/
def significandLimit : Nat := Nat.pow 2 64 - 1

/-- Appends digits to a significand while it stays within 64 bits; the second result counts the
    digits left over. -/
def collect (significand : Nat) : List Char → Nat × Nat
  | [] => (significand, 0)
  | c :: cs =>
    let next := significand * 10 + (c.toNat - '0'.toNat)
    if next ≤ significandLimit then collect next cs else (significand, cs.length + 1)

/-- The largest power of ten among the finite numbers. -/
def maxPower : Nat := 308

def powerOfTen (n : Nat) : Binary64 := .ofNat (Nat.pow 10 n)

/-- Divides `steps` times by the largest power of ten; zero stays zero. -/
def shrinkSteps : Nat → Binary64 → Option Binary64
  | 0, x => some x
  | steps + 1, x =>
    if x.isZero then some x
    else (x.div? (powerOfTen maxPower)).bind (shrinkSteps steps)

/-- Divides by a power of ten, by its largest finite parts first. -/
def shrink (x : Binary64) (n : Nat) : Option Binary64 :=
  let steps := (n - 1) / maxPower
  (shrinkSteps steps x).bind fun y => y.div? (powerOfTen (n - steps * maxPower))

/-- Multiplies by a power of ten, unless the product is not finite. -/
def grow (x : Binary64) (n : Nat) : Option Binary64 :=
  if n ≤ maxPower then x.mul? (powerOfTen n)
  else if x.isZero then some x
  else none

/-- The magnitude `significand * 10^exponent`. -/
def magnitude? (significand : Nat) (exponent : Int) : Option Binary64 :=
  let x := Binary64.ofNat significand
  if 0 ≤ exponent then grow x exponent.toNat else shrink x (-exponent).toNat

/-- Exponents beyond 31 bits vanish without a computation. -/
def exponentLimit : Int := Nat.pow 2 31 - 1

/-- The float of a significand, a power of ten that its digits call for, and a written exponent. -/
def float? (minus : Bool) (significand : Nat) (scale : Int) (written : Option Exponent) :
    Option Number :=
  let exponent := (written.map Exponent.value).getD 0
  let signed (x : Binary64) : Number := .float ⟨minus, x.units⟩
  if exponentLimit < exponent then
    if significand = 0 then some (signed .zero) else none
  else if exponent < -exponentLimit then some (signed .zero)
  else (magnitude? significand (scale + exponent)).map signed

/-- The number of a numeral in JSON's grammar, unless its magnitude is not finite. A minus sign
    makes zero a float, as no whole number tells it from zero. -/
def ofNumeral? (n : Numeral) : Option Number :=
  let minus := n.sign == .minus
  let (significand, dropped) := collect 0 n.whole
  match n.fraction, n.exponent with
  | none, none =>
    if dropped ≠ 0 then float? minus significand dropped none
    else if !minus then some (.natural significand)
    else if 0 < significand ∧ significand ≤ Nat.pow 2 63 then some (.negative significand)
    else some (.float ⟨true, (Binary64.ofNat significand).units⟩)
  | fraction, exponent =>
    let digits := fraction.getD []
    let (significand, left) := collect significand digits
    float? minus significand (dropped - (digits.length - left : Nat)) exponent

/-- The nearest binary64 number. -/
def toBinary64 : Number → Binary64
  | .natural n => .ofNat n
  | .negative n => (Binary64.ofNat n).neg
  | .float x => x

/-- Positions `-5` to `15` of the first digit are written out, always with a fraction. -/
def positional (digits : List Char) (exponent : Int) : List Char :=
  if exponent < 0 then
    "0.".toList ++ List.replicate ((-exponent).toNat - 1) '0' ++ digits
  else
    let places := exponent.toNat + 1
    let whole := digits.take places ++ List.replicate (places - digits.length) '0'
    let rest := digits.drop places
    whole ++ '.' :: (if rest.isEmpty then ['0'] else rest)

/-- One digit, the other digits as a fraction, and a signed exponent. -/
def scientific (digits : List Char) (exponent : Int) : List Char :=
  let mantissa := match digits with
    | d :: rest@(_ :: _) => d :: '.' :: rest
    | _ => digits
  mantissa ++ 'e' :: (if exponent < 0 then '-' else '+') :: Nat.toDigits 10 exponent.natAbs

/-- The shortest digits that name the float. -/
def floatText (x : Binary64) : String :=
  let sign := if x.negative then ['-'] else []
  let body :=
    if x.isZero then "0.0".toList
    else
      let d := Binary64.shortest x.units
      let digits := Nat.toDigits 10 d.digits
      let first := d.exponent + digits.length - 1
      if -5 ≤ first ∧ first ≤ 15 then positional digits first else scientific digits first
  String.ofList (sign ++ body)

def text : Number → String
  | .natural n => toString n
  | .negative n => "-" ++ toString n
  | .float x => floatText x

end Number

end Quizmaster.Json
