namespace Quizmaster

/-- `n / d` to the nearest natural number; a half goes to the even neighbour. -/
def divNearestEven (n d : Nat) : Nat :=
  let q := n / d
  let r := n % d
  if 2 * r < d then q
  else if d < 2 * r then q + 1
  else q + q % 2

/-- A finite binary64 number as an exact value: a sign and a magnitude in units of `2^-1074`, the
    smallest spacing, so that arithmetic is that of natural numbers followed by one rounding. The
    sign of zero is kept. -/
structure Binary64 where
  negative : Bool
  units : Nat
deriving DecidableEq, Repr

namespace Binary64

/-- Units in one. -/
def one : Nat := Nat.pow 2 1074

/-- The first magnitude that is no longer finite. -/
def limit : Nat := Nat.pow 2 2098

/-- The nearest binary64 magnitude to `n / d` units: 53 significant bits, ties to even. -/
def roundUnits (n d : Nat) : Nat :=
  let k := (n / d).log2 - 52
  divNearestEven n (d * Nat.pow 2 k) * Nat.pow 2 k

/-- The nearest number to `± n / d` units, if it is finite. -/
def round? (negative : Bool) (n d : Nat) : Option Binary64 :=
  let units := roundUnits n d
  if units < limit then some ⟨negative, units⟩ else none

def zero : Binary64 := ⟨false, 0⟩

def isZero (x : Binary64) : Bool := x.units == 0

def neg (x : Binary64) : Binary64 := ⟨!x.negative, x.units⟩

/-- The nearest number to a natural number below `2^1024`. -/
def ofNat (n : Nat) : Binary64 := ⟨false, roundUnits (n * one) 1⟩

/-- The product, unless it overflows. -/
def mul? (x y : Binary64) : Option Binary64 :=
  round? (x.negative != y.negative) (x.units * y.units) one

/-- The quotient by a number other than zero, unless it overflows. -/
def div? (x y : Binary64) : Option Binary64 :=
  round? (x.negative != y.negative) (x.units * one) y.units

/-- The exact value in units, with its sign. -/
def toInt (x : Binary64) : Int :=
  if x.negative then -(x.units : Int) else x.units

/-- The magnitude of the difference, unless it overflows. -/
def distance? (x y : Binary64) : Option Binary64 :=
  round? false (x.toInt - y.toInt).natAbs 1

/-- The number nearest to `± m * 10^e`, if it is finite. Exponents so large that every magnitude
    overflows, or so small that it vanishes, are settled without computing the power. -/
def ofDecimal? (negative : Bool) (m : Nat) (e : Int) : Option Binary64 :=
  if m = 0 then some ⟨negative, 0⟩
  else if 400 < e then none
  else if 0 ≤ e then round? negative (m * Nat.pow 10 e.toNat * one) 1
  else if m.log2 + 1081 < 3 * (-e).toNat then some ⟨negative, 0⟩
  else round? negative (m * one) (Nat.pow 10 (-e).toNat)

/-- The bits of the interchange format: sign, eleven bits of exponent, fraction. -/
def toBits (x : Binary64) : Nat :=
  let k := x.units.log2 - 52
  let magnitude :=
    if x.units < Nat.pow 2 52 then x.units else k * Nat.pow 2 52 + x.units / Nat.pow 2 k
  if x.negative then Nat.pow 2 63 + magnitude else magnitude

/-- The exact value with one decimal place; a half goes to the even neighbour. -/
def toTenths (x : Binary64) : String :=
  let tenths := divNearestEven (x.units * 10) one
  (if x.negative then "-" else "") ++ toString (tenths / 10) ++ "." ++ toString (tenths % 10)

end Binary64

end Quizmaster
