import Quizmaster.Binary64

namespace Quizmaster.Binary64

/-- A decimal `digits * 10^exponent`. -/
structure Decimal where
  digits : Nat
  exponent : Int
deriving DecidableEq, Repr

/-- Numerator and denominator of `n` quarter units divided by `10^e`. -/
def scaled (n : Nat) (e : Int) : Nat × Nat :=
  if 0 ≤ e then (n, 4 * one * Nat.pow 10 e.toNat) else (n * Nat.pow 10 (-e).toNat, 4 * one)

/-- The exponent of the first decimal digit of a number other than zero: an estimate from the
    binary exponent, put right by one comparison. -/
def leadingExponent (units : Nat) : Int :=
  let estimate := (((units.log2 : Int) - 1074) * 30103) / 100000
  let reaches (e : Int) : Bool :=
    let (n, d) := scaled (4 * units) e
    d ≤ n
  if reaches (estimate + 1) then estimate + 1
  else if reaches estimate then estimate
  else estimate - 1

/-- Whether `digits * 10^exponent` rounds to the magnitude `units`. The ends of the interval
    lie half a spacing away, a quarter below a power of two, and belong to it when the
    significand is even. -/
def roundsTo (units digits : Nat) (exponent : Int) : Bool :=
  let k := units.log2 - 52
  let ulp := Nat.pow 2 k
  let below := if 0 < k && units == Nat.pow 2 (52 + k) then ulp else 2 * ulp
  let low := 4 * units - below
  let high := 4 * units + 2 * ulp
  let (value, unit) :=
    if 0 ≤ exponent then (digits * Nat.pow 10 exponent.toNat * (4 * one), 1)
    else (digits * (4 * one), Nat.pow 10 (-exponent).toNat)
  if units / ulp % 2 == 0 then low * unit ≤ value && value ≤ high * unit
  else low * unit < value && value < high * unit

/-- Of the two neighbours with the given count of digits the one that rounds to the magnitude;
    if both do the nearer one, of two equally near ones the even one. -/
def candidate? (units count : Nat) : Option Decimal :=
  let e := leadingExponent units + 1 - count
  let (n, d) := scaled (4 * units) e
  let floor := n / d
  let nearest := divNearestEven n d
  if roundsTo units nearest e then some ⟨nearest, e⟩
  else if roundsTo units floor e then some ⟨floor, e⟩
  else if roundsTo units (floor + 1) e then some ⟨floor + 1, e⟩
  else none

/-- Moves trailing zeros of the digits into the exponent. -/
def Decimal.strip : Nat → Decimal → Decimal
  | fuel + 1, x =>
    if x.digits ≠ 0 && x.digits % 10 == 0 then Decimal.strip fuel ⟨x.digits / 10, x.exponent + 1⟩
    else x
  | 0, x => x

/-- The shortest decimal of a magnitude other than zero; seventeen digits always suffice. -/
def shortest (units : Nat) : Decimal :=
  let found := (List.range 17).findSome? fun i => candidate? units (i + 1)
  (found.getD ⟨0, 0⟩).strip 20

end Quizmaster.Binary64
