import Quizmaster.Binary64
import Quizmaster.Numeral.Extent
import Quizmaster.Text.Pieces

namespace Quizmaster

inductive Sign
  | absent | plus | minus
deriving DecidableEq, Repr

def Sign.text : Sign → List Char
  | .absent => []
  | .plus => ['+']
  | .minus => ['-']

/-- The sign at the start of a text, and the rest. -/
def Sign.scan : List Char → Sign × List Char
  | '+' :: rest => (.plus, rest)
  | '-' :: rest => (.minus, rest)
  | cs => (.absent, cs)

/-- A mark, `e` or `E`, a sign and digits. -/
structure Exponent where
  mark : Char
  sign : Sign
  digits : List Char
deriving DecidableEq, Repr

namespace Exponent

def text (e : Exponent) : List Char :=
  e.mark :: (e.sign.text ++ e.digits)

/-- An exponent at the start of a text. Without a digit there is none. -/
def scan : List Char → Option Exponent × List Char
  | [] => (none, [])
  | mark :: cs =>
    let (sign, rest) := Sign.scan cs
    let digits := rest.takeWhile Char.isDigit
    if (mark = 'e' ∨ mark = 'E') ∧ digits ≠ [] then
      (some ⟨mark, sign, digits⟩, rest.dropWhile Char.isDigit)
    else (none, mark :: cs)

def value (e : Exponent) : Int :=
  if e.sign = .minus then -(Text.ofDigits e.digits : Int) else Text.ofDigits e.digits

end Exponent

/-- The parts of a numeral as written: an optional sign, digits with an optional fraction, and an
    optional exponent. A point without digits after it is an empty fraction. Reading one from a text
    loses nothing. -/
structure Numeral where
  sign : Sign
  whole : List Char
  fraction : Option (List Char)
  exponent : Option Exponent
deriving DecidableEq, Repr

namespace Numeral

def fractionText : Option (List Char) → List Char
  | none => []
  | some digits => '.' :: digits

def text (n : Numeral) : List Char :=
  n.sign.text ++ n.whole ++ fractionText n.fraction ++ (n.exponent.map Exponent.text).getD []

/-- A point and the digits after it. -/
def scanFraction : List Char → Option (List Char) × List Char
  | '.' :: cs => (some (cs.takeWhile Char.isDigit), cs.dropWhile Char.isDigit)
  | cs => (none, cs)

/-- The longest numeral that a text starts with, and the rest. Without a digit before or after
    the point there is none. -/
def scan? (cs : List Char) : Option (Numeral × List Char) :=
  let (sign, cs) := Sign.scan cs
  let whole := cs.takeWhile Char.isDigit
  let (fraction, cs) := scanFraction (cs.dropWhile Char.isDigit)
  if whole = [] ∧ fraction.getD [] = [] then none
  else
    let (exponent, cs) := Exponent.scan cs
    some (⟨sign, whole, fraction, exponent⟩, cs)

/-- The numeral that a text is as a whole. -/
def ofText? (s : String) : Option Numeral :=
  match scan? s.toList with
  | some (numeral, []) => some numeral
  | _ => none

/-- All digits before the exponent, read as one number. -/
def significand (n : Numeral) : Nat :=
  Text.ofDigits (n.whole ++ n.fraction.getD [])

/-- The power of ten that the significand is taken times. -/
def scale (n : Numeral) : Int :=
  (n.exponent.map Exponent.value).getD 0 - (n.fraction.getD []).length

/-- The nearest binary64 number to the numeral's value, if it is finite. -/
def toBinary64? (n : Numeral) : Option Binary64 :=
  Binary64.ofDecimal? (n.sign == .minus) n.significand n.scale

end Numeral

/-- The number that a text starts with: the numeral there is cut off and read. Texts without one, and
    numerals beyond the finite numbers, have none. -/
def leadingNumber? (s : String) : Option Binary64 := do
  let size ← Numeral.extent? s.toUTF8.data.toList
  let text ← Text.firstBytes? s size
  let numeral ← Numeral.ofText? text
  numeral.toBinary64?

end Quizmaster
