namespace Quizmaster.Numeral

/-- One of the bytes of `0` to `9`. -/
def isDigitByte (b : UInt8) : Bool := 0x30 ≤ b && b ≤ 0x39

/-- Where the digits from place `i` on end. -/
def digitsEnd (bytes : List UInt8) (i : Nat) : Nat :=
  i + ((bytes.drop i).takeWhile isDigitByte).length

/-- The place after the sign at place `i`, and `i` itself without one. -/
def signEnd (bytes : List UInt8) (i : Nat) : Nat :=
  if bytes[i]? = some 0x2B ∨ bytes[i]? = some 0x2D then i + 1 else i

/-- Where the point at place `i` and the digits after it end. -/
def fractionEnd (bytes : List UInt8) (i : Nat) : Nat :=
  if bytes[i]? = some 0x2E then digitsEnd bytes (i + 1) else i

/-- Where the exponent at place `i` ends. Without a digit there is none, and a mark and a sign that
    were passed are given back. -/
def exponentEnd (bytes : List UInt8) (i : Nat) : Nat :=
  if bytes[i]? = some 0x65 ∨ bytes[i]? = some 0x45 then
    let start := signEnd bytes (i + 1)
    let stop := digitsEnd bytes start
    if start < stop then stop else i
  else i

/-- Where the numeral at the start of a text ends, found in the bytes of the text: a byte that a
    numeral is written with is a character of its own, whatever stands around it. Without a digit
    before or after the point there is none. -/
def extent? (bytes : List UInt8) : Option Nat :=
  let start := signEnd bytes 0
  let whole := digitsEnd bytes start
  let stop := fractionEnd bytes whole
  if whole = start ∧ stop ≤ whole + 1 then none else some (exponentEnd bytes stop)

end Quizmaster.Numeral
