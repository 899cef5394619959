import Quizmaster.Calendar
import Quizmaster.Numeral
import Quizmaster.Toml.Basic

namespace Quizmaster.Toml

/-- Digits that single underscores may stand between, without those. `after` says whether a digit
    came right before. -/
def scanDigits (isDigit : Char → Bool) (after : Bool) : List Char → List Char × List Char
  | [] => ([], [])
  | '_' :: c :: rest =>
    if after && isDigit c then
      let (digits, rest) := scanDigits isDigit true rest
      (c :: digits, rest)
    else ([], '_' :: c :: rest)
  | c :: rest =>
    if isDigit c then
      let (digits, rest) := scanDigits isDigit true rest
      (c :: digits, rest)
    else ([], c :: rest)

/-- One digit or more. -/
def digits? (isDigit : Char → Bool) (cs : List Char) : Option (List Char × List Char) :=
  match scanDigits isDigit false cs with
  | ([], _) => none
  | found => some found

/-- Decimal digits with no zero in front of others. -/
def whole? : List Char → Option (List Char × List Char)
  | '0' :: rest => some (['0'], rest)
  | cs => digits? Char.isDigit cs

/-- A point and digits, if a point follows. -/
def fraction? : List Char → Option (Option (List Char) × List Char)
  | '.' :: rest => (digits? Char.isDigit rest).map fun (digits, rest) => (some digits, rest)
  | cs => some (none, cs)

/-- An exponent, if its mark follows. -/
def exponent? : List Char → Option (Option Exponent × List Char)
  | 'e' :: rest | 'E' :: rest =>
    let (sign, rest) := Sign.scan rest
    (digits? Char.isDigit rest).map fun (digits, rest) => (some ⟨'e', sign, digits⟩, rest)
  | cs => some (none, cs)

/-- Integers are of 64 bits. -/
def integer? (n : Int) : Option Toml :=
  if -9223372036854775808 ≤ n ∧ n ≤ 9223372036854775807 then some (.integer n) else none

/-- The float of a numeral. Only a negative one may be beyond the finite numbers. -/
def float? (n : Numeral) : Option Toml :=
  match n.toBinary64? with
  | some x => some (.float (.finite x))
  | none => if n.sign = .minus then some (.float (.infinite true)) else none

/-- The value of digits in a base. -/
def valueIn (base : Nat) (digits : List Char) : Nat :=
  digits.foldl (fun n c => n * base + (Text.hexValue? c).getD 0) 0

/-- Digits in a base, all of the values below it. -/
def inBase? (base : Nat) (cs : List Char) : Option (Toml × List Char) := do
  let (digits, rest) ← digits? (fun c => (Text.hexValue? c).any (· < base)) cs
  return (← integer? (valueIn base digits), rest)

/-- A decimal number: a float if it has a fraction or an exponent. -/
def decimal? (cs : List Char) : Option (Toml × List Char) := do
  let (sign, cs) := Sign.scan cs
  let (whole, cs) ← whole? cs
  let (fraction, cs) ← fraction? cs
  let (exponent, cs) ← exponent? cs
  if fraction.isNone && exponent.isNone then
    let n : Int := Text.ofDigits whole
    return (← integer? (if sign = .minus then -n else n), cs)
  else return (← float? ⟨sign, whole, fraction, exponent⟩, cs)

def number? (cs : List Char) : Option (Toml × List Char) :=
  match cs with
  | '0' :: 'x' :: rest => inBase? 16 rest
  | '0' :: 'o' :: rest => inBase? 8 rest
  | '0' :: 'b' :: rest => inBase? 2 rest
  | _ =>
    match Sign.scan cs with
    | (sign, 'i' :: 'n' :: 'f' :: rest) => some (.float (.infinite (sign = .minus)), rest)
    | (_, 'n' :: 'a' :: 'n' :: rest) => some (.float .nan, rest)
    | _ => decimal? cs

/-- A number of exactly so many digits and at most the limit. -/
def fixed? (count limit : Nat) (cs : List Char) : Option (Nat × List Char) :=
  let digits := cs.take count
  if digits.length = count ∧ digits.all Char.isDigit ∧ Text.ofDigits digits ≤ limit then
    some (Text.ofDigits digits, cs.drop count)
  else none

def mark? (mark : Char) : List Char → Option (List Char)
  | c :: rest => if c = mark then some rest else none
  | [] => none

/-- A day of the calendar. -/
def date? (cs : List Char) : Option (List Char) := do
  let (year, cs) ← fixed? 4 9999 cs
  let (month, cs) ← fixed? 2 12 (← mark? '-' cs)
  let (day, cs) ← fixed? 2 31 (← mark? '-' cs)
  if (⟨year, month, day⟩ : Calendar.Date).isValid then some cs else none

/-- A time of day; the seconds may have a fraction and reach sixty. -/
def time? (cs : List Char) : Option (List Char) := do
  let (_, cs) ← fixed? 2 23 cs
  let (_, cs) ← fixed? 2 59 (← mark? ':' cs)
  let (_, cs) ← fixed? 2 60 (← mark? ':' cs)
  match cs with
  | '.' :: rest =>
    some (if rest.head?.any Char.isDigit then rest.dropWhile Char.isDigit else cs)
  | _ => some cs

/-- The offset from UTC. -/
def offset? : List Char → Option (List Char)
  | 'Z' :: rest | 'z' :: rest => some rest
  | c :: rest => do
    if c ≠ '+' ∧ c ≠ '-' then none
    else
      let (_, cs) ← fixed? 2 23 rest
      let (_, cs) ← fixed? 2 59 (← mark? ':' cs)
      return cs
  | [] => none

/-- A time and its offset, if there is one. -/
def timeWithOffset? (cs : List Char) : Option (List Char) := do
  let cs ← time? cs
  return (offset? cs).getD cs

/-- A date, a time of day, or both with a `T` or a space between. -/
def moment? (cs : List Char) : Option (Toml × List Char) :=
  match date? cs with
  | some rest =>
    let both := match rest with
      | 'T' :: rest | 't' :: rest | ' ' :: rest => timeWithOffset? rest
      | _ => none
    some (.moment, both.getD rest)
  | none => (time? cs).map fun rest => (.moment, rest)

/-- A value without parts, other than a string. -/
def scalar? : List Char → Option (Toml × List Char)
  | 't' :: 'r' :: 'u' :: 'e' :: rest => some (.bool true, rest)
  | 'f' :: 'a' :: 'l' :: 's' :: 'e' :: rest => some (.bool false, rest)
  | cs => (moment? cs).or (number? cs)

end Quizmaster.Toml
