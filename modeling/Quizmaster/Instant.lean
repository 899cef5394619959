import Quizmaster.Calendar
import Quizmaster.Text.Blank
import Quizmaster.Text.Pieces

namespace Quizmaster

/-- A point in time, in seconds since 1970-01-01 and nanoseconds. It is read from RFC 3339 texts
    with any offset, lenient about white space and leading zeros, and written in UTC. -/
structure Instant where
  /-- Seconds since the start of 1970 in UTC, not counting leap seconds. -/
  seconds : Int
  /-- Nanoseconds into that second; from `10^9` on, into the leap second after it. -/
  nanos : Nat
deriving DecidableEq, Repr

namespace Instant

def nanosPerSecond : Nat := 1000000000

def secondsPerDay : Nat := 86400

/-- The instant of a number of nanoseconds since the start of 1970. -/
def ofNanos (nanos : Int) : Instant :=
  ⟨nanos / nanosPerSecond, (nanos % nanosPerSecond).toNat⟩

/-- Decimal digits of at least the given number. -/
def padded (width n : Nat) : List Char :=
  let digits := Nat.toDigits 10 n
  List.replicate (width - digits.length) '0' ++ digits

/-- Four digits; years that need another form are signed. -/
def yearText (year : Int) : List Char :=
  if 0 ≤ year ∧ year ≤ 9999 then padded 4 year.natAbs
  else (if year < 0 then '-' else '+') :: padded 4 year.natAbs

/-- A fraction of three, six or nine digits, whichever suffices, or none. -/
def fractionText (nanos : Nat) : List Char :=
  if nanos = 0 then []
  else if nanos % 1000000 = 0 then '.' :: padded 3 (nanos / 1000000)
  else if nanos % 1000 = 0 then '.' :: padded 6 (nanos / 1000)
  else '.' :: padded 9 nanos

/-- The text in UTC. -/
def text (t : Instant) : String :=
  let date := Calendar.Date.ofDays (t.seconds / secondsPerDay)
  let ofDay := (t.seconds % secondsPerDay).toNat
  let leap := t.nanos / nanosPerSecond
  String.ofList (yearText date.year ++ '-' :: padded 2 date.month ++ '-' :: padded 2 date.day ++
    'T' :: padded 2 (ofDay / 3600) ++ ':' :: padded 2 (ofDay / 60 % 60) ++
    ':' :: padded 2 (ofDay % 60 + leap) ++ fractionText (t.nanos % nanosPerSecond) ++ ['Z'])

/-- At most the given number of digits, and at least one, and the rest. -/
def digits? (most : Nat) (cs : List Char) : Option (List Char × List Char) :=
  let found := (cs.take most).takeWhile Char.isDigit
  if found = [] then none else some (found, cs.drop found.length)

def skipBlank (cs : List Char) : List Char := cs.dropWhile Text.isBlank

/-- A number of at most two digits after any white space. -/
def number? (cs : List Char) : Option (Nat × List Char) :=
  (digits? 2 (skipBlank cs)).map fun (found, rest) => (Text.ofDigits found, rest)

/-- A year of at most four digits, or of any length after a sign. -/
def year? (cs : List Char) : Option (Int × List Char) :=
  match skipBlank cs with
  | '-' :: rest => (digits? rest.length rest).map fun (found, rest) =>
    (-(Text.ofDigits found : Int), rest)
  | '+' :: rest => (digits? rest.length rest).map fun (found, rest) =>
    ((Text.ofDigits found : Int), rest)
  | cs => (digits? 4 cs).map fun (found, rest) => ((Text.ofDigits found : Int), rest)

/-- A mark after any white space. -/
def mark? (mark : Char) (cs : List Char) : Option (List Char) :=
  match skipBlank cs with
  | c :: rest => if c = mark then some rest else none
  | [] => none

/-- The years that instants may have. -/
def isYear (year : Int) : Bool := -262143 ≤ year && year ≤ 262142

def date? (cs : List Char) : Option (Calendar.Date × List Char) := do
  let (year, cs) ← year? cs
  let (month, cs) ← number? (← mark? '-' cs)
  let (day, cs) ← number? (← mark? '-' cs)
  let date : Calendar.Date := ⟨year, month, day⟩
  if isYear year && date.isValid then return (date, cs) else none

/-- A point and digits, of which the first nine count. -/
def fraction? : List Char → Option (Nat × List Char)
  | '.' :: cs => do
    let (found, rest) ← digits? 9 cs
    return (Text.ofDigits found * Nat.pow 10 (9 - found.length), rest.dropWhile Char.isDigit)
  | cs => some (0, cs)

/-- Seconds into the day and nanoseconds into the second. The sixtieth second of a minute is a
    leap second. -/
def time? (cs : List Char) : Option ((Nat × Nat) × List Char) := do
  let (hour, cs) ← number? cs
  let (minute, cs) ← number? (← mark? ':' cs)
  let (second, cs) ← number? (← mark? ':' cs)
  let (nanos, cs) ← fraction? cs
  if 23 < hour ∨ 59 < minute ∨ 60 < second then none
  else
    let leap := second / 60
    return ((hour * 3600 + minute * 60 + second - leap, nanos + leap * nanosPerSecond), cs)

/-- Two digits exactly. -/
def pair? : List Char → Option (Nat × List Char)
  | a :: b :: rest => if a.isDigit && b.isDigit then some (Text.ofDigits [a, b], rest) else none
  | _ => none

/-- Hours and minutes, with any colons and white space between them, in seconds. -/
def offsetSize? (cs : List Char) : Option (Nat × List Char) := do
  let (hours, cs) ← pair? cs
  let (minutes, cs) ← pair? (cs.dropWhile fun c => c == ':' || Text.isBlank c)
  if minutes ≤ 59 ∧ hours * 3600 + minutes * 60 < secondsPerDay then
    return (hours * 3600 + minutes * 60, cs)
  else none

/-- The offset from UTC in seconds. -/
def offset? (cs : List Char) : Option (Int × List Char) :=
  match skipBlank cs with
  | u :: t :: c :: rest =>
    if [u, t, c].map Char.toUpper = ['U', 'T', 'C'] then some (0, rest)
    else signed? (u :: t :: c :: rest)
  | cs => signed? cs
where
  signed? : List Char → Option (Int × List Char)
    | 'Z' :: rest | 'z' :: rest => some (0, rest)
    | '+' :: rest => (offsetSize? rest).map fun (size, rest) => ((size : Int), rest)
    | '-' :: rest | '−' :: rest => (offsetSize? rest).map fun (size, rest) => (-(size : Int), rest)
    | _ => none

/-- Reads a date, a `T` or a space, a time and an offset. -/
def parse? (s : String) : Option Instant := do
  let (date, cs) ← date? s.toList
  let cs ← match cs with
    | 't' :: rest | 'T' :: rest | ' ' :: rest => some rest
    | _ => none
  let ((ofDay, nanos), cs) ← time? cs
  let (offset, cs) ← offset? cs
  let seconds := date.toDays * secondsPerDay + ofDay - offset
  if skipBlank cs = [] ∧ isYear (Calendar.Date.ofDays (seconds / secondsPerDay)).year then
    return ⟨seconds, nanos⟩
  else none

end Instant

end Quizmaster
