import Quizmaster.Json.Written

namespace Quizmaster.Json

/-- The characters that may stand between tokens. -/
def isSpace (c : Char) : Bool :=
  c == ' ' || c == '\n' || c == '\t' || c == '\r'

def skipSpace (cs : List Char) : List Char := cs.dropWhile isSpace

/-- A part of a string: a character, or a 16-bit unit given by its number. -/
inductive Piece
  | char (c : Char)
  | unit (n : Nat)

def hexUnit? (a b c d : Char) : Option Nat := do
  let a ← Text.hexValue? a
  let b ← Text.hexValue? b
  let c ← Text.hexValue? c
  let d ← Text.hexValue? d
  return ((a * 16 + b) * 16 + c) * 16 + d

/-- The character of an escape of one letter. -/
def escaped? (c : Char) : Option Char :=
  if c = '"' ∨ c = '\\' ∨ c = '/' then some c
  else if c = 'b' then some '\x08'
  else if c = 'f' then some '\x0c'
  else if c = 'n' then some '\n'
  else if c = 'r' then some '\r'
  else if c = 't' then some '\t'
  else none

/-- The pieces up to the closing quotation mark, after the ones already found in reverse. -/
def scanPieces (found : List Piece) : List Char → Option (List Piece × List Char)
  | [] => none
  | '"' :: rest => some (found.reverse, rest)
  | '\\' :: 'u' :: a :: b :: c :: d :: rest =>
    match hexUnit? a b c d with
    | some n => scanPieces (.unit n :: found) rest
    | none => none
  | '\\' :: c :: rest =>
    match escaped? c with
    | some e => scanPieces (.char e :: found) rest
    | none => none
  | c :: rest =>
    if c = '\\' ∨ c.toNat < 0x20 then none else scanPieces (.char c :: found) rest

def isHighSurrogate (n : Nat) : Bool := 0xD800 ≤ n && n ≤ 0xDBFF

def isLowSurrogate (n : Nat) : Bool := 0xDC00 ≤ n && n ≤ 0xDFFF

/-- The text of the pieces: a high surrogate unit and the low one right after it make one
    character, and neither may stand alone. -/
def joinPieces (found : List Char) : List Piece → Option String
  | [] => some (String.ofList found.reverse)
  | .char c :: rest => joinPieces (c :: found) rest
  | .unit high :: .unit low :: rest =>
    if isHighSurrogate high then
      if isLowSurrogate low then
        joinPieces (Char.ofNat (0x10000 + (high - 0xD800) * 0x400 + (low - 0xDC00)) :: found) rest
      else none
    else if isLowSurrogate high then none
    else joinPieces (Char.ofNat high :: found) (.unit low :: rest)
  | .unit n :: rest =>
    if isHighSurrogate n || isLowSurrogate n then none
    else joinPieces (Char.ofNat n :: found) rest

/-- A string after its opening quotation mark. -/
def readString (cs : List Char) : Option (Option String × List Char) :=
  (scanPieces [] cs).map fun (pieces, rest) => (joinPieces [] pieces, rest)

/-- JSON's numerals: no plus sign, at least one digit before the point and after it, and no zero
    in front of other digits. -/
def isNumeral (n : Numeral) : Bool :=
  n.sign != .plus && n.whole != [] && (n.whole.length == 1 || n.whole.head? != some '0') &&
    n.fraction != some []

def readNumber (cs : List Char) : Option (Written × List Char) := do
  let (n, rest) ← Numeral.scan? cs
  if isNumeral n then some (.number n, rest) else none

mutual

/-- A value and the rest of the text. Every call takes one unit of fuel and every value at least
    one character. -/
def readValue : Nat → List Char → Option (Written × List Char)
  | 0, _ => none
  | fuel + 1, cs =>
    match skipSpace cs with
    | 'n' :: 'u' :: 'l' :: 'l' :: rest => some (.null, rest)
    | 't' :: 'r' :: 'u' :: 'e' :: rest => some (.bool true, rest)
    | 'f' :: 'a' :: 'l' :: 's' :: 'e' :: rest => some (.bool false, rest)
    | '"' :: rest => (readString rest).map fun (s, rest) => (.string s, rest)
    | '[' :: rest =>
      match skipSpace rest with
      | ']' :: rest => some (.array [], rest)
      | rest => (readItems fuel rest).map fun (items, rest) => (.array items, rest)
    | '{' :: rest =>
      match skipSpace rest with
      | '}' :: rest => some (.object [], rest)
      | rest => (readMembers fuel rest).map fun (members, rest) => (.object members, rest)
    | cs => readNumber cs

/-- The items of an array up to its closing bracket. -/
def readItems : Nat → List Char → Option (List Written × List Char)
  | 0, _ => none
  | fuel + 1, cs => do
    let (item, rest) ← readValue fuel cs
    match skipSpace rest with
    | ',' :: rest => do
      let (items, rest) ← readItems fuel rest
      return (item :: items, rest)
    | ']' :: rest => return ([item], rest)
    | _ => none

/-- The members of an object up to its closing brace. -/
def readMembers : Nat → List Char → Option (List (Option String × Written) × List Char)
  | 0, _ => none
  | fuel + 1, cs => do
    let (key, rest) ← match skipSpace cs with
      | '"' :: rest => readString rest
      | _ => none
    let (value, rest) ← match skipSpace rest with
      | ':' :: rest => readValue fuel rest
      | _ => none
    match skipSpace rest with
    | ',' :: rest => do
      let (members, rest) ← readMembers fuel rest
      return ((key, value) :: members, rest)
    | '}' :: rest => return ([(key, value)], rest)
    | _ => none

end

/-- Reads a whole text; only white space may follow the value. -/
def read? (s : String) : Option Written := do
  let cs := s.toList
  let (value, rest) ← readValue (cs.length + 1) cs
  if skipSpace rest = [] then some value else none

/-- Reads a text as a value without a schema. -/
def parse? (s : String) : Option Json :=
  (read? s).bind (Written.toJson? Written.maxDepth)

end Quizmaster.Json
