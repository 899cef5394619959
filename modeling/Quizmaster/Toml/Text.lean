import Quizmaster.Text.Pieces

namespace Quizmaster.Toml

def isSpace (c : Char) : Bool := c == ' ' || c == '\t'

def skipSpace (cs : List Char) : List Char := cs.dropWhile isSpace

/-- Characters of comments and strings: no controls but the tab. -/
def isPlain (c : Char) : Bool := c == '\t' || (0x20 ≤ c.toNat && c.toNat != 0x7F)

/-- A line break, if the text starts with one. -/
def lineBreak? : List Char → Option (List Char)
  | '\n' :: rest => some rest
  | '\r' :: '\n' :: rest => some rest
  | _ => none

/-- The value of hexadecimal digits. -/
def hexNumber? (digits : List Char) : Option Nat :=
  digits.foldlM (fun n c => (Text.hexValue? c).map (n * 16 + ·)) 0

/-- The character of a code, unless the code is half of a surrogate pair or too large. -/
def charOfCode? (digits : List Char) : Option Char :=
  (hexNumber? digits).bind fun n => if n.isValidChar then some (Char.ofNat n) else none

/-- The character of an escape of one letter. -/
def escaped? (c : Char) : Option Char :=
  if c = '"' ∨ c = '\\' then some c
  else if c = 'b' then some '\x08'
  else if c = 't' then some '\t'
  else if c = 'n' then some '\n'
  else if c = 'f' then some '\x0c'
  else if c = 'r' then some '\r'
  else none

/-- The rest of a string on one line, up to its quotation mark. -/
def scanBasic (found : List Char) : List Char → Option (String × List Char)
  | [] => none
  | '"' :: rest => some (String.ofList found.reverse, rest)
  | '\\' :: 'u' :: a :: b :: c :: d :: rest =>
    match charOfCode? [a, b, c, d] with
    | some e => scanBasic (e :: found) rest
    | none => none
  | '\\' :: 'U' :: a :: b :: c :: d :: e :: f :: g :: h :: rest =>
    match charOfCode? [a, b, c, d, e, f, g, h] with
    | some e => scanBasic (e :: found) rest
    | none => none
  | '\\' :: c :: rest =>
    match escaped? c with
    | some e => scanBasic (e :: found) rest
    | none => none
  | c :: rest => if c = '\\' ∨ !isPlain c then none else scanBasic (c :: found) rest

/-- Whether a line ends after spaces and tabs. -/
def endsLine (cs : List Char) : Bool := (lineBreak? (skipSpace cs)).isSome

/-- The rest of a string of several lines, up to three quotation marks, of which two more may
    stand in front. After a backslash at a line's end, while `skipping`, white space is passed
    over. -/
def scanBasicLines (skipping : Bool) (found : List Char) :
    List Char → Option (String × List Char)
  | [] => none
  | '"' :: '"' :: '"' :: '"' :: '"' :: rest =>
    some (String.ofList ('"' :: '"' :: found).reverse, rest)
  | '"' :: '"' :: '"' :: '"' :: rest => some (String.ofList ('"' :: found).reverse, rest)
  | '"' :: '"' :: '"' :: rest => some (String.ofList found.reverse, rest)
  | '\\' :: 'u' :: a :: b :: c :: d :: rest =>
    match charOfCode? [a, b, c, d] with
    | some e => scanBasicLines false (e :: found) rest
    | none => none
  | '\\' :: 'U' :: a :: b :: c :: d :: e :: f :: g :: h :: rest =>
    match charOfCode? [a, b, c, d, e, f, g, h] with
    | some e => scanBasicLines false (e :: found) rest
    | none => none
  | '\\' :: c :: rest =>
    if endsLine (c :: rest) then scanBasicLines true found rest
    else
      match escaped? c with
      | some e => scanBasicLines false (e :: found) rest
      | none => none
  | '\r' :: '\n' :: rest => scanBasicLines skipping (if skipping then found else '\n' :: found) rest
  | c :: rest =>
    if skipping && (isSpace c || c == '\n') then scanBasicLines true found rest
    else if c = '\\' ∨ (!isPlain c && c != '\n') then none
    else scanBasicLines false (c :: found) rest

/-- The rest of a literal string on one line. -/
def scanLiteral (found : List Char) : List Char → Option (String × List Char)
  | [] => none
  | '\'' :: rest => some (String.ofList found.reverse, rest)
  | c :: rest => if isPlain c then scanLiteral (c :: found) rest else none

/-- The rest of a literal string of several lines, up to three apostrophes, of which two more may
    stand in front. -/
def scanLiteralLines (found : List Char) : List Char → Option (String × List Char)
  | [] => none
  | '\'' :: '\'' :: '\'' :: '\'' :: '\'' :: rest =>
    some (String.ofList ('\'' :: '\'' :: found).reverse, rest)
  | '\'' :: '\'' :: '\'' :: '\'' :: rest => some (String.ofList ('\'' :: found).reverse, rest)
  | '\'' :: '\'' :: '\'' :: rest => some (String.ofList found.reverse, rest)
  | '\r' :: '\n' :: rest => scanLiteralLines ('\n' :: found) rest
  | c :: rest => if isPlain c || c == '\n' then scanLiteralLines (c :: found) rest else none

/-- The rest of a text without the line break that it may start with. -/
def skipLineBreak (cs : List Char) : List Char := (lineBreak? cs).getD cs

/-- A string of any of the four forms. -/
def string? : List Char → Option (String × List Char)
  | '"' :: '"' :: '"' :: rest => scanBasicLines false [] (skipLineBreak rest)
  | '"' :: rest => scanBasic [] rest
  | '\'' :: '\'' :: '\'' :: rest => scanLiteralLines [] (skipLineBreak rest)
  | '\'' :: rest => scanLiteral [] rest
  | _ => none

/-- Characters of keys without quotation marks. -/
def isBare (c : Char) : Bool := c.isAlphanum || c == '-' || c == '_'

/-- One part of a key. -/
def keyPart? : List Char → Option (String × List Char)
  | '"' :: rest => scanBasic [] rest
  | '\'' :: rest => scanLiteral [] rest
  | cs =>
    let found := cs.takeWhile isBare
    if found = [] then none else some (String.ofList found, cs.drop found.length)

/-- Parts with points between them, and white space around any of those. Keys have fewer parts
    than the fuel. -/
def keyParts? : Nat → List Char → Option (List String × List Char)
  | 0, _ => none
  | fuel + 1, cs => do
    let (part, rest) ← keyPart? (skipSpace cs)
    match skipSpace rest with
    | '.' :: rest =>
      let (parts, rest) ← keyParts? fuel rest
      return (part :: parts, rest)
    | rest => return ([part], rest)

/-- How many parts a key may have, and how deep values may be nested. -/
def maxDepth : Nat := 79

def key? (cs : List Char) : Option (List String × List Char) := keyParts? maxDepth cs

end Quizmaster.Toml
