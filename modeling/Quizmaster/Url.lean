import Quizmaster.Url.Host

namespace Quizmaster

/-- A web address, as far as a request needs it: where to connect, and what to ask for there. What
    may not stand in a request line is percent-encoded. -/
structure Url where
  /-- Scheme, host and port. -/
  origin : String
  /-- Path and query. -/
  target : String
deriving DecidableEq, Repr

namespace Url

/-- Controls and spaces, which are removed from both ends of an address. -/
def isControlOrSpace (c : Char) : Bool := c.toNat ≤ 0x20

/-- Tabs and line breaks, which are removed wherever they stand. -/
def isRemoved (c : Char) : Bool := c == '\t' || c == '\n' || c == '\r'

def clean (cs : List Char) : List Char :=
  let inner := ((cs.dropWhile isControlOrSpace).reverse.dropWhile isControlOrSpace).reverse
  inner.filter (!isRemoved ·)

/-- Both slashes separate the parts of a path. -/
def isSlash (c : Char) : Bool := c == '/' || c == '\\'

def isDelimiter (c : Char) : Bool := isSlash c || c == '?' || c == '#'

/-- The characters that are encoded in any part: controls, spaces and all beyond ASCII. -/
def isUnprintable (c : Char) : Bool := c.toNat ≤ 0x20 || 0x7F ≤ c.toNat

def encodedInPath (c : Char) : Bool :=
  isUnprintable c || ['"', '<', '>', '`', '{', '}'].contains c

def encodedInQuery (c : Char) : Bool :=
  isUnprintable c || ['"', '<', '>', '\''].contains c

def upperHex (n : Nat) : Char := (Nat.digitChar n).toUpper

/-- The bytes of a character, each as a percent sign and two digits. -/
def percentEncode (c : Char) : List Char :=
  (String.utf8EncodeChar c).flatMap fun byte =>
    ['%', upperHex (byte.toNat / 16), upperHex (byte.toNat % 16)]

def encode (isEncoded : Char → Bool) (cs : List Char) : List Char :=
  cs.flatMap fun c => if isEncoded c then percentEncode c else [c]

/-- The segments of a path after its first slash. -/
def segments (cs : List Char) : List (List Char) :=
  (cs.map fun c => if isSlash c then '/' else c).splitOn '/'

/-- A segment with its encoded points written out, which tells dots from other segments. -/
def plainDots : List Char → List Char
  | '%' :: '2' :: e :: rest =>
    if e = 'e' ∨ e = 'E' then '.' :: plainDots rest else '%' :: '2' :: e :: plainDots rest
  | c :: rest => c :: plainDots rest
  | [] => []

def isDot (segment : List Char) : Bool := plainDots segment == ['.']

def isDoubleDot (segment : List Char) : Bool := plainDots segment == ['.', '.']

/-- Resolves dots against the segments before them, which stand in reverse. Dots at the end leave
    an empty segment. -/
def resolve (before : List (List Char)) : List (List Char) → List (List Char)
  | [] => before.reverse
  | [last] =>
    if isDoubleDot last then ([] :: before.drop 1).reverse
    else if isDot last then ([] :: before).reverse
    else (last :: before).reverse
  | segment :: rest =>
    if isDoubleDot segment then resolve (before.drop 1) rest
    else if isDot segment then resolve before rest
    else resolve (segment :: before) rest

/-- The path of a request, which always starts with a slash. -/
def path (cs : List Char) : List Char :=
  let inner := match cs with
    | c :: rest => if isSlash c then rest else cs
    | [] => []
  (resolve [] (segments inner)).flatMap fun segment => '/' :: encode encodedInPath segment

/-- The question mark and what follows it. -/
def query : List Char → List Char
  | '?' :: rest => '?' :: encode encodedInQuery rest
  | _ => []

/-- What follows the last `@`: the name and password before it are no part of the address. -/
def withoutUser (authority : List Char) : List Char :=
  (authority.reverse.takeWhile (· != '@')).reverse

/-- The host of an authority, and the colon and port after it. -/
def hostAndPort (authority : List Char) : List Char × List Char :=
  if authority.head? = some '[' then
    let opened := authority.takeWhile (· != ']')
    (authority.take (opened.length + 1), authority.drop (opened.length + 1))
  else (authority.takeWhile (· != ':'), authority.dropWhile (· != ':'))

/-- The port after its colon. The usual one is not written. -/
def port? (usual : Nat) : List Char → Option String
  | [] => some ""
  | ':' :: digits =>
    if digits = [] then some ""
    else if digits.all Char.isDigit && Text.ofDigits digits ≤ 65535 then
      let port := Text.ofDigits digits
      some (if port = usual then "" else ":" ++ toString port)
    else none
  | _ => none

/-- Scheme, host and port, where there can be a machine to ask. -/
def origin? (scheme : String) (authority : List Char) : Option String := do
  let (host, port) := hostAndPort (withoutUser authority)
  let host ← Host.parse? host
  let port ← port? (if scheme = "https" then 443 else 80) port
  return scheme ++ "://" ++ host ++ port

/-- Reads an address of the web. What follows `#` is not part of a request. -/
def parse? (s : String) : Option Url := do
  let cs := clean s.toList
  let (scheme, rest) ← scheme? cs
  let rest := rest.dropWhile isSlash
  let authority := rest.takeWhile (!isDelimiter ·)
  let request := (rest.drop authority.length).takeWhile (· != '#')
  let origin ← origin? scheme authority
  let (inPath, inQuery) := (request.takeWhile (· != '?'), request.dropWhile (· != '?'))
  return ⟨origin, String.ofList (path inPath ++ query inQuery)⟩
where
  scheme? (cs : List Char) : Option (String × List Char) :=
    ["http", "https"].findSome? fun scheme =>
      let marked := scheme.toList ++ [':']
      if (cs.take marked.length).map Char.toLower = marked then
        some (scheme, cs.drop marked.length)
      else none

def text (u : Url) : String := u.origin ++ u.target

end Url

end Quizmaster
