import Quizmaster.Text.Pieces

namespace Quizmaster.Url.Host

/-- Characters that no domain has. -/
def isForbidden (c : Char) : Bool :=
  c.toNat ≤ 0x20 || c.toNat = 0x7F || "#/:<>?@[\\]^|%".toList.contains c

/-- The bytes of a text, where a percent sign and two digits are one byte. -/
def decodedBytes : List Char → List UInt8
  | [] => []
  | '%' :: a :: b :: rest =>
    match Text.hexValue? a, Text.hexValue? b with
    | some high, some low => UInt8.ofNat (16 * high + low) :: decodedBytes rest
    | _, _ => '%'.toUInt8 :: decodedBytes (a :: b :: rest)
  | c :: rest => String.utf8EncodeChar c ++ decodedBytes rest

/-- A text without percent signs in their role as escapes; none if its bytes are no text. -/
def decode? (cs : List Char) : Option (List Char) :=
  (String.fromUTF8? ⟨(decodedBytes cs).toArray⟩).map String.toList

def digits? (base : Nat) (cs : List Char) : Option Nat :=
  cs.foldlM (fun n c => do
    let digit ← Text.hexValue? c
    if digit < base then some (n * base + digit) else none) 0

/-- A number in base ten, in base eight after a zero, or in base sixteen after `0x`. -/
def number? : List Char → Option Nat
  | [] => none
  | '0' :: c :: rest =>
    if c = 'x' ∨ c = 'X' then digits? 16 rest else digits? 8 (c :: rest)
  | cs => digits? 10 cs

/-- The labels of a domain, of which an empty one at the end does not count. -/
def labels (cs : List Char) : List (List Char) :=
  match (cs.splitOn '.').reverse with
  | [] :: last :: rest => (last :: rest).reverse
  | reversed => reversed.reverse

/-- Whether a domain has to be the number of a machine. -/
def endsInNumber (cs : List Char) : Bool :=
  match (labels cs).getLast? with
  | some last => (last != [] && last.all Char.isDigit) || (number? last).isSome
  | none => false

/-- The number of a machine from up to four parts: each is a byte but the last, which gives all
    bytes that remain. -/
def fourBytes? (cs : List Char) : Option Nat := do
  let parts ← (labels cs).mapM number?
  let last ← parts.getLast?
  let bytes := parts.dropLast
  if bytes.length ≤ 3 && bytes.all (· < 256) && last < Nat.pow 256 (4 - bytes.length) then
    return bytes.foldl (fun n b => 256 * n + b) 0 * Nat.pow 256 (4 - bytes.length) + last
  else none

def fourBytesText (n : Nat) : String :=
  Text.join "." ([16777216, 65536, 256, 1].map fun weight => toString (n / weight % 256))

/-- Four decimal bytes, which may end a machine's number of groups. -/
def isByteTail (cs : List Char) : Bool :=
  let parts := cs.splitOn '.'
  parts.length = 4 && parts.all fun part =>
    part != [] && part.all Char.isDigit && (part.length = 1 || part.head? != some '0') &&
      Text.ofDigits part < 256

/-- How many groups the pieces between colons make. Only the last may be four bytes, which are two
    groups. -/
def groupCount? : List (List Char) → Option Nat
  | [] => some 0
  | [piece] => if isByteTail piece then some 2 else if isGroup piece then some 1 else none
  | piece :: rest => if isGroup piece then (groupCount? rest).map (· + 1) else none
where
  isGroup (piece : List Char) : Bool :=
    piece != [] && piece.length ≤ 4 && piece.all fun c => (Text.hexValue? c).isSome

/-- Cuts a text at its first two colons in a row. -/
def atGap : List Char → Option (List Char × List Char)
  | ':' :: ':' :: rest => some ([], rest)
  | c :: rest => (atGap rest).map fun (before, after) => (c :: before, after)
  | [] => none

def pieces (cs : List Char) : List (List Char) :=
  if cs = [] then [] else cs.splitOn ':'

/-- Whether a text is a machine's number of eight groups. Two colons in a row stand once at most
    for all groups that are left out. -/
def isEightGroups (cs : List Char) : Bool :=
  match atGap cs with
  | none => groupCount? (pieces cs) == some 8
  | some (before, after) =>
    match groupCount? (pieces before ++ [['0']]), groupCount? (pieces after) with
    | some n, some k => n + k ≤ 8
    | _, _ => false

/-- Reads the part of an address that names a machine, a domain or the number of a machine in four
    bytes or, between brackets, in eight groups, to tell whether there is such a machine to ask. It
    is written in lower case, as it stands in a request. -/
def parse? (cs : List Char) : Option String :=
  match cs with
  | '[' :: rest =>
    if rest.getLast? = some ']' && isEightGroups rest.dropLast then
      some (String.ofList (cs.map Char.toLower))
    else none
  | _ => do
    let domain := (← decode? cs).map Char.toLower
    if domain = [] || domain.any isForbidden then none
    else if endsInNumber domain then (fourBytes? domain).map fourBytesText
    else some (String.ofList domain)

end Quizmaster.Url.Host
