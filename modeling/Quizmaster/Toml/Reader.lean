import Quizmaster.Toml.Scalar
import Quizmaster.Toml.Text

namespace Quizmaster.Toml

/-- A comment, if one follows, up to its line's end. -/
def skipComment : List Char → List Char
  | '#' :: rest => rest.dropWhile isPlain
  | cs => cs

/-- The rest after the end of a line, which white space and a comment may come before. The end of
    the text ends a line too. -/
def lineEnd? (cs : List Char) : Option (List Char) :=
  match skipComment (skipSpace cs) with
  | [] => some []
  | rest => lineBreak? rest

/-- Passes over white space, line breaks and comments. A comment takes its line break along. -/
def skipLines : Nat → List Char → List Char
  | 0, cs => cs
  | fuel + 1, cs =>
    match lineBreak? (skipComment (skipSpace cs)) with
    | some rest => skipLines fuel rest
    | none => skipSpace cs

/-- White space, line breaks and comments between the parts of an array. -/
def skipBetween (cs : List Char) : List Char := skipLines cs.length cs

mutual

/-- A value nested no deeper than `room`. Every call takes one unit of fuel and every value at
    least one character. -/
def readValue : Nat → Nat → List Char → Option (Toml × List Char)
  | 0, _, _ => none
  | fuel + 1, room, cs =>
    match cs with
    | '[' :: rest =>
      if room = 0 then none
      else (readItems fuel (room - 1) rest).map fun (items, rest) => (.array items, rest)
    | '{' :: rest =>
      if room = 0 then none
      else
        match skipSpace rest with
        | '}' :: rest => some (.table .braces [], rest)
        | rest => readPairs fuel (room - 1) [] rest
    | '"' :: _ | '\'' :: _ => (string? cs).map fun (s, rest) => (.string s, rest)
    | _ => scalar? cs

/-- The items of an array up to its closing bracket. A comma may follow the last one. -/
def readItems : Nat → Nat → List Char → Option (List Toml × List Char)
  | 0, _, _ => none
  | fuel + 1, room, cs =>
    match skipBetween cs with
    | ']' :: rest => some ([], rest)
    | cs => do
      let (item, rest) ← readValue fuel room cs
      match skipBetween rest with
      | ',' :: rest => do
        let (items, rest) ← readItems fuel room rest
        return (item :: items, rest)
      | ']' :: rest => return ([item], rest)
      | _ => none

/-- The pairs of a table in braces, all on one line, after those already read. -/
def readPairs : Nat → Nat → Entries → List Char → Option (Toml × List Char)
  | 0, _, _, _ => none
  | fuel + 1, room, entries, cs => do
    let (path, rest) ← key? cs
    let (value, rest) ← readValue fuel room (skipSpace (← mark? '=' rest))
    let (_, entries) ← assign path value .braces entries
    match skipSpace rest with
    | ',' :: rest => readPairs fuel room entries rest
    | '}' :: rest => return (.table .braces entries, rest)
    | _ => none

end

/-- What has been read of a document, and the keys of the table that is open. -/
structure Document where
  entries : Entries
  place : List String

namespace Document

def new : Document := ⟨[], []⟩

/-- Changes the document's tables by way of headers. -/
def change (d : Document) (keys : List String)
    (f : Origin → Entries → Option (Origin × Entries)) : Option Entries :=
  (changeAt .above f keys .header d.entries).map Prod.snd

/-- Opens the table that a header names. -/
def openAt (d : Document) (path : List String)
    (f : String → Origin → Entries → Option (Origin × Entries)) : Option Document :=
  match path.reverse with
  | [] => none
  | key :: above => (d.change above.reverse (f key)).map fun entries => ⟨entries, path⟩

/-- Adds a value to the open table. -/
def add (d : Document) (path : List String) (value : Toml) : Option Document :=
  (d.change d.place (assign path value)).map fun entries => ⟨entries, d.place⟩

end Document

/-- One header or one pair, and the rest of its line. -/
def readLine (d : Document) (cs : List Char) : Option (Document × List Char) :=
  match cs with
  | '[' :: '[' :: rest => do
    let (path, rest) ← key? rest
    let rest ← mark? ']' (← mark? ']' rest)
    return (← d.openAt path openNext, ← lineEnd? rest)
  | '[' :: rest => do
    let (path, rest) ← key? rest
    let rest ← mark? ']' rest
    return (← d.openAt path openTable, ← lineEnd? rest)
  | cs => do
    let (path, rest) ← key? cs
    let (value, rest) ← readValue (cs.length + 1) maxDepth (skipSpace (← mark? '=' rest))
    return (← d.add path value, ← lineEnd? rest)

/-- Reads lines up to the text's end. -/
def readLines : Nat → Document → List Char → Option Document
  | 0, _, _ => none
  | fuel + 1, d, cs =>
    match skipSpace cs with
    | [] => some d
    | '#' :: _ => (lineEnd? cs).bind (readLines fuel d)
    | c :: rest =>
      match lineBreak? (c :: rest) with
      | some rest => readLines fuel d rest
      | none => do
        let (d, rest) ← readLine d (c :: rest)
        readLines fuel d rest

/-- Reads a whole text, which a byte order mark may come before. -/
def parse? (s : String) : Option Entries :=
  let cs := match s.toList with
    | '\uFEFF' :: rest => rest
    | cs => cs
  (readLines (cs.length + 1) .new cs).map Document.entries

end Quizmaster.Toml
