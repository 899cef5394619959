import Quizmaster.Binary64

namespace Quizmaster

/-- How a table came into being. -/
inductive Toml.Origin
  /-- It has a header of its own. -/
  | header
  /-- It stands above a table with a header. -/
  | above
  /-- It stands above a value whose key is dotted. -/
  | dotted
  /-- It is written in braces, as a value. -/
  | braces
deriving DecidableEq, Repr

inductive Toml.Float
  | finite (x : Binary64)
  | infinite (negative : Bool)
  | nan
deriving DecidableEq, Repr

/-- A TOML value. A table remembers how it came into being, since that decides what may still be
    added to it. -/
inductive Toml
  | string (s : String)
  | integer (n : Int)
  | float (x : Toml.Float)
  | bool (b : Bool)
  /-- A date, a time, or both. -/
  | moment
  | array (items : List Toml)
  | table (origin : Toml.Origin) (entries : List (String × Toml))
  /-- Tables that share a header; the last one is open for more. -/
  | tables (earlier : List (List (String × Toml))) (last : List (String × Toml))

namespace Toml

abbrev Entries := List (String × Toml)

/-- Puts a value under a key, in place of the one that was there. -/
def put (key : String) (value : Toml) : Entries → Entries
  | [] => [(key, value)]
  | (k, v) :: rest => if k = key then (key, value) :: rest else (k, v) :: put key value rest

/-- Changes the table that keys lead to, starting from a table. Tables that are missing on the way
    come into being as `fresh`. Nothing is added to a table in braces, and by a dotted key nothing
    to a table that has a header. -/
def changeAt (fresh : Origin) (change : Origin → Entries → Option (Origin × Entries)) :
    List String → Origin → Entries → Option (Origin × Entries)
  | [], origin, entries => change origin entries
  | key :: keys, origin, entries =>
    match entries.lookup key with
    | none => do
      let (o, inner) ← changeAt fresh change keys fresh []
      return (origin, put key (.table o inner) entries)
    | some (.table o inner) =>
      if o = .braces ∨ (fresh = .dotted ∧ o = .header) then none
      else do
        let (o, inner) ← changeAt fresh change keys o inner
        return (origin, put key (.table o inner) entries)
    | some (.tables earlier last) => do
      let (_, last) ← changeAt fresh change keys .header last
      return (origin, put key (.tables earlier last) entries)
    | some _ => none

/-- Adds a value under a new key. The table has come into being by dotted keys if, and only if,
    this key is dotted too. -/
def addValue (isDotted : Bool) (key : String) (value : Toml) (origin : Origin)
    (entries : Entries) : Option (Origin × Entries) :=
  if (origin == .dotted) == isDotted && (entries.lookup key).isNone then
    some (origin, put key value entries)
  else none

/-- Adds a value under a key of one or more parts. -/
def assign (path : List String) (value : Toml) (origin : Origin) (entries : Entries) :
    Option (Origin × Entries) :=
  match path.reverse with
  | [] => none
  | key :: above =>
    changeAt .dotted (addValue (above ≠ []) key value) above.reverse origin entries

/-- Opens the table of a header, which may only have stood above others before. -/
def openTable (key : String) (origin : Origin) (entries : Entries) :
    Option (Origin × Entries) :=
  match entries.lookup key with
  | none => some (origin, put key (.table .header []) entries)
  | some (.table .above inner) => some (origin, put key (.table .header inner) entries)
  | some _ => none

/-- Opens one more table of a header that tables share. -/
def openNext (key : String) (origin : Origin) (entries : Entries) : Option (Origin × Entries) :=
  match entries.lookup key with
  | none => some (origin, put key (.tables [] []) entries)
  | some (.tables earlier last) =>
    some (origin, put key (.tables (earlier ++ [last]) []) entries)
  | some _ => none

def text? : Toml → Option String
  | .string s => some s
  | _ => none

def bool? : Toml → Option Bool
  | .bool b => some b
  | _ => none

def nat? : Toml → Option Nat
  | .integer (.ofNat n) => some n
  | _ => none

end Toml

end Quizmaster
