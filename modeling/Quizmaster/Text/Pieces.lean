namespace Quizmaster.Text

/-- The pieces between the separators; a text without one is its only piece. -/
def split (separator : Char) (s : String) : List String :=
  (s.toList.splitOn separator).map String.ofList

/-- The pieces with the separator between each two. -/
def join (separator : String) : List String → String
  | [] => ""
  | [s] => s
  | s :: t :: rest => s ++ separator ++ join separator (t :: rest)

/-- Removes every occurrence of the pattern, from left to right; `skip` characters still belong
    to the occurrence found last. -/
def eraseFrom (pattern : List Char) : Nat → List Char → List Char
  | _, [] => []
  | skip + 1, _ :: cs => eraseFrom pattern skip cs
  | 0, c :: cs =>
    if pattern.isPrefixOf (c :: cs) then eraseFrom pattern (pattern.length - 1) cs
    else c :: eraseFrom pattern 0 cs

/-- A text without the occurrences of a non-empty pattern. -/
def erase (pattern s : String) : String :=
  String.ofList (eraseFrom pattern.toList 0 s.toList)

/-- Removes the pattern from the start for as long as the rest starts with it. -/
def dropRepeats (pattern cs : List Char) : List Char :=
  if _h : pattern ≠ [] ∧ pattern.isPrefixOf cs = true then
    dropRepeats pattern (cs.drop pattern.length)
  else cs
termination_by cs.length
decreasing_by
  obtain ⟨hne, hpre⟩ := _h
  have hle := (List.isPrefixOf_iff_prefix.mp hpre).length_le
  have hpos := List.length_pos_iff.mpr hne
  simp only [List.length_drop]
  omega

/-- The text of the first `size` bytes, unless they end inside a character or beyond the text. -/
def firstBytes? (s : String) (size : Nat) : Option String :=
  (s.pos? ⟨size⟩).map fun stop => (s.sliceTo stop).copy

/-- The value of decimal digits, most significant first. -/
def ofDigits (cs : List Char) : Nat :=
  Nat.ofDigitChars 10 cs 0

/-- Reads a natural number of at most `limit`: digits, after a plus sign if there is one. -/
def natural? (limit : Nat) (cs : List Char) : Option Nat :=
  let digits := match cs with
    | '+' :: rest => rest
    | _ => cs
  if digits ≠ [] && digits.all Char.isDigit && ofDigits digits ≤ limit then some (ofDigits digits)
  else none

/-- The value of a hexadecimal digit of either case. -/
def hexValue? (c : Char) : Option Nat :=
  if '0' ≤ c ∧ c ≤ '9' then some (c.toNat - '0'.toNat)
  else if 'a' ≤ c ∧ c ≤ 'f' then some (c.toNat - 'a'.toNat + 10)
  else if 'A' ≤ c ∧ c ≤ 'F' then some (c.toNat - 'A'.toNat + 10)
  else none

/-- Equality of texts when the case of ASCII letters is ignored. -/
def sameIgnoringCase (s t : String) : Bool :=
  s.toList.map Char.toLower == t.toList.map Char.toLower

end Quizmaster.Text
