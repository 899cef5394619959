import Quizmaster.Text.Pieces

namespace Quizmaster

/-- Thirty-two hexadecimal digits in lower case. -/
class Uuid.IsHex (digits : List Char) : Prop where
  length_eq : digits.length = 32
  digit_lower : ∀ c ∈ digits, (Text.hexValue? c).isSome ∧ c.toLower = c

/-- Universally unique identifiers. -/
@[ext]
structure Uuid where
  digits : List Char
  [isHex : Uuid.IsHex digits]
deriving DecidableEq, Repr

namespace Uuid

/-- The identifier of zeros stands for none. -/
instance : IsHex (List.replicate 32 '0') where
  length_eq := List.length_replicate
  digit_lower c hc := by
    rw [List.eq_of_mem_replicate hc]
    decide

/-- No character behind `f` is a hexadecimal digit. -/
theorem toNat_lt_of_isSome_hexValue? {c : Char} (h : (Text.hexValue? c).isSome) :
    c.toNat < 103 := by
  refine Nat.lt_of_not_le fun hbeyond => ?_
  have hbehind : ∀ last : Char, last.toNat < 103 → ¬ c ≤ last := by
    intro last hlast hle
    rw [Char.le_def, UInt32.le_iff_toNat_le] at hle
    exact Nat.not_lt_of_le (Nat.le_trans hbeyond hle) hlast
  have hnone : Text.hexValue? c = none := by
    simp [Text.hexValue?, hbehind]
  simp [hnone] at h

/-- A hexadecimal digit is one in lower case too. -/
theorem isSome_hexValue?_toLower {c : Char} (h : (Text.hexValue? c).isSome) :
    (Text.hexValue? c.toLower).isSome ∧ c.toLower.toLower = c.toLower := by
  have htable : ∀ n < 103, (Text.hexValue? (Char.ofNat n)).isSome →
      (Text.hexValue? (Char.ofNat n).toLower).isSome ∧
        (Char.ofNat n).toLower.toLower = (Char.ofNat n).toLower := by decide
  have hlower := htable c.toNat (toNat_lt_of_isSome_hexValue? h)
  rw [Char.ofNat_toNat] at hlower
  exact hlower h

/-- The lengths of the groups between hyphens. -/
def groups : List Nat := [8, 4, 4, 4, 12]

/-- Cuts a list into pieces of the given lengths. -/
def cut : List Nat → List Char → List (List Char)
  | [], _ => []
  | n :: ns, cs => cs.take n :: cut ns (cs.drop n)

/-- The five groups with hyphens between them. -/
def text (u : Uuid) : String :=
  Text.join "-" ((cut groups u.digits).map String.ofList)

/-- The identifier of thirty-two values of digits. -/
def ofValues (values : Fin 32 → Fin 16) : Uuid where
  digits := List.ofFn fun place => Nat.digitChar (values place)
  isHex := by
    have hdigit : ∀ value : Fin 16, (Text.hexValue? (Nat.digitChar value)).isSome ∧
        (Nat.digitChar value).toLower = Nat.digitChar value := by decide
    refine ⟨List.length_ofFn, fun c hc => ?_⟩
    obtain ⟨place, rfl⟩ := List.mem_ofFn.mp hc
    exact hdigit (values place)

/-- The random identifier of a number of 128 bits, among which its version is marked. -/
def ofRandom (random : Nat) : Uuid :=
  ofValues fun place =>
    let value := random / Nat.pow 16 (31 - place.val)
    let marked := if place.val = 12 then 4 else if place.val = 16 then 8 + value % 4 else value
    ⟨marked % 16, Nat.mod_lt marked (by decide)⟩

example : (ofRandom 0x67e5504410b1126f1247bb680e5fe0c8).text =
    "67e55044-10b1-426f-9247-bb680e5fe0c8" := by decide

/-- The identifier of thirty-two digits of either case. -/
def ofDigits? (cs : List Char) : Option Uuid :=
  if h : cs.length = 32 ∧ cs.all fun c => (Text.hexValue? c).isSome then
    some {
      digits := cs.map Char.toLower
      isHex := .mk (by rw [List.length_map, h.1]) fun _ hc => by
        obtain ⟨c, hmem, rfl⟩ := List.mem_map.mp hc
        exact isSome_hexValue?_toLower (List.all_eq_true.mp h.2 c hmem) }
  else none

/-- Reads five groups with hyphens between them. -/
def ofGroups? (cs : List Char) : Option Uuid :=
  let pieces := cs.splitOn '-'
  if pieces.map List.length = groups then ofDigits? pieces.flatten else none

/-- What may stand before the groups, in letters of either case. -/
def urn : List Char := "urn:uuid:".toList

/-- Reads digits alone, in groups, in groups between braces, or in groups after `urn:uuid:`. -/
def parse? (s : String) : Option Uuid :=
  let cs := s.toList
  if cs.length = 32 then ofDigits? cs
  else if cs.length = 36 then ofGroups? cs
  else if cs.length = 38 then
    if cs.head? = some '{' ∧ cs.getLast? = some '}' then ofGroups? (cs.drop 1).dropLast else none
  else if (cs.take urn.length).map Char.toLower = urn then ofGroups? (cs.drop urn.length)
  else none

end Uuid

end Quizmaster
