import Quizmaster.Proofs.Json.Spelling

namespace Quizmaster.Json

/-- The numeral that a number is written as. -/
def Number.numeral (n : Number) : Numeral :=
  ((Numeral.scan? n.text.toList).map Prod.fst).getD ⟨.absent, [], none, none⟩

/-- The number's text is a numeral in JSON's grammar. -/
structure Number.Legible (n : Number) : Prop where
  text_eq : n.text.toList = n.numeral.text
  wellFormed : n.numeral.WellFormed
  isNumeral : Json.isNumeral n.numeral = true

mutual

/-- A value in the form that its text is read in. -/
def written : Json → Written
  | .null => .null
  | .bool b => .bool b
  | .number n => .number n.numeral
  | .string s => .string s
  | .array items => .array (writtenItems items)
  | .object members => .object (writtenMembers members)

def writtenItems : List Json → List Written
  | [] => []
  | item :: rest => written item :: writtenItems rest

def writtenMembers : List (String × Json) → List (Option String × Written)
  | [] => []
  | (key, value) :: rest => (some key, written value) :: writtenMembers rest

end

mutual

/-- Every number in the value has a legible text. -/
def Legible : Json → Prop
  | .number n => n.Legible
  | .array items => LegibleItems items
  | .object members => LegibleMembers members
  | .null | .bool _ | .string _ => True

def LegibleItems : List Json → Prop
  | [] => True
  | item :: rest => Legible item ∧ LegibleItems rest

def LegibleMembers : List (String × Json) → Prop
  | [] => True
  | (_, value) :: rest => Legible value ∧ LegibleMembers rest

end

theorem blank_nil : Blank [] := by
  intro c hc
  cases hc

mutual

/-- The text of a legible value without spaces spells it. -/
theorem spells_compact : ∀ j : Json, Legible j → Spells (written j) (compact j).toList
  | .null, _ => .null
  | .bool true, _ => .boolTrue
  | .bool false, _ => .boolFalse
  | .number n, h => by
    have hnumber : n.Legible := h
    rw [written, compact, hnumber.text_eq]
    exact .number hnumber.wellFormed hnumber.isNumeral
  | .string s, _ => .string s
  | .array [], _ => .emptyArray blank_nil
  | .array (item :: items), h => by
    have hitems := spellsItems_compact (item :: items) (by simp) h
    simpa [written, compact] using Spells.array hitems
  | .object [], _ => .emptyObject blank_nil
  | .object (member :: members), h => by
    have hmembers := spellsMembers_compact (member :: members) (by simp) h
    simpa [written, compact] using Spells.object hmembers

theorem spellsItems_compact : ∀ items : List Json, items ≠ [] → LegibleItems items →
    SpellsItems (writtenItems items) (compactItems items).toList
  | [item], _, h => by
    have hitem := spells_compact item h.1
    simpa [writtenItems, compactItems] using SpellsItems.last blank_nil hitem blank_nil
  | item :: next :: items, _, h => by
    have hitem := spells_compact item h.1
    have hitems := spellsItems_compact (next :: items) (by simp) h.2
    simpa [writtenItems, compactItems] using SpellsItems.cons blank_nil hitem blank_nil hitems

theorem spellsMembers_compact : ∀ members : List (String × Json), members ≠ [] →
    LegibleMembers members → SpellsMembers (writtenMembers members) (compactMembers members).toList
  | [(key, value)], _, h => by
    have hvalue := spells_compact value h.1
    have hmember : SpellsMembers [(some key, written value)] _ :=
      .last blank_nil blank_nil hvalue blank_nil
    simpa [writtenMembers, compactMembers] using hmember
  | (key, value) :: next :: members, _, h => by
    have hvalue := spells_compact value h.1
    have hmembers := spellsMembers_compact (next :: members) (by simp) h.2
    have hmember : SpellsMembers ((some key, written value) :: writtenMembers (next :: members)) _ :=
      .cons blank_nil blank_nil hvalue blank_nil hmembers
    simpa [writtenMembers, compactMembers] using hmember

end

/-- Reading undoes writing. -/
theorem read?_compact {j : Json} (h : Legible j) : read? j.compact = some j.written :=
  (spells_compact j h).read?

@[simp] theorem writtenItems_eq_map (items : List Json) : writtenItems items = items.map written := by
  induction items with
  | nil => rfl
  | cons item items ih => rw [writtenItems, ih, List.map_cons]

theorem legibleItems_iff (items : List Json) : LegibleItems items ↔ ∀ item ∈ items, Legible item := by
  induction items with
  | nil => simp [LegibleItems]
  | cons item items ih => simp [LegibleItems, ih]

end Quizmaster.Json
