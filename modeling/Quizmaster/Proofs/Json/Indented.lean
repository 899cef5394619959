import Quizmaster.Proofs.Json.Compact

namespace Quizmaster.Json

theorem blank_newline (level : Nat) : Blank (newline level).toList := by
  intro c hc
  rw [newline, String.toList_ofList, List.mem_cons] at hc
  obtain rfl | hspace := hc
  · rfl
  · rw [List.eq_of_mem_replicate hspace]
    rfl

theorem blank_space : Blank [' '] := by
  intro c hc
  rw [List.mem_singleton.mp hc]
  rfl

mutual

/-- The indented text of a legible value spells it, at any level. -/
theorem spells_prettyAt : ∀ (level : Nat) (j : Json), Legible j →
    Spells (written j) (prettyAt level j).toList
  | _, .null, _ => by simpa [written, prettyAt] using Spells.null
  | _, .bool true, _ => by simpa [written, prettyAt] using Spells.boolTrue
  | _, .bool false, _ => by simpa [written, prettyAt] using Spells.boolFalse
  | _, .number n, h => by
    have hnumber : n.Legible := h
    rw [written, prettyAt, hnumber.text_eq]
    exact .number hnumber.wellFormed hnumber.isNumeral
  | _, .string s, _ => by simpa [written, prettyAt] using Spells.string s
  | _, .array [], _ => by simpa [written, prettyAt] using Spells.emptyArray blank_nil
  | level, .array (item :: items), h => by
    have hitems := spellsItems_pretty (level + 1) (item :: items) (by simp) h (blank_newline level)
    simpa [written, prettyAt] using Spells.array hitems
  | _, .object [], _ => by
    simpa [written, writtenMembers, prettyAt] using Spells.emptyObject blank_nil
  | level, .object (member :: members), h => by
    have hmembers :=
      spellsMembers_pretty (level + 1) (member :: members) (by simp) h (blank_newline level)
    simpa [written, prettyAt] using Spells.object hmembers

/-- The line break before the closing bracket comes after the last item. -/
theorem spellsItems_pretty : ∀ (level : Nat) (items : List Json), items ≠ [] → LegibleItems items →
    ∀ {after : List Char}, Blank after →
      SpellsItems (writtenItems items) ((prettyItems level items).toList ++ after)
  | level, [item], _, h, after, hafter => by
    have hitem := spells_prettyAt level item h.1
    simpa [writtenItems, prettyItems] using SpellsItems.last (blank_newline level) hitem hafter
  | level, item :: next :: items, _, h, after, hafter => by
    have hitem := spells_prettyAt level item h.1
    have hitems := spellsItems_pretty level (next :: items) (by simp) h.2 hafter
    simpa [writtenItems, prettyItems] using
      SpellsItems.cons (blank_newline level) hitem blank_nil hitems

/-- The indented members spell the list, whatever white space follows. -/
theorem spellsMembers_pretty : ∀ (level : Nat) (members : List (String × Json)), members ≠ [] →
    LegibleMembers members → ∀ {after : List Char}, Blank after →
      SpellsMembers (writtenMembers members) ((prettyMembers level members).toList ++ after)
  | level, [(key, value)], _, h, after, hafter => by
    have hvalue := spells_prettyAt level value h.1
    have hmember : SpellsMembers [(some key, written value)] _ :=
      .last (blank_newline level) blank_space hvalue hafter
    simpa [writtenMembers, prettyMembers] using hmember
  | level, (key, value) :: next :: members, _, h, after, hafter => by
    have hvalue := spells_prettyAt level value h.1
    have hmembers := spellsMembers_pretty level (next :: members) (by simp) h.2 hafter
    have hmember :
        SpellsMembers ((some key, written value) :: writtenMembers (next :: members)) _ :=
      .cons (blank_newline level) blank_space hvalue blank_nil hmembers
    simpa [writtenMembers, prettyMembers] using hmember

end

/-- Reading undoes writing with line breaks and indentation. -/
theorem read?_pretty {j : Json} (h : Legible j) : read? j.pretty = some j.written :=
  (spells_prettyAt 0 j h).read?

end Quizmaster.Json
