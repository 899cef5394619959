import Quizmaster.Json.Printer
import Quizmaster.Json.Reader

namespace Quizmaster.Json

/-- How a character of a text is found again: as a unit where it was written by its number. -/
def pieceOf (c : Char) : Piece :=
  if c.toNat < 0x20 ∧ escapeChar c = '\\' :: 'u' :: '0' :: '0' :: hexPair c.toNat then
    .unit c.toNat
  else .char c

theorem hexUnit?_hexPair {n : Nat} (h : n < 0x20) :
    hexUnit? '0' '0' (Nat.digitChar (n / 16)) (Nat.digitChar (n % 16)) = some n := by
  have hall : ∀ n < 0x20,
      hexUnit? '0' '0' (Nat.digitChar (n / 16)) (Nat.digitChar (n % 16)) = some n := by decide
  exact hall n h

/-- A character is scanned back from its escape, or from itself. -/
theorem scanPieces_escapeChar (found : List Piece) (c : Char) (rest : List Char) :
    scanPieces found (escapeChar c ++ rest) = scanPieces (pieceOf c :: found) rest := by
  by_cases hnamed : c = '"' ∨ c = '\\' ∨ c = '\x08' ∨ c = '\x0c' ∨ c = '\n' ∨ c = '\r' ∨ c = '\t'
  · rcases hnamed with rfl | rfl | rfl | rfl | rfl | rfl | rfl <;> rfl
  · simp only [not_or] at hnamed
    obtain ⟨hquote, hslash, hb, hf, hn, hr, ht⟩ := hnamed
    have hescape : escapeChar c =
        if c.toNat < 0x20 then '\\' :: 'u' :: '0' :: '0' :: hexPair c.toNat else [c] := by
      simp only [escapeChar, hquote, hslash, hb, hf, hn, hr, ht, if_false]
    by_cases hcontrol : c.toNat < 0x20
    · rw [if_pos hcontrol] at hescape
      have hpiece : pieceOf c = .unit c.toNat := if_pos ⟨hcontrol, hescape⟩
      simp only [hescape, hpiece, hexPair, List.cons_append, List.nil_append]
      rw [scanPieces, hexUnit?_hexPair hcontrol]
    · rw [if_neg hcontrol] at hescape
      have hpiece : pieceOf c = .char c := if_neg fun h => hcontrol h.1
      rw [hescape, hpiece, List.singleton_append, scanPieces.eq_def]
      split
      · next h => simp at h
      · next h => exact absurd (List.cons.inj h).1 hquote
      · next h => exact absurd (List.cons.inj h).1 hslash
      · next h => exact absurd (List.cons.inj h).1 hslash
      · next h =>
        obtain ⟨rfl, rfl⟩ := List.cons.inj h
        rw [if_neg (not_or.mpr ⟨hslash, hcontrol⟩)]

/-- A quoted text is scanned up to its closing mark. -/
theorem scanPieces_flatMap (found : List Piece) (cs rest : List Char) :
    scanPieces found (cs.flatMap escapeChar ++ '"' :: rest) =
      some (found.reverse ++ cs.map pieceOf, rest) := by
  induction cs generalizing found with
  | nil => simp [scanPieces]
  | cons c cs ih =>
    rw [List.flatMap_cons, List.append_assoc, scanPieces_escapeChar, ih]
    simp

/-- The units of a quoted text are controls, of which none is half a surrogate pair. -/
theorem joinPieces_unit {n : Nat} (h : n < 0x20) (found : List Char) (rest : List Piece) :
    joinPieces found (.unit n :: rest) = joinPieces (Char.ofNat n :: found) rest := by
  have hhigh : isHighSurrogate n = false := by simp [isHighSurrogate]; omega
  have hlow : isLowSurrogate n = false := by simp [isLowSurrogate]; omega
  rw [joinPieces.eq_def]
  split
  · next h => simp at h
  · next h => simp at h
  · next h =>
    obtain ⟨heq, rfl⟩ := List.cons.inj h
    cases heq
    simp [hhigh, hlow]
  · next h =>
    obtain ⟨heq, rfl⟩ := List.cons.inj h
    cases heq
    simp [hhigh, hlow]

/-- The pieces of a text join to the text. -/
theorem joinPieces_map_pieceOf (found cs : List Char) :
    joinPieces found (cs.map pieceOf) = some (String.ofList (found.reverse ++ cs)) := by
  induction cs generalizing found with
  | nil => simp [joinPieces]
  | cons c cs ih =>
    have hstep : joinPieces found (pieceOf c :: cs.map pieceOf) =
        joinPieces (c :: found) (cs.map pieceOf) := by
      unfold pieceOf
      split
      · next h => rw [joinPieces_unit h.1, Char.ofNat_toNat]
      · rw [joinPieces]
    rw [List.map_cons, hstep, ih]
    simp

theorem quote_toList (s : String) :
    (quote s).toList = '"' :: (s.toList.flatMap escapeChar ++ ['"']) := by
  simp [quote]

/-- A quoted text is read back as the text that was quoted, whatever characters it holds. -/
theorem readString_quote (s : String) (rest : List Char) :
    readString (s.toList.flatMap escapeChar ++ '"' :: rest) = some (some s, rest) := by
  simp [readString, scanPieces_flatMap, joinPieces_map_pieceOf]

end Quizmaster.Json
