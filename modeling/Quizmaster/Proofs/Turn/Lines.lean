import Quizmaster.Proofs.Text.Bytes
import Quizmaster.Turn

namespace Quizmaster

section

variable {α β : Type} [BEq α] [LawfulBEq α] [BEq β] [LawfulBEq β]

/-- What comes before the first separator belongs to the first piece. -/
theorem splitOn_append_of_not_mem {y : β} {front : List β} (h : y ∉ front) (rest : List β) :
    (front ++ rest).splitOn y = (rest.splitOn y).modifyHead (front ++ ·) := by
  obtain ⟨piece, pieces, hpieces⟩ := List.exists_cons_of_ne_nil (List.splitOn_ne_nil y rest)
  rw [hpieces]
  induction front with
  | nil => exact hpieces
  | cons b front ih =>
    rw [List.mem_cons, not_or] at h
    have hkept : (b == y) = false := beq_eq_false_iff_ne.mpr (Ne.symm h.1)
    rw [List.cons_append, List.splitOn_cons_eq_if_modifyHead, hkept, if_neg Bool.false_ne_true,
      ih h.2]
    rfl

/-- If the separator is spelled with one letter, which spells nothing else, letters are cut as what
    they spell is. -/
theorem splitOn_flatMap {x : α} {y : β} {spell : α → List β} (hx : spell x = [y])
    (hspell : ∀ a, a ≠ x → y ∉ spell a) (as : List α) :
    (as.flatMap spell).splitOn y = (as.splitOn x).map (List.flatMap spell) := by
  induction as with
  | nil => rfl
  | cons a as ih =>
    obtain ⟨piece, pieces, hpieces⟩ := List.exists_cons_of_ne_nil (List.splitOn_ne_nil x as)
    rw [List.flatMap_cons, List.splitOn_cons_eq_if_modifyHead, hpieces]
    rw [hpieces] at ih
    by_cases ha : a = x
    · subst ha
      rw [hx, if_pos (beq_self_eq_true a), List.singleton_append,
        List.splitOn_cons_eq_if_modifyHead, if_pos (beq_self_eq_true y), ih]
      rfl
    · rw [if_neg (by simpa using ha), splitOn_append_of_not_mem (hspell a ha), ih]
      rfl

end

namespace Text

/-- The bytes of a text are cut where its characters are. -/
theorem splitOn_bytes (cs : List Char) :
    (bytes cs).splitOn 10 = (cs.splitOn '\n').map bytes :=
  splitOn_flatMap (by decide) (fun _ => not_mem_utf8EncodeChar (by decide) rfl) cs

end Text

namespace Turn

/-- The lines of a text, of which the last one may lack its end. -/
def textLines (s : String) : List String :=
  let pieces := s.toList.splitOn '\n'
  let lines := if pieces.getLast? = some [] then pieces.dropLast else pieces
  lines.map fun line => chomp (String.ofList line)

/-- Each line of an input that is text is text. -/
theorem linesOf_toUTF8 (s : String) : linesOf s.toUTF8 = (textLines s).map some := by
  have hlast : (((s.toList.splitOn '\n').map Text.bytes).getLast? = some []) ↔
      (s.toList.splitOn '\n').getLast? = some [] := by
    rw [List.getLast?_map, Option.map_eq_some_iff]
    constructor
    · rintro ⟨cs, hcs, hnil⟩
      rw [hcs, Text.bytes_eq_nil_iff.mp hnil]
    · exact fun hnil => ⟨[], hnil, rfl⟩
  have hread (cs : List Char) : (String.fromUTF8? ⟨(Text.bytes cs).toArray⟩).map chomp =
      some (chomp (String.ofList cs)) := by
    rw [Text.fromUTF8?_bytes, Option.map_some]
  rw [linesOf, textLines, Text.toList_toUTF8, Text.splitOn_bytes]
  simp only [hlast]
  split <;> simp [← List.map_dropLast, hread, Function.comp_def]

/-- A text without a line feed is one line, once it is ended with one. -/
theorem textLines_append_newline {text : String} (h : '\n' ∉ text.toList) :
    textLines (text ++ "\n") = [chomp text] := by
  have hbreak : "\n".toList.splitOn '\n' = [[], []] := by decide
  have hpieces : (text ++ "\n").toList.splitOn '\n' = [text.toList, []] := by
    rw [String.toList_append, splitOn_append_of_not_mem h, hbreak, List.modifyHead_cons,
      List.append_nil]
  rw [textLines, hpieces]
  simp

end Turn

end Quizmaster
