import Quizmaster.Bank
import Quizmaster.Progress
import Quizmaster.Proofs.Json.Compact
import Quizmaster.Proofs.Progress.Granted
import Quizmaster.Proofs.Text

namespace Quizmaster

open Json

@[simp] theorem Json.text?_written_string (s : String) : (Json.string s).written.text? = some s := rfl

theorem Json.legible_array {α : Type} {encode : α → Json} (items : List α)
    (h : ∀ item, (encode item).Legible) : Legible (.array (items.map encode)) := by
  refine (legibleItems_iff _).mpr fun item hitem => ?_
  obtain ⟨a, -, rfl⟩ := List.mem_map.mp hitem
  exact h a

theorem Json.legible_ofStrings (items : List String) : Legible (.ofStrings items) :=
  legible_array items fun _ => trivial

/-- A list is read back if each of its items is. -/
theorem Json.list?_written_array {α : Type} {encode : α → Json} {decode : Written → Option α}
    {items : List α} (hdecode : ∀ item ∈ items, decode (encode item).written = some item) :
    (Json.array (items.map encode)).written.list? decode = some items := by
  simp only [written, writtenItems_eq_map, Written.list?, List.map_map]
  induction items with
  | nil => rfl
  | cons item items ih =>
    rw [List.forall_mem_cons] at hdecode
    simp [hdecode.1, ih hdecode.2]

theorem Json.list?_written_ofStrings (items : List String) :
    (Json.ofStrings items).written.list? Written.text? = some items :=
  list?_written_array fun _ _ => rfl

theorem Kind.ofName?_name (k : Kind) : ofName? k.name = some k := by
  cases k <;> rfl

theorem Kind.ofWritten?_written (k : Kind) : ofWritten? k.toJson.written = some k :=
  k.ofName?_name

/-- Contents are read back by one who knows the kind. -/
theorem Answer.ofContents?_written (a : Answer) :
    ofContents? a.kind a.contents.written = some a := by
  cases a with
  | single s => rfl
  | fillIn s => rfl
  | multiSelect items => simp [ofContents?, kind, contents, list?_written_ofStrings]
  | ordering items => simp [ofContents?, kind, contents, list?_written_ofStrings]

/-- An answer is read back from what it is written as. -/
theorem Answer.ofWritten?_written (a : Answer) : ofWritten? a.toJson.written = some a := by
  have htag : tag? a.toJson.written a.kind.toJson.written = some a.kind := Kind.ofWritten?_written _
  simp only [toJson, written, writtenMembers] at htag ⊢
  simp [ofWritten?, Written.fields?, htag, ofContents?_written]

theorem Answer.legible_toJson (a : Answer) : a.toJson.Legible := by
  cases a with
  | single s => exact ⟨trivial, trivial, trivial⟩
  | fillIn s => exact ⟨trivial, trivial, trivial⟩
  | multiSelect items => exact ⟨trivial, legible_ofStrings items, trivial⟩
  | ordering items => exact ⟨trivial, legible_ofStrings items, trivial⟩

theorem Source.ofWritten?_written (s : Source) : ofWritten? s.toJson.written = some s := by
  simp [toJson, written, writtenMembers, ofWritten?, Written.fields?, Written.required, Written.text?]

/-- A question is read back from what it is written as. -/
theorem Question.ofWritten?_written (q : Question) : ofWritten? q.toJson.written = some q := by
  have hkind := Kind.ofWritten?_written q.kind
  have hoptions := list?_written_ofStrings q.options
  have hanswer := Answer.ofWritten?_written q.answer
  have hsource := Source.ofWritten?_written q.source
  simp [toJson, written, writtenMembers, ofWritten?, Written.fields?, fieldNames, Written.required,
    Written.orElse, Written.text?, hkind, hoptions, hanswer, hsource]

theorem Question.legible_toJson (q : Question) : q.toJson.Legible :=
  ⟨trivial, trivial, trivial, legible_ofStrings q.options, q.answer.legible_toJson, trivial, trivial,
    ⟨trivial, trivial, trivial, trivial, trivial⟩, trivial⟩

/-- A saved bank is read back whole, with every character of every text. -/
theorem Bank.decode?_encode (b : Bank) : decode? b.encode = some b := by
  have hlegible : Legible (.array (b.questions.map Question.toJson)) :=
    legible_array _ Question.legible_toJson
  rw [decode?, encode, Question.encodeAll, read?_compact hlegible, Option.bind_some,
    list?_written_array fun q _ => q.ofWritten?_written]
  rfl

namespace Badge

theorem ofName?_name (b : Badge) : ofName? b.name = some b := by
  cases b <;> decide

/-- Saved badges are read back. -/
theorem decodeAll?_encodeAll (badges : Badges) : decodeAll? (encodeAll badges) = some badges := by
  have hlegible : Legible (.array (badges.toList.map fun b => .string b.name)) :=
    legible_array _ fun _ => trivial
  rw [decodeAll?, encodeAll, read?_compact hlegible, Option.bind_some,
    list?_written_array fun b _ => (ofName?_name b : ofWritten? (Json.string b.name).written = some b),
    Option.map_some, Badges.ofList_toList]

end Badge

/-- A saved count of stars is read back. -/
theorem Progress.decodeStars_toString {n : Nat} (h : n ≤ maxStars) :
    decodeStars (some (toString n)) = n := by
  have hdigits : ∀ c ∈ Nat.toDigits 10 n, c.isDigit = true := fun c hc =>
    Nat.isDigit_of_mem_toDigits (by decide) (by decide) hc
  have htrim : Text.trimChars (Nat.toDigits 10 n) = Nat.toDigits 10 n :=
    Text.trimChars_of_forall fun c hc => Text.isBlank_of_isDigit (hdigits c hc)
  have hvalue : Text.ofDigits (Nat.toDigits 10 n) = n := Nat.ofDigitChars_ten_toDigits
  have htext : (toString n).toList = Nat.toDigits 10 n := by simp
  rw [decodeStars, Option.bind_some, htext, htrim,
    Text.natural?_of_isDigit Nat.toDigits_ne_nil hdigits hvalue h]
  rfl

end Quizmaster
