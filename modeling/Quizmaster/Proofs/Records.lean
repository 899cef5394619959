import Quizmaster.Proofs.Encodings
import Quizmaster.Proofs.Json.Indented
import Quizmaster.Proofs.Progress.Granted
import Quizmaster.Result

namespace Quizmaster

open Json

/-- A value comes back from both of its texts. -/
structure Json.ComesBack {α : Type} (encode : α → Json) (decode : Written → Option α) (a : α) :
    Prop where
  compact : (read? (encode a).compact).bind decode = some a
  pretty : (read? (encode a).pretty).bind decode = some a

/-- What is read back from the written value comes back from both texts. -/
theorem Json.comesBack_of_written {α : Type} {encode : α → Json} {decode : Written → Option α}
    {a : α} (hlegible : (encode a).Legible) (hdecode : decode (encode a).written = some a) :
    ComesBack encode decode a where
  compact := by rw [read?_compact hlegible, Option.bind_some, hdecode]
  pretty := by rw [read?_pretty hlegible, Option.bind_some, hdecode]

/-- A list comes back if anything that may stand in it does. -/
theorem Json.comesBack_list {α : Type} {encode : α → Json} {decode : Written → Option α}
    (hlegible : ∀ a, (encode a).Legible) (hdecode : ∀ a, decode (encode a).written = some a)
    (items : List α) :
    ComesBack (fun items => .array (items.map encode)) (Written.list? decode) items :=
  comesBack_of_written (legible_array items hlegible) (list?_written_array fun a _ => hdecode a)

theorem Json.legible_ofOption {α : Type} {encode : α → Json} (h : ∀ a, (encode a).Legible)
    (a : Option α) : (ofOption encode a).Legible := by
  cases a with
  | none => trivial
  | some a => exact h a

/-- What may be missing comes back if no value is written as null. -/
theorem Json.nullable?_written_ofOption {α : Type} {encode : α → Json}
    {decode : Written → Option α} (hdecode : ∀ a, decode (encode a).written = some a)
    (hnull : ∀ a, (encode a).written ≠ .null) (a : Option α) :
    Written.nullable? decode (ofOption encode a).written = some a := by
  cases a with
  | none => rfl
  | some a =>
    unfold Written.nullable?
    split
    · next h => exact absurd h (hnull a)
    · rw [ofOption, hdecode, Option.map_some]

namespace Record

/-- A record is read back from what it is written as. -/
theorem ofWritten?_written (r : Record) : ofWritten? r.toJson.written = some r := by
  have hquestion := Question.ofWritten?_written r.question
  have hgiven := Answer.ofWritten?_written r.given
  simp [toJson, written, writtenMembers, ofWritten?, Written.fields?, Written.required,
    Written.bool?, hquestion, hgiven]

theorem legible_toJson (r : Record) : r.toJson.Legible :=
  ⟨r.question.legible_toJson, r.given.legible_toJson, trivial, trivial⟩

theorem written_toJson_ne_null (r : Record) : r.toJson.written ≠ .null := by
  simp [toJson, written]

end Record

theorem Json.compactItems_eq_join : ∀ items : List Json,
    compactItems items = Text.join "," (items.map compact)
  | [] => rfl
  | [_] => rfl
  | item :: next :: rest => by
    rw [compactItems, compactItems_eq_join (next :: rest)]
    rfl

namespace Badge

/-- The names of badges need no escapes. -/
theorem quote_name (b : Badge) : quote b.name = "\"" ++ b.name ++ "\"" := by
  cases b <;> rfl

/-- The text of a set of badges is the list of their names. -/
theorem encodeAll_eq (badges : Badges) :
    encodeAll badges =
      "[" ++ Text.join "," (badges.toList.map fun b => "\"" ++ b.name ++ "\"") ++ "]" := by
  have hquoted : (badges.toList.map fun b => Json.string b.name).map compact =
      badges.toList.map fun b => "\"" ++ b.name ++ "\"" := by
    rw [List.map_map]
    exact List.map_congr_left fun b _ => quote_name b
  rw [encodeAll, compact, compactItems_eq_join, hquoted]

theorem ofWritten?_written (b : Badge) : ofWritten? (Json.string b.name).written = some b :=
  ofName?_name b

/-- A set of badges comes back from both texts. -/
theorem comesBack_badges (badges : Badges) :
    ComesBack (fun badges => .array (badges.toList.map fun b => .string b.name))
      (fun w => (w.list? ofWritten?).map .ofList) badges := by
  refine comesBack_of_written (legible_array _ fun _ => trivial) ?_
  rw [list?_written_array fun b _ => ofWritten?_written b, Option.map_some, Badges.ofList_toList]

end Badge

/-- Written in either form, every list of questions comes back, whatever characters stand in their
    texts and whether or not their answers are of their kinds, and so does every list of records,
    some of which may be missing. A set of badges comes back as well; its text holds their names in
    the order of their thresholds. What the bank and the progress are saved as is no exception. -/
theorem lists_come_back :
    (∀ questions : List Question,
      ComesBack (fun questions => .array (questions.map Question.toJson))
        (Written.list? Question.ofWritten?) questions ∧
      Bank.decode? (Question.encodeAll questions) = some ⟨questions⟩) ∧
    (∀ slots : List (Option Record),
      ComesBack (fun slots => .array (slots.map (ofOption Record.toJson)))
        (Written.list? (Written.nullable? Record.ofWritten?)) slots) ∧
    ∀ badges : List Badge,
      let held := Badges.ofList badges
      (∀ b, b ∈ held ↔ b ∈ badges) ∧
      held.toList.Pairwise (fun a b => a.threshold < b.threshold) ∧
      ComesBack (fun badges => .array (badges.toList.map fun b => .string b.name))
        (fun w => (w.list? Badge.ofWritten?).map Badges.ofList) held ∧
      Badge.decodeAll? (Badge.encodeAll held) = some held ∧
      Badge.encodeAll held =
        "[" ++ Text.join "," (held.toList.map fun b => "\"" ++ b.name ++ "\"") ++ "]" := by
  refine ⟨fun questions => ⟨?_, Bank.decode?_encode ⟨questions⟩⟩, fun slots => ?_,
    fun badges => ⟨fun b => Badges.mem_ofList, Badges.pairwise_threshold _,
      Badge.comesBack_badges _, Badge.decodeAll?_encodeAll _, Badge.encodeAll_eq _⟩⟩
  · exact comesBack_list Question.legible_toJson Question.ofWritten?_written questions
  · exact comesBack_list (legible_ofOption Record.legible_toJson)
      (nullable?_written_ofOption Record.ofWritten?_written Record.written_toJson_ne_null) slots

end Quizmaster
