import Quizmaster.Proofs.Item
import Quizmaster.Proofs.Json.Indented

namespace Quizmaster

open Json

/-- Either text of a value is parsed as the value, up to the order of members. -/
theorem Json.parse?_pretty {j : Json} (h : Textual Written.maxDepth j) :
    parse? j.pretty = some j.sorted := by
  rw [parse?, read?_pretty h.legible, Option.bind_some, h.toJson?_written]

theorem Question.wellFormed_iff {q : Question} : q.WellFormed ↔
    q.prompt ≠ "" ∧ q.rationale ≠ "" ∧ q.answer.kind = q.kind ∧
      (q.kind.usesOptions = true → q.options ≠ []) :=
  ⟨fun h => ⟨h.prompt_ne, h.rationale_ne, h.kind_eq, h.options_ne⟩,
    fun ⟨hprompt, hrationale, hkind, hoptions⟩ => ⟨hprompt, hrationale, hkind, hoptions⟩⟩

/-- A question comes back from the item that describes it if and only if it is well-formed. -/
theorem Item.toQuestion_ofQuestion_iff {q : Question} :
    (ofQuestion q).toQuestion q.id q.source = .ok q ↔ q.WellFormed :=
  ⟨wellFormed_of_toQuestion, toQuestion_ofQuestion⟩

namespace Batch

variable {stem : String} {source : Source} {index : Nat} {value : Json} {q : Question}

/-- An item is converted if it can be read and makes a question. -/
theorem convert_eq_ok_iff : convert stem source index value = .ok q ↔
    ∃ item, Item.ofJson value = .ok item ∧
      item.toQuestion (idOf stem index) source = .ok q := by
  unfold convert
  cases Item.ofJson value with
  | error flaw =>
    constructor
    · intro h
      cases h
    · rintro ⟨item, h, -⟩
      cases h
  | ok item => simp [bind, Except.bind]

/-- A question has its id from the place of its item, and its source from the file. -/
theorem id_and_source_of_convert (h : convert stem source index value = .ok q) :
    q.id = idOf stem index ∧ q.source = source := by
  obtain ⟨item, -, hquestion⟩ := convert_eq_ok_iff.mp h
  obtain ⟨prompt, answer, kind, -, -, -, -, rfl⟩ := Item.toQuestion_eq_ok_iff.mp hquestion
  exact ⟨rfl, rfl⟩

/-- What conversion gives is well-formed. -/
theorem wellFormed_of_convert (h : convert stem source index value = .ok q) : q.WellFormed := by
  obtain ⟨item, -, hquestion⟩ := convert_eq_ok_iff.mp h
  exact Item.wellFormed_of_toQuestion hquestion

/-- At its own place, the item that describes a question converts to that question. -/
theorem convert_sorted_ofQuestion (h : convert stem source index value = .ok q) :
    convert stem source index (Item.ofQuestion q).toJson.sorted = .ok q := by
  obtain ⟨hid, hsource⟩ := id_and_source_of_convert h
  refine convert_eq_ok_iff.mpr ⟨_, Item.ofJson_sorted_ofQuestion q, ?_⟩
  rw [← hid, ← hsource]
  exact Item.toQuestion_ofQuestion (wellFormed_of_convert h)

/-- Writing a question as an item and converting the item gives the question back exactly if it has
    a prompt and a rationale, an answer of its own kind, and options where its kind uses them. All
    questions that come of a list of items have these. So each of them, written as the text of an
    item in either form, becomes the same question again in the place that its item had. -/
theorem question_regained :
    (∀ q : Question, (Item.ofQuestion q).toQuestion q.id q.source = .ok q ↔
      q.prompt ≠ "" ∧ q.rationale ≠ "" ∧ q.answer.kind = q.kind ∧
        (q.kind.usesOptions = true → q.options ≠ [])) ∧
    ∀ (stem : String) (source : Source) (items : List Json),
      ∀ q ∈ (ofItems stem source items).questions,
        (q.prompt ≠ "" ∧ q.rationale ≠ "" ∧ q.answer.kind = q.kind ∧
          (q.kind.usesOptions = true → q.options ≠ [])) ∧
        ∃ (index : Nat) (value again : Json), items[index]? = some value ∧
          convert stem source index value = .ok q ∧
          parse? (Item.ofQuestion q).toJson.compact = some again ∧
          parse? (Item.ofQuestion q).toJson.pretty = some again ∧
          convert stem source index again = .ok q := by
  refine ⟨fun q => Item.toQuestion_ofQuestion_iff.trans Question.wellFormed_iff, ?_⟩
  intro stem source items q hq
  obtain ⟨index, value, hvalue, hconvert⟩ := mem_questions_iff.mp hq
  have htextual : Textual Written.maxDepth (Item.ofQuestion q).toJson :=
    Item.textual_toJson_ofQuestion (by decide) q
  exact ⟨Question.wellFormed_iff.mp (wellFormed_of_convert hconvert), index, value, _, hvalue,
    hconvert, parse?_compact htextual, parse?_pretty htextual, convert_sorted_ofQuestion hconvert⟩

/-- An ordering question whose type is shouted and whose only answer is a number, after an item that
    is none. -/
theorem question_regained_shouted_type :
    ∃ (items : List Json) (q : Question), q ∈ (ofItems "sums" .default items).questions ∧
      q.kind = .ordering ∧ q.answer = .ordering ["7"] ∧ q.options = ["", "7"] ∧
      ∃ (index : Nat) (value again : Json), items[index]? = some value ∧
        convert "sums" .default index value = .ok q ∧
        parse? (Item.ofQuestion q).toJson.compact = some again ∧
        parse? (Item.ofQuestion q).toJson.pretty = some again ∧
        convert "sums" .default index again = .ok q := by
  let items : List Json :=
    [.null, .object [("Question", .string "a\nb"), ("Options", .array [.null, .nat 7]),
      ("answer", .nat 7), ("type", .string " ORDERING ")]]
  let q : Question := .plain "sums_1" .ordering "a\nb" ["", "7"] (.ordering ["7"])
  have hquestions : (ofItems "sums" .default items).questions = [q] := by decide +kernel
  have hq : q ∈ (ofItems "sums" .default items).questions := by simp [hquestions]
  exact ⟨items, q, hq, rfl, rfl, rfl,
    (question_regained.2 "sums" .default items q hq).2⟩

end Batch

end Quizmaster
