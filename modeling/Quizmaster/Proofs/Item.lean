import Quizmaster.Batch
import Quizmaster.Proofs.Json.Parsed
import Quizmaster.Proofs.Text

namespace Quizmaster

open Json

/-- What every question has that comes from an item. -/
structure Question.WellFormed (q : Question) : Prop where
  prompt_ne : q.prompt ≠ ""
  rationale_ne : q.rationale ≠ ""
  kind_eq : q.answer.kind = q.kind
  options_ne : q.kind.usesOptions = true → q.options ≠ []

/-- A kind is spelled by its name. -/
theorem Kind.parse_name (k : Kind) : parse k.name = .ok k := by
  have hall : k.name.toList.all (fun c => !Text.isBlank c &&
      (c.toNat < 0x41 || 0x5A < c.toNat && c.toNat < 0x80)) = true := by
    cases k <;> decide
  have hplain : ∀ c ∈ k.name.toList, Text.isBlank c = false ∧
      (c.toNat < 0x41 ∨ 0x5A < c.toNat ∧ c.toNat < 0x80) := by
    simpa using hall
  have hnormal : normalize k.name = k.name := by
    rw [normalize, Text.trim_of_forall fun c hc => (hplain c hc).1,
      Text.lowercase_of_forall fun c hc => (hplain c hc).2]
  rw [parse, hnormal]
  cases k <;> rfl

namespace Answer

theorem kind_ofText (k : Kind) (text : String) : (ofText k text).kind = k := by
  cases k <;> rfl

theorem kind_ofList (k : Kind) (items : List String) : (ofList k items).kind = k := by
  cases k <;> rfl

end Answer

namespace Item

theorem map_textOf_string (items : List String) : (items.map Json.string).map textOf = items := by
  rw [List.map_map]
  exact List.map_id items

theorem kind_answerOf (k : Kind) (value : Json) : (answerOf k value).kind = k := by
  cases value with
  | array items => exact Answer.kind_ofList k _
  | _ => exact Answer.kind_ofText k _

/-- The contents of an answer are enough to have it back, as its kind is known. -/
theorem answerOf_contents (a : Answer) : answerOf a.kind a.contents = a := by
  cases a with
  | single s => rfl
  | fillIn s => rfl
  | multiSelect items => exact congrArg Answer.multiSelect (map_textOf_string items)
  | ordering items => exact congrArg Answer.ordering (map_textOf_string items)

theorem append_ne_empty_left {s : String} (h : s ≠ "") (t : String) : s ++ t ≠ "" := by
  intro hempty
  have hlist : s.toList ++ t.toList = [] := by
    rw [← String.toList_append, hempty]
    rfl
  exact h (String.toList_eq_nil_iff.mp (List.append_eq_nil_iff.mp hlist).1)

theorem positional_ne_nil (digits : List Char) (exponent : Int) :
    Number.positional digits exponent ≠ [] := by
  unfold Number.positional
  split <;> simp

theorem scientific_ne_nil (digits : List Char) (exponent : Int) :
    Number.scientific digits exponent ≠ [] := by
  simp [Number.scientific]

/-- A number is never written as the empty text. -/
theorem text_number_ne_empty (n : Number) : n.text ≠ "" := by
  cases n with
  | natural n =>
    intro hempty
    simp [Number.text] at hempty
  | negative n => exact append_ne_empty_left (by decide) _
  | float x =>
    rw [Number.text, Number.floatText]
    simp only [ne_eq, String.ofList_eq_empty_iff, List.append_eq_nil_iff, not_and]
    intro _
    split
    · decide
    · split
      · exact positional_ne_nil _ _
      · exact scientific_ne_nil _ _

/-- What counts as a text is not empty. -/
theorem textOf_ne_empty {value : Json} (h : isAbsent value = false) : textOf value ≠ "" := by
  cases value with
  | null => cases h
  | bool b => cases b <;> simp [textOf, compact]
  | number n => simpa [textOf, compact] using text_number_ne_empty n
  | string s => simpa [textOf, isAbsent] using h
  | array items =>
    simp only [textOf, compact, String.append_assoc]
    exact append_ne_empty_left (by decide) _
  | object members =>
    simp only [textOf, compact, String.append_assoc]
    exact append_ne_empty_left (by decide) _

/-- A field has a text if it is there and does not count as absent. -/
theorem textField?_eq_some_iff {value : Option Json} {text : String} :
    textField? value = some text ↔ ∃ v, value = some v ∧ isAbsent v = false ∧ text = textOf v := by
  rw [textField?, Option.bind_eq_some_iff]
  constructor
  · rintro ⟨v, hv, htext⟩
    cases hpresent : isAbsent v with
    | true => simp [hpresent] at htext
    | false => exact ⟨v, hv, hpresent, by simpa [hpresent] using htext.symm⟩
  · rintro ⟨v, hv, hpresent, rfl⟩
    exact ⟨v, hv, by simp [hpresent]⟩

theorem textField?_ne_empty {value : Option Json} {text : String}
    (h : textField? value = some text) : text ≠ "" := by
  obtain ⟨v, -, hpresent, rfl⟩ := textField?_eq_some_iff.mp h
  exact textOf_ne_empty hpresent

theorem textField?_string {s : String} (h : s ≠ "") : textField? (some (.string s)) = some s :=
  textField?_eq_some_iff.mpr ⟨_, rfl, beq_eq_false_iff_ne.mpr h, rfl⟩

section

variable {item : Item} {id : String} {source : Source} {q : Question}

/-- All that it takes to become a question, and the question that comes of it. -/
theorem toQuestion_eq_ok_iff : item.toQuestion id source = .ok q ↔
    ∃ prompt answer kind, textField? item.question = some prompt ∧ given item.answer = some answer ∧
      kindOf item answer = .ok kind ∧ (kind.usesOptions = true → item.options.getD [] ≠ []) ∧
      q = {
        id, kind, prompt, source
        options := (item.options.getD []).map textOf
        answer := answerOf kind answer
        rationale := (textField? item.rationale).getD Question.noRationale
        hint := (textField? item.hint).getD "" } := by
  unfold toQuestion
  cases textField? item.question with
  | none => simp [throw, throwThe, MonadExceptOf.throw]
  | some prompt =>
    cases given item.answer with
    | none => simp [throw, throwThe, MonadExceptOf.throw]
    | some answer =>
      cases hkind : kindOf item answer with
      | error flaw => simp [hkind, bind, Except.bind]
      | ok kind =>
        cases huses : kind.usesOptions <;> by_cases hempty : item.options.getD [] = [] <;>
          simp [hkind, huses, hempty, bind, Except.bind, pure, Except.pure, throw, throwThe,
            MonadExceptOf.throw, @eq_comm _ _ q]

/-- What an item becomes is well-formed. -/
theorem wellFormed_of_toQuestion (h : item.toQuestion id source = .ok q) : q.WellFormed := by
  obtain ⟨prompt, answer, kind, hprompt, -, -, hoptions, rfl⟩ := toQuestion_eq_ok_iff.mp h
  exact {
    prompt_ne := textField?_ne_empty hprompt
    rationale_ne := by
      change (textField? item.rationale).getD Question.noRationale ≠ ""
      cases hrationale : textField? item.rationale with
      | none => decide
      | some text => exact textField?_ne_empty hrationale
    kind_eq := kind_answerOf kind answer
    options_ne := fun huses => (not_congr List.map_eq_nil_iff).mpr (hoptions huses) }

/-- A question comes back whole from the item that describes it. -/
theorem toQuestion_ofQuestion (h : q.WellFormed) :
    (ofQuestion q).toQuestion q.id q.source = .ok q := by
  have hoptions : (ofQuestion q).options.getD [] = q.options.map .string := by
    unfold ofQuestion
    cases q.options <;> rfl
  have hhint : (textField? (ofQuestion q).hint).getD "" = q.hint := by
    unfold ofQuestion
    by_cases hempty : q.hint = ""
    · simp [hempty, textField?]
    · simp [hempty, textField?_string hempty]
  have hkind : kindOf (ofQuestion q) q.answer.contents = .ok q.kind := by
    have hname : q.kind.name ≠ "" := by cases q.kind <;> decide
    simp [kindOf, ofQuestion, hname, Kind.parse_name, Except.mapError]
  have hanswer : given (ofQuestion q).answer = some q.answer.contents := by
    unfold ofQuestion
    cases q.answer <;> rfl
  refine toQuestion_eq_ok_iff.mpr ⟨q.prompt, q.answer.contents, q.kind,
    textField?_string h.prompt_ne, hanswer, hkind, ?_, ?_⟩
  · intro huses
    rw [hoptions]
    exact (not_congr List.map_eq_nil_iff).mpr (h.options_ne huses)
  · have hrationale : textField? (ofQuestion q).rationale = some q.rationale :=
      textField?_string h.rationale_ne
    have hcontents : answerOf q.kind q.answer.contents = q.answer := by
      rw [← h.kind_eq, answerOf_contents]
    rw [hoptions, hhint, hrationale, hcontents, map_textOf_string]
    rfl

end

/-- The fields in their order, whether they are there or not. -/
def fields (item : Item) : List (String × Option Json) :=
  [("Question", item.question), ("Options", item.options.map .array), ("answer", item.answer),
    ("Rationale", item.rationale), ("hint", item.hint), ("type", item.kind.map .string)]

/-- The fields that are there, under their names. -/
def present (fields : List (String × Option Json)) : List (String × Json) :=
  fields.filterMap fun field => field.2.map fun value => (field.1, value)

theorem present_cons (name : String) (value : Option Json) (fields : List (String × Option Json)) :
    present ((name, value) :: fields) =
      (value.map fun v => (name, v)).toList ++ present fields := by
  cases value <;> rfl

theorem toJson_eq (item : Item) : item.toJson = .object (present item.fields) := by
  simp only [toJson, fields, present_cons, List.append_assoc]
  simp [present]

theorem lookup_present {fields : List (String × Option Json)} (h : (fields.map Prod.fst).Nodup)
    (name : String) : (present fields).lookup name = (fields.lookup name).join := by
  induction fields with
  | nil => rfl
  | cons field fields ih =>
    obtain ⟨key, value⟩ := field
    rw [List.map_cons, List.nodup_cons] at h
    obtain ⟨hkey, hrest⟩ := h
    rw [present_cons, List.lookup_cons]
    cases hname : name == key with
    | false =>
      cases value with
      | none => exact ih hrest
      | some v => simpa [List.lookup_cons, hname] using ih hrest
    | true =>
      cases value with
      | some v => simp [List.lookup_cons, hname]
      | none =>
        have hnone : fields.lookup name = none :=
          Keyed.lookup_of_not_mem_keys (eq_of_beq hname ▸ hkey)
        simpa [hnone] using ih hrest

theorem nodup_keys_present {fields : List (String × Option Json)}
    (h : (fields.map Prod.fst).Nodup) : ((present fields).map Prod.fst).Nodup := by
  refine h.sublist ?_
  clear h
  induction fields with
  | nil => exact .slnil
  | cons field fields ih =>
    obtain ⟨name, value⟩ := field
    rw [present_cons]
    cases value with
    | none => exact ih.cons _
    | some v => exact ih.cons_cons _

theorem nodup_names (item : Item) : (item.fields.map Prod.fst).Nodup := by
  change ["Question", "Options", "answer", "Rationale", "hint", "type"].Nodup
  decide

/-- What an item's text is read as holds the item's fields. -/
theorem ofJson_sorted_toJson (item : Item) : ofJson item.toJson.sorted =
    ofFields (item.question.map sorted) ((item.options.map .array).map sorted)
      (item.answer.map sorted) (item.rationale.map sorted) (item.hint.map sorted)
      ((item.kind.map .string).map sorted) := by
  have hlookup (name : String) :
      (sortMembers (sortedMembers (present item.fields))).lookup name =
        (item.fields.lookup name).join.map sorted := by
    rw [← lookup_present item.nodup_names]
    have hmember := member?_sorted (nodup_keys_present item.nodup_names) name
    rwa [sorted] at hmember
  rw [toJson_eq, sorted, ofJson]
  simp only [hlookup]
  rfl

theorem sorted_contents (a : Answer) : a.contents.sorted = a.contents := by
  cases a with
  | single s => rfl
  | fillIn s => rfl
  | multiSelect items => exact sorted_ofStrings items
  | ordering items => exact sorted_ofStrings items

/-- The item of a question, written as a text and read again, is the same item. -/
theorem ofJson_sorted_ofQuestion (q : Question) :
    ofJson (ofQuestion q).toJson.sorted = .ok (ofQuestion q) := by
  have hquestion : given ((ofQuestion q).question.map sorted) = (ofQuestion q).question := rfl
  have hoptions : readOptions (((ofQuestion q).options.map .array).map sorted) =
      .ok (ofQuestion q).options := by
    have hlist : (Json.array (q.options.map .string)).sorted = .array (q.options.map .string) :=
      sorted_ofStrings q.options
    by_cases hempty : q.options.isEmpty = true
    · simp [ofQuestion, hempty, readOptions, given]
    · simp [ofQuestion, hempty, hlist, readOptions, given]
  have hanswer : given ((ofQuestion q).answer.map sorted) = (ofQuestion q).answer := by
    change given (some q.answer.contents.sorted) = some q.answer.contents
    rw [sorted_contents]
    cases q.answer <;> rfl
  have hrationale : given ((ofQuestion q).rationale.map sorted) = (ofQuestion q).rationale := rfl
  have hhint : given ((ofQuestion q).hint.map sorted) = (ofQuestion q).hint := by
    by_cases hempty : (q.hint == "") = true
    · simp [ofQuestion, hempty, given]
    · simp [ofQuestion, hempty, sorted, given]
  have hkind : readKind (((ofQuestion q).kind.map .string).map sorted) = .ok (ofQuestion q).kind := rfl
  rw [ofJson_sorted_toJson, ofFields, hquestion, hoptions, hanswer, hrationale, hhint, hkind]
  rfl

theorem textual_contents {room : Nat} (hroom : 0 < room) (a : Answer) :
    a.contents.Textual room := by
  cases a with
  | single s => trivial
  | fillIn s => trivial
  | multiSelect items => exact textual_ofStrings hroom items
  | ordering items => exact textual_ofStrings hroom items

/-- The item of a question is written in texts alone. -/
theorem textual_toJson_ofQuestion {room : Nat} (hroom : 1 < room) (q : Question) :
    (ofQuestion q).toJson.Textual room := by
  have hinner : 0 < room - 1 := by omega
  rw [toJson_eq]
  refine ⟨by omega, textualMembers_iff.mpr fun member hmember => ?_⟩
  obtain ⟨⟨name, value⟩, hfield, hvalue⟩ := List.mem_filterMap.mp hmember
  obtain ⟨v, rfl, rfl⟩ := Option.map_eq_some_iff.mp hvalue
  simp only [fields, ofQuestion, List.mem_cons, Prod.mk.injEq, List.not_mem_nil, or_false] at hfield
  rcases hfield with ⟨-, h⟩ | ⟨-, h⟩ | ⟨-, h⟩ | ⟨-, h⟩ | ⟨-, h⟩ | ⟨-, h⟩
  · cases h
    trivial
  · split at h
    · cases h
    · cases h
      exact textual_ofStrings hinner q.options
  · cases h
    exact textual_contents hinner q.answer
  · cases h
    trivial
  · split at h
    · cases h
    · cases h
      trivial
  · cases h
    trivial

end Item

namespace Batch

variable {stem : String} {source : Source} {items : List Json} {q : Question}

theorem mem_questions_iff : q ∈ (ofItems stem source items).questions ↔
    ∃ (index : Nat) (item : Json), items[index]? = some item ∧
      convert stem source index item = .ok q := by
  simp only [ofItems, List.mem_filterMap, Prod.exists]
  constructor
  · rintro ⟨item, index, hmem, hconvert⟩
    refine ⟨index, item, List.mem_zipIdx_iff_getElem?.mp hmem, ?_⟩
    split at hconvert
    · next heq =>
      rw [heq, Option.some.inj hconvert]
    · cases hconvert
  · rintro ⟨index, item, hitem, hconvert⟩
    exact ⟨item, index, List.mem_zipIdx_iff_getElem?.mpr hitem, by rw [hconvert]⟩

/-- All questions of a batch are well-formed. -/
theorem wellFormed_of_mem_questions (h : q ∈ (ofItems stem source items).questions) :
    q.WellFormed := by
  obtain ⟨index, value, -, hconvert⟩ := mem_questions_iff.mp h
  rw [convert] at hconvert
  cases hitem : Item.ofJson value with
  | error flaw =>
    rw [hitem] at hconvert
    cases hconvert
  | ok item =>
    rw [hitem] at hconvert
    exact Item.wellFormed_of_toQuestion hconvert

end Batch

end Quizmaster
