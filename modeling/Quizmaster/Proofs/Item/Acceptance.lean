import Quizmaster.Proofs.Batch
import Quizmaster.Proofs.Binary64.Rounding

namespace Quizmaster

open Json

namespace Json.Number

/-- Zero, in whichever way it is kept. -/
def IsZero : Number → Prop
  | .natural n | .negative n => n = 0
  | .float x => x.units = 0

theorem isZero_ofNat_iff (n : Nat) : (Binary64.ofNat n).isZero = true ↔ n = 0 := by
  simp only [Binary64.isZero, Binary64.ofNat, beq_iff_eq]
  constructor
  · intro hzero
    by_contra hn
    refine Binary64.roundUnits_ne_zero Nat.one_pos ?_ hzero
    exact Nat.mul_pos (Nat.pos_of_ne_zero hn) Binary64.one_pos
  · rintro rfl
    rw [Nat.zero_mul]
    rfl

/-- Rounding makes no other number zero. -/
theorem isZero_toBinary64_iff (n : Number) : n.toBinary64.isZero = true ↔ n.IsZero := by
  cases n with
  | natural n => exact isZero_ofNat_iff n
  | negative n => exact isZero_ofNat_iff n
  | float x => simp [toBinary64, Binary64.isZero, IsZero]

end Json.Number

/-- The spellings of a kind. -/
def Kind.spellings : Kind → List String
  | .single => ["single"]
  | .multiSelect => ["multi-select", "multi_select", "multiselect"]
  | .fillIn => ["fill-in", "fill_in", "fillin"]
  | .ordering => ["ordering"]

/-- A kind is told by its spellings. -/
theorem Kind.ofSpelling?_eq_some_iff {s : String} {k : Kind} :
    ofSpelling? s = some k ↔ s ∈ k.spellings := by
  constructor
  · intro h
    unfold ofSpelling? at h
    split at h <;> cases h <;> decide
  · cases k <;> simp only [spellings, List.mem_cons, List.not_mem_nil, or_false]
    · rintro rfl
      rfl
    · rintro (rfl | rfl | rfl) <;> rfl
    · rintro (rfl | rfl | rfl) <;> rfl
    · rintro rfl
      rfl

/-- A kind is told by its spellings, in any letter case and with white space around them. -/
theorem Kind.parse_eq_ok_iff {s : String} {k : Kind} :
    parse s = .ok k ↔ Text.lowercase (Text.trim s) ∈ k.spellings := by
  rw [← ofSpelling?_eq_some_iff, parse, normalize]
  cases ofSpelling? (Text.lowercase (Text.trim s)) <;> simp

namespace Item

/-- The value of a field: in an object the one under the field's name, in an array the one at the
    field's place. -/
def fieldOf (value : Json) (name : String) : Option Json :=
  match value with
  | .object members => members.lookup name
  | .array items => items[fieldNames.idxOf name]?
  | _ => none

/-- A field that is not there, or is null. -/
def Missing (value : Json) (name : String) : Prop :=
  fieldOf value name = none ∨ fieldOf value name = some .null

/-- An object, or an array of no more values than there are fields, whose options are a list and
    whose type is a text, if they are there. -/
structure Shaped (value : Json) : Prop where
  container : (∃ members, value = .object members) ∨ ∃ items, value = .array items ∧ items.length ≤ 6
  options : Missing value "Options" ∨ ∃ items, fieldOf value "Options" = some (.array items)
  type : Missing value "type" ∨ ∃ s, fieldOf value "type" = some (.string s)

/-- No type is given. -/
def Untyped (value : Json) : Prop :=
  Missing value "type" ∨ fieldOf value "type" = some (.string "")

/-- The kind that an item gives by its type or, without a type, by its options and its answer. -/
inductive HasKind (value : Json) : Kind → Prop
  | typed {s : String} {k : Kind} (htype : fieldOf value "type" = some (.string s))
      (hspelling : Text.lowercase (Text.trim s) ∈ k.spellings) : HasKind value k
  | fillIn (huntyped : Untyped value) (hoptions : Missing value "Options") : HasKind value .fillIn
  | multiSelect {options answers : List Json} (huntyped : Untyped value)
      (hoptions : fieldOf value "Options" = some (.array options))
      (hanswer : fieldOf value "answer" = some (.array answers)) : HasKind value .multiSelect
  | single {options : List Json} (huntyped : Untyped value)
      (hoptions : fieldOf value "Options" = some (.array options))
      (hanswer : ∀ answers, fieldOf value "answer" ≠ some (.array answers)) : HasKind value .single

/-- Null, false, zero and the empty text. -/
def CountsAsAbsent : Json → Prop
  | .null => True
  | .bool b => b = false
  | .number n => n.IsZero
  | .string s => s = ""
  | .array _ | .object _ => False

/-- All that a value needs to become a question. -/
structure Acceptable (value : Json) : Prop extends Shaped value where
  question : ∃ prompt, fieldOf value "Question" = some prompt ∧ ¬ CountsAsAbsent prompt
  answer : ¬ Missing value "answer"
  recognized : Untyped value ∨
    ∃ s k, fieldOf value "type" = some (.string s) ∧ Text.lowercase (Text.trim s) ∈ Kind.spellings k
  offered : ∀ k, HasKind value k → k ≠ .fillIn →
    ∃ option options, fieldOf value "Options" = some (.array (option :: options))

theorem isAbsent_eq_true_iff {value : Json} : isAbsent value = true ↔ CountsAsAbsent value := by
  cases value with
  | number n => exact Number.isZero_toBinary64_iff n
  | _ => simp [isAbsent, CountsAsAbsent]

/-- The list in a field, if there is one. -/
def list? : Option Json → Option (List Json)
  | some (.array items) => some items
  | _ => none

/-- The text in a field, if there is one. -/
def text? : Option Json → Option String
  | some (.string s) => some s
  | _ => none

/-- The options that an item lists. -/
def listed (value : Json) : List Json := (list? (fieldOf value "Options")).getD []

theorem given_eq_some_iff {value : Option Json} {v : Json} :
    given value = some v ↔ value = some v ∧ v ≠ .null := by
  unfold given
  split
  · simp only [reduceCtorEq, Option.some.injEq, ne_eq, false_iff, not_and, not_not]
    exact Eq.symm
  · next hnull =>
    constructor
    · rintro rfl
      exact ⟨rfl, fun h => hnull (congrArg some h)⟩
    · exact And.left

/-- Options may be left out, null or an array. -/
theorem readOptions_eq_ok_iff {value : Option Json} {options : Option (List Json)} :
    readOptions value = .ok options ↔
      ((value = none ∨ value = some .null) ∨ ∃ items, value = some (.array items)) ∧
        options = list? value := by
  cases value with
  | none => simp [readOptions, given, list?, eq_comm]
  | some v => cases v <;> simp [readOptions, given, list?, eq_comm]

/-- A kind may be left out, null or a string. -/
theorem readKind_eq_ok_iff {value : Option Json} {kind : Option String} :
    readKind value = .ok kind ↔
      ((value = none ∨ value = some .null) ∨ ∃ s, value = some (.string s)) ∧
        kind = text? value := by
  cases value with
  | none => simp [readKind, given, text?, eq_comm]
  | some v => cases v <;> simp [readKind, given, text?, eq_comm]

/-- Only options and kind can have the wrong shape. -/
theorem ofFields_eq_ok_iff {question options answer rationale hint kind : Option Json}
    {item : Item} : ofFields question options answer rationale hint kind = .ok item ↔
      ((options = none ∨ options = some .null) ∨ ∃ items, options = some (.array items)) ∧
      ((kind = none ∨ kind = some .null) ∨ ∃ s, kind = some (.string s)) ∧
      item = ⟨given question, list? options, given answer, given rationale, given hint,
        text? kind⟩ := by
  have hread : ofFields question options answer rationale hint kind = .ok item ↔
      ∃ list type, readOptions options = .ok list ∧ readKind kind = .ok type ∧
        item = ⟨given question, list, given answer, given rationale, given hint, type⟩ := by
    unfold ofFields
    cases readOptions options <;> cases readKind kind <;>
      simp [bind, Except.bind, pure, Except.pure, eq_comm]
  rw [hread]
  constructor
  · rintro ⟨list, type, hlist, htype, rfl⟩
    obtain ⟨hoptions, rfl⟩ := readOptions_eq_ok_iff.mp hlist
    obtain ⟨hkind, rfl⟩ := readKind_eq_ok_iff.mp htype
    exact ⟨hoptions, hkind, rfl⟩
  · rintro ⟨hoptions, hkind, rfl⟩
    exact ⟨_, _, readOptions_eq_ok_iff.mpr ⟨hoptions, rfl⟩, readKind_eq_ok_iff.mpr ⟨hkind, rfl⟩, rfl⟩

/-- The item that a value of the right shape is. -/
def ofShaped (value : Json) : Item :=
  let field := fieldOf value
  ⟨given (field "Question"), list? (field "Options"), given (field "answer"),
    given (field "Rationale"), given (field "hint"), text? (field "type")⟩

/-- The values that can be read as items, and the item of such a value. -/
theorem ofJson_eq_ok_iff {value : Json} {item : Item} :
    ofJson value = .ok item ↔ Shaped value ∧ item = ofShaped value := by
  cases value with
  | object members =>
    rw [ofJson, ofFields_eq_ok_iff]
    constructor
    · rintro ⟨hoptions, htype, rfl⟩
      exact ⟨⟨.inl ⟨members, rfl⟩, hoptions, htype⟩, rfl⟩
    · rintro ⟨hshape, rfl⟩
      exact ⟨hshape.options, hshape.type, rfl⟩
  | array items =>
    have hread : ofJson (.array items) = .ok item ↔
        ofFields items[0]? items[1]? items[2]? items[3]? items[4]? items[5]? = .ok item ∧
          items.length ≤ 6 := by
      unfold ofJson
      cases hitem : ofFields items[0]? items[1]? items[2]? items[3]? items[4]? items[5]? <;>
        by_cases hlength : items.length ≤ 6 <;>
        simp [hitem, hlength, bind, Except.bind, pure, Except.pure, throw, throwThe,
          MonadExceptOf.throw]
    rw [hread, ofFields_eq_ok_iff]
    constructor
    · rintro ⟨⟨hoptions, htype, rfl⟩, hlength⟩
      exact ⟨⟨.inr ⟨items, rfl, hlength⟩, hoptions, htype⟩, rfl⟩
    · rintro ⟨⟨⟨members, h⟩ | ⟨_, h, hlength⟩, hoptions, htype⟩, rfl⟩
      · cases h
      · cases h
        exact ⟨⟨hoptions, htype, rfl⟩, hlength⟩
  | _ =>
    constructor
    · intro h
      cases h
    · rintro ⟨⟨⟨members, h⟩ | ⟨items, h, -⟩, -, -⟩, -⟩ <;> cases h

section

variable {value answer : Json} {k : Kind}

theorem not_mem_spellings_empty (k : Kind) :
    Text.lowercase (Text.trim "") ∉ k.spellings := by
  cases k <;> decide

/-- A value names a kind by a text that is not empty, or it names none. -/
theorem Shaped.untyped_or (h : Shaped value) :
    Untyped value ∨ ∃ s, s ≠ "" ∧ fieldOf value "type" = some (.string s) := by
  obtain hmissing | ⟨s, hs⟩ := h.type
  · exact .inl (.inl hmissing)
  · by_cases hempty : s = ""
    · subst hempty
      exact .inl (.inr hs)
    · exact .inr ⟨s, hempty, hs⟩

/-- Without a kind that is named, the shape decides. -/
theorem kindOf_of_untyped (h : Untyped value) (answer : Json) :
    kindOf (ofShaped value) answer = .ok (kindOf.inferred (ofShaped value) answer) := by
  obtain (hfield | hfield) | hfield := h <;> simp [kindOf, ofShaped, hfield, text?]

/-- A kind that is named is the one, or the item is refused. -/
theorem kindOf_of_typed {s : String} (hs : s ≠ "") (h : fieldOf value "type" = some (.string s))
    (answer : Json) :
    kindOf (ofShaped value) answer = (Kind.parse s).mapError .unknownKind := by
  simp [kindOf, ofShaped, h, text?, hs]

/-- Without options, an item is to be filled in. -/
theorem inferred_of_missing (h : Missing value "Options") (answer : Json) :
    kindOf.inferred (ofShaped value) answer = .fillIn := by
  obtain hfield | hfield := h <;> simp [kindOf.inferred, ofShaped, hfield, list?]

/-- Options and several answers make a selection. -/
theorem inferred_of_array {options : List Json}
    (h : fieldOf value "Options" = some (.array options)) (answers : List Json) :
    kindOf.inferred (ofShaped value) (.array answers) = .multiSelect := by
  simp [kindOf.inferred, ofShaped, h, list?]

/-- Options and one answer make a single choice. -/
theorem inferred_of_scalar {options : List Json}
    (h : fieldOf value "Options" = some (.array options))
    (hscalar : ∀ answers, answer ≠ .array answers) :
    kindOf.inferred (ofShaped value) answer = .single := by
  cases answer with
  | array answers => exact absurd rfl (hscalar answers)
  | _ => simp [kindOf.inferred, ofShaped, h, list?]

/-- Without a type, the options and the answer tell the kind. -/
theorem hasKind_inferred (hshape : Shaped value) (huntyped : Untyped value)
    (hanswer : fieldOf value "answer" = some answer) :
    HasKind value (kindOf.inferred (ofShaped value) answer) := by
  obtain hmissing | ⟨options, hoptions⟩ := hshape.options
  · rw [inferred_of_missing hmissing]
    exact .fillIn huntyped hmissing
  · by_cases harray : ∃ answers, answer = .array answers
    · obtain ⟨answers, rfl⟩ := harray
      rw [inferred_of_array hoptions]
      exact .multiSelect huntyped hoptions hanswer
    · have hscalar : ∀ answers, answer ≠ .array answers := not_exists.mp harray
      rw [inferred_of_scalar hoptions hscalar]
      exact .single huntyped hoptions fun answers h =>
        hscalar answers (Option.some.inj (hanswer.symm.trans h))

/-- The kind that is told by the fields is the one that is used. -/
theorem kindOf_ofShaped_iff (hshape : Shaped value)
    (hanswer : fieldOf value "answer" = some answer) :
    kindOf (ofShaped value) answer = .ok k ↔ HasKind value k := by
  constructor
  · intro hkind
    obtain huntyped | ⟨s, hs, hfield⟩ := hshape.untyped_or
    · rw [kindOf_of_untyped huntyped] at hkind
      cases hkind
      exact hasKind_inferred hshape huntyped hanswer
    · rw [kindOf_of_typed hs hfield] at hkind
      cases hparse : Kind.parse s with
      | error spelling => simp [hparse, Except.mapError] at hkind
      | ok k' =>
        rw [hparse] at hkind
        cases hkind
        exact .typed hfield (Kind.parse_eq_ok_iff.mp hparse)
  · intro hkind
    cases hkind with
    | @typed s _ hfield hspelling =>
      have hs : s ≠ "" := by
        rintro rfl
        exact not_mem_spellings_empty k hspelling
      rw [kindOf_of_typed hs hfield, Kind.parse_eq_ok_iff.mpr hspelling]
      rfl
    | fillIn huntyped hmissing =>
      rw [kindOf_of_untyped huntyped, inferred_of_missing hmissing]
    | multiSelect huntyped hoptions harray =>
      cases hanswer.symm.trans harray
      rw [kindOf_of_untyped huntyped, inferred_of_array hoptions]
    | single huntyped hoptions hscalar =>
      rw [kindOf_of_untyped huntyped, inferred_of_scalar hoptions]
      rintro answers rfl
      exact hscalar answers hanswer

/-- The fields tell of one kind at most. -/
theorem HasKind.unique {k' : Kind} (hshape : Shaped value) (hanswer : ¬ Missing value "answer")
    (h : HasKind value k) (h' : HasKind value k') : k = k' := by
  cases hfield : fieldOf value "answer" with
  | none => exact absurd (.inl hfield) hanswer
  | some answer =>
    have hkind := (kindOf_ofShaped_iff hshape hfield).mpr h
    rw [(kindOf_ofShaped_iff hshape hfield).mpr h'] at hkind
    exact (Except.ok.inj hkind).symm

/-- A kind that is named has one of the known spellings. -/
theorem HasKind.recognized (h : HasKind value k) : Untyped value ∨
    ∃ s k, fieldOf value "type" = some (.string s) ∧
      Text.lowercase (Text.trim s) ∈ Kind.spellings k := by
  cases h with
  | typed hfield hspelling => exact .inr ⟨_, _, hfield, hspelling⟩
  | fillIn huntyped | multiSelect huntyped | single huntyped => exact .inl huntyped

/-- The fields of a value that names no unknown kind tell of a kind. -/
theorem exists_hasKind (hshape : Shaped value) (hanswer : ¬ Missing value "answer")
    (h : Untyped value ∨ ∃ s k, fieldOf value "type" = some (.string s) ∧
      Text.lowercase (Text.trim s) ∈ Kind.spellings k) : ∃ k, HasKind value k := by
  obtain huntyped | ⟨s, k, hfield, hspelling⟩ := h
  · cases hfield : fieldOf value "answer" with
    | none => exact absurd (.inl hfield) hanswer
    | some answer => exact ⟨_, hasKind_inferred hshape huntyped hfield⟩
  · exact ⟨k, .typed hfield hspelling⟩

theorem not_missing_iff {name : String} :
    ¬ Missing value name ↔ ∃ v, fieldOf value name = some v ∧ v ≠ .null := by
  rw [Missing]
  cases fieldOf value name <;> simp

theorem given_given (field : Option Json) : given (given field) = given field := by
  cases field with
  | none => rfl
  | some v => cases v <;> rfl

theorem exists_textField?_given_iff {field : Option Json} :
    (∃ text, textField? (given field) = some text) ↔
      ∃ v, field = some v ∧ ¬ CountsAsAbsent v := by
  constructor
  · rintro ⟨text, htext⟩
    obtain ⟨v, hv, hpresent, -⟩ := textField?_eq_some_iff.mp htext
    refine ⟨v, (given_eq_some_iff.mp hv).1, fun habsent => ?_⟩
    rw [isAbsent_eq_true_iff.mpr habsent] at hpresent
    cases hpresent
  · rintro ⟨v, rfl, hpresent⟩
    have hnull : v ≠ .null := by
      rintro rfl
      exact hpresent trivial
    have habsent : isAbsent v = false := by
      rw [Bool.eq_false_iff, ne_eq, isAbsent_eq_true_iff]
      exact hpresent
    exact ⟨textOf v,
      textField?_eq_some_iff.mpr ⟨v, given_eq_some_iff.mpr ⟨rfl, hnull⟩, habsent, rfl⟩⟩

theorem getD_list?_ne_nil_iff {field : Option Json} :
    (list? field).getD [] ≠ [] ↔ ∃ option options, field = some (.array (option :: options)) := by
  constructor
  · intro h
    unfold list? at h
    split at h
    · next items =>
      obtain ⟨option, options, rfl⟩ := List.exists_cons_of_ne_nil h
      exact ⟨option, options, rfl⟩
    · exact absurd rfl h
  · rintro ⟨option, options, rfl⟩
    simp [list?]

theorem usesOptions_eq_true_iff : k.usesOptions = true ↔ k ≠ .fillIn := by
  cases k <;> decide

variable {stem : String} {source : Source} {index : Nat} {q : Question}

/-- A question that is made has the kind that its item gives and the options that its item lists. -/
theorem hasKind_of_convert (h : Batch.convert stem source index value = .ok q) :
    Shaped value ∧ ¬ Missing value "answer" ∧ HasKind value q.kind ∧
      (∃ prompt, fieldOf value "Question" = some prompt ∧ ¬ CountsAsAbsent prompt) ∧
      (q.kind ≠ .fillIn →
        ∃ option options, fieldOf value "Options" = some (.array (option :: options))) ∧
      q.options = (listed value).map textOf := by
  obtain ⟨item, hitem, hquestion⟩ := Batch.convert_eq_ok_iff.mp h
  obtain ⟨hshape, rfl⟩ := ofJson_eq_ok_iff.mp hitem
  obtain ⟨prompt, answer, kind, hprompt, hanswer, hkind, hoptions, rfl⟩ :=
    toQuestion_eq_ok_iff.mp hquestion
  rw [ofShaped, given_given, given_eq_some_iff] at hanswer
  refine ⟨hshape, not_missing_iff.mpr ⟨answer, hanswer⟩,
    (kindOf_ofShaped_iff hshape hanswer.1).mp hkind, exists_textField?_given_iff.mp ⟨_, hprompt⟩,
    fun hne => getD_list?_ne_nil_iff.mp (hoptions (usesOptions_eq_true_iff.mpr hne)), rfl⟩

/-- What is converted is acceptable by its fields. -/
theorem acceptable_of_convert (h : Batch.convert stem source index value = .ok q) :
    Acceptable value := by
  obtain ⟨hshape, hanswer, hkind, hprompt, hoptions, -⟩ := hasKind_of_convert h
  exact {
    toShaped := hshape
    question := hprompt
    answer := hanswer
    recognized := hkind.recognized
    offered := fun k hk => hkind.unique hshape hanswer hk ▸ hoptions }

/-- What is acceptable by its fields is converted, wherever it stands. -/
theorem Acceptable.exists_convert (h : Acceptable value) (stem : String) (source : Source)
    (index : Nat) : ∃ q, Batch.convert stem source index value = .ok q := by
  obtain ⟨prompt, hprompt⟩ := exists_textField?_given_iff.mpr h.question
  obtain ⟨answer, hanswer, hnull⟩ := not_missing_iff.mp h.answer
  obtain ⟨k, hkind⟩ := exists_hasKind h.toShaped h.answer h.recognized
  have hgiven : given (given (fieldOf value "answer")) = some answer := by
    rw [given_given, given_eq_some_iff]
    exact ⟨hanswer, hnull⟩
  exact ⟨_, Batch.convert_eq_ok_iff.mpr ⟨_, ofJson_eq_ok_iff.mpr ⟨h.toShaped, rfl⟩,
    toQuestion_eq_ok_iff.mpr ⟨prompt, answer, k, hprompt, hgiven,
      (kindOf_ofShaped_iff h.toShaped hanswer).mpr hkind,
      fun huses => getD_list?_ne_nil_iff.mpr (h.offered k hkind (usesOptions_eq_true_iff.mp huses)),
      rfl⟩⟩⟩

end

end Item

namespace Batch

variable {stem : String} {source : Source} {items : List Json} {index : Nat} {value : Json}
  {q : Question}

/-- The place of an item can be told from the id of its question. -/
theorem idOf_injective (stem : String) : (idOf stem).Injective := by
  intro i j h
  have htext : toString i = toString j := by
    simpa [idOf] using h
  have hdigits : Nat.toDigits 10 i = Nat.toDigits 10 j := by
    simpa using congrArg String.toList htext
  rw [← @Nat.ofDigitChars_ten_toDigits i, hdigits, Nat.ofDigitChars_ten_toDigits]

theorem mem_questions_at_iff (hvalue : items[index]? = some value) :
    (q ∈ (ofItems stem source items).questions ∧ q.id = idOf stem index) ↔
      convert stem source index value = .ok q := by
  rw [mem_questions_iff]
  constructor
  · rintro ⟨⟨place, other, hother, hconvert⟩, hid⟩
    have hplace : place = index :=
      idOf_injective stem ((id_and_source_of_convert hconvert).1.symm.trans hid)
    subst hplace
    cases hother.symm.trans hvalue
    exact hconvert
  · intro hconvert
    exact ⟨⟨index, value, hvalue, hconvert⟩, (id_and_source_of_convert hconvert).1⟩

/-- A value in a list becomes a question, the one whose id tells the value's place, exactly if it
    is acceptable. The question has a prompt and a rationale, the kind that the value gives and an
    answer of that kind, and every option that the value lists, in order; these are some if the
    kind uses options. -/
theorem acceptable_iff (hvalue : items[index]? = some value) (stem : String) (source : Source) :
    ((∃ q ∈ (ofItems stem source items).questions, q.id = idOf stem index) ↔
      Item.Acceptable value) ∧
    ∀ q ∈ (ofItems stem source items).questions, q.id = idOf stem index →
      Item.HasKind value q.kind ∧ q.prompt ≠ "" ∧ q.rationale ≠ "" ∧ q.answer.kind = q.kind ∧
        (q.kind.usesOptions = true → q.options ≠ []) ∧
        q.options = (Item.listed value).map Item.textOf := by
  constructor
  · constructor
    · rintro ⟨q, hq, hid⟩
      exact Item.acceptable_of_convert ((mem_questions_at_iff hvalue).mp ⟨hq, hid⟩)
    · intro haccept
      obtain ⟨q, hconvert⟩ := haccept.exists_convert stem source index
      exact ⟨q, (mem_questions_at_iff hvalue).mpr hconvert⟩
  · intro q hq hid
    have hconvert := (mem_questions_at_iff hvalue).mp ⟨hq, hid⟩
    have hformed := wellFormed_of_convert hconvert
    obtain ⟨-, -, hkind, -, -, hoptions⟩ := Item.hasKind_of_convert hconvert
    exact ⟨hkind, hformed.prompt_ne, hformed.rationale_ne, hformed.kind_eq, hformed.options_ne,
      hoptions⟩

/-- After a value that is none, an item without names for its fields and without a type. It asks
    for several of its options, of which the first is empty. -/
theorem acceptable_iff_unnamed_fields :
    ∃ (value : Json) (q : Question), Item.Acceptable value ∧
      q ∈ (ofItems "sums" .default [.null, value]).questions ∧ q.id = "sums_1" ∧
      Item.HasKind value q.kind ∧ q.kind = .multiSelect ∧ q.options = ["", "[7]"] := by
  let value : Json :=
    .array [.bool true, .array [.null, .array [.nat 7]], .array [], .null, .null, .string ""]
  have haccept : Item.Acceptable value := {
    container := .inr ⟨_, rfl, by decide⟩
    options := .inr ⟨_, rfl⟩
    type := .inr ⟨_, rfl⟩
    question := ⟨.bool true, rfl, Bool.noConfusion⟩
    answer := Item.not_missing_iff.mpr ⟨_, rfl, by simp⟩
    recognized := .inl (.inr rfl)
    offered := fun _ _ _ => ⟨_, _, rfl⟩ }
  have hvalue : [.null, value][1]? = some value := rfl
  obtain ⟨hbecomes, hparts⟩ :=
    acceptable_iff hvalue "sums" .default
  obtain ⟨q, hq, hid⟩ := hbecomes.mpr haccept
  obtain ⟨hkind, -, -, -, -, hoptions⟩ := hparts q hq hid
  refine ⟨value, q, haccept, hq, hid, hkind, ?_, hoptions.trans ?_⟩
  · exact hkind.unique haccept.toShaped haccept.answer (.multiSelect (.inr rfl) rfl rfl)
  · decide +kernel

end Batch

end Quizmaster
