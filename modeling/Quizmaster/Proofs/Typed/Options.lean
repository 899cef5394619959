import Quizmaster.Proofs.Soundness
import Quizmaster.Proofs.Turn.Lines

namespace Quizmaster.Typed

/-- The first of the options that are the same as the item but for the case of ASCII letters. -/
structure Foremost (options : List String) (item named : String) : Prop where
  alike : Text.sameIgnoringCase named item = true
  first : ∃ before after, options = before ++ named :: after ∧
    ∀ other ∈ before, Text.sameIgnoringCase other item = false

/-- No option that stands before the text differs from it in the case of ASCII letters only. -/
def Unshadowed (options : List String) (text : String) : Prop :=
  ∀ other ∈ options.takeWhile (· != text), Text.sameIgnoringCase other text = false

/-- A text that can be an item of what is typed: there is something in it, but no comma, and no white
    space around it. -/
structure Listable (text : String) : Prop where
  ne_empty : text ≠ ""
  trimmed : Text.Trimmed text.toList
  noComma : ',' ∉ text.toList

section

variable {options : List String} {item named text : String}

theorem sameIgnoringCase_self (s : String) : Text.sameIgnoringCase s s = true :=
  beq_self_eq_true _

/-- What is found is the first option that is spelled alike. -/
theorem find?_eq_some_iff_foremost :
    options.find? (fun option => Text.sameIgnoringCase option item) = some named ↔
      Foremost options item named := by
  rw [List.find?_eq_some_iff_append]
  simp only [Bool.not_eq_true']
  exact ⟨fun ⟨halike, hfirst⟩ => ⟨halike, hfirst⟩, fun h => ⟨h.alike, h.first⟩⟩

theorem Foremost.resolve_eq (h : Foremost options item named) : resolve options item = named := by
  rw [resolve, find?_eq_some_iff_foremost.mpr h]

/-- An option is alike to itself, so that its text does name one. -/
theorem foremost_resolve (h : text ∈ options) :
    Foremost options text (resolve options text) := by
  cases hfind : options.find? (fun option => Text.sameIgnoringCase option text) with
  | none => exact absurd (sameIgnoringCase_self text) (List.find?_eq_none.mp hfind text h)
  | some named =>
    have hnamed := find?_eq_some_iff_foremost.mp hfind
    rwa [hnamed.resolve_eq]

/-- What stands before the first place of a text decides. -/
theorem unshadowed_append_cons_iff {before after : List String} (h : text ∉ before) :
    Unshadowed (before ++ text :: after) text ↔
      ∀ other ∈ before, Text.sameIgnoringCase other text = false := by
  have hkept : ∀ other ∈ before, (other != text) = true := by
    intro other hother
    rw [bne_iff_ne]
    rintro rfl
    exact h hother
  rw [Unshadowed, List.takeWhile_append_of_pos hkept, List.takeWhile_cons_of_neg (by simp),
    List.append_nil]

/-- An option's text names it exactly if no option before it is spelled alike. -/
theorem resolve_eq_self_iff (h : text ∈ options) :
    resolve options text = text ↔ Unshadowed options text := by
  obtain ⟨before, after, rfl, hbefore⟩ := List.eq_append_cons_of_mem h
  rw [unshadowed_append_cons_iff hbefore]
  constructor
  · intro hself other hother
    rw [Bool.eq_false_iff]
    intro halike
    -- Something before the text is alike to it, and the first such option is named instead.
    have hsome : (before.find? fun option => Text.sameIgnoringCase option text).isSome = true :=
      List.find?_isSome.mpr ⟨other, hother, halike⟩
    obtain ⟨found, hfound⟩ := Option.isSome_iff_exists.mp hsome
    have hall : (before ++ text :: after).find? (fun option => Text.sameIgnoringCase option text) =
        some found := by
      rw [List.find?_append, hfound, Option.some_or]
    rw [(find?_eq_some_iff_foremost.mp hall).resolve_eq] at hself
    exact hbefore (hself ▸ List.mem_of_find?_eq_some hfound)
  · intro hfree
    exact Foremost.resolve_eq ⟨sameIgnoringCase_self text, before, after, rfl, hfree⟩

end

section

variable {q : Question}

/-- A text without white space around it is taken as it is typed. -/
theorem answer_option (hkind : q.kind = .single) {text : String} (htrimmed : Text.Trimmed text.toList) :
    answer q text = .single (resolve q.options text) := by
  rw [answer, hkind, Text.trim_eq_self_iff.mpr htrimmed]

/-- A list is typed by its texts with commas between them. -/
theorem answer_join (hlist : q.kind.isList = true) {texts : List String}
    (htexts : ∀ text ∈ texts, Listable text) :
    answer q (Text.join "," texts) = .ofList q.kind (texts.map (resolve q.options)) := by
  have hitems : items (Text.join "," texts) = texts := items_join
    (fun text h => (htexts text h).ne_empty) (fun text h => (htexts text h).trimmed)
    (fun text h => (htexts text h).noComma)
  rw [answer_of_isList hlist, hitems]

end

/-- Typing the text of an option, or the texts of several ones, names for each text the first option
    that is the same but for the case of ASCII letters. That is the text itself exactly if no option
    before it is alike. -/
theorem answer_own_text (q : Question) :
    (q.kind = .single → ∀ text ∈ q.options, Text.Trimmed text.toList →
      ∃ named, answer q text = .single named ∧ Foremost q.options text named ∧
        (named = text ↔ Unshadowed q.options text)) ∧
    (q.kind.isList = true → ∀ texts : List String,
      (∀ text ∈ texts, text ∈ q.options ∧ Listable text) →
      ∃ named, answer q (Text.join "," texts) = .ofList q.kind named ∧
        List.Forall₂ (Foremost q.options) texts named ∧
        (named = texts ↔ ∀ text ∈ texts, Unshadowed q.options text)) := by
  constructor
  · intro hkind text hmem htrimmed
    exact ⟨_, answer_option hkind htrimmed, foremost_resolve hmem, resolve_eq_self_iff hmem⟩
  · intro hlist texts htexts
    refine ⟨_, answer_join hlist fun text h => (htexts text h).2, ?_, ?_⟩
    · rw [List.forall₂_map_right_iff, List.forall₂_same]
      exact fun text h => foremost_resolve (htexts text h).1
    · have hself : texts.map (resolve q.options) = texts.map id ↔
          ∀ text ∈ texts, resolve q.options text = text := List.map_inj_left
      rw [List.map_id] at hself
      rw [hself]
      exact forall₂_congr fun text h => resolve_eq_self_iff (htexts text h).1

/-- Of two options that are alike the first one is named by the text of either. A number that is the
    text of an option names that option. -/
theorem answer_own_text_alike_and_number :
    ∃ q : Kind → Question, (∀ kind, (q kind).options = ["Turkey", "turkey", "1"]) ∧
      (∃ named, answer (q .single) "turkey" = .single named ∧
        Foremost ["Turkey", "turkey", "1"] "turkey" named ∧ named ≠ "turkey") ∧
      ∃ named, answer (q .ordering) "1,Turkey" = .ordering named ∧
        List.Forall₂ (Foremost ["Turkey", "turkey", "1"]) ["1", "Turkey"] named ∧
        named = ["1", "Turkey"] := by
  let options := ["Turkey", "turkey", "1"]
  let q (kind : Kind) : Question := .plain "q" kind "Which?" options (.ofText kind "turkey")
  have htrimmed (text : String) (h : text ∈ options) : Text.Trimmed text.toList := by
    refine Text.trimChars_eq_self_iff.mp ?_
    revert text
    decide
  have hlistable : ∀ text ∈ ["1", "Turkey"], text ∈ options ∧ Listable text := by
    intro text h
    have hmem : text ∈ options := by
      revert text
      decide
    refine ⟨hmem, ?_, htrimmed text hmem, ?_⟩ <;> revert text <;> decide
  refine ⟨q, fun _ => rfl, ?_, ?_⟩
  · obtain ⟨named, hanswer, hforemost, hself⟩ :=
      (answer_own_text (q .single)).1 rfl "turkey" (by decide) (htrimmed _ (by decide))
    refine ⟨named, hanswer, hforemost, fun heq => ?_⟩
    exact absurd (hself.mp heq) (by unfold Unshadowed; decide)
  · obtain ⟨named, hanswer, hforemost, hself⟩ :=
      (answer_own_text (q .ordering)).2 rfl ["1", "Turkey"] hlistable
    refine ⟨named, hanswer, hforemost, hself.mpr ?_⟩
    unfold Unshadowed
    decide

/-- Typed in full, the right answer is taken for another option, and it is wrong then. -/
theorem own_text_names_other :
    ∃ q : Question, q.kind = .single ∧ q.options = ["polish", "Polish"] ∧
      q.answer = .single "Polish" ∧ Text.Trimmed "Polish".toList ∧
      answer q "Polish" = .single "polish" ∧ q.isAnsweredBy (answer q "Polish") = false := by
  refine ⟨.plain "q" .single "Which is a language?" ["polish", "Polish"] (.single "Polish"),
    rfl, rfl, rfl, Text.trimChars_eq_self_iff.mp (by decide), ?_, ?_⟩ <;> decide

/-- A line that comes through to the question: digits and commas only, so that it has no break, cut off
    where it was ended, and no command. -/
structure ComesThrough (line : String) : Prop where
  digits : ∀ c ∈ line.toList, c.isDigit = true ∨ c = ','
  noBreak : ∀ c ∈ line.toList, c ≠ '\n' ∧ c ≠ '\r'
  linesOf_eq : Turn.linesOf (line ++ "\n").toUTF8 = [some line]
  ofLine_eq : Turn.Order.ofLine line = .answer line

theorem IsLine.linesOf_eq {text : String} (h : IsLine text) :
    Turn.linesOf (text ++ "\n").toUTF8 = [some text] := by
  rw [Turn.linesOf_toUTF8, Turn.textLines_append_newline h.noBreak, h.chomp_eq, List.map_singleton]

/-- Commands have a colon. -/
theorem ofLine_of_not_mem {line : String} (h : ':' ∉ line.toList) :
    Turn.Order.ofLine line = .answer line := by
  have hcolon : ':' ∉ (Text.trim line).toList := by
    rw [Text.trim, String.toList_ofList]
    exact fun hmem => h ((Text.trimChars_sublist _).mem hmem)
  unfold Turn.Order.ofLine
  split
  case h_9 => rfl
  all_goals next hcommand =>
    rw [hcommand] at hcolon
    exact absurd hcolon (by decide)

/-- A selection by numbers is read as it is typed. -/
theorem comesThrough_selection (options chosen : List String) :
    ComesThrough (selection options chosen) := by
  have hdigits : ∀ c ∈ (selection options chosen).toList, c.isDigit = true ∨ c = ',' :=
    fun _ => isDigit_or_comma_of_mem_selection
  have hplain : ∀ c ∈ (selection options chosen).toList, c ≠ '\n' ∧ c ≠ '\r' ∧ c ≠ ':' := by
    intro c hc
    refine ⟨?_, ?_, ?_⟩ <;>
      · rintro rfl
        exact absurd (hdigits _ hc) (by decide)
  exact {
    digits := hdigits
    noBreak := fun c hc => ⟨(hplain c hc).1, (hplain c hc).2.1⟩
    linesOf_eq := (isLine_selection options chosen).linesOf_eq
    ofLine_eq := ofLine_of_not_mem fun hc => (hplain ':' hc).2.2 rfl }

/-- Whatever texts the options have, each of them can be named by a line, and so can every list of them,
    with repetitions and in any order. What is typed is an answer of the question's kind. -/
theorem exists_line_of_positions (q : Question) :
    (q.kind = .single → ∀ position : Fin q.options.length, ∃ line, ComesThrough line ∧
      answer q line = .single (q.options.get position)) ∧
    (q.kind.isList = true → ∀ positions : List (Fin q.options.length), ∃ line, ComesThrough line ∧
      answer q line = .ofList q.kind (positions.map q.options.get)) ∧
    ∀ input, (answer q input).kind = q.kind := by
  refine ⟨fun hkind position => ?_, fun hlist positions => ?_, kind_answer q⟩
  · have hmem : q.options.get position ∈ q.options := List.get_mem _ _
    exact ⟨_, comesThrough_selection q.options [q.options.get position], answer_spelling hkind hmem⟩
  · refine ⟨_, comesThrough_selection q.options (positions.map q.options.get),
      answer_selection hlist fun item hitem => ?_⟩
    obtain ⟨position, -, rfl⟩ := List.mem_map.mp hitem
    exact List.get_mem _ _

/-- Options without a text, with numbers of other ones, with a comma, with white space around, and one
    letter in either case. The number of the first one names another. -/
theorem exists_line_of_positions_awkward :
    ∃ (options : List String) (q : Kind → Question) (line lines : String),
      options = ["", "2", "1", " a,b ", "A", "a"] ∧ (∀ kind, (q kind).options = options) ∧
        answer (q .single) "1" = .single "1" ∧
        ComesThrough line ∧ answer (q .single) line = .single "" ∧
        ComesThrough lines ∧ answer (q .ordering) lines = .ordering ["a", " a,b ", "", "a"] := by
  let options := ["", "2", "1", " a,b ", "A", "a"]
  let q (kind : Kind) : Question := .plain "q" kind "Which?" options (.ofText kind "a")
  obtain ⟨line, hline, hanswer⟩ := (exists_line_of_positions (q .single)).1 rfl (0 : Fin 6)
  obtain ⟨lines, hlines, hanswers⟩ :=
    (exists_line_of_positions (q .ordering)).2.1 rfl ([5, 3, 0, 5] : List (Fin 6))
  exact ⟨options, q, line, lines, rfl, fun _ => rfl, by decide, hline, hanswer, hlines, hanswers⟩

end Quizmaster.Typed
