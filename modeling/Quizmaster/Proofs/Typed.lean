import Quizmaster.Proofs.Text
import Quizmaster.Typed

namespace Quizmaster.Typed

/-- What is typed to a question is an answer of the question's kind. -/
theorem kind_answer (q : Question) (input : String) : (answer q input).kind = q.kind := by
  unfold answer
  split <;> next hkind => exact hkind.symm

/-- A number with so many zeros in front of it that it is longer than every option. -/
def padded (options : List String) (n : Nat) : String :=
  String.ofList
    (List.replicate ((options.map String.toList).flatten.length + 1) '0' ++ Nat.toDigits 10 n)

section

variable {options : List String} {n : Nat}

theorem isDigit_of_mem_padded {c : Char} (hc : c ∈ (padded options n).toList) :
    c.isDigit = true := by
  rw [padded, String.toList_ofList, List.mem_append] at hc
  rcases hc with hzero | hdigit
  · rw [List.eq_of_mem_replicate hzero]
    rfl
  · exact Nat.isDigit_of_mem_toDigits (by decide) (by decide) hdigit

theorem padded_ne_empty (options : List String) (n : Nat) : padded options n ≠ "" := by
  simp [padded, List.replicate_succ]

theorem ofDigits_zeros (k : Nat) (digits : List Char) :
    Text.ofDigits (List.replicate k '0' ++ digits) = Text.ofDigits digits := by
  induction k with
  | zero => rfl
  | succ k ih =>
    rw [List.replicate_succ, List.cons_append, Text.ofDigits, Nat.ofDigitChars_cons]
    exact ih

/-- The number of an option is read, whatever zeros are put before it. -/
theorem natural?_padded {limit : Nat} (h : n ≤ limit) :
    Text.natural? limit (padded options n).toList = some n := by
  have hne : (padded options n).toList ≠ [] := by simpa using padded_ne_empty options n
  have hvalue : Text.ofDigits (padded options n).toList = n := by
    rw [padded, String.toList_ofList, ofDigits_zeros]
    exact Nat.ofDigitChars_ten_toDigits
  exact Text.natural?_of_isDigit hne (fun _ => isDigit_of_mem_padded) hvalue h

/-- Texts of different length are not the same, whatever the case of their letters. -/
theorem not_sameIgnoringCase_padded {option : String} (hoption : option ∈ options) :
    Text.sameIgnoringCase option (padded options n) = false := by
  rw [Text.sameIgnoringCase, beq_eq_false_iff_ne]
  intro hsame
  have hlength := congrArg List.length hsame
  have hshort : option.toList.length ≤ (options.map String.toList).flatten.length :=
    (List.sublist_flatten_of_mem (List.mem_map_of_mem hoption)).length_le
  simp only [List.length_map, padded, String.toList_ofList, List.length_append,
    List.length_replicate] at hlength
  omega

/-- The padded number of an option names it, though other options may look like numbers. -/
theorem resolve_padded {i : Nat} {option : String} (h : options[i]? = some option) :
    resolve options (padded options (i + 1)) = option := by
  have hnone : options.find? (fun o => Text.sameIgnoringCase o (padded options (i + 1))) = none := by
    rw [List.find?_eq_none]
    intro o ho
    exact Bool.eq_false_iff.mp (not_sameIgnoringCase_padded ho)
  obtain ⟨hi, -⟩ := List.getElem?_eq_some_iff.mp h
  have hnumber : numbered? options (padded options (i + 1)) = some option := by
    rw [numbered?, natural?_padded hi, Option.bind_some, if_neg (Nat.succ_ne_zero i)]
    exact h
  rw [resolve, hnone, hnumber]
  rfl

end

/-- A spelling of an option that names this option's text and no other. -/
def spelling (options : List String) (option : String) : String :=
  padded options (options.idxOf option + 1)

theorem resolve_spelling {options : List String} {option : String} (h : option ∈ options) :
    resolve options (spelling options option) = option :=
  resolve_padded (List.getElem?_idxOf h)

theorem isDigit_of_mem_spelling {options : List String} {option : String} {c : Char}
    (hc : c ∈ (spelling options option).toList) : c.isDigit = true :=
  isDigit_of_mem_padded hc

/-- What is not empty, has no white space around it and no comma in it is an item again, when commas
    are put between. -/
theorem items_join {items : List String} (hne : ∀ item ∈ items, item ≠ "")
    (htrimmed : ∀ item ∈ items, Text.Trimmed item.toList)
    (hcomma : ∀ item ∈ items, ',' ∉ item.toList) : Typed.items (Text.join "," items) = items := by
  by_cases hempty : items = []
  · subst hempty
    rfl
  · have hsplit : Text.split ',' (Text.join "," items) = items := Text.split_join hcomma hempty
    have htrim : items.map Text.trim = items.map id :=
      List.map_congr_left fun item hitem => Text.trim_eq_self_iff.mpr (htrimmed item hitem)
    rw [List.map_id] at htrim
    rw [Typed.items, hsplit, htrim, List.filter_eq_self]
    intro item hitem
    exact bne_iff_ne.mpr (hne item hitem)

/-- A line that names these options one after the other. -/
def selection (options chosen : List String) : String :=
  Text.join "," (chosen.map (spelling options))

/-- A selection is read as the spellings of what was chosen. -/
theorem items_selection (options chosen : List String) :
    items (selection options chosen) = chosen.map (spelling options) := by
  refine items_join (fun item hitem => ?_) (fun item hitem => ?_) (fun item hitem hcomma => ?_) <;>
    obtain ⟨option, -, rfl⟩ := List.mem_map.mp hitem
  · exact padded_ne_empty _ _
  · exact Text.trimmed_of_forall fun c hc => Text.isBlank_of_isDigit (isDigit_of_mem_spelling hc)
  · exact absurd (isDigit_of_mem_spelling hcomma) (by decide)

/-- Every choice of options can be typed, with repetitions and in any order. -/
theorem map_resolve_selection {options chosen : List String} (h : ∀ item ∈ chosen, item ∈ options) :
    (items (selection options chosen)).map (resolve options) = chosen := by
  rw [items_selection, List.map_map]
  have hback : chosen.map (resolve options ∘ spelling options) = chosen.map id :=
    List.map_congr_left fun item hitem => resolve_spelling (h item hitem)
  rw [hback, List.map_id]

/-- Naming options takes digits and commas. -/
theorem isDigit_or_comma_of_mem_selection {options chosen : List String} {c : Char}
    (hc : c ∈ (selection options chosen).toList) : c.isDigit = true ∨ c = ',' := by
  rcases Text.mem_join hc with hcomma | ⟨item, hitem, hmem⟩
  · exact .inr (by simpa using hcomma)
  · obtain ⟨option, -, rfl⟩ := List.mem_map.mp hitem
    exact .inl (isDigit_of_mem_spelling hmem)

/-- To a question of a list kind items are typed, and each of them names something. -/
theorem answer_of_isList {q : Question} (hlist : q.kind.isList = true) (input : String) :
    answer q input = .ofList q.kind ((items input).map (resolve q.options)) := by
  unfold answer
  cases hkind : q.kind with
  | single | fillIn => simp [hkind, Kind.isList] at hlist
  | multiSelect | ordering => rfl

/-- A single choice is made by the spelling of an option. -/
theorem answer_spelling {q : Question} (hkind : q.kind = .single) {option : String}
    (h : option ∈ q.options) : answer q (spelling q.options option) = .single option := by
  have htrim : Text.trim (spelling q.options option) = spelling q.options option :=
    Text.trim_of_forall fun _ hc => Text.isBlank_of_isDigit (isDigit_of_mem_spelling hc)
  rw [answer, hkind, htrim]
  simp only [resolve_spelling h]

/-- A list is chosen by the spellings of its options. -/
theorem answer_selection {q : Question} (hlist : q.kind.isList = true) {chosen : List String}
    (h : ∀ item ∈ chosen, item ∈ q.options) :
    answer q (selection q.options chosen) = .ofList q.kind chosen := by
  rw [answer_of_isList hlist, map_resolve_selection h]

end Quizmaster.Typed
