import Quizmaster.Proofs.Bank
import Quizmaster.Proofs.Grading
import Quizmaster.Soundness

namespace Quizmaster

namespace Soundness

/-- A text with something in it to see. -/
def Filled (s : String) : Prop := ∃ c ∈ s.toList, Text.isBlank c = false

/-- What it takes for a question to be asked and graded. -/
structure Sound (q : Question) : Prop where
  prompt : Filled q.prompt
  single : q.kind = .single → q.answer.text ∈ q.options
  multiSelect : q.kind = .multiSelect → ∀ item ∈ q.answer.items, item ∈ q.options
  ordering : q.kind = .ordering → q.answer.items.Perm q.options
  fillIn : q.kind = .fillIn → Filled q.answer.text

section

variable {q : Question}

theorem isBlank_eq_false_iff {s : String} : isBlank s = false ↔ Filled s := by
  rw [isBlank, beq_eq_false_iff_ne, Text.trim_ne_empty_iff, Filled]

/-- An answer fits the options as its kind asks. -/
theorem answerIssues_eq_nil_iff : answerIssues q = [] ↔
    (q.kind = .single → q.answer.text ∈ q.options) ∧
    (q.kind = .multiSelect → ∀ item ∈ q.answer.items, item ∈ q.options) ∧
    (q.kind = .ordering → q.answer.items.Perm q.options) ∧
    (q.kind = .fillIn → Filled q.answer.text) := by
  cases hkind : q.kind with
  | single => simp [answerIssues, hkind]
  | multiSelect => simp [answerIssues, hkind]
  | ordering => simp [answerIssues, hkind, Grading.mergeSort_eq_iff_perm]
  | fillIn => simp [answerIssues, hkind, ← isBlank_eq_false_iff]

/-- A question has no issues exactly if it is sound. -/
theorem issues_eq_nil_iff : issues q = [] ↔ Sound q := by
  have hprompt : (if isBlank q.prompt then [Issue.blankPrompt] else []) = [] ↔
      Filled q.prompt := by
    simp [← isBlank_eq_false_iff]
  rw [issues, List.append_eq_nil_iff, hprompt, answerIssues_eq_nil_iff]
  constructor
  · rintro ⟨hfilled, hsingle, hmulti, hordering, hfillIn⟩
    exact ⟨hfilled, hsingle, hmulti, hordering, hfillIn⟩
  · rintro ⟨hfilled, hsingle, hmulti, hordering, hfillIn⟩
    exact ⟨hfilled, hsingle, hmulti, hordering, hfillIn⟩

/-- A question on its own repeats no id. -/
theorem duplicateId_not_mem_issues (q : Question) : .duplicateId ∉ issues q := by
  rw [issues, List.mem_append, not_or]
  constructor
  · split <;> simp
  · cases hkind : q.kind with
    | multiSelect => simp [answerIssues, hkind]
    | single | ordering | fillIn =>
      simp only [answerIssues, hkind]
      split <;> simp

end

/-- Along a list, the ids that repeat others and those that are seen for the first time are all the
    ids. -/
theorem repeats_perm (seen ids : List String) : ∃ fresh : List String,
    fresh.Nodup ∧ (∀ id, id ∈ fresh ↔ id ∈ ids ∧ id ∉ seen) ∧
      (repeats seen ids ++ fresh).Perm ids := by
  induction ids generalizing seen with
  | nil => exact ⟨[], List.nodup_nil, by simp, .nil⟩
  | cons id ids ih =>
    by_cases hseen : id ∈ seen
    · obtain ⟨fresh, hnodup, hfresh, hperm⟩ := ih seen
      refine ⟨fresh, hnodup, fun other => ?_, ?_⟩
      · rw [hfresh, List.mem_cons]
        constructor
        · rintro ⟨hmem, hother⟩
          exact ⟨.inr hmem, hother⟩
        · rintro ⟨rfl | hmem, hother⟩
          · exact absurd hseen hother
          · exact ⟨hmem, hother⟩
      · rw [repeats, if_pos hseen]
        exact hperm.cons id
    · obtain ⟨fresh, hnodup, hfresh, hperm⟩ := ih (id :: seen)
      have hother (other : String) :
          other ∈ id :: fresh ↔ other ∈ id :: ids ∧ other ∉ seen := by
        by_cases hsame : other = id
        · simp [hsame, hseen]
        · simp [hsame, hfresh]
      refine ⟨id :: fresh, List.nodup_cons.mpr ⟨fun hmem => ?_, hnodup⟩, hother, ?_⟩
      · exact ((hfresh id).mp hmem).2 List.mem_cons_self
      · rw [repeats, if_neg hseen]
        exact List.perm_middle.trans (hperm.cons id)

/-- Every use of an id but one is a repeat. -/
theorem length_repeats (ids : List String) :
    (repeats [] ids).length + ids.dedup.length = ids.length := by
  obtain ⟨fresh, hnodup, hfresh, hperm⟩ := repeats_perm [] ids
  have hdistinct : fresh.Perm ids.dedup := by
    apply (List.perm_ext_iff_of_nodup hnodup (List.nodup_dedup ids)).mpr
    intro id
    rw [hfresh, List.mem_dedup]
    exact and_iff_left List.not_mem_nil
  rw [← hdistinct.length_eq, ← List.length_append, hperm.length_eq]

/-- Nothing is repeated in a list of different ids. -/
theorem repeats_eq_nil_iff {ids : List String} : repeats [] ids = [] ↔ ids.Nodup := by
  have hlength := length_repeats ids
  rw [← List.dedup_eq_self]
  constructor
  · intro hnone
    apply (List.dedup_sublist ids).eq_of_length
    rw [← hlength, hnone, List.length_nil, Nat.zero_add]
  · intro hself
    rw [hself] at hlength
    apply List.length_eq_zero_iff.mp
    omega

/-- The warnings about ids that were used before. -/
def duplicates (qs : List Question) : List Warning :=
  (warnings qs).filter (·.issue = .duplicateId)

/-- The warnings about questions on their own. -/
def others (qs : List Question) : List Warning :=
  (warnings qs).filter (·.issue ≠ .duplicateId)

section

variable {qs : List Question}

theorem issue_eq_of_repeat {w : Warning}
    (h : w ∈ (repeats [] (qs.map Question.id)).map (⟨·, .duplicateId⟩)) :
    w.issue = .duplicateId := by
  obtain ⟨id, -, rfl⟩ := List.mem_map.mp h
  rfl

theorem issue_ne_of_own {w : Warning}
    (h : w ∈ qs.flatMap fun q => (issues q).map (Warning.mk q.id)) : w.issue ≠ .duplicateId := by
  obtain ⟨q, -, hown⟩ := List.mem_flatMap.mp h
  obtain ⟨issue, hissue, rfl⟩ := List.mem_map.mp hown
  rintro rfl
  exact duplicateId_not_mem_issues q hissue

theorem duplicates_eq (qs : List Question) :
    duplicates qs = (repeats [] (qs.map Question.id)).map (⟨·, .duplicateId⟩) := by
  rw [duplicates, warnings, List.filter_append, List.filter_eq_self.mpr, List.filter_eq_nil_iff.mpr,
    List.append_nil]
  · intro w hw
    simpa using issue_ne_of_own hw
  · intro w hw
    simpa using issue_eq_of_repeat hw

theorem others_eq (qs : List Question) :
    others qs = qs.flatMap fun q => (issues q).map (⟨q.id, ·⟩) := by
  rw [others, warnings, List.filter_append, List.filter_eq_nil_iff.mpr, List.filter_eq_self.mpr,
    List.nil_append]
  · intro w hw
    simpa using issue_ne_of_own hw
  · intro w hw
    simpa using issue_eq_of_repeat hw

/-- Each question stands for itself, but for its id. -/
theorem others_flatten (parts : List (List Question)) :
    others parts.flatten = parts.flatMap others := by
  induction parts with
  | nil => rfl
  | cons qs parts ih =>
    rw [List.flatten_cons, List.flatMap_cons, ← ih, others_eq, others_eq, others_eq,
      List.flatMap_append]

/-- The message of a warning tells whether it is about an id. -/
theorem message_startsWith_iff (w : Warning) :
    "duplicate question ID: ".toList <+: w.message.toList ↔ w.issue = .duplicateId := by
  obtain ⟨id, issue⟩ := w
  cases issue with
  | duplicateId => simp [Warning.message, String.toList_append]
  | notAnOption answer => simp [Warning.message, String.toList_append]
  | blankPrompt | notAPermutation | blankAnswer => simp [Warning.message]

/-- Questions pass without a warning exactly if their ids differ and each is sound. -/
theorem warnings_eq_nil_iff :
    warnings qs = [] ↔ Question.DistinctIds qs ∧ ∀ q ∈ qs, Sound q := by
  rw [warnings, List.append_eq_nil_iff, List.map_eq_nil_iff, repeats_eq_nil_iff,
    List.flatMap_eq_nil_iff, Question.DistinctIds]
  simp only [List.map_eq_nil_iff, issues_eq_nil_iff]

end

/-- There are no warnings exactly if the ids are different and every question is sound. Each use of
    an id but one makes a warning, which its message tells from the others, and the others are those
    of each question on its own, in the order of questions. -/
theorem warnings_complete :
    (∀ qs, warnings qs = [] ↔ Question.DistinctIds qs ∧ ∀ q ∈ qs, Sound q) ∧
    (∀ qs, warnings qs = duplicates qs ++ others qs ∧
      (duplicates qs).length + (qs.map Question.id).dedup.length = qs.length) ∧
    (∀ parts : List (List Question), others parts.flatten = parts.flatMap others) ∧
    ∀ w : Warning, "duplicate question ID: ".toList <+: w.message.toList ↔
      w.issue = .duplicateId := by
  refine ⟨fun _ => warnings_eq_nil_iff, fun qs => ⟨?_, ?_⟩, others_flatten,
    message_startsWith_iff⟩
  · rw [duplicates_eq, others_eq, warnings]
  · rw [duplicates_eq, List.length_map, length_repeats, List.length_map]

/-- Three uses of an id are two too many, and one text selects nothing that could be wrong. -/
example :
    let q : Question := .plain "q" .multiSelect "Which?" ["a", "b"] (.single "c")
    (warnings [q, q, q]).map Warning.issue = [.duplicateId, .duplicateId] := by
  decide +kernel

end Soundness

end Quizmaster
