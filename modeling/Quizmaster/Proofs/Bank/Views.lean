import Mathlib.Data.List.ReduceOption
import Quizmaster.Bank
import Quizmaster.Proofs.Dictionary

namespace Quizmaster

/-- What a filter may ask for. -/
inductive Field
  | subject
  | gradeLevel
  | identifier
deriving DecidableEq, Repr

def Field.of : Field → Source → String
  | .subject => Source.subject
  | .gradeLevel => Source.gradeLevel
  | .identifier => Source.identifier

namespace Filter

/-- Asks for one value of one field. -/
def only : Field → String → Filter
  | .subject, value => ⟨some value, none, none⟩
  | .gradeLevel, value => ⟨none, some value, none⟩
  | .identifier, value => ⟨none, none, some value⟩

/-- The filters that ask for one field each of those that a filter asks for. -/
def parts (f : Filter) : List Filter :=
  [f.subject.map (only .subject), f.gradeLevel.map (only .gradeLevel),
    f.identifier.map (only .identifier)].reduceOption

variable {q : Question}

/-- The filter of one value selects the questions that have it. -/
theorem selects_only_iff {field : Field} {value : String} :
    (only field value).selects q = true ↔ value = field.of q.source := by
  cases field <;> simp [only, selects, agrees, Field.of]

/-- A filter selects what all its parts select. -/
theorem selects_iff_parts {f : Filter} :
    f.selects q = true ↔ ∀ part ∈ f.parts, part.selects q = true := by
  obtain ⟨subject, gradeLevel, identifier⟩ := f
  cases subject <;> cases gradeLevel <;> cases identifier <;>
    simp [parts, only, selects, agrees, List.reduceOption, and_assoc]

end Filter

namespace Bank

/-- The values of a field that are listed to choose from. -/
def listed (b : Bank) : Field → List String
  | .subject => b.subjects
  | .gradeLevel => b.gradeLevels
  | .identifier => b.identifiers

/-- The places in the bank of the questions that a filter selects. -/
def positions (b : Bank) (f : Filter) : List Nat :=
  (b.questions.zipIdx.filter fun entry => f.selects entry.1).map Prod.snd

section

variable {b : Bank} {f : Filter} {i : Nat}

theorem listed_eq (b : Bank) (field : Field) : b.listed field = b.valuesOf field.of := by
  cases field <;> rfl

theorem valuesOf_concat (questions : List Question) (q : Question) (field : Source → String) :
    (Bank.mk (questions ++ [q])).valuesOf field =
      insertSorted (field q.source) ((Bank.mk questions).valuesOf field) :=
  List.foldl_concat ..

theorem mem_valuesOf_iff {questions : List Question} {field : Source → String} {value : String} :
    value ∈ (Bank.mk questions).valuesOf field ↔ ∃ q ∈ questions, value = field q.source := by
  induction questions using List.reverseRecOn with
  | nil => simp [valuesOf]
  | append_singleton questions q ih =>
    rw [valuesOf_concat, insertSorted, Keyed.mem_insert, ih]
    simp only [List.mem_append, List.mem_singleton, or_and_right, exists_or, exists_eq_left]
    constructor
    · rintro (rfl | ⟨hmem, -⟩)
      · exact .inr rfl
      · exact .inl hmem
    · rintro (hmem | rfl)
      · exact (em (value = field q.source)).imp_right fun hne => ⟨hmem, hne⟩
      · exact .inl rfl

/-- Values are listed in order, each once. -/
theorem pairwise_valuesOf (questions : List Question) (field : Source → String) :
    ((Bank.mk questions).valuesOf field).Pairwise (· < ·) := by
  induction questions using List.reverseRecOn with
  | nil => exact List.Pairwise.nil
  | append_singleton questions q ih =>
    rw [valuesOf_concat]
    exact Keyed.Sorted.insert ih _

theorem countsOf_concat (questions : List Question) (q : Question) (field : Source → String) :
    (Bank.mk (questions ++ [q])).countsOf field =
      ((Bank.mk questions).countsOf field).count (field q.source) :=
  List.foldl_concat ..

/-- The loop that counts comes to the number of questions of each value that there is. -/
theorem get?_countsOf (questions : List Question) (field : Source → String) (value : String) :
    ((Bank.mk questions).countsOf field).get? value =
      if questions.countP (field ·.source == value) = 0 then none
      else some (questions.countP (field ·.source == value)) := by
  induction questions using List.reverseRecOn with
  | nil => rfl
  | append_singleton questions q ih =>
    rw [countsOf_concat, Dictionary.count, List.countP_append, List.countP_singleton]
    by_cases hvalue : field q.source = value
    · subst hvalue
      rw [Dictionary.get?_insert_self, ih, if_pos (beq_self_eq_true _),
        if_neg (Nat.succ_ne_zero _)]
      split
      · next hzero => rw [hzero, Option.getD_none]
      · rw [Option.getD_some]
    · rw [Dictionary.get?_insert_of_ne _ _ (Ne.symm hvalue), ih,
        if_neg (mt eq_of_beq hvalue), Nat.add_zero]

/-- The counts are the listed subjects, each with the number of its questions. -/
theorem subjectCounts_eq (questions : List Question) :
    (Bank.mk questions).subjectCounts = (Bank.mk questions).subjects.map fun s =>
      (s, questions.countP (·.source.subject == s)) := by
  have hrising : Keyed.Sorted Prod.fst ((Bank.mk questions).subjects.map fun s =>
      (s, questions.countP (·.source.subject == s))) :=
    List.pairwise_map.mpr (pairwise_valuesOf questions _)
  refine (countsOf _ _).sorted.eq_of_mem_iff hrising fun (s, n) => ?_
  have hlisted : s ∈ (Bank.mk questions).subjects ↔
      questions.countP (·.source.subject == s) ≠ 0 := by
    rw [subjects, mem_valuesOf_iff, ← Nat.pos_iff_ne_zero, List.countP_pos_iff]
    exact exists_congr fun q => and_congr_right' (eq_comm.trans beq_iff_eq.symm)
  rw [Dictionary.mem_toList_iff, get?_countsOf, List.mem_map, Option.ite_none_left_eq_some,
    ← ne_eq, ← hlisted, Option.some.injEq]
  constructor
  · rintro ⟨hs, rfl⟩
    exact ⟨s, hs, rfl⟩
  · rintro ⟨_, hs, hentry⟩
    obtain ⟨rfl, rfl⟩ := Prod.mk.inj hentry
    exact ⟨hs, rfl⟩

/-- Every question is counted for one subject. -/
theorem sum_subjectCounts (questions : List Question) :
    ((Bank.mk questions).subjectCounts.map Prod.snd).sum = questions.length := by
  induction questions using List.reverseRecOn with
  | nil => rfl
  | append_singleton questions q ih =>
    rw [List.length_append, List.length_singleton, ← ih, subjectCounts, countsOf_concat]
    exact Dictionary.sum_count _ _

/-- The filter of a value selects something exactly if a question has it. -/
theorem select_only_ne_nil_iff {field : Field} {value : String} :
    b.select (.only field value) ≠ [] ↔ ∃ q ∈ b.questions, value = field.of q.source := by
  simp only [select, ne_eq, List.filter_eq_nil_iff, Filter.selects_only_iff, not_forall, not_not,
    exists_prop]

/-- A filter of one value selects as many questions as have it. -/
theorem length_select_only (b : Bank) (field : Field) (value : String) :
    (b.select (.only field value)).length =
      b.questions.countP (field.of ·.source == value) := by
  rw [select, ← List.countP_eq_length_filter]
  refine List.countP_congr fun q _ => ?_
  rw [Filter.selects_only_iff, beq_iff_eq, eq_comm]

theorem mem_positions_iff :
    i ∈ b.positions f ↔ ∃ q, b.questions[i]? = some q ∧ f.selects q = true := by
  simp only [positions, List.mem_map, List.mem_filter, Prod.exists, exists_eq_right,
    List.mk_mem_zipIdx_iff_getElem?]

theorem pairwise_positions (b : Bank) (f : Filter) : (b.positions f).Pairwise (· < ·) := by
  have hall : (b.questions.zipIdx.map Prod.snd).Pairwise (· < ·) := by
    rw [List.zipIdx_map_snd]
    exact List.pairwise_lt_range'
  exact hall.sublist (List.filter_sublist.map Prod.snd)

/-- The selected questions are those at the selected places, in their order. -/
theorem select_eq (b : Bank) (f : Filter) :
    b.select f = (b.positions f).filterMap (b.questions[·]?) := by
  have hentries : b.select f =
      (b.questions.zipIdx.filter fun entry => f.selects entry.1).map Prod.fst := by
    rw [select]
    conv_lhs => rw [← List.zipIdx_map_fst 0 b.questions]
    exact List.filter_map
  rw [hentries, positions, List.filterMap_map, ← List.filterMap_eq_map]
  refine List.filterMap_congr fun entry hentry => ?_
  exact (List.mk_mem_zipIdx_iff_getElem?.mp (List.mem_of_mem_filter hentry)).symm

/-- A filter selects what each of its parts selects. -/
theorem mem_positions_iff_parts :
    i ∈ b.positions f ↔ i < b.size ∧ ∀ part ∈ f.parts, i ∈ b.positions part := by
  simp only [mem_positions_iff]
  constructor
  · rintro ⟨q, hq, hselects⟩
    refine ⟨(List.getElem?_eq_some_iff.mp hq).1, fun part hpart => ⟨q, hq, ?_⟩⟩
    exact Filter.selects_iff_parts.mp hselects part hpart
  · rintro ⟨hi, hparts⟩
    have hq : b.questions[i]? = some b.questions[i] := List.getElem?_eq_getElem hi
    refine ⟨_, hq, Filter.selects_iff_parts.mpr fun part hpart => ?_⟩
    obtain ⟨q, hq', hselects⟩ := hparts part hpart
    rwa [Option.some.inj (hq.symm.trans hq')]

end

/-- All views of a bank tell of the same questions. -/
structure ViewsAgree (b : Bank) : Prop where
  /-- A value is listed exactly if the filter for this value alone selects something. -/
  listed_iff : ∀ field value, value ∈ b.listed field ↔ b.select (.only field value) ≠ []
  listed_rising : ∀ field, (b.listed field).Pairwise (· < ·)
  /-- A listed subject is counted as often as its filter selects. -/
  counts_iff : ∀ subject n, (subject, n) ∈ b.subjectCounts ↔
    subject ∈ b.listed .subject ∧ n = (b.select (.only .subject subject)).length
  keys_eq : b.subjectCounts.map Prod.fst = b.listed .subject
  /-- Every question is counted once. -/
  sum_eq : (b.subjectCounts.map Prod.snd).sum = b.size
  /-- A filter gives the questions at its places, in the order of the bank. -/
  select_eq : ∀ f, b.select f = (b.positions f).filterMap (b.questions[·]?)
  positions_rising : ∀ f, (b.positions f).Pairwise (· < ·)
  /-- The places of a filter are those that each field it asks for has on its own. -/
  mem_positions_iff : ∀ f i,
    i ∈ b.positions f ↔ i < b.size ∧ ∀ part ∈ f.parts, i ∈ b.positions part

/-- The views of a bank tell of one partition: a value is listed exactly if its filter selects
    something, and a subject is counted as often as its filter selects. -/
theorem viewsAgree (b : Bank) : b.ViewsAgree where
  listed_iff field value := by
    rw [listed_eq, mem_valuesOf_iff, select_only_ne_nil_iff]
  listed_rising field := by
    rw [listed_eq]
    exact pairwise_valuesOf b.questions field.of
  counts_iff subject n := by
    rw [subjectCounts_eq, List.mem_map, length_select_only]
    constructor
    · rintro ⟨s, hs, hentry⟩
      obtain ⟨rfl, rfl⟩ := Prod.mk.inj hentry
      exact ⟨hs, rfl⟩
    · rintro ⟨hs, rfl⟩
      exact ⟨subject, hs, rfl⟩
  keys_eq := by
    rw [subjectCounts_eq, List.map_map]
    exact List.map_id _
  sum_eq := sum_subjectCounts b.questions
  select_eq := select_eq b
  positions_rising := pairwise_positions b
  mem_positions_iff _ _ := mem_positions_iff_parts

/-- Equal questions are counted and selected each on its own. -/
example :
    let q (subject gradeLevel : String) : Question :=
      { Question.plain "q" .fillIn "2 + 2?" [] (.fillIn "4") with
        source := { Source.default with subject, gradeLevel } }
    let b : Bank := ⟨[q "math" "3", q "art" "3", q "math" "3", q "math" "4"]⟩
    b.subjectCounts = [("art", 1), ("math", 3)] ∧
      b.positions ⟨some "math", some "3", none⟩ = [0, 2] := by
  decide

end Bank

end Quizmaster
