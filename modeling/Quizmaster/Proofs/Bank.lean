import Mathlib.Data.List.Dedup
import Mathlib.Data.List.Nodup
import Quizmaster.Proofs.Encodings
import Quizmaster.Proofs.Store.Reading

namespace Quizmaster

open Store

/-- Questions no two of which have the same id. -/
def Question.DistinctIds (questions : List Question) : Prop := (questions.map Question.id).Nodup

namespace Bank

/-- Adding to a bank keeps what it holds in place, so the count of new questions tells whether
    anything changed. -/
theorem exists_foldl_insert (b : Bank) (questions : List Question) :
    ∃ more, (questions.foldl insert b).questions = b.questions ++ more := by
  induction questions generalizing b with
  | nil => exact ⟨[], by simp⟩
  | cons q questions ih =>
    obtain ⟨more, hmore⟩ := ih (b.insert q)
    rw [List.foldl_cons, hmore]
    unfold insert
    split
    · exact ⟨more, rfl⟩
    · exact ⟨q :: more, by simp⟩

theorem add_of_not_pos {b : Bank} {questions : List Question}
    (h : ¬ 0 < (b.add questions).1) : (b.add questions).2 = b := by
  obtain ⟨more, hmore⟩ := b.exists_foldl_insert questions
  have hsize : (questions.foldl insert b).size - b.size = 0 := Nat.eq_zero_of_not_pos h
  simp only [size, hmore, List.length_append] at hsize
  have hnone : more = [] := List.eq_nil_of_length_eq_zero (by omega)
  rw [hnone, List.append_nil] at hmore
  exact congrArg Bank.mk hmore

theorem distinctIds_insert {b : Bank} (h : Question.DistinctIds b.questions) (q : Question) :
    Question.DistinctIds (b.insert q).questions := by
  unfold insert
  split
  · exact h
  · next hnew =>
    have hfresh : q.id ∉ b.questions.map Question.id := by
      intro hid
      obtain ⟨other, hother, hsame⟩ := List.mem_map.mp hid
      apply hnew
      exact List.any_eq_true.mpr ⟨other, hother, beq_iff_eq.mpr hsame⟩
    have hlast : (b.questions.map Question.id ++ [q.id]).Nodup := by
      refine List.nodup_append.mpr ⟨h, List.nodup_singleton q.id, ?_⟩
      rintro id hid other hother rfl
      rw [List.mem_singleton] at hother
      exact hfresh (hother ▸ hid)
    rw [Question.DistinctIds, List.map_append]
    exact hlast

/-- Whatever is added to a bank, ids stay different in it. -/
theorem distinctIds_add {b : Bank} (h : Question.DistinctIds b.questions)
    (questions : List Question) : Question.DistinctIds (b.add questions).2.questions := by
  change Question.DistinctIds (questions.foldl insert b).questions
  induction questions generalizing b with
  | nil => exact h
  | cons q questions ih => exact ih (distinctIds_insert h q)

theorem mem_ids_insert {b : Bank} {q : Question} {id : String} :
    id ∈ (b.insert q).questions.map Question.id ↔
      id ∈ b.questions.map Question.id ∨ id = q.id := by
  unfold insert
  split
  · next htaken =>
    obtain ⟨other, hother, hsame⟩ := List.any_eq_true.mp htaken
    refine ⟨Or.inl, fun h => h.elim (fun hid => hid) ?_⟩
    rintro rfl
    exact List.mem_map.mpr ⟨other, hother, beq_iff_eq.mp hsame⟩
  · rw [List.map_append, List.mem_append, List.map_singleton, List.mem_singleton]

/-- No id is lost when questions are added. -/
theorem mem_ids_add {b : Bank} {questions : List Question} {id : String} :
    id ∈ (b.add questions).2.questions.map Question.id ↔
      id ∈ b.questions.map Question.id ∨ id ∈ questions.map Question.id := by
  change id ∈ (questions.foldl insert b).questions.map Question.id ↔ _
  induction questions generalizing b with
  | nil => simp
  | cons q questions ih =>
    rw [List.foldl_cons, ih, mem_ids_insert, List.map_cons, List.mem_cons, or_assoc]

theorem distinctIds_empty : Question.DistinctIds empty.questions := List.nodup_nil

theorem mem_ids_add_empty {questions : List Question} {id : String} :
    id ∈ (empty.add questions).2.questions.map Question.id ↔ id ∈ questions.map Question.id :=
  mem_ids_add.trans (or_iff_right List.not_mem_nil)

/-- To an empty bank one question is added of each id. -/
theorem ids_add_empty (questions : List Question) :
    ((empty.add questions).2.questions.map Question.id).Perm
      (questions.map Question.id).dedup := by
  refine (List.perm_ext_iff_of_nodup (distinctIds_add distinctIds_empty questions)
    (List.nodup_dedup _)).mpr fun id => ?_
  rw [mem_ids_add_empty, List.mem_dedup]

/-- Into an empty bank come as many questions as there are different ids. -/
theorem count_add_empty (questions : List Question) :
    (empty.add questions).1 = (questions.map Question.id).dedup.length := by
  rw [← (ids_add_empty questions).length_eq, List.length_map]
  rfl

/-- All questions of a list come into an empty bank exactly if no id is used twice. -/
theorem count_add_empty_eq_length_iff {questions : List Question} :
    (empty.add questions).1 = questions.length ↔ Question.DistinctIds questions := by
  have hlength : questions.length = (questions.map Question.id).length :=
    (List.length_map Question.id).symm
  rw [count_add_empty, hlength, Question.DistinctIds, ← List.dedup_eq_self]
  exact ⟨(List.dedup_sublist _).eq_of_length, congrArg List.length⟩

variable {ε σ : Type} [Store ε σ]

/-- The bank that entries hold. -/
def saved (entries : Entries) : Bank := entries.decoded questionsKey decode? empty

theorem load_eq : (load : ExceptT ε (StateM σ) Bank) = readOrRemove questionsKey decode? empty := by
  unfold load readOrRemove
  congr 1
  funext found
  cases found with
  | none => rfl
  | some saved => cases hdecode : decode? saved <;> simp only [hdecode]

/-- A bank that is written is the one that is loaded. -/
theorem saved_insert (entries : Entries) (b : Bank) :
    saved (entries.insert questionsKey b.encode) = b := by
  simp [saved, Entries.decoded, decode?_encode]

/-- A store that refuses nothing gives the bank that is saved in it. -/
theorem load_ofEntries (entries : Entries) :
    (load.run.run (Memory.ofEntries entries)).1 = .ok (saved entries) := by
  rw [load_eq, readOrRemove_ofEntries]
  rfl

/-- Saving a bank writes all of it, or nothing. -/
theorem entries_save [Lawful ε σ] (b : Bank) (s : σ) :
    Lawful.entries (b.save.run.run s).2 = Lawful.entries s ∨
      Lawful.entries (b.save.run.run s).2 = (Lawful.entries s).insert questionsKey b.encode := by
  cases hsave : b.save.run.run s with
  | mk result t =>
    cases result with
    | ok _ => exact .inr (Lawful.set_ok hsave)
    | error _ => exact Lawful.set_error hsave

end Bank

end Quizmaster
