import Mathlib.Algebra.Ring.Nat
import Mathlib.Data.Finset.Dedup
import Mathlib.Data.Finset.Insert
import Mathlib.Data.List.Induction
import Quizmaster.Proofs.App.Run

namespace Quizmaster

namespace Bank

def ids (b : Bank) : List String := b.questions.map Question.id

/-- Whether neither a question of the bank nor one of those before it has a question's id. -/
def isNew (b : Bank) (before : List Question) (q : Question) : Bool :=
  q.id ∉ b.ids && q.id ∉ before.map Question.id

/-- The questions of a list that are new where they stand in it. -/
def newcomers (b : Bank) (questions : List Question) : List Question :=
  (questions.zipIdx.filter fun entry => b.isNew (questions.take entry.2) entry.1).map Prod.fst

/-- Adds lists one after the other: what each addition counts, and the bank in the end. -/
def addEach (b : Bank) : List (List Question) → List Nat × Bank
  | [] => ([], b)
  | questions :: rest =>
    let (added, grown) := b.add questions
    let (counts, last) := grown.addEach rest
    (added :: counts, last)

/-- A bank that is being added to, with a set of the ids that are taken beside it. -/
structure Keyed where
  questions : List Question
  ids : Finset String
  ids_eq : ids = (questions.map Question.id).toFinset

namespace Keyed

def ofBank (b : Bank) : Keyed := ⟨b.questions, b.ids.toFinset, rfl⟩

/-- Puts the id into the set, and the question to the end if its id was not there. -/
def insert (k : Keyed) (q : Question) : Keyed :=
  if q.id ∈ k.ids then k
  else ⟨k.questions ++ [q], Insert.insert q.id k.ids, by
    ext id
    rw [k.ids_eq, Finset.mem_insert, List.mem_toFinset, List.mem_toFinset, List.map_append,
      List.mem_append, List.map_singleton, List.mem_singleton, or_comm]⟩

/-- The questions with their ids in a set grow as the bank does. -/
theorem questions_insert (k : Keyed) (q : Question) :
    (k.insert q).questions = (Bank.insert ⟨k.questions⟩ q).questions := by
  have htaken : q.id ∈ k.ids ↔ k.questions.any (·.id == q.id) = true := by
    rw [k.ids_eq, List.mem_toFinset, List.mem_map, List.any_eq_true]
    simp only [beq_iff_eq]
  unfold insert Bank.insert
  by_cases hid : q.id ∈ k.ids
  · rw [if_pos hid, if_pos (htaken.mp hid)]
  · rw [if_neg hid, if_neg (mt htaken.mpr hid)]

theorem questions_foldl_insert (k : Keyed) (questions : List Question) :
    (questions.foldl insert k).questions =
      (questions.foldl Bank.insert ⟨k.questions⟩).questions := by
  induction questions generalizing k with
  | nil => rfl
  | cons q questions ih => rw [List.foldl_cons, ih, questions_insert, List.foldl_cons]

end Keyed

/-- Adds questions by the set of ids, which grows along with the bank. -/
def addKeyed (b : Bank) (questions : List Question) : Nat × Bank :=
  let grown := (questions.foldl Keyed.insert (.ofBank b)).questions
  (grown.length - b.size, ⟨grown⟩)

/-- The set of ids stays in step with the bank. -/
theorem addKeyed_eq (b : Bank) (questions : List Question) :
    b.addKeyed questions = b.add questions := by
  have hgrown : (questions.foldl Keyed.insert (.ofBank b)).questions =
      (questions.foldl insert b).questions := Keyed.questions_foldl_insert _ questions
  rw [addKeyed, hgrown]
  rfl

section

variable {b : Bank} {questions : List Question} {q : Question}

theorem insert_of_mem (h : q.id ∈ b.ids) : b.insert q = b := by
  obtain ⟨other, hother, hsame⟩ := List.mem_map.mp h
  refine if_pos (List.any_eq_true.mpr ⟨other, hother, ?_⟩)
  exact beq_iff_eq.mpr hsame

theorem insert_of_not_mem (h : q.id ∉ b.ids) : b.insert q = ⟨b.questions ++ [q]⟩ := by
  refine if_neg fun htaken => h ?_
  obtain ⟨other, hother, hsame⟩ := List.any_eq_true.mp htaken
  exact List.mem_map.mpr ⟨other, hother, eq_of_beq hsame⟩

/-- A question is not new if its id is in the bank or came before. -/
theorem isNew_eq_false_iff {before : List Question} :
    b.isNew before q = false ↔ q.id ∈ b.ids ∨ q.id ∈ before.map Question.id := by
  simp only [isNew, Bool.and_eq_false_iff, decide_eq_false_iff_not, not_not]

/-- Whether a question is a newcomer is settled by what comes before it. -/
theorem newcomers_concat (b : Bank) (questions : List Question) (q : Question) :
    b.newcomers (questions ++ [q]) =
      b.newcomers questions ++ if b.isNew questions q then [q] else [] := by
  have hbefore : questions.zipIdx.filter
        (fun entry => b.isNew ((questions ++ [q]).take entry.2) entry.1) =
      questions.zipIdx.filter (fun entry => b.isNew (questions.take entry.2) entry.1) := by
    refine List.filter_congr fun entry hentry => ?_
    obtain ⟨-, hi, -⟩ := List.mem_zipIdx hentry
    rw [List.take_append_of_le_length (by omega)]
  rw [newcomers, List.zipIdx_append, Nat.zero_add, List.zipIdx_singleton, List.filter_append,
    hbefore, List.map_append, List.filter_singleton, List.take_left]
  cases b.isNew questions q <;> rfl

theorem add_concat (b : Bank) (questions : List Question) (q : Question) :
    (b.add (questions ++ [q])).2 = (b.add questions).2.insert q :=
  List.foldl_concat ..

/-- The bank stays as it was, and the newcomers follow in their order. -/
theorem questions_add (b : Bank) (questions : List Question) :
    (b.add questions).2.questions = b.questions ++ b.newcomers questions := by
  induction questions using List.reverseRecOn with
  | nil => exact (List.append_nil _).symm
  | append_singleton questions q ih =>
    rw [add_concat, newcomers_concat, ← List.append_assoc, ← ih]
    cases hnew : b.isNew questions q with
    | false =>
      rw [insert_of_mem (mem_ids_add.mpr (isNew_eq_false_iff.mp hnew)), if_neg Bool.false_ne_true,
        List.append_nil]
    | true =>
      have hfree : ¬ (q.id ∈ b.ids ∨ q.id ∈ questions.map Question.id) := by
        rw [← isNew_eq_false_iff, hnew]
        exact Bool.noConfusion
      rw [insert_of_not_mem (mt mem_ids_add.mp hfree), if_pos rfl]

/-- The bank grows by the questions that are new. -/
theorem size_add (b : Bank) (questions : List Question) :
    (b.add questions).2.size = b.size + (b.newcomers questions).length := by
  rw [size, questions_add, List.length_append, size]

/-- The questions that are new are counted. -/
theorem count_add (b : Bank) (questions : List Question) :
    (b.add questions).1 = (b.newcomers questions).length := by
  have hcount : (b.add questions).1 = (b.add questions).2.size - b.size := rfl
  rw [hcount, size_add, Nat.add_sub_cancel_left]

theorem size_add_eq (b : Bank) (questions : List Question) :
    (b.add questions).2.size = b.size + (b.add questions).1 := by
  rw [size_add, count_add]

/-- Adding two lists is adding one after the other. -/
theorem add_append (b : Bank) (first second : List Question) :
    b.add (first ++ second) =
      ((b.add first).1 + ((b.add first).2.add second).1, ((b.add first).2.add second).2) := by
  have hbank : (b.add (first ++ second)).2 = ((b.add first).2.add second).2 := List.foldl_append
  refine Prod.ext ?_ hbank
  have hwhole := size_add_eq b (first ++ second)
  have hfirst := size_add_eq b first
  have hsecond := size_add_eq (b.add first).2 second
  rw [hbank] at hwhole
  simp only
  omega

/-- Questions whose ids are taken change nothing. -/
theorem add_of_forall_mem (h : ∀ q ∈ questions, q.id ∈ b.ids) : b.add questions = (0, b) := by
  have hbank : (b.add questions).2 = b := by
    induction questions using List.reverseRecOn with
    | nil => rfl
    | append_singleton questions q ih =>
      obtain ⟨hbefore, hlast⟩ := List.forall_mem_append.mp h
      rw [add_concat, ih hbefore, insert_of_mem (hlast q (List.mem_singleton_self q))]
  refine Prod.ext ?_ hbank
  have hsize := size_add_eq b questions
  rw [hbank] at hsize
  simp only
  omega

end

/-- Adding lists one after the other is adding them as one, and the counts add up. -/
theorem addEach_eq (b : Bank) (calls : List (List Question)) :
    b.add calls.flatten = ((b.addEach calls).1.sum, (b.addEach calls).2) := by
  induction calls generalizing b with
  | nil => exact add_of_forall_mem (by simp)
  | cons questions rest ih =>
    rw [List.flatten_cons, add_append, ih]
    rfl

theorem addEach_append (b : Bank) (first second : List (List Question)) :
    b.addEach (first ++ second) =
      ((b.addEach first).1 ++ ((b.addEach first).2.addEach second).1,
        ((b.addEach first).2.addEach second).2) := by
  induction first generalizing b with
  | nil => rfl
  | cons questions rest ih => simp only [List.cons_append, addEach, ih]

theorem length_addEach (b : Bank) (calls : List (List Question)) :
    (b.addEach calls).1.length = calls.length := by
  induction calls generalizing b with
  | nil => rfl
  | cons questions rest ih => exact congrArg (· + 1) (ih _)

/-- No call makes an id stand twice. -/
theorem distinctIds_addEach {b : Bank} (h : Question.DistinctIds b.questions)
    (calls : List (List Question)) : Question.DistinctIds (b.addEach calls).2.questions := by
  induction calls generalizing b with
  | nil => exact h
  | cons questions rest ih => exact ih (distinctIds_add h questions)

/-- The ids are those of the bank and of all that was added. -/
theorem mem_ids_addEach {b : Bank} {calls : List (List Question)} {id : String} :
    id ∈ (b.addEach calls).2.ids ↔ id ∈ b.ids ∨ id ∈ calls.flatten.map Question.id := by
  have hlast : (b.add calls.flatten).2 = (b.addEach calls).2 := congrArg Prod.snd (b.addEach_eq calls)
  rw [← hlast]
  exact mem_ids_add

end Bank

namespace App

variable {ε σ : Type} [Store ε σ]

/-- The bank grows also where it cannot be saved. -/
theorem bank_addQuestions (app : App σ) (questions : List Question) :
    (app.perform (.addQuestions questions)).bank = (app.bank.add questions).2 := by
  rw [perform, addQuestions_run]
  split <;> rfl

/-- The application reports the count of the bank. -/
theorem count_addQuestions {app : App σ} {questions : List Question} {n : Nat}
    (h : ((addQuestions questions).run.run app).1 = .ok n) : n = (app.bank.add questions).1 := by
  rw [addQuestions_run] at h
  split at h
  · cases hsave : ((app.bank.add questions).2.save.run.run app.store).1 with
    | error e =>
      rw [hsave] at h
      cases h
    | ok _ =>
      rw [hsave] at h
      cases h
      rfl
  · cases h
    rfl

/-- The bank of the application grows as a bank alone does, whatever its store does. -/
theorem bank_run_addQuestions (app : App σ) (calls : List (List Question)) :
    (app.run (calls.map .addQuestions)).bank = (app.bank.addEach calls).2 := by
  induction calls generalizing app with
  | nil => rfl
  | cons questions rest ih =>
    change ((app.perform (.addQuestions questions)).run (rest.map .addQuestions)).bank = _
    rw [ih, bank_addQuestions]
    rfl

end App

namespace Bank

/-- What lists that were added one after the other made of a bank. -/
structure Grown (b : Bank) (calls : List (List Question)) (counts : List Nat) (last : Bank) :
    Prop where
  distinctIds : Question.DistinctIds last.questions
  /-- After the bank come the questions that are new to it and to the lists up to them. -/
  questions_eq : last.questions = b.questions ++ b.newcomers calls.flatten
  /-- Each addition counts by how much the bank grew. -/
  counts_eq : ∀ before questions after, calls = before ++ questions :: after →
    ∃ n, counts[before.length]? = some n ∧
      (b.addEach (before ++ [questions])).2.size = (b.addEach before).2.size + n
  /-- The lists could have been added as one. -/
  atOnce : b.add calls.flatten = (counts.sum, last)
  /-- So can the next two. -/
  append : ∀ first second, last.add (first ++ second) =
    ((last.add first).1 + ((last.add first).2.add second).1, ((last.add first).2.add second).2)
  /-- A list that was added before adds nothing. -/
  again : ∀ questions ∈ calls, last.add questions = (0, last)
  /-- A set of ids that grows along finds the same questions new. -/
  keyed : ∀ questions, last.addKeyed questions = last.add questions
  /-- An application that imports the lists comes to this bank, whatever its store refuses, and gives
      back the counts. -/
  imported : ∀ {ε σ : Type} [Store ε σ] (app : App σ), app.bank = b →
    (app.run (calls.map .addQuestions)).bank = last ∧
    ∀ questions n, ((App.addQuestions questions).run.run app).1 = .ok n → n = (b.add questions).1

/-- A bank whose ids are different is an ordered set keyed by id, however lists are added to it. -/
theorem grown_addEach {b : Bank} (h : Question.DistinctIds b.questions)
    (calls : List (List Question)) : Grown b calls (b.addEach calls).1 (b.addEach calls).2 where
  distinctIds := distinctIds_addEach h calls
  questions_eq := by
    have hlast := congrArg (fun out => out.2.questions) (b.addEach_eq calls)
    exact hlast.symm.trans (questions_add b calls.flatten)
  counts_eq := by
    rintro before questions after rfl
    refine ⟨((b.addEach before).2.add questions).1, ?_, ?_⟩
    · rw [addEach_append, ← length_addEach b before, List.getElem?_append_right le_rfl, Nat.sub_self]
      rfl
    · rw [addEach_append]
      exact size_add_eq _ questions
  atOnce := addEach_eq b calls
  append := add_append _
  again := by
    intro questions hcall
    refine add_of_forall_mem fun q hq => mem_ids_addEach.mpr (.inr ?_)
    exact List.mem_map_of_mem (List.mem_flatten_of_mem hcall hq)
  keyed := addKeyed_eq _
  imported := by
    rintro ε σ _ app rfl
    exact ⟨App.bank_run_addQuestions app calls, fun questions n => App.count_addQuestions⟩

/-- Ids come again within a list, in a later list, and from the bank itself, each time with another
    prompt. -/
theorem grown_addEach_first_wins :
    ∃ (b last : Bank) (calls : List (List Question)) (counts : List Nat),
      Question.DistinctIds b.questions ∧ Grown b calls counts last ∧ counts = [2, 1, 0] ∧
        last.questions.map (fun q => (q.id, q.prompt)) =
          [("a", "0"), ("b", "1"), ("c", "4"), ("d", "6")] := by
  let q (id prompt : String) : Question := .plain id .fillIn prompt [] (.fillIn "x")
  let b : Bank := ⟨[q "a" "0"]⟩
  let calls := [[q "b" "1", q "a" "2", q "b" "3", q "c" "4"], [q "c" "5", q "d" "6", q "d" "7"],
    [q "d" "8", q "a" "9"]]
  have hids : Question.DistinctIds b.questions := List.nodup_singleton _
  exact ⟨b, _, calls, _, hids, grown_addEach hids calls, by decide +kernel, by decide +kernel⟩

end Bank

end Quizmaster
