import Mathlib.Data.List.Induction
import Quizmaster.Proofs.App.Opening
import Quizmaster.Proofs.App.Starting

namespace Quizmaster

open Store

namespace Session

/-- A test that nothing was done in yet. -/
def begun (acceptEmpty : Bool) (questions : List Question) : Session :=
  ⟨acceptEmpty, questions, List.replicate questions.length none, 0, .inProgress⟩

theorem start_reset_eq (s : Session) {questions : List Question} (hne : questions ≠ []) :
    s.reset.start questions = .ok (begun s.acceptEmpty questions) :=
  start_eq_ok_iff.mpr ⟨rfl, hne, rfl⟩

/-- A test of questions drawn from a pool, before its first answer. -/
structure Drawn (pool : List Question) (length : Nat) (s : Session) : Prop where
  sequence_length : s.sequence.length = length
  distinctIds : Question.DistinctIds s.sequence
  mem_pool : ∀ q ∈ s.sequence, q ∈ pool
  slots_eq : s.slots = List.replicate length none
  cursor_eq : s.cursor = 0
  state_eq : s.state = .inProgress
  perm : length = pool.length → s.sequence.Perm pool

end Session

namespace Shuffle

variable {pool : List Question} {length : Nat}

theorem length_take_order (shuffle : Shuffle) (hlength : length ≤ pool.length) :
    ((shuffle.order pool).take length).length = length := by
  have horder : (shuffle.order pool).length = pool.length := (shuffle.perm pool).length_eq
  rw [List.length_take, horder]
  omega

/-- No question is drawn twice: an order neither loses nor repeats any. -/
theorem distinctIds_take_order (shuffle : Shuffle) (length : Nat)
    (hpool : Question.DistinctIds pool) :
    Question.DistinctIds ((shuffle.order pool).take length) := by
  have horder : Question.DistinctIds (shuffle.order pool) :=
    ((shuffle.perm pool).map Question.id).nodup_iff.mpr hpool
  exact List.Nodup.sublist ((List.take_sublist length _).map Question.id) horder

theorem mem_of_mem_take_order {shuffle : Shuffle} {q : Question}
    (hq : q ∈ (shuffle.order pool).take length) : q ∈ pool :=
  (shuffle.perm pool).mem_iff.mp (List.mem_of_mem_take hq)

end Shuffle

namespace App

section

variable {σ : Type} {app next : App σ} {shuffle : Shuffle} {pool : List Question} {length : Nat}

/-- Starting succeeds for every length from one up to the size of the pool. -/
theorem startWith_eq_ok_iff :
    (startWith shuffle pool length).run.run app = (.ok (), next) ↔
      (1 ≤ length ∧ length ≤ pool.length) ∧
        next = { app with
          session := .begun app.session.acceptEmpty ((shuffle.order pool).take length)
        }.tell [.started length] := by
  by_cases hfits : 1 ≤ length ∧ length ≤ pool.length
  · have hpool : pool ≠ [] := List.ne_nil_of_length_pos (by omega)
    have hlarge : ¬ (pool = [] ∨ pool.length < length) := by
      rintro (hempty | hshort)
      · exact hpool hempty
      · omega
    have hdrawn : (shuffle.order pool).take length ≠ [] := by
      intro hempty
      have hzero := (Shuffle.take_order_eq_nil_iff hpool).mp hempty
      omega
    have hsize : (Session.begun app.session.acceptEmpty ((shuffle.order pool).take length)).size =
        length := shuffle.length_take_order hfits.2
    rw [startWith_run, Shuffle.draw_of_large shuffle hlarge]
    simp only [Session.start_reset_eq app.session hdrawn, hsize]
    constructor
    · intro hok
      obtain ⟨-, hnext⟩ := Prod.mk.inj hok
      exact ⟨hfits, hnext.symm⟩
    · rintro ⟨-, rfl⟩
      rfl
  · constructor
    · intro hok
      have hfails : ∃ e after, StartFails app pool length e after := by
        by_cases hzero : length = 0
        · by_cases hpool : pool = []
          · exact ⟨_, _, .insufficient (.inl hpool)⟩
          · exact ⟨_, _, .empty hpool hzero⟩
        · exact ⟨_, _, .insufficient (.inr (by omega))⟩
      obtain ⟨e, after, hfails⟩ := hfails
      cases (startWith_eq_error_iff.mpr hfails).symm.trans hok
    · rintro ⟨hfits', -⟩
      exact absurd hfits' hfits

/-- What is started holds questions of the pool, each of them once. -/
theorem drawn_of_startWith_ok (hpool : Question.DistinctIds pool)
    (hok : (startWith shuffle pool length).run.run app = (.ok (), next)) :
    next.session.Drawn pool length := by
  obtain ⟨⟨hpos, hlength⟩, rfl⟩ := startWith_eq_ok_iff.mp hok
  have hsize := shuffle.length_take_order hlength
  exact {
    sequence_length := hsize
    distinctIds := shuffle.distinctIds_take_order length hpool
    mem_pool := fun q hq => Shuffle.mem_of_mem_take_order hq
    slots_eq := by
      change List.replicate ((shuffle.order pool).take length).length none = _
      rw [hsize]
    cursor_eq := rfl
    state_eq := rfl
    perm := by
      intro hall
      have horder : (shuffle.order pool).length ≤ length := by
        rw [(shuffle.perm pool).length_eq, hall]
      change ((shuffle.order pool).take length).Perm pool
      rw [List.take_of_length_le horder]
      exact shuffle.perm pool }

end

variable {ε σ : Type} [Store ε σ]

/-- Every operation keeps the ids of the bank different. -/
theorem Effect.distinctIds {app : App σ} {op : Op} {a : Assets σ} (heffect : Effect app op a)
    (h : Question.DistinctIds app.bank.questions) : Question.DistinctIds a.bank.questions := by
  cases heffect with
  | kept => exact h
  | added questions => exact Bank.distinctIds_add h questions
  | cleared => exact List.nodup_nil
  | earned => exact h
  | reset => exact h

/-- The bank takes no id twice, whatever is done with it. -/
theorem distinctIds_run {app : App σ} (h : Question.DistinctIds app.bank.questions) (ops : List Op) :
    Question.DistinctIds (app.run ops).bank.questions := by
  induction ops using List.reverseRecOn with
  | nil => exact h
  | append_singleton ops op ih =>
    rw [run_concat]
    exact (effect_perform _ op).distinctIds ih

theorem distinctIds_select {b : Bank} (h : Question.DistinctIds b.questions) (filter : Filter) :
    Question.DistinctIds (b.select filter) :=
  List.Nodup.sublist (List.filter_sublist.map Question.id) h

/-- At every moment of a run, if the saved questions had different ids when it began: a test of the
    questions that a filter selects is started for every length that there are questions for, and for
    no other; its questions are so many of those selected, no two of the same id, and all of them
    where so many are asked for; it has no answers and is at its first question. Whether it is started
    or not, bank, progress and store stay as they were. -/
theorem start_drawn_run [Lawful ε σ] {acceptEmpty : Bool} {s t : σ} {app : App σ}
    (hload : load acceptEmpty s = (.ok app, t))
    (hids : Question.DistinctIds (Bank.saved (Lawful.entries s)).questions) (ops : List Op)
    (shuffle : Shuffle) (filter : Filter) (length : Nat) :
    let pool := (app.run ops).bank.questions.filter filter.selects
    let started := (start shuffle filter length).run.run (app.run ops)
    (started.1 = .ok () ↔ 1 ≤ length ∧ length ≤ pool.length) ∧
      (started.1 = .ok () → started.2.session.Drawn pool length) ∧
      started.2.assets = (app.run ops).assets := by
  intro pool started
  have hpool : Question.DistinctIds pool := by
    obtain ⟨hbank, -⟩ := load_ok hload
    rw [← hbank] at hids
    exact distinctIds_select (distinctIds_run hids ops) filter
  have hstarted : started = (startWith shuffle pool length).run.run (app.run ops) := start_run _ _ _ _
  refine ⟨?_, ?_, ?_⟩
  · constructor
    · intro hok
      exact (startWith_eq_ok_iff.mp (hstarted.symm.trans (Prod.ext hok rfl))).1
    · intro hfits
      rw [hstarted, startWith_eq_ok_iff.mpr ⟨hfits, rfl⟩]
  · intro hok
    exact drawn_of_startWith_ok hpool (hstarted.symm.trans (Prod.ext hok rfl))
  · rw [hstarted]
    exact assets_startWith (app.run ops) shuffle pool length

/-- A saved bank of two subjects; then three questions come in, one of which has an id that is taken.
    Of the two questions of one subject both are drawn. -/
theorem start_drawn_run_taken_id :
    ∃ (entries : Entries) (app : App Memory) (left : Memory) (ops : List Op) (shuffle : Shuffle)
      (filter : Filter), load false (Memory.ofEntries entries) = (.ok app, left) ∧
        Question.DistinctIds (Bank.saved entries).questions ∧
        (app.run ops).bank.questions.map Question.id = ["a", "b", "c"] ∧
        ((start shuffle filter 2).run.run (app.run ops)).1 = .ok () ∧
        ((start shuffle filter 2).run.run (app.run ops)).2.session.Drawn
          ((app.run ops).bank.questions.filter filter.selects) 2 ∧
        ((start shuffle filter 2).run.run (app.run ops)).2.session.sequence.map Question.id =
          ["c", "a"] := by
  let art : Source := ⟨"art", Source.unknown, Source.unknown, "art.json"⟩
  let plain (id : String) : Question := .plain id .fillIn "Which?" [] (.fillIn "this")
  let bank : Bank := ⟨[plain "a", { plain "b" with source := art }]⟩
  let entries : Entries := .ofList [(questionsKey, bank.encode)]
  let app : App Memory :=
    ⟨bank, .new false, Progress.saved entries, Memory.ofEntries entries.opened, []⟩
  let ops : List Op := [.addQuestions [plain "b", plain "c", plain "a"]]
  let backwards : Shuffle := ⟨List.reverse, List.reverse_perm⟩
  let filter : Filter := { subject := some Source.general }
  have hsaved : Bank.saved entries = bank := Bank.saved_insert ∅ bank
  have hload : load false (Memory.ofEntries entries) = (.ok app, Memory.ofEntries entries.opened) := by
    rw [load_ofEntries, hsaved]
  have hids : Question.DistinctIds (Bank.saved entries).questions := by
    rw [hsaved]
    change ["a", "b"].Nodup
    decide
  obtain ⟨hiff, hdrawn, -⟩ := start_drawn_run hload hids ops backwards filter 2
  have hok := hiff.mpr (by decide +kernel)
  exact ⟨entries, app, _, ops, backwards, filter, hload, hids, by decide +kernel, hok, hdrawn hok,
    by decide +kernel⟩

end App

end Quizmaster
