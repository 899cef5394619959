import Quizmaster.Proofs.App.Run
import Quizmaster.Proofs.Session.Run

namespace Quizmaster

namespace Shuffle

variable {shuffle : Shuffle} {pool : List Question} {length : Nat}

theorem draw_of_small (shuffle : Shuffle) (hsmall : pool = [] ∨ pool.length < length) :
    shuffle.draw pool length = .error (.insufficientPool pool.length length) :=
  if_pos hsmall

theorem draw_of_large (shuffle : Shuffle) (hlarge : ¬ (pool = [] ∨ pool.length < length)) :
    shuffle.draw pool length = .ok ((shuffle.order pool).take length) :=
  if_neg hlarge

/-- Of a pool that is not empty, no questions are drawn only where none are asked for. -/
theorem take_order_eq_nil_iff (hpool : pool ≠ []) :
    (shuffle.order pool).take length = [] ↔ length = 0 := by
  have horder : shuffle.order pool ≠ [] := by
    intro hempty
    have hperm := shuffle.perm pool
    rw [hempty, List.nil_perm] at hperm
    exact hpool hperm
  simp [List.take_eq_nil_iff, horder]

end Shuffle

namespace App

variable {σ : Type}

/-- How starting a test from a pool fails: with an application that is as it was, or with one
    whose test is given up. -/
inductive StartFails (app : App σ) (pool : List Question) (length : Nat) :
    Session.Refusal → App σ → Prop
  | insufficient (hsmall : pool = [] ∨ pool.length < length) :
      StartFails app pool length (.insufficientPool pool.length length) app
  | empty (hpool : pool ≠ []) (hlength : length = 0) :
      StartFails app pool length .emptySequence { app with session := app.session.reset }

theorem exists_reset_start (s : Session) {questions : List Question} (hne : questions ≠ []) :
    ∃ t, s.reset.start questions = .ok t :=
  ⟨_, Session.start_eq_ok_iff.mpr ⟨rfl, hne, rfl⟩⟩

/-- Starting fails for a small pool, which is noticed before the running test is given up, or for a
    test of no questions, which is noticed after it. -/
theorem startWith_eq_error_iff {app next : App σ} {shuffle : Shuffle} {pool : List Question}
    {length : Nat} {e : Session.Refusal} :
    (startWith shuffle pool length).run.run app = (.error e, next) ↔
      StartFails app pool length e next := by
  rw [startWith_run]
  by_cases hsmall : pool = [] ∨ pool.length < length
  · rw [Shuffle.draw_of_small shuffle hsmall]
    constructor
    · rintro ⟨⟩
      exact .insufficient hsmall
    · rintro (_ | ⟨hpool, hlength⟩)
      · rfl
      · simp [hpool, hlength] at hsmall
  · rw [Shuffle.draw_of_large shuffle hsmall]
    have hpool : pool ≠ [] := fun hempty => hsmall (.inl hempty)
    by_cases hlength : length = 0
    · subst hlength
      rw [List.take_zero]
      constructor
      · rintro ⟨⟩
        exact .empty hpool rfl
      · rintro (hsmall' | _)
        · exact absurd hsmall' hsmall
        · rfl
    · have hdrawn : (shuffle.order pool).take length ≠ [] :=
        mt (Shuffle.take_order_eq_nil_iff hpool).mp hlength
      obtain ⟨t, hstart⟩ := exists_reset_start app.session hdrawn
      simp only [hstart]
      constructor
      · rintro ⟨⟩
      · rintro (hsmall' | ⟨-, hzero⟩)
        · exact absurd hsmall' hsmall
        · exact absurd hzero hlength

/-- Starting a test fails for a pool that is too small, and then nothing changes; and it fails for
    a test of no questions, and then the running test is given up while bank, progress, store and
    log stay. It fails in no other way. -/
theorem start_error_iff (app next : App σ) (shuffle : Shuffle) (e : Session.Refusal) :
    (∀ pool length, (startWith shuffle pool length).run.run app = (.error e, next) ↔
      StartFails app pool length e next) ∧
    ∀ filter length, (start shuffle filter length).run.run app = (.error e, next) ↔
      StartFails app (app.bank.select filter) length e next := by
  refine ⟨fun pool length => startWith_eq_error_iff, fun filter length => ?_⟩
  rw [start_run]
  exact startWith_eq_error_iff

/-- Asked for a test of no questions in the middle of another one, the application refuses, and
    the answers that were given are lost. -/
theorem startWith_zero_loses_answers :
    ∃ (app next : App Store.Memory) (q : Question),
      app.session.state = .inProgress ∧ app.session.answeredCount = 1 ∧
        (startWith .keep [q] 0).run.run app = (.error .emptySequence, next) ∧
        next.session = .new false ∧ next ≠ app := by
  let q : Question := .plain "q" .single "Is it?" ["yes", "no"] (.single "yes")
  let idle : App Store.Memory := ⟨.empty, .new false, .new, .ofEntries ∅, []⟩
  let app := idle.run [.startWith .keep [q, q] 2, .submit (.single "yes")]
  have hrunning : app.session.state = .inProgress := by decide +kernel
  refine ⟨app, { app with session := .new false }, q, hrunning, by decide +kernel, rfl, rfl, ?_⟩
  intro hsame
  rw [← hsame] at hrunning
  cases hrunning

end App

end Quizmaster
