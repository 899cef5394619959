import Quizmaster.Proofs.App.Moves
import Quizmaster.Proofs.Session.Refusals

namespace Quizmaster

namespace App

open Store

section

variable {ε σ : Type} [Store ε σ]

/-- An answer that the application refuses is one that the session refuses, for the same reason. -/
theorem submit_eq_error_iff {app next : App σ} {answer : Answer} {e : Session.Refusal} :
    (submit answer).run.run app = (.error e, next) ↔
      app.session.submit answer = .error e ∧ next = app := by
  constructor
  · intro h
    cases hsession : app.session.submit answer with
    | error reason =>
      rw [submit_run, hsession] at h
      cases h
      exact ⟨rfl, rfl⟩
    | ok taken =>
      have hresult := congrArg Prod.fst h
      rw [submit_result, hsession] at hresult
      cases hresult
  · rintro ⟨hsession, rfl⟩
    rw [submit_run, hsession]

end

/-- Of a session that was used in any way: what comes of an answer and why a start is refused, by
    its questions and slots alone; a call that is no reset is refused exactly if it changes nothing,
    also where it is carried out field by field. An answer that the application refuses leaves all
    of the application as it was, whatever its store, and no call of the store is made. -/
theorem refusals_run_new (acceptEmpty : Bool) (calls : List Session.Call) :
    let s := (Session.new acceptEmpty).run calls
    (∀ answer r, s.submit answer = r ↔ Session.Verdict s answer r) ∧
    (∀ questions e, s.start questions = .error e ↔
      (s.sequence ≠ [] ∧ e = .alreadyStarted) ∨
        (s.sequence = [] ∧ questions = [] ∧ e = .emptySequence)) ∧
    (∀ call, (Session.edit call).run.run s = (s.reply call, s.perform call)) ∧
    (∀ call, call ≠ .reset → (Session.Refuses (s.reply call) ↔ s.perform call = s)) ∧
    (∀ {ε σ : Type} [Store ε σ] (app next : App σ) (answer : Answer) (e : Session.Refusal),
      (submit answer).run.run app = (.error e, next) →
        app.session.submit answer = .error e ∧ next = app) ∧
    ∀ (app next : App Scheduled) (answer : Answer) (e : Session.Refusal),
      (submit answer).run.run app = (.error e, next) → next.store.since app.store = [] := by
  have h : Session.Invariant acceptEmpty _ := (Session.Invariant.new acceptEmpty).run calls
  refine ⟨fun answer r => h.submit_eq_iff, fun questions e => h.start_eq_error_iff, h.edit_run,
    fun call => h.refuses_iff, fun app next answer e => submit_eq_error_iff.mp, ?_⟩
  intro app next answer e hrefused
  obtain ⟨-, rfl⟩ := submit_eq_error_iff.mp hrefused
  exact List.drop_length

/-- After the last question was answered, the first one, which was passed over, is closed. -/
theorem refusals_run_new_passed_over :
    ∃ (app next : App Scheduled) (answer : Answer),
      app.session.recordAt? 0 = none ∧ app.session.state = .completed ∧
      (submit answer).run.run app = (.error .completed, next) ∧
      app.session.perform (.submit answer) = app.session ∧ next.store.since app.store = [] := by
  let q (id : String) : Question := .plain id .single "Is it?" ["yes", "no"] (.single "yes")
  let calls : List Session.Call :=
    [.start [q "a", q "b"], .advance, .submit (.single "no"), .retreat]
  let s := (Session.new true).run calls
  let app : App Scheduled := ⟨.empty, s, ⟨4, ∅⟩, ⟨∅, fun _ => .answered, []⟩, []⟩
  obtain ⟨hsubmit, -, -, hrefuses, -, htrace⟩ := refusals_run_new true calls
  have hreason : s.submit (.single "yes") = .error .completed :=
    (hsubmit _ _).mpr (.completed (by decide +kernel) (by decide +kernel) (by decide +kernel))
  have hrefused : (submit (.single "yes")).run.run app = (.error .completed, app) :=
    submit_eq_error_iff.mpr ⟨hreason, rfl⟩
  have hreply : Session.Refuses (s.reply (.submit (.single "yes"))) :=
    .inl ⟨.completed, by rw [Session.reply, hreason]; rfl⟩
  exact ⟨app, app, .single "yes", by decide +kernel, by decide +kernel, hrefused,
    (hrefuses _ (by simp)).mp hreply, htrace app app _ _ hrefused⟩

end App

end Quizmaster
