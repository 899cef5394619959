import Quizmaster.Proofs.App.Log
import Quizmaster.Proofs.Turn.Rounds

namespace Quizmaster.Turn

variable {ε σ α β : Type} [Store ε σ] {p : Session → Prop}

/-- The action keeps a property of the running test. -/
def Keeps (p : Session → Prop) (x : StateM (App σ) α) : Prop :=
  ∀ app : App σ, p app.session → p (x.run app).2.session

namespace Keeps

omit [Store ε σ]

theorem pure (a : α) : Keeps (σ := σ) p (pure a) := fun _ h => h

theorem get : Keeps (σ := σ) p get := fun _ h => h

theorem bind {x : StateM (App σ) α} {f : α → StateM (App σ) β} (hx : Keeps p x)
    (hf : ∀ a, Keeps p (f a)) : Keeps p (x >>= f) :=
  fun app h => hf (x.run app).1 (x.run app).2 (hx app h)

end Keeps

variable {acceptEmpty : Bool}

/-- An operation of the application keeps the invariant. -/
theorem keeps_perform {x : StateM (App σ) α} (op : App.Op)
    (hx : ∀ app : App σ, (x.run app).2 = app.perform op) :
    Keeps (Session.Invariant acceptEmpty) x := by
  intro app h
  rw [hx]
  exact App.invariant_perform h op

/-- Answering keeps the session sound, whatever was typed. -/
theorem keeps_answer (q : Question) (typed : String) :
    Keeps (σ := σ) (Session.Invariant acceptEmpty) (answer q typed) := by
  refine .bind (fun _ h => h) fun _ =>
    .bind (keeps_perform (.submit (Typed.answer q typed)) fun _ => rfl) fun result => ?_
  cases result with
  | error refusal => exact .pure _
  | ok outcome =>
    refine .bind .get fun app => ?_
    simp only
    cases outcome.finished with
    | true => exact .pure _
    | false => exact .bind (keeps_perform .advance fun _ => rfl) fun _ => .pure _

/-- Every line keeps the session sound. -/
theorem keeps_respond (q : Question) (line : String) :
    Keeps (σ := σ) (Session.Invariant acceptEmpty) (respond q line) := by
  rw [respond]
  cases Order.ofLine line with
  | quit => exact .pure _
  | next => exact .bind (keeps_perform .advance fun _ => rfl) fun _ => .pure _
  | previous => exact .bind (keeps_perform .retreat fun _ => rfl) fun _ => .pure _
  | hint => exact .pure _
  | answer typed => exact .bind (keeps_answer q typed) fun _ => .pure _

/-- A round keeps the session sound. -/
theorem Round.invariant {t u : Terminal σ} {result : Option End} (h : Round t result u)
    (hinvariant : t.app.session.Invariant acceptEmpty) : u.app.session.Invariant acceptEmpty := by
  cases h with
  | finished hquestion => exact hinvariant
  | noInput hquestion hunread => exact hinvariant
  | badInput hquestion hunread => exact hinvariant
  | @quit q line rest next hquestion hunread hrespond =>
    have hkept := keeps_respond q line t.app hinvariant
    rwa [hrespond] at hkept
  | @goesOn q line told rest next hquestion hunread hrespond =>
    have hkept := keeps_respond q line t.app hinvariant
    rwa [hrespond] at hkept

/-- However a test is asked to its end, the session stays sound. -/
theorem Leads.invariant {t left : Terminal σ} {why : End} (h : Leads t why left)
    (hinvariant : t.app.session.Invariant acceptEmpty) :
    left.app.session.Invariant acceptEmpty := by
  induction h with
  | last hround => exact hround.invariant hinvariant
  | next hround _ ih => exact ih (hround.invariant hinvariant)

/-- Whatever is typed, the invariant of the running test holds. -/
theorem keeps_run (lines : List (Option String)) :
    Keeps (σ := σ) (Session.Invariant acceptEmpty) (run lines) :=
  fun app hinvariant => (leads_loop (.ofLines app lines)).invariant hinvariant

end Quizmaster.Turn
