import Quizmaster.Proofs.App.Run
import Quizmaster.Turn

namespace Quizmaster.Turn

variable {ε σ : Type}

/-- The lines that were read. -/
def Terminal.lines (t : Terminal σ) : List (Option String) := t.read.map Reading.line

variable [Store ε σ]

/-- As many rounds as it takes to come to an end, but not more than `n`. -/
def rounds : Nat → Terminal σ → Option End × Terminal σ
  | 0, t => (none, t)
  | n + 1, t =>
    match t.round with
    | (some why, t) => (some why, t)
    | (none, t) => rounds n t

/-- All that a round can do. -/
inductive Round (t : Terminal σ) : Option End → Terminal σ → Prop
  | finished (hquestion : question? t.app.session = none) : Round t (some .done) t
  | noInput {q : Question} (hquestion : question? t.app.session = some q) (hunread : t.unread = []) :
      Round t (some .noInput) { t with shown := t.shown ++ askText t.app.session q ++ "\n" }
  | badInput {q : Question} {rest : List (Option String)}
      (hquestion : question? t.app.session = some q) (hunread : t.unread = none :: rest) :
      Round t (some .badInput) { t with
        shown := t.shown ++ askText t.app.session q
        read := t.read ++ [⟨t.app, none⟩]
        unread := rest }
  | quit {q : Question} {line : String} {rest : List (Option String)} {next : App σ}
      (hquestion : question? t.app.session = some q) (hunread : t.unread = some line :: rest)
      (hrespond : (respond q line).run t.app = (none, next)) :
      Round t (some .quit) {
        app := next
        shown := t.shown ++ askText t.app.session q
        read := t.read ++ [⟨t.app, some line⟩]
        unread := rest }
  | goesOn {q : Question} {line told : String} {rest : List (Option String)} {next : App σ}
      (hquestion : question? t.app.session = some q) (hunread : t.unread = some line :: rest)
      (hrespond : (respond q line).run t.app = (some told, next)) :
      Round t none {
        app := next
        shown := t.shown ++ askText t.app.session q ++ told
        read := t.read ++ [⟨t.app, some line⟩]
        unread := rest }

/-- What a round does is one of five things. -/
theorem round_spec (t : Terminal σ) : Round t t.round.1 t.round.2 := by
  obtain ⟨app, shown, read, unread⟩ := t
  rw [Terminal.round_eq]
  cases hquestion : question? app.session with
  | none => exact .finished hquestion
  | some q =>
    cases unread with
    | nil => exact .noInput hquestion rfl
    | cons line rest =>
      cases line with
      | none => exact .badInput hquestion rfl
      | some line =>
        simp only [Terminal.print, Terminal.readLine]
        cases hrespond : (respond q line).run app with
        | mk told next =>
          cases told with
          | none => exact .quit hquestion rfl hrespond
          | some told => exact .goesOn hquestion rfl hrespond

/-- A round can go in one way only. -/
theorem Round.round_eq {t u : Terminal σ} {result : Option End} (h : Round t result u) :
    t.round = (result, u) := by
  obtain ⟨app, shown, read, unread⟩ := t
  rw [Terminal.round_eq]
  cases h with
  | finished hquestion => simp only [hquestion]
  | noInput hquestion hunread =>
    simp only at hquestion hunread
    simp only [hquestion, hunread, Terminal.print, Terminal.readLine]
  | badInput hquestion hunread =>
    simp only at hquestion hunread
    simp only [hquestion, hunread, Terminal.print, Terminal.readLine]
  | quit hquestion hunread hrespond =>
    simp only at hquestion hunread hrespond
    simp only [hquestion, hunread, hrespond, Terminal.print, Terminal.readLine]
  | goesOn hquestion hunread hrespond =>
    simp only at hquestion hunread hrespond
    simp only [hquestion, hunread, hrespond, Terminal.print, Terminal.readLine]

/-- The loop comes from one state of the terminal to its end in another one. -/
inductive Leads : Terminal σ → End → Terminal σ → Prop
  | last {t left : Terminal σ} {why : End} (hround : Round t (some why) left) : Leads t why left
  | next {t u left : Terminal σ} {why : End} (hround : Round t none u) (hrest : Leads u why left) :
      Leads t why left

section

variable {t u left : Terminal σ} {why : End}

/-- With a round for each line and one more, the loop comes to an end. -/
theorem exists_rounds {n : Nat} (h : t.unread.length < n) :
    ∃ why left, rounds n t = (some why, left) ∧ Leads t why left := by
  induction n generalizing t with
  | zero => exact absurd h (Nat.not_lt_zero _)
  | succ n ih =>
    have hspec := round_spec t
    rw [rounds]
    cases hround : t.round with
    | mk result u =>
      rw [hround] at hspec
      cases result with
      | some why => exact ⟨why, u, rfl, .last hspec⟩
      | none =>
        have hfewer := Terminal.length_unread_of_round hround
        obtain ⟨why, left, hrounds, hleads⟩ := ih (t := u) (by omega)
        exact ⟨why, left, hrounds, .next hspec hleads⟩

/-- The loop comes to the end that the rounds lead to. -/
theorem Leads.loop_eq (h : Leads t why left) : loop t = (why, left) := by
  induction h with
  | last hround =>
    rw [loop]
    split <;> simp_all [hround.round_eq]
  | next hround hrest ih =>
    rw [← ih, loop]
    split <;> simp_all [hround.round_eq]

/-- Whatever there is to be read, the loop comes to its end. -/
theorem leads_loop (t : Terminal σ) : Leads t (loop t).1 (loop t).2 := by
  obtain ⟨why, left, -, hleads⟩ := exists_rounds (Nat.lt_succ_self t.unread.length)
  rwa [hleads.loop_eq]

/-- What the loop shows and leaves is what `run` does with the lines. -/
theorem Leads.run_eq {app : App σ} {lines : List (Option String)}
    (h : Leads (.ofLines app lines) why left) :
    (run lines).run app = ((left.shown, why), left.app) := by
  have hrun : (run lines).run app =
      (((loop (.ofLines app lines)).2.shown, (loop (.ofLines app lines)).1),
        (loop (.ofLines app lines)).2.app) := rfl
  rw [hrun, h.loop_eq]

/-- A round takes lines from those that are there, and does the same whatever comes after them. -/
theorem Round.reads {result : Option End} (h : Round t result u) :
    ∃ readings, u.read = t.read ++ readings ∧ t.unread = readings.map Reading.line ++ u.unread ∧
      (result ≠ some .noInput → ∀ more,
        Round { t with unread := readings.map Reading.line ++ more } result
          { u with unread := more }) := by
  cases h with
  | finished hquestion =>
    exact ⟨[], (List.append_nil _).symm, rfl, fun _ more => .finished hquestion⟩
  | noInput hquestion hunread =>
    exact ⟨[], (List.append_nil _).symm, rfl, fun hwhy => absurd rfl hwhy⟩
  | badInput hquestion hunread =>
    exact ⟨[⟨t.app, none⟩], rfl, hunread, fun _ more => .badInput hquestion rfl⟩
  | @quit q line rest next hquestion hunread hrespond =>
    exact ⟨[⟨t.app, some line⟩], rfl, hunread, fun _ more => .quit hquestion rfl hrespond⟩
  | @goesOn q line told rest next hquestion hunread hrespond =>
    exact ⟨[⟨t.app, some line⟩], rfl, hunread, fun _ more => .goesOn hquestion rfl hrespond⟩

/-- Line after line is read, each once, and what is left unread has no bearing on what happens. -/
theorem Leads.reads (h : Leads t why left) :
    ∃ readings, left.read = t.read ++ readings ∧
      t.unread = readings.map Reading.line ++ left.unread ∧
      (why ≠ .noInput → ∀ more,
        Leads { t with unread := readings.map Reading.line ++ more } why
          { left with unread := more }) := by
  induction h with
  | last hround =>
    obtain ⟨readings, hread, hunread, hmore⟩ := hround.reads
    exact ⟨readings, hread, hunread, fun hwhy more => .last (hmore (by simpa using hwhy) more)⟩
  | next hround hrest ih =>
    obtain ⟨first, hread, hunread, hmore⟩ := hround.reads
    obtain ⟨others, hread', hunread', hmore'⟩ := ih
    refine ⟨first ++ others, ?_, ?_, fun hwhy more => ?_⟩
    · rw [hread', hread, List.append_assoc]
    · rw [hunread, hunread', List.map_append, List.append_assoc]
    · rw [List.map_append, List.append_assoc]
      exact .next (hmore nofun _) (hmore' hwhy more)

/-- What holds at first, and is kept by every round that is not the last one, holds before the last
    one. -/
theorem Leads.exists_last {p : Terminal σ → Prop}
    (hstep : ∀ t u, p t → Round t none u → p u) (h : Leads t why left) (ht : p t) :
    ∃ head, p head ∧ Round head (some why) left := by
  induction h with
  | last hround => exact ⟨_, ht, hround⟩
  | next hround hrest ih => exact ih (hstep _ _ ht hround)

end

end Quizmaster.Turn
