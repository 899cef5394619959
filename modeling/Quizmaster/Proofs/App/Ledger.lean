import Quizmaster.Proofs.App.Moves
import Quizmaster.Proofs.App.Opening

namespace Quizmaster

open Store

namespace App

variable {ε σ : Type} [Store ε σ]

/-- The badges that an operation reports as new. -/
def reports (app : App σ) : Op → List Badge
  | .submit answer =>
    match ((submit answer).run.run app).1 with
    | .ok outcome => outcome.badges
    | .error _ => []
  | _ => []

/-- The badges that a run reports as new. -/
def reported (app : App σ) (ops : List Op) : List Badge := collect perform reports app ops

/-- A split of a run after its last reset of progress, or before its first operation if there was
    none, with the progress that was held there. -/
structure LastReset (app : App σ) (before after : List Op) (base : Progress) : Prop where
  base_eq : before = [] ∧ base = app.progress ∨
    ∃ init, before = init ++ [.resetProgress] ∧ base = .new
  none_later : .resetProgress ∉ after

/-- The account of a run, at its end. -/
structure Ledger (app : App σ) (ops : List Op) : Prop where
  /-- What is held is what was held at first and what was earned since. -/
  balance : ∃ before after base, ops = before ++ after ∧ LastReset app before after base ∧
    (app.run ops).progress.stars =
      min (base.stars + (app.run before).tally earns after) Progress.maxStars ∧
    (∀ badge, badge ∈ (app.run ops).progress.badges ↔
      badge ∈ base.badges ∨ badge.threshold ≤ (app.run ops).progress.stars) ∧
    ((app.run before).reported after).Nodup
  /-- An answer that is refused or wrong adds nothing. -/
  unearned : ∀ answer, (app.run ops).earns (.submit answer) = false →
    ((app.run ops).perform (.submit answer)).progress = (app.run ops).progress
  /-- An answer reports the badge that it brings. -/
  report : ∀ answer outcome next, (submit answer).run.run (app.run ops) = (.ok outcome, next) →
    outcome.badges.length ≤ 1 ∧
    ∀ badge, badge ∈ outcome.badges ↔
      badge ∉ (app.run ops).progress.badges ∧ badge ∈ next.progress.badges
  /-- The right answers of the running test are the stars that were earned since it was begun. -/
  test : ∀ init op rest, ops = init ++ op :: rest → (app.run init).begins op = true →
    (app.run (init ++ [op])).tally discards rest = 0 →
    (app.run (init ++ [op])).tally earns rest = (app.run ops).session.result.correct ∧
    (.resetProgress ∉ rest → (app.run ops).progress.stars =
      min ((app.run (init ++ [op])).progress.stars + (app.run ops).session.result.correct)
        Progress.maxStars)

theorem settled_perform {app : App σ} (h : app.progress.Settled) (op : Op) :
    (app.perform op).progress.Settled := by
  by_cases hop : op = .resetProgress
  · subst hop
    exact Progress.settled_new
  · rw [progress_perform app hop]
    split
    · exact .addStars _ _
    · exact h

/-- The badges that the stars suffice for are held at every moment of a run. -/
theorem settled_run {app : App σ} (h : app.progress.Settled) (ops : List Op) :
    (app.run ops).progress.Settled := by
  induction ops using List.reverseRecOn with
  | nil => exact h
  | append_singleton ops op ih =>
    rw [run_concat]
    exact settled_perform ih op

/-- Without a reset, stars grow by the right answers, and badges by those that the stars suffice
    for. -/
theorem progress_run_of_settled {app : App σ} (h : app.progress.Settled) {ops : List Op}
    (hops : .resetProgress ∉ ops) :
    (app.run ops).progress =
      ⟨min (app.progress.stars + app.tally earns ops) Progress.maxStars,
        Badge.granted (min (app.progress.stars + app.tally earns ops) Progress.maxStars)
          app.progress.badges⟩ := by
  rw [progress_run hops, h.iterate_addStars, starsPerAnswer, Nat.mul_one]

/-- A run splits behind its last reset, where progress is what was loaded or nothing. -/
theorem exists_lastReset (app : App σ) (ops : List Op) :
    ∃ before after base, ops = before ++ after ∧ LastReset app before after base ∧
      (app.run before).progress = base := by
  induction ops using List.reverseRecOn with
  | nil => exact ⟨[], [], app.progress, rfl, ⟨.inl ⟨rfl, rfl⟩, List.not_mem_nil⟩, rfl⟩
  | append_singleton ops op ih =>
    by_cases hop : op = .resetProgress
    · subst hop
      refine ⟨ops ++ [.resetProgress], [], .new, (List.append_nil _).symm,
        ⟨.inr ⟨ops, rfl, rfl⟩, List.not_mem_nil⟩, ?_⟩
      rw [run_concat]
      rfl
    · obtain ⟨before, after, base, rfl, hlast, hbase⟩ := ih
      refine ⟨before, after ++ [op], base, List.append_assoc _ _ _, ⟨hlast.base_eq, ?_⟩, hbase⟩
      simp [hlast.none_later, Ne.symm hop]

/-- Only an answer that earns a star reports badges. -/
theorem reports_eq (app : App σ) (op : Op) :
    app.reports op =
      if app.earns op then (app.progress.addStars starsPerAnswer).1 else [] := by
  cases op with
  | submit answer =>
    rw [reports, earns, submit_result]
    cases app.session.submit answer with
    | error e => rfl
    | ok taken => rfl
  | _ => rfl

/-- What is reported was not held before and is held after. -/
theorem mem_reports_iff (app : App σ) {op : Op} (hop : op ≠ .resetProgress) {badge : Badge} :
    badge ∈ app.reports op ↔
      badge ∉ app.progress.badges ∧ badge ∈ (app.perform op).progress.badges := by
  rw [reports_eq, progress_perform app hop]
  split
  · exact Progress.mem_addStars_iff
  · simp

theorem nodup_reports (app : App σ) (op : Op) : (app.reports op).Nodup := by
  rw [reports_eq]
  split
  · exact Progress.nodup_addStars _ _
  · exact List.nodup_nil

/-- Nothing but a reset takes badges away. -/
theorem badges_subset_perform (app : App σ) {op : Op} (hop : op ≠ .resetProgress) :
    app.progress.badges ⊆ (app.perform op).progress.badges := by
  rw [progress_perform app hop]
  split
  · rw [Progress.addStars_eq]
    exact fun badge hheld => Badge.mem_granted.mpr (.inl hheld)
  · exact fun badge hheld => hheld

/-- What was reported is held until the next reset, so that it is not reported again before. -/
theorem nodup_reported (app : App σ) {ops : List Op} (hops : .resetProgress ∉ ops) :
    (app.reported ops).Nodup ∧ app.reported ops ⊆ (app.run ops).progress.badges := by
  induction ops using List.reverseRecOn with
  | nil => exact ⟨List.nodup_nil, List.nil_subset _⟩
  | append_singleton ops op ih =>
    obtain ⟨hbefore, hlast⟩ := not_or.mp (mt List.mem_append.mpr hops)
    have hop : op ≠ .resetProgress := fun heq => hlast (List.mem_singleton.mpr heq.symm)
    obtain ⟨hnodup, hheld⟩ := ih hbefore
    have hreported : app.reported (ops ++ [op]) =
        app.reported ops ++ (app.run ops).reports op := by
      rw [reported, collect_append]
      exact congrArg _ (List.append_nil _)
    have hnew (badge : Badge) (hbadge : badge ∈ (app.run ops).reports op) :=
      (mem_reports_iff (app.run ops) hop).mp hbadge
    rw [hreported, run_concat]
    constructor
    · refine List.nodup_append.mpr ⟨hnodup, nodup_reports _ op, ?_⟩
      rintro earlier hearlier later hlater rfl
      exact (hnew earlier hlater).1 (hheld hearlier)
    · refine List.append_subset.mpr ⟨?_, fun badge hbadge => (hnew badge hbadge).2⟩
      exact List.Subset.trans hheld (badges_subset_perform (app.run ops) hop)

/-- The account since the last reset: the stars are those held there and one for each right answer,
    the badges those held there and those that the stars suffice for, and each was reported once. -/
theorem balance_run {app : App σ} (h : app.progress.Settled) (ops : List Op) :
    ∃ before after base, ops = before ++ after ∧ LastReset app before after base ∧
      (app.run ops).progress.stars =
        min (base.stars + (app.run before).tally earns after) Progress.maxStars ∧
      (∀ badge, badge ∈ (app.run ops).progress.badges ↔
        badge ∈ base.badges ∨ badge.threshold ≤ (app.run ops).progress.stars) ∧
      ((app.run before).reported after).Nodup := by
  obtain ⟨before, after, base, rfl, hlast, rfl⟩ := exists_lastReset app ops
  have hprogress := progress_run_of_settled (settled_run h before) hlast.none_later
  rw [← run_append] at hprogress
  refine ⟨before, after, _, rfl, hlast, ?_, ?_, (nodup_reported _ hlast.none_later).1⟩
  · rw [hprogress]
  · intro badge
    rw [hprogress]
    exact Badge.mem_granted

/-- An answer reports the badge that it brings, one at most. -/
theorem report_submit {app next : App σ} (h : app.progress.Settled) {answer : Answer}
    {outcome : Outcome} (hsubmit : (submit answer).run.run app = (.ok outcome, next)) :
    outcome.badges.length ≤ 1 ∧
      ∀ badge, badge ∈ outcome.badges ↔
        badge ∉ app.progress.badges ∧ badge ∈ next.progress.badges := by
  have hbadges : app.reports (.submit answer) = outcome.badges := by rw [reports, hsubmit]
  have hnext : app.perform (.submit answer) = next := congrArg Prod.snd hsubmit
  rw [← hbadges, ← hnext]
  refine ⟨?_, fun badge => mem_reports_iff app (by simp)⟩
  rw [reports_eq]
  split
  · exact h.length_addStars_one
  · exact Nat.zero_le 1

/-- The stars that a test brings are its right answers. -/
theorem correct_since_begins {app : App σ} (h : app.progress.Settled) {op : Op}
    (hbegins : app.begins op = true) {ops : List Op}
    (hkept : (app.perform op).tally discards ops = 0) :
    (app.perform op).tally earns ops = ((app.perform op).run ops).session.result.correct ∧
      (.resetProgress ∉ ops → ((app.perform op).run ops).progress.stars =
        min ((app.perform op).progress.stars + ((app.perform op).run ops).session.result.correct)
          Progress.maxStars) := by
  have hcorrect := tally_earns_since_begins hbegins hkept
  refine ⟨hcorrect, fun hops => ?_⟩
  rw [progress_run_of_settled (settled_perform h op) hops, hcorrect]

/-- After an application was loaded, its account is right at every moment, whatever calls of its
    store fail. -/
theorem ledger_run {acceptEmpty : Bool} {s t : σ} {app : App σ}
    (hload : load acceptEmpty s = (.ok app, t)) (ops : List Op) : Ledger app ops := by
  have hsettled : app.progress.Settled := by
    simp only [load] at hload
    split at hload
    · next bank progress v hloading =>
      obtain ⟨_, u, -, hrest⟩ := run_bind_ok hloading
      obtain ⟨_, w, hprogress, hpure⟩ := run_bind_ok hrest
      cases hpure
      cases hload
      exact Progress.settled_of_load_ok hprogress
    · cases hload
  exact {
    balance := balance_run hsettled ops
    unearned := by
      intro answer hearns
      rw [progress_perform _ (by simp), if_neg (by simp [hearns])]
    report := fun answer outcome next => report_submit (settled_run hsettled ops)
    test := by
      intro init op rest hsplit hbegins hkept
      subst hsplit
      rw [run_concat] at hkept ⊢
      rw [List.append_cons, run_append, run_concat]
      exact correct_since_begins (settled_run hsettled init) hbegins hkept }

/-- The fifth star brings its badge though a higher one was held before, and though the store
    refuses to write either. -/
theorem ledger_run_fifth_star :
    ∃ (store left : Scheduled) (app : App Scheduled) (ops : List Op),
      load false store = (.ok app, left) ∧ Ledger app ops ∧ app.progress = ⟨4, .ofList [.gold]⟩ ∧
        (.set starsKey, .refused) ∈ (app.run ops).store.journal ∧
        app.reported ops = [.bronze] ∧ (app.run ops).progress = ⟨5, .ofList [.bronze, .gold]⟩ := by
  let q : Question := .plain "q" .single "Is it?" ["yes", "no"] (.single "yes")
  let ops : List Op := [.startWith .keep [q] 1, .submit (.single "yes")]
  let store : Scheduled :=
    ⟨.ofList [(badgesKey, "[\"gold\"]"), (starsKey, "4")],
      fun n => if n < 3 then .answered else .refused, []⟩
  have hrun : (load false store).1.toOption.map (fun app => (app.progress,
      (app.run ops).store.journal.contains (.set starsKey, .refused), app.reported ops,
      (app.run ops).progress)) = some (⟨4, .ofList [.gold]⟩, true, [.bronze], ⟨5, .ofList [.bronze, .gold]⟩) := by
    decide +kernel
  cases hload : load false store with
  | mk result left =>
    rw [hload] at hrun
    cases result with
    | error e => cases hrun
    | ok app =>
      simp only [Except.toOption, Option.map_some, Option.some.injEq, Prod.mk.injEq,
        List.contains_iff_mem] at hrun
      obtain ⟨hbegan, hrefused, hreported, hprogress⟩ := hrun
      exact ⟨store, left, app, ops, hload, ledger_run hload ops, hbegan, hrefused, hreported,
        hprogress⟩

end App

end Quizmaster
