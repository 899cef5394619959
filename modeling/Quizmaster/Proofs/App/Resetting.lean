import Quizmaster.Proofs.App.Run
import Quizmaster.Proofs.Progress.Saved

namespace Quizmaster

open Store

namespace Progress

/-- Saving that starts now gets as far as writing the stars. -/
def WritesStars (store : Scheduled) : Prop := store.schedule store.journal.length ≠ .refused

/-- Saving that starts now gets as far as writing the badges. -/
def WritesBadges (store : Scheduled) : Prop :=
  store.schedule store.journal.length = .answered ∧
    store.schedule (store.journal.length + 1) ≠ .refused

instance (store : Scheduled) : Decidable (WritesStars store) := inferInstanceAs (Decidable (_ ≠ _))

instance (store : Scheduled) : Decidable (WritesBadges store) := inferInstanceAs (Decidable (_ ∧ _))

/-- Progress is saved if both of its writes are answered. -/
theorem save_ok_iff {p : Progress} {store : Scheduled} :
    (p.save.run.run store).1 = .ok () ↔
      store.schedule store.journal.length = .answered ∧
        store.schedule (store.journal.length + 1) = .answered := by
  rw [save, run_bind_eq, Scheduled.set_run]
  by_cases hstars : store.schedule store.journal.length = .answered
  · simp [hstars, Scheduled.set_run]
  · simp [hstars]

/-- Where both writes take effect, all of the progress is written. -/
theorem entries_save_of_badges {p : Progress} {store : Scheduled} (h : WritesBadges store) :
    (p.save.run.run store).2.entries = p.keep store.entries := by
  obtain ⟨hstars, hbadges⟩ := h
  rw [save, run_bind_eq, Scheduled.set_run]
  simp [hstars, hbadges, Scheduled.set_run, keep]

/-- Where only the first write takes effect, the stars are new and the badges are not. -/
theorem entries_save_of_stars {p : Progress} {store : Scheduled} (hstars : WritesStars store)
    (hbadges : ¬ WritesBadges store) :
    (p.save.run.run store).2.entries = store.entries.insert starsKey (toString p.stars) := by
  rw [WritesStars] at hstars
  rw [save, run_bind_eq, Scheduled.set_run]
  by_cases hanswered : store.schedule store.journal.length = .answered
  · have hrefused : store.schedule (store.journal.length + 1) = .refused := by
      by_contra hwritten
      exact hbadges ⟨hanswered, hwritten⟩
    simp [hanswered, hrefused, Scheduled.set_run]
  · simp [hanswered, hstars]

theorem entries_save_of_nothing {p : Progress} {store : Scheduled} (h : ¬ WritesStars store) :
    (p.save.run.run store).2.entries = store.entries := by
  rw [WritesStars, ne_eq, not_not] at h
  rw [save, run_bind_eq, Scheduled.set_run]
  simp [h]

/-- The badges that entries list, before any are granted. -/
def listed (entries : Entries) : Badges := (raw entries).badges

theorem listed_subset_saved (entries : Entries) : listed entries ⊆ (saved entries).badges :=
  fun _ hbadge => Badge.mem_granted.mpr (.inl hbadge)

theorem granted_zero (held : Badges) : Badge.granted 0 held = held := by
  refine Badges.ext_mem fun b => ?_
  have hthreshold : ¬ b.threshold ≤ 0 := by cases b <;> decide
  rw [Badge.mem_granted, or_iff_left hthreshold]

/-- Without stars, nothing is granted to the badges that are listed. -/
theorem saved_insert_no_stars (entries : Entries) :
    saved (entries.insert starsKey (toString 0)) = ⟨0, listed entries⟩ := by
  rw [saved, raw_insert_stars entries (Nat.zero_le _), granted_zero]
  rfl

/-- What can be loaded after progress was given up, by how far saving that got. -/
theorem saved_save_new (store : Scheduled) :
    saved (new.save.run.run store).2.entries =
      if WritesBadges store then new
      else if WritesStars store then ⟨0, listed store.entries⟩
      else saved store.entries := by
  split
  · next hbadges => rw [entries_save_of_badges hbadges, saved_keep settled_new]
  · next hbadges =>
    split
    · next hstars =>
      rw [entries_save_of_stars hstars hbadges]
      exact saved_insert_no_stars store.entries
    · next hstars => rw [entries_save_of_nothing hstars]

/-- Where no stars are written, the badges that can be loaded are those that are listed. -/
theorem saved_of_no_stars {entries : Entries} (h : (saved entries).stars = 0) :
    saved entries = ⟨0, listed entries⟩ := by
  have hstars : (raw entries).stars = 0 := h
  rw [saved, hstars, granted_zero]
  rfl

end Progress

namespace App

/-- Resetting forgets progress in memory, whatever becomes of it in the store. -/
theorem resetProgress_run {ε σ : Type} [Store ε σ] (app : App σ) :
    resetProgress.run.run app =
      ((Progress.new.save.run.run app.store).1,
        { app with progress := .new, store := (Progress.new.save.run.run app.store).2 }) := rfl

/-- A reset that succeeds leaves no stars and no badges to be loaded. One that fails leaves either
    these or the progress from before, unless the stars were written and the badges were not: what
    is loaded then is no stars with the badges that the store lists, which is neither if there were
    stars and any badge is listed. -/
theorem load_after_reset {app next : App Scheduled} {result : Except Call Unit}
    (hheld : (Progress.load.run.run (Memory.ofEntries app.store.entries)).1 = .ok app.progress)
    (hreset : resetProgress.run.run app = (result, next)) :
    ∃ p, (Progress.load.run.run (Memory.ofEntries next.store.entries)).1 = .ok p ∧
      (result = .ok () → p = .new) ∧
      (p = app.progress ∨ p = .new ∨
        Progress.WritesStars app.store ∧ ¬ Progress.WritesBadges app.store ∧
          app.progress.stars ≠ 0 ∧ Progress.listed app.store.entries ≠ ∅ ∧
          p = ⟨0, Progress.listed app.store.entries⟩ ∧
          Progress.listed app.store.entries ⊆ app.progress.badges) ∧
      (Progress.WritesStars app.store → ¬ Progress.WritesBadges app.store →
        app.progress.stars ≠ 0 → Progress.listed app.store.entries ≠ ∅ →
        p ≠ app.progress ∧ p ≠ .new) := by
  have hsaved : Progress.saved app.store.entries = app.progress := by
    rw [Progress.load_ofEntries] at hheld
    exact Except.ok.inj hheld
  have hleft := Progress.saved_save_new app.store
  rw [resetProgress_run] at hreset
  obtain ⟨rfl, rfl⟩ := Prod.mk.inj hreset
  refine ⟨_, congrArg Prod.fst (Progress.load_ofEntries _), ?_, ?_, ?_⟩
  · intro hok
    obtain ⟨hstars, hbadges⟩ := Progress.save_ok_iff.mp hok
    have hwritten : Progress.WritesBadges app.store := ⟨hstars, by rw [hbadges]; decide⟩
    exact hleft.trans (if_pos hwritten)
  · by_cases hbadges : Progress.WritesBadges app.store
    · exact .inr (.inl (hleft.trans (if_pos hbadges)))
    · rw [if_neg hbadges] at hleft
      by_cases hstars : Progress.WritesStars app.store
      · rw [if_pos hstars] at hleft
        by_cases hcount : app.progress.stars = 0
        · rw [← hsaved] at hcount
          exact .inl (hleft.trans ((Progress.saved_of_no_stars hcount).symm.trans hsaved))
        · by_cases hlisted : Progress.listed app.store.entries = ∅
          · rw [hlisted] at hleft
            exact .inr (.inl hleft)
          · refine .inr (.inr ⟨hstars, hbadges, hcount, hlisted, hleft, ?_⟩)
            rw [← hsaved]
            exact Progress.listed_subset_saved _
      · rw [if_neg hstars] at hleft
        exact .inl (hleft.trans hsaved)
  · intro hstars hbadges hcount hlisted
    rw [if_neg hbadges, if_pos hstars] at hleft
    constructor
    · intro hsame
      exact hcount (congrArg Progress.stars (hsame.symm.trans hleft))
    · intro hnew
      exact hlisted (congrArg Progress.badges (hleft.symm.trans hnew))

/-- Two badges are held and one is listed, as the other was never written. The stars are written,
    though it is said that they were not, and so the reset ends there. -/
theorem load_after_reset_second_badge_unwritten :
    ∃ (app next : App Scheduled),
      (Progress.load.run.run (Memory.ofEntries app.store.entries)).1 = .ok app.progress ∧
      app.progress = ⟨10, .ofList [.bronze, .silver]⟩ ∧
      resetProgress.run.run app = (.error (.set starsKey), next) ∧
      (Progress.load.run.run (Memory.ofEntries next.store.entries)).1 = .ok ⟨0, .ofList [.bronze]⟩ := by
  let store : Scheduled :=
    ⟨.ofList [(badgesKey, "[\"bronze\"]"), (starsKey, "10")], fun _ => .unsaved, []⟩
  let app : App Scheduled := ⟨.empty, .new true, ⟨10, .ofList [.bronze, .silver]⟩, store, []⟩
  have hheld : (Progress.load.run.run (Memory.ofEntries app.store.entries)).1 =
      .ok app.progress := by decide +kernel
  have hlisted : Progress.listed app.store.entries = .ofList [.bronze] := by decide +kernel
  have hstars : Progress.WritesStars app.store := by decide
  have hbadges : ¬ Progress.WritesBadges app.store := by decide
  obtain ⟨p, hp, -, hcases, htorn⟩ := load_after_reset hheld rfl
  obtain ⟨hnotHeld, hnotNew⟩ := htorn hstars hbadges (by decide) (by rw [hlisted]; decide)
  obtain hsame | hnew | ⟨-, -, -, -, rfl, -⟩ := hcases
  · exact absurd hsame hnotHeld
  · exact absurd hnew hnotNew
  · exact ⟨app, _, hheld, rfl, rfl, by rw [hp, hlisted]⟩

/-- The store takes the stars of a reset and refuses its badges: what can be loaded is neither the
    progress from before nor none. -/
theorem resetProgress_leaves_badge :
    ∃ (app next : App Scheduled),
      (Progress.load.run.run (Memory.ofEntries app.store.entries)).1 = .ok app.progress ∧
      resetProgress.run.run app = (.error (.set badgesKey), next) ∧
      (Progress.load.run.run (Memory.ofEntries next.store.entries)).1 = .ok ⟨0, .ofList [.bronze]⟩ ∧
      ⟨0, .ofList [.bronze]⟩ ≠ app.progress ∧ (⟨0, .ofList [.bronze]⟩ : Progress) ≠ .new := by
  let store : Scheduled := ⟨.ofList [(badgesKey, "[\"bronze\"]"), (starsKey, "5")],
    fun n => if n = 1 then .refused else .answered, []⟩
  let app : App Scheduled := ⟨.empty, .new true, ⟨5, .ofList [.bronze]⟩, store, []⟩
  exact ⟨app, _, by decide +kernel, rfl, by decide +kernel, by decide, by decide⟩

end App

end Quizmaster
