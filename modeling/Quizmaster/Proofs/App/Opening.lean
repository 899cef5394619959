import Quizmaster.Proofs.App.Run
import Quizmaster.Proofs.Progress.Saved

namespace Quizmaster

open Store

namespace Store.Entries

/-- Entries that can be loaded as they are: what is saved can be read, and no badge is missing
    that the saved stars suffice for. -/
structure Sound (entries : Entries) : Prop where
  questions : entries.Readable questionsKey Bank.decode?
  badges : entries.Readable badgesKey Badge.decodeAll?
  settled : (Progress.raw entries).Settled

/-- The entries that loading leaves. -/
def opened (entries : Entries) : Entries :=
  Progress.opened (entries.tidy questionsKey Bank.decode?)

/-- Entries that are sound need no mending. -/
theorem Sound.opened_eq {entries : Entries} (h : entries.Sound) : entries.opened = entries := by
  rw [opened, tidy_of_readable h.questions, Progress.opened, if_pos h.settled.eligible_eq,
    tidy_of_readable h.badges]

theorem raw_tidy_questions (entries : Entries) :
    Progress.raw (entries.tidy questionsKey Bank.decode?) = Progress.raw entries :=
  Progress.raw_congr (get?_tidy_of_ne entries (by decide)) (get?_tidy_of_ne entries (by decide))

theorem saved_tidy_questions (entries : Entries) :
    Progress.saved (entries.tidy questionsKey Bank.decode?) = Progress.saved entries :=
  Progress.saved_congr (raw_tidy_questions entries)

theorem get?_opened_questions (entries : Entries) :
    entries.opened.get? questionsKey =
      (entries.tidy questionsKey Bank.decode?).get? questionsKey :=
  Progress.get?_opened_of_ne _ (by decide) (by decide)

/-- Loading saves the progress that it loads. -/
theorem raw_opened (entries : Entries) : Progress.raw entries.opened = Progress.saved entries := by
  rw [opened, Progress.raw_opened, saved_tidy_questions]

/-- Loading leaves entries that it need not mend again. -/
theorem sound_opened (entries : Entries) : entries.opened.Sound where
  questions := (readable_tidy entries).congr (get?_opened_questions entries)
  badges := Progress.readable_opened _
  settled := by
    rw [raw_opened]
    exact Progress.settled_saved _

theorem bank_saved_opened (entries : Entries) : Bank.saved entries.opened = Bank.saved entries := by
  rw [Bank.saved, decoded_congr _ (get?_opened_questions entries), decoded_tidy]
  rfl

/-- Progress is the same when it is loaded again. -/
theorem progress_saved_opened (entries : Entries) :
    Progress.saved entries.opened = Progress.saved entries := by
  rw [Progress.saved, ← (sound_opened entries).settled.badges_eq, raw_opened]

end Store.Entries

namespace App

variable {ε σ : Type} [Store ε σ] {acceptEmpty : Bool}

/-- An application that was loaded has what the entries held, and leaves them as loading does. -/
theorem load_ok [Lawful ε σ] {s t : σ} {app : App σ} (h : load acceptEmpty s = (.ok app, t)) :
    app.bank = Bank.saved (Lawful.entries s) ∧ app.progress = Progress.saved (Lawful.entries s) ∧
      app.store = t ∧ Lawful.entries t = (Lawful.entries s).opened := by
  simp only [load] at h
  split at h
  · next bank progress v hloading =>
    obtain ⟨bank', u, hbank, hrest⟩ := run_bind_ok hloading
    obtain ⟨progress', w, hprogress, hpure⟩ := run_bind_ok hrest
    cases hpure
    cases h
    rw [Bank.load_eq] at hbank
    obtain ⟨hbankEq, hu⟩ := readOrRemove_ok hbank
    obtain ⟨hprogressEq, hleft⟩ := Progress.load_ok hprogress
    rw [hu] at hprogressEq hleft
    exact ⟨hbankEq, hprogressEq.trans (Entries.saved_tidy_questions _), rfl, hleft⟩
  · cases h

/-- A store that refuses nothing is always loaded, whatever it holds. -/
theorem load_ofEntries (entries : Entries) :
    load acceptEmpty (Memory.ofEntries entries) =
      (.ok ⟨Bank.saved entries, .new acceptEmpty, Progress.saved entries,
        Memory.ofEntries entries.opened, []⟩, Memory.ofEntries entries.opened) := by
  simp only [load, run_bind_eq, Bank.load_eq, readOrRemove_ofEntries, Progress.load_ofEntries,
    run_pure_eq, Entries.saved_tidy_questions]
  rfl

end App

end Quizmaster
