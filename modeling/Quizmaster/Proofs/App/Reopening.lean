import Quizmaster.Proofs.App.Snapshot

namespace Quizmaster

open Store

namespace Store.Entries

/-- Entries of which the same bank and the same progress are loaded. -/
structure Alike (entries other : Entries) : Prop where
  bank_eq : Bank.saved other = Bank.saved entries
  progress_eq : Progress.saved other = Progress.saved entries

theorem Alike.of_eq {entries other : Entries} (h : other = entries) : Alike entries other := by
  subst h
  exact ⟨rfl, rfl⟩

theorem alike_tidy_questions (entries : Entries) :
    Alike entries (entries.tidy questionsKey Bank.decode?) where
  bank_eq := decoded_tidy _ entries
  progress_eq := saved_tidy_questions entries

theorem Alike.trans {first second third : Entries} (h : Alike first second)
    (hnext : Alike second third) : Alike first third where
  bank_eq := hnext.bank_eq.trans h.bank_eq
  progress_eq := hnext.progress_eq.trans h.progress_eq

end Store.Entries

namespace Progress

theorem raw_tidy_badges (entries : Entries) :
    raw (entries.tidy badgesKey Badge.decodeAll?) = raw entries := by
  rw [raw, raw, Entries.decoded_tidy, Entries.get?_tidy_of_ne entries (by decide)]

/-- Saved progress is what the entries grow into by the badges that are due. -/
theorem ahead_saved_self (entries : Entries) : (saved entries).Ahead entries where
  badges_eq := rfl
  saved_le := Nat.le_refl _
  stars_le := decodeStars_le _

variable {ε σ : Type} [Store ε σ] {p : Progress} {s t : σ} {e : ε}

/-- Where progress fails to be mended, it is a write that failed. -/
theorem settle_error (h : p.settle.run.run s = (.error e, t)) :
    p.unlock.2.save.run.run s = (.error e, t) := by
  unfold settle at h
  by_cases heligible : p.eligible = []
  · rw [if_neg (not_not_intro heligible)] at h
    cases h
  · rw [if_pos heligible] at h
    obtain hsave | ⟨_, u, -, hpure⟩ := run_bind_error h
    · exact hsave
    · cases hpure

/-- Wherever loading progress breaks off, the same progress can be loaded after it, and the entry of
    the bank was not touched. -/
theorem load_error [Lawful ε σ] (h : load.run.run s = (.error e, t)) :
    saved (Lawful.entries t) = saved (Lawful.entries s) ∧
      (Lawful.entries t).get? questionsKey = (Lawful.entries s).get? questionsKey := by
  rw [load_eq] at h
  obtain hstars | ⟨text, u, hstars, h⟩ := run_bind_error h
  · rw [Lawful.get_error hstars]
    exact ⟨rfl, rfl⟩
  obtain ⟨rfl, hu⟩ := Lawful.get_ok hstars
  have htidy := saved_congr (raw_tidy_badges (Lawful.entries s))
  have hquestions : ((Lawful.entries s).tidy badgesKey Badge.decodeAll?).get? questionsKey =
      (Lawful.entries s).get? questionsKey := Entries.get?_tidy_of_ne _ (by decide)
  obtain hbadges | ⟨badges, v, hbadges, hsettle⟩ := run_bind_error h
  · obtain hsame | hremoved := readOrRemove_error hbadges
    · rw [hsame, hu]
      exact ⟨rfl, rfl⟩
    · rw [hremoved, hu]
      exact ⟨htidy, hquestions⟩
  obtain ⟨rfl, hv⟩ := readOrRemove_ok hbadges
  rw [hu] at hsettle hv
  have hsave := settle_error hsettle
  have hunlock : (raw (Lawful.entries s)).unlock.2 = saved (Lawful.entries v) := by
    rw [hv, htidy, unlock_eq]
    rfl
  rw [raw] at hunlock
  rw [hunlock] at hsave
  -- What is being saved is what the entries hold already, so it does not matter how far it gets.
  have hsaved : saved (Lawful.entries t) = saved (Lawful.entries v) :=
    ((ahead_saved_self _).save hsave).2.elim id id
  have huntouched : (Lawful.entries ((saved (Lawful.entries v)).save.run.run v).2).get? questionsKey =
      (Lawful.entries v).get? questionsKey := get?_save_of_ne _ v (by decide) (by decide)
  rw [hsave] at huntouched
  rw [hsaved, huntouched, hv]
  exact ⟨htidy, hquestions⟩

end Progress

namespace App

open Entries (Alike)

/-- Loading that breaks off has changed nothing that can be loaded. -/
theorem load_error_alike {ε σ : Type} [Store ε σ] [Lawful ε σ] {acceptEmpty : Bool} {s t : σ} {e : ε}
    (h : load acceptEmpty s = (.error e, t)) : Alike (Lawful.entries s) (Lawful.entries t) := by
  simp only [load] at h
  split at h
  · cases h
  · next failure v hloading =>
    cases h
    obtain hbank | ⟨bank, u, hbank, hrest⟩ := run_bind_error hloading
    · rw [Bank.load_eq] at hbank
      obtain hsame | hremoved := readOrRemove_error hbank
      · exact .of_eq hsame
      · rw [hremoved]
        exact Entries.alike_tidy_questions _
    · rw [Bank.load_eq] at hbank
      obtain ⟨-, hu⟩ := readOrRemove_ok hbank
      obtain hprogress | ⟨progress, w, -, hpure⟩ := run_bind_error hrest
      · obtain ⟨hsaved, hquestions⟩ := Progress.load_error hprogress
        have hbroken : Alike (Lawful.entries u) (Lawful.entries t) :=
          ⟨Entries.decoded_congr _ hquestions, hsaved⟩
        rw [hu] at hbroken
        exact (Entries.alike_tidy_questions _).trans hbroken
      · cases hpure

/-- Whatever a store holds, an application can be opened on it; opening it a second time gives the
    same bank and the same progress and leaves the store as it is. And wherever opening breaks off,
    since calls of the store fail, with or without an effect, a later opening without failures gives
    what it would have given at first. -/
theorem load_again (acceptEmpty again : Bool) :
    (∀ entries, ∃ app left, load acceptEmpty (Memory.ofEntries entries) = (.ok app, left) ∧
      ∃ second, load again left = (.ok second, left) ∧
        second.bank = app.bank ∧ second.progress = app.progress) ∧
    ∀ (store broken : Scheduled) (call : Call), load acceptEmpty store = (.error call, broken) →
      ∃ app left second left', load acceptEmpty (Memory.ofEntries store.entries) = (.ok app, left) ∧
        load again (Memory.ofEntries broken.entries) = (.ok second, left') ∧
        second.bank = app.bank ∧ second.progress = app.progress := by
  constructor
  · intro entries
    have hsecond : load again (Memory.ofEntries entries.opened) = _ := load_ofEntries entries.opened
    rw [(Entries.sound_opened entries).opened_eq] at hsecond
    exact ⟨_, _, load_ofEntries entries, _, hsecond, Entries.bank_saved_opened entries,
      Entries.progress_saved_opened entries⟩
  · intro store broken call hload
    have halike : Alike store.entries broken.entries := load_error_alike hload
    exact ⟨_, _, _, _, load_ofEntries store.entries, load_ofEntries broken.entries,
      halike.bank_eq, halike.progress_eq⟩

/-- Thirty stars with a sign and spaces, a bank and badges that cannot be read: opening removes both
    texts and writes the stars anew, and then the store refuses the badges. -/
theorem load_again_badges_refused :
    ∃ (store broken : Scheduled) (call : Call), load false store = (.error call, broken) ∧
      store.entries =
        .ofList [(badgesKey, "[\"tin\"]"), (questionsKey, "?"), (starsKey, " +30 ")] ∧
      broken.journal.getLast? = some (.set badgesKey, .refused) ∧
      broken.entries = .ofList [(starsKey, "30")] ∧
      ∃ second left, load true (Memory.ofEntries broken.entries) = (.ok second, left) ∧
        second.bank = .empty ∧ second.progress = ⟨30, .ofList [.bronze, .silver, .gold]⟩ := by
  let store : Scheduled :=
    ⟨.ofList [(badgesKey, "[\"tin\"]"), (questionsKey, "?"), (starsKey, " +30 ")],
      fun n => if n = 6 then .refused else .answered, []⟩
  have hrun : (load false store).1.toOption.isNone = true ∧
      (load false store).2.journal.getLast? = some (.set badgesKey, .refused) ∧
      (load false store).2.entries = .ofList [(starsKey, "30")] := by
    decide +kernel
  have hsaved : Bank.saved store.entries = .empty ∧
      Progress.saved store.entries = ⟨30, .ofList [.bronze, .silver, .gold]⟩ := by
    decide +kernel
  cases hload : load false store with
  | mk result broken =>
    rw [hload] at hrun
    obtain ⟨hfailed, hlast, hentries⟩ := hrun
    cases result with
    | ok app => cases hfailed
    | error call =>
      obtain ⟨app, left, second, left', hfirst, hsecond, hbank, hprogress⟩ :=
        (load_again false true).2 store broken call hload
      obtain ⟨happ, -⟩ := Prod.mk.inj (hfirst.symm.trans (load_ofEntries store.entries))
      obtain rfl := Except.ok.inj happ
      refine ⟨store, broken, call, hload, ?_, hlast, hentries, second, left', hsecond, ?_, ?_⟩
      · rfl
      · rw [hbank, ← hsaved.1]
      · rw [hprogress, ← hsaved.2]

end App

end Quizmaster
