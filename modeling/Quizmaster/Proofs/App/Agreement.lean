import Mathlib.Data.List.Induction
import Quizmaster.Proofs.App.Opening

namespace Quizmaster

open Store

namespace Store.Entries

theorem Sound.insert_questions {entries : Entries} (h : entries.Sound) (b : Bank) :
    Sound (entries.insert questionsKey b.encode) where
  questions := by
    intro text htext
    rw [Dictionary.get?_insert_self] at htext
    cases htext
    simp [Bank.decode?_encode]
  badges := h.badges.congr (Dictionary.get?_insert_of_ne entries _ (by decide))
  settled := by
    rw [Progress.raw_insert_questions]
    exact h.settled

theorem get?_keep_questions (entries : Entries) (p : Progress) :
    (p.keep entries).get? questionsKey = entries.get? questionsKey :=
  Progress.get?_keep_of_ne p entries (by decide) (by decide)

theorem Sound.keep {entries : Entries} (h : entries.Sound) {p : Progress} (hp : p.Settled) :
    (p.keep entries).Sound where
  questions := h.questions.congr (get?_keep_questions entries p)
  badges := Progress.readable_keep p entries
  settled := by
    rw [Progress.raw_keep hp]
    exact hp

end Store.Entries

namespace App

/-- The store refuses nothing, and loading it as it is would give this bank and this progress. -/
structure Assets.Agree (a : Assets Memory) : Prop where
  faultless : a.store = Memory.ofEntries a.store.entries
  sound : a.store.entries.Sound
  bank_eq : Bank.saved a.store.entries = a.bank
  progress_eq : Progress.saved a.store.entries = a.progress

/-- What is loaded from a store that refuses nothing agrees with it. -/
theorem agree_opened (entries : Entries) :
    Assets.Agree ⟨Bank.saved entries, Progress.saved entries, Memory.ofEntries entries.opened⟩ where
  faultless := rfl
  sound := Entries.sound_opened entries
  bank_eq := Entries.bank_saved_opened entries
  progress_eq := Entries.progress_saved_opened entries

/-- A bank agrees with the store that it is saved in. -/
theorem Assets.Agree.save_bank {a : Assets Memory} (h : a.Agree) (b : Bank) :
    Assets.Agree ⟨b, a.progress, (b.save.run.run a.store).2⟩ := by
  have hstore : (b.save.run.run a.store).2 =
      Memory.ofEntries (a.store.entries.insert questionsKey b.encode) := by
    rw [h.faultless]
    exact congrArg Prod.snd (Memory.set_ofEntries questionsKey b.encode a.store.entries)
  rw [hstore]
  exact {
    faultless := rfl
    sound := h.sound.insert_questions b
    bank_eq := Bank.saved_insert _ b
    progress_eq := by
      rw [← h.progress_eq]
      exact Progress.saved_congr (Progress.raw_insert_questions _ _) }

/-- Progress agrees with the store that it is saved in. -/
theorem Assets.Agree.save_progress {a : Assets Memory} (h : a.Agree) {p : Progress}
    (hp : p.Settled) : Assets.Agree ⟨a.bank, p, (p.save.run.run a.store).2⟩ := by
  have hstore : (p.save.run.run a.store).2 = Memory.ofEntries (p.keep a.store.entries) := by
    rw [h.faultless]
    exact congrArg Prod.snd (Progress.save_ofEntries p a.store.entries)
  rw [hstore]
  exact {
    faultless := rfl
    sound := h.sound.keep hp
    bank_eq := by
      rw [← h.bank_eq]
      exact Entries.decoded_congr _ (Entries.get?_keep_questions _ p)
    progress_eq := Progress.saved_keep hp _ }

/-- Every operation saves what it changes, and changes nothing that it does not save. -/
theorem Effect.agree {app : App Memory} {op : Op} {a : Assets Memory} (heffect : Effect app op a)
    (h : app.assets.Agree) : a.Agree := by
  cases heffect with
  | kept => exact h
  | added questions => exact h.save_bank _
  | cleared => exact h.save_bank _
  | earned => exact h.save_progress (Progress.Settled.addStars _ _)
  | reset => exact h.save_progress Progress.settled_new

/-- While no call of the store fails, memory and store agree after every run. -/
theorem agree_run {app : App Memory} (h : app.assets.Agree) (ops : List Op) :
    (app.run ops).assets.Agree := by
  induction ops using List.reverseRecOn with
  | nil => exact h
  | append_singleton ops op ih =>
    rw [run_concat]
    exact (effect_perform _ op).agree ih

/-- An application that agrees with its store is loaded from it as it is, and the store is left as
    it was. -/
theorem Assets.Agree.load_eq {app : App Memory} (h : app.assets.Agree) (acceptEmpty : Bool) :
    load acceptEmpty app.store =
      (.ok ⟨app.bank, .new acceptEmpty, app.progress, app.store, []⟩, app.store) := by
  have hfaultless : app.store = Memory.ofEntries app.store.entries := h.faultless
  have hbank : Bank.saved app.store.entries = app.bank := h.bank_eq
  have hprogress : Progress.saved app.store.entries = app.progress := h.progress_eq
  have hopened : app.store.entries.opened = app.store.entries := h.sound.opened_eq
  calc load acceptEmpty app.store
    _ = load acceptEmpty (Memory.ofEntries app.store.entries) := congrArg _ hfaultless
    _ = _ := load_ofEntries app.store.entries
    _ = _ := by rw [hopened, ← hfaultless, hbank, hprogress]

/-- Whatever a store holds, it can be loaded; and after every run in which no call of the store
    fails, loading it again gives the bank and the progress of the running application, and leaves
    the store as it is. -/
theorem reload_after_run (acceptEmpty : Bool) (entries : Entries) :
    ∃ app store, load acceptEmpty (Memory.ofEntries entries) = (.ok app, store) ∧
      ∀ (ops : List Op) (again : Bool), ∃ second,
        load again (app.run ops).store = (.ok second, (app.run ops).store) ∧
        second.bank = (app.run ops).bank ∧ second.progress = (app.run ops).progress := by
  let app : App Memory := ⟨Bank.saved entries, .new acceptEmpty, Progress.saved entries,
    Memory.ofEntries entries.opened, []⟩
  refine ⟨app, _, load_ofEntries entries, fun ops again => ?_⟩
  have hloaded : app.assets.Agree := agree_opened entries
  have hnow : (app.run ops).assets.Agree := agree_run hloaded ops
  exact ⟨_, hnow.load_eq again, rfl, rfl⟩

end App

end Quizmaster
