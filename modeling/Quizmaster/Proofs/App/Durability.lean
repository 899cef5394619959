import Mathlib.Data.List.Induction
import Quizmaster.Proofs.App.Opening

namespace Quizmaster

open Store

/-- Whether a write under a key was among calls and changed what the store holds. -/
def Store.Scheduled.wrote (key : String) (calls : List (Call × Fate)) : Bool :=
  calls.any fun (call, fate) => call == .set key && fate != .refused

namespace Bank

/-- Saving a bank makes one call, and what is saved after it is the bank if that call took
    effect. -/
theorem saved_save (b : Bank) (s : Scheduled) :
    saved (b.save.run.run s).2.entries =
      if Scheduled.wrote questionsKey ((b.save.run.run s).2.since s) then b else saved s.entries := by
  rw [save, Scheduled.set_run]
  by_cases hfate : s.schedule s.journal.length = .refused
  · simp [Scheduled.wrote, Scheduled.since, hfate]
  · simp [Scheduled.wrote, Scheduled.since, hfate, saved_insert]

end Bank

namespace Progress

theorem wrote_questions_save (p : Progress) (s : Scheduled) :
    Scheduled.wrote questionsKey ((p.save.run.run s).2.since s) = false := by
  rw [since_save]
  split
  · rfl
  · rfl

/-- The saved bank outlasts what becomes of progress. -/
theorem saved_bank_save (p : Progress) (s : Scheduled) :
    Bank.saved (p.save.run.run s).2.entries = Bank.saved s.entries := by
  have hquestions : (p.save.run.run s).2.entries.get? questionsKey = s.entries.get? questionsKey :=
    get?_save_of_ne p s (by decide) (by decide)
  exact Entries.decoded_congr _ hquestions

end Progress

namespace App

/-- Whether an operation writes the bank and the write takes effect. -/
def writesBank (app : App Scheduled) (op : Op) : Bool :=
  Scheduled.wrote questionsKey ((app.perform op).store.since app.store)

/-- Whether loading the bank as it is saved gives the bank in memory. -/
def Durable (app : App Scheduled) : Prop :=
  (Bank.load.run.run (Memory.ofEntries app.store.entries)).1 = .ok app.bank

/-- The bank is durable where what is saved is what is in memory. -/
theorem durable_iff {app : App Scheduled} : app.Durable ↔ Bank.saved app.store.entries = app.bank := by
  rw [Durable, Bank.load_ofEntries, Except.ok.injEq]

/-- An operation leaves the bank in memory saved if it has written one, and else the bank that was
    saved before. -/
theorem Effect.saved_bank {app : App Scheduled} {op : Op} {a : Assets Scheduled}
    (heffect : Effect app op a) :
    Bank.saved a.store.entries =
      if Scheduled.wrote questionsKey (a.store.since app.store) then a.bank
      else Bank.saved app.store.entries := by
  cases heffect with
  | kept => simp [assets, Scheduled.since, Scheduled.wrote]
  | added questions => exact Bank.saved_save _ _
  | cleared => exact Bank.saved_save _ _
  | earned =>
    rw [Progress.wrote_questions_save]
    exact Progress.saved_bank_save _ _
  | reset =>
    rw [Progress.wrote_questions_save]
    exact Progress.saved_bank_save _ _

/-- The saved bank after an operation, by whether it has written one. -/
theorem saved_bank_perform (app : App Scheduled) (op : Op) :
    Bank.saved (app.perform op).store.entries =
      if app.writesBank op then (app.perform op).bank else Bank.saved app.store.entries :=
  (effect_perform app op).saved_bank

/-- A split of a run after the last operation that wrote the bank to effect, or before the first
    if there was none. -/
structure LastWrite (app : App Scheduled) (before after : List Op) : Prop where
  written : before = [] ∨ ∃ init op, before = init ++ [op] ∧ (app.run init).writesBank op = true
  none_later : (app.run before).tally writesBank after = 0

/-- What is saved is the bank as it was after the last write that took effect. -/
theorem exists_lastWrite {app : App Scheduled} (h : app.Durable) (ops : List Op) :
    ∃ before after, ops = before ++ after ∧ LastWrite app before after ∧
      Bank.saved (app.run ops).store.entries = (app.run before).bank := by
  induction ops using List.reverseRecOn with
  | nil => exact ⟨[], [], rfl, ⟨.inl rfl, rfl⟩, durable_iff.mp h⟩
  | append_singleton ops op ih =>
    obtain ⟨before, after, rfl, hlast, hsaved⟩ := ih
    have hstep := saved_bank_perform (app.run (before ++ after)) op
    rw [run_concat, hstep]
    cases hwrites : (app.run (before ++ after)).writesBank op with
    | true =>
      refine ⟨before ++ after ++ [op], [], (List.append_nil _).symm,
        ⟨.inr ⟨_, _, rfl, hwrites⟩, rfl⟩, ?_⟩
      rw [run_concat]
      rfl
    | false =>
      refine ⟨before, after ++ [op], List.append_assoc _ _ _, ⟨hlast.written, ?_⟩, hsaved⟩
      rw [tally_concat, hlast.none_later, ← run_append, hwrites]
      rfl

theorem durable_of_load_ok {acceptEmpty : Bool} {s t : Scheduled} {app : App Scheduled}
    (hload : load acceptEmpty s = (.ok app, t)) : app.Durable := by
  obtain ⟨hbank, -, rfl, hopened⟩ := load_ok hload
  have hentries : app.store.entries = s.entries.opened := hopened
  rw [durable_iff, hentries, hbank]
  exact Entries.bank_saved_opened s.entries

theorem durable_of_save_ok {b : Bank} {app : App Scheduled} {s : Scheduled} {u : Unit}
    (h : b.save.run.run s = (.ok u, app.store)) (hbank : app.bank = b) : app.Durable := by
  have hentries : app.store.entries = s.entries.insert questionsKey b.encode := Lawful.set_ok h
  rw [durable_iff, hentries, Bank.saved_insert, hbank]

theorem durable_of_clearQuestions_ok {app after : App Scheduled}
    (h : clearQuestions.run.run app = (.ok (), after)) : after.Durable := by
  rw [clearQuestions_run] at h
  obtain ⟨hresult, rfl⟩ := Prod.mk.inj h
  exact durable_of_save_ok (Prod.ext hresult rfl) rfl

/-- Where nothing is new nothing is saved, and questions that were in memory only stay so. -/
theorem durable_addQuestions_iff {app after : App Scheduled} {questions : List Question} {n : Nat}
    (h : (addQuestions questions).run.run app = (.ok n, after)) :
    after.Durable ↔ 0 < n ∨ app.Durable := by
  rw [addQuestions_run] at h
  by_cases hnew : 0 < (app.bank.add questions).1
  · rw [if_pos hnew] at h
    cases hsave : (app.bank.add questions).2.save.run.run app.store with
    | mk result t =>
      rw [hsave] at h
      cases result with
      | error e => cases h
      | ok u =>
        cases h
        exact ⟨fun _ => .inl hnew, fun _ => durable_of_save_ok hsave rfl⟩
  · rw [if_neg hnew, Bank.add_of_not_pos hnew] at h
    cases h
    exact ⟨.inr, fun hor => hor.resolve_left hnew⟩

/-- Emptying the bank is durable when it succeeds. Adding questions is durable when it succeeds
    with new ones; with none it is durable exactly if the bank is now as it was after the last write
    that took effect, or as it was loaded. -/
theorem load_bank_run {acceptEmpty : Bool} {store left : Scheduled} {app : App Scheduled}
    (hload : load acceptEmpty store = (.ok app, left)) (ops : List Op) :
    ∃ before after, ops = before ++ after ∧ LastWrite app before after ∧
      (∀ next, clearQuestions.run.run (app.run ops) = (.ok (), next) → next.Durable) ∧
      ∀ questions n next, (addQuestions questions).run.run (app.run ops) = (.ok n, next) →
        (next.Durable ↔ 0 < n ∨ (app.run before).bank = (app.run ops).bank) := by
  obtain ⟨before, after, hsplit, hlast, hsaved⟩ := exists_lastWrite (durable_of_load_ok hload) ops
  refine ⟨before, after, hsplit, hlast, fun _ => durable_of_clearQuestions_ok, ?_⟩
  intro questions n next hadd
  rw [durable_addQuestions_iff hadd, durable_iff, hsaved]

/-- What the store refused is saved along with the next question that is new. -/
theorem load_bank_run_next_import :
    ∃ (store left : Scheduled) (app next : App Scheduled) (q other : Question),
      load false store = (.ok app, left) ∧
        (app.run [.addQuestions [q]]).store.journal.getLast? = some (.set questionsKey, .refused) ∧
        (addQuestions [other]).run.run (app.run [.addQuestions [q]]) = (.ok 1, next) ∧
        next.bank.questions = [q, other] ∧ next.Durable := by
  let question (id : String) : Question := .plain id .single "Is it?" ["yes", "no"] (.single "yes")
  let store : Scheduled := ⟨∅, fun n => if n = 3 then .refused else .answered, []⟩
  let opened : Scheduled := { store with
    journal := [questionsKey, starsKey, badgesKey].map fun key => (.get key, .answered) }
  have hload : load false store = (.ok ⟨.empty, .new false, .new, opened, []⟩, opened) := rfl
  obtain ⟨before, after, -, -, -, hadd⟩ :=
    load_bank_run hload [.addQuestions [question "q"]]
  exact ⟨_, _, _, _, question "q", question "other", hload, rfl, rfl, rfl,
    (hadd [question "other"] 1 _ rfl).mpr (.inl Nat.one_pos)⟩

/-- A store that refuses to write new questions: adding them fails, and adding them again succeeds
    with nothing new, while what is saved is still without them. -/
theorem addQuestions_again_not_durable :
    ∃ (store left : Scheduled) (app first second : App Scheduled) (q : Question),
      load false store = (.ok app, left) ∧
        (addQuestions [q]).run.run app = (.error (.set questionsKey), first) ∧
        (addQuestions [q]).run.run first = (.ok 0, second) ∧
        second.bank = ⟨[q]⟩ ∧
        (Bank.load.run.run (Memory.ofEntries second.store.entries)).1 = .ok .empty ∧
        ¬ second.Durable := by
  let q : Question := .plain "q" .single "Is it?" ["yes", "no"] (.single "yes")
  let store : Scheduled := ⟨∅, fun n => if n = 3 then .refused else .answered, []⟩
  refine ⟨store, _, _, _, _, q, rfl, rfl, rfl, rfl, rfl, ?_⟩
  rw [durable_iff]
  intro hbank
  have hnone : [] = [q] := congrArg Bank.questions hbank
  cases hnone

end App

end Quizmaster
