import Mathlib.Data.List.Induction
import Quizmaster.Proofs.App.Opening

namespace Quizmaster

open Store

namespace Progress

/-- Progress that entries would grow into: it has the badges that they keep, and of others only
    those that its own stars suffice for. -/
structure Ahead (p : Progress) (entries : Entries) : Prop where
  badges_eq : p.badges = Badge.granted p.stars (raw entries).badges
  saved_le : (raw entries).stars ≤ p.stars
  stars_le : p.stars ≤ maxStars

/-- Progress ahead of its store holds all badges that its stars suffice for. -/
theorem Ahead.settled {p : Progress} {entries : Entries} (h : p.Ahead entries) : p.Settled where
  badges_eq := by
    rw [h.badges_eq, Badge.granted_granted, Nat.max_self]
  stars_le := h.stars_le

/-- Nothing is saved that is not held. -/
theorem Ahead.saved_badges_subset {p : Progress} {entries : Entries} (h : p.Ahead entries) :
    (saved entries).badges ⊆ p.badges := by
  intro badge hbadge
  rw [h.badges_eq, Badge.mem_granted]
  obtain hheld | hthreshold := Badge.mem_granted.mp hbadge
  · exact .inl hheld
  · exact .inr (hthreshold.trans h.saved_le)

/-- Progress that is written as it is held is not behind. -/
theorem ahead_saved {entries : Entries} {p : Progress} (hraw : raw entries = p) (h : p.Settled) :
    p.Ahead entries where
  badges_eq := by
    rw [hraw]
    exact h.badges_eq
  saved_le := by rw [hraw]
  stars_le := h.stars_le

theorem Ahead.congr {p : Progress} {entries other : Entries} (h : p.Ahead entries)
    (hraw : raw other = raw entries) : p.Ahead other where
  badges_eq := by
    rw [hraw]
    exact h.badges_eq
  saved_le := by
    rw [hraw]
    exact h.saved_le
  stars_le := h.stars_le

/-- Stars that are added bring no badge that the saved ones would not bring with them. -/
theorem Ahead.addStars {p : Progress} {entries : Entries} (h : p.Ahead entries) (n : Nat) :
    (p.addStars n).2.Ahead entries := by
  have hstars : p.stars ≤ min (p.stars + n) maxStars := by
    have hle := h.stars_le
    omega
  rw [addStars_eq]
  exact {
    badges_eq := by
      change Badge.granted _ p.badges = _
      rw [h.badges_eq, Badge.granted_granted, Nat.max_eq_left hstars]
    saved_le := h.saved_le.trans hstars
    stars_le := Nat.min_le_right _ _ }

/-- Writing the stars first leaves the progress that is loaded no further than memory. -/
theorem Ahead.insert_stars {p : Progress} {entries : Entries} (h : p.Ahead entries) :
    p.Ahead (entries.insert starsKey (toString p.stars)) where
  badges_eq := by
    rw [raw_insert_stars entries h.stars_le]
    exact h.badges_eq
  saved_le := by rw [raw_insert_stars entries h.stars_le]
  stars_le := h.stars_le

/-- The stars alone are enough for the badges that come with them to be loaded. -/
theorem Ahead.saved_insert_stars {p : Progress} {entries : Entries} (h : p.Ahead entries) :
    saved (entries.insert starsKey (toString p.stars)) = p := by
  rw [saved, raw_insert_stars entries h.stars_le, ← h.badges_eq]

section

variable {ε σ : Type} [Store ε σ] [Lawful ε σ] {p : Progress} {s t : σ}

/-- However saving ends, what can be loaded after it is what could be loaded before it or all of
    what was to be saved. -/
theorem Ahead.save {r : Except ε Unit} (h : p.Ahead (Lawful.entries s))
    (hsave : p.save.run.run s = (r, t)) :
    p.Ahead (Lawful.entries t) ∧
      (saved (Lawful.entries t) = saved (Lawful.entries s) ∨ saved (Lawful.entries t) = p) := by
  obtain hsame | hstars | hboth := save_cases hsave
  · rw [hsame]
    exact ⟨h, .inl rfl⟩
  · rw [hstars]
    exact ⟨h.insert_stars, .inr h.saved_insert_stars⟩
  · rw [hboth]
    exact ⟨ahead_saved (raw_keep h.settled _) h.settled, .inr (saved_keep h.settled _)⟩

/-- Once the stars are written, all of the progress is loaded, since loading grants the badges. -/
theorem Ahead.saved_of_stars_ok {u : σ} {v : Unit} {r : Except ε Unit}
    (h : p.Ahead (Lawful.entries s))
    (hstars : (Store.set starsKey (toString p.stars)).run.run s = (.ok v, u))
    (hsave : p.save.run.run s = (r, t)) : saved (Lawful.entries t) = p := by
  obtain halone | hboth := save_of_stars_ok hstars hsave
  · rw [halone]
    exact h.saved_insert_stars
  · rw [hboth]
    exact saved_keep h.settled _

end

end Progress

namespace App

section

variable {ε σ : Type} [Store ε σ]

/-- Progress as it was when a run began or after one of the answers given in it. -/
def Held (app : App σ) (ops : List Op) (p : Progress) : Prop :=
  p = app.progress ∨
    ∃ before answer, before ++ [.submit answer] <+: ops ∧
      p = (app.run (before ++ [.submit answer])).progress

theorem Held.concat {app : App σ} {ops : List Op} {p : Progress} (h : Held app ops p) (op : Op) :
    Held app (ops ++ [op]) p := by
  obtain hbegan | ⟨before, answer, hbefore, hp⟩ := h
  · exact .inl hbegan
  · exact .inr ⟨before, answer, hbefore.trans (List.prefix_append ops [op]), hp⟩

/-- An answer that earns a star changes progress by it, and saves that. -/
theorem perform_of_earns {app : App σ} {op : Op} (hearns : app.earns op = true) :
    (app.perform op).progress = (app.progress.addStars starsPerAnswer).2 ∧
      (app.perform op).store =
        ((app.progress.addStars starsPerAnswer).2.save.run.run app.store).2 := by
  obtain ⟨answer, rfl⟩ := exists_answer_of_earns hearns
  have hassets := assets_submit app answer
  rw [if_pos hearns] at hassets
  exact ⟨congrArg Assets.progress hassets, congrArg Assets.store hassets⟩

variable [Lawful ε σ] {app : App σ}

/-- Only an answer that earns and a reset touch stars and badges, in memory or in the store. -/
theorem Effect.raw_eq {op : Op} {a : Assets σ} (heffect : Effect app op a)
    (hearns : app.earns op = false) (hop : op ≠ .resetProgress) :
    a.progress = app.progress ∧
      Progress.raw (Lawful.entries a.store) = Progress.raw (Lawful.entries app.store) := by
  have hbank (b : Bank) : Progress.raw (Lawful.entries (b.save.run.run app.store).2) =
      Progress.raw (Lawful.entries app.store) := by
    obtain hsame | hwritten := b.entries_save app.store
    · rw [hsame]
    · rw [hwritten, Progress.raw_insert_questions]
  cases heffect with
  | kept => exact ⟨rfl, rfl⟩
  | added questions => exact ⟨rfl, hbank _⟩
  | cleared => exact ⟨rfl, hbank _⟩
  | earned hright => cases hearns.symm.trans hright
  | reset hreset => exact absurd hreset hop

/-- Without a right answer and a reset nothing is written of progress. -/
theorem raw_run_of_tally_eq_zero {ops : List Op} (hops : .resetProgress ∉ ops)
    (hright : app.tally earns ops = 0) :
    (app.run ops).progress = app.progress ∧
      Progress.raw (Lawful.entries (app.run ops).store) =
        Progress.raw (Lawful.entries app.store) := by
  induction ops generalizing app with
  | nil => exact ⟨rfl, rfl⟩
  | cons op ops ih =>
    obtain ⟨hop, hrest⟩ := List.ne_and_not_mem_of_not_mem_cons hops
    obtain ⟨hfirst, hlater⟩ := Nat.add_eq_zero_iff.mp hright
    have hearns : app.earns op = false := by simpa using hfirst
    obtain ⟨hprogress, hraw⟩ := (effect_perform app op).raw_eq hearns (Ne.symm hop)
    obtain ⟨hprogress', hraw'⟩ := ih hrest hlater
    exact ⟨hprogress'.trans hprogress, hraw'.trans hraw⟩

/-- What is saved trails the progress in memory, and is that of a moment of the run. -/
structure Trails (app : App σ) (ops : List Op) : Prop where
  ahead : (app.run ops).progress.Ahead (Lawful.entries (app.run ops).store)
  held : Held app ops (Progress.saved (Lawful.entries (app.run ops).store))

/-- Every operation but a reset leaves what can be loaded at a moment of the run, and not ahead of
    memory. -/
theorem Trails.concat {ops : List Op} (h : Trails app ops) {op : Op} (hop : op ≠ .resetProgress) :
    Trails app (ops ++ [op]) := by
  set now := app.run ops with hnow
  have hheld : Held app (ops ++ [op]) (Progress.saved (Lawful.entries now.store)) :=
    h.held.concat op
  cases hearns : now.earns op with
  | false =>
    -- What an operation writes that earns nothing is not read by loading progress.
    obtain ⟨hprogress, hraw⟩ := (effect_perform now op).raw_eq hearns hop
    change (now.perform op).progress = now.progress at hprogress
    change Progress.raw (Lawful.entries (now.perform op).store) = _ at hraw
    have hahead : now.progress.Ahead (Lawful.entries (now.perform op).store) :=
      h.ahead.congr hraw
    constructor
    · rw [run_concat, ← hnow, hprogress]
      exact hahead
    · rw [run_concat, ← hnow, Progress.saved_congr hraw]
      exact hheld
  | true =>
    obtain ⟨hprogress, hstore⟩ := perform_of_earns hearns
    obtain ⟨hahead, hsaved⟩ := (h.ahead.addStars starsPerAnswer).save (Prod.eta _).symm
    rw [← hstore, ← hprogress] at hahead hsaved
    refine ⟨by rwa [run_concat, ← hnow], ?_⟩
    rw [run_concat, ← hnow]
    obtain hbefore | hafter := hsaved
    · rw [hbefore]
      exact hheld
    · obtain ⟨answer, rfl⟩ := exists_answer_of_earns hearns
      refine .inr ⟨ops, answer, List.prefix_rfl, ?_⟩
      rw [hafter, run_concat, ← hnow]

/-- Loading leaves what it found in a form that it would find again. -/
theorem trails_nil {acceptEmpty : Bool} {s t : σ} (hload : load acceptEmpty s = (.ok app, t)) :
    Trails app [] := by
  obtain ⟨-, hprogress, rfl, hopened⟩ := load_ok hload
  constructor
  · rw [run_nil, hprogress, hopened]
    exact Progress.ahead_saved (Entries.raw_opened _) (Progress.settled_saved _)
  · rw [run_nil, hopened, Entries.progress_saved_opened, ← hprogress]
    exact .inl rfl

/-- At every moment of a run without a reset, progress that can be loaded was held at some moment of
    it. -/
theorem trails_run {acceptEmpty : Bool} {s t : σ} (hload : load acceptEmpty s = (.ok app, t))
    {ops : List Op} (hops : .resetProgress ∉ ops) : Trails app ops := by
  induction ops using List.reverseRecOn with
  | nil => exact trails_nil hload
  | append_singleton ops op ih =>
    simp only [List.mem_append, List.mem_singleton, not_or] at hops
    exact (ih hops.1).concat (Ne.symm hops.2)

end

/-- After an answer that earned, what can be loaded is the progress in memory as soon as the stars
    were written. -/
theorem saved_of_stars_written {app : App Scheduled} {ops : List Op} (h : Trails app ops)
    {answer : Answer} (hearns : (app.run ops).earns (.submit answer) = true)
    (hwritten : (.set starsKey, .answered) ∈
      (app.run (ops ++ [.submit answer])).store.since (app.run ops).store) :
    Progress.saved (app.run (ops ++ [.submit answer])).store.entries =
      (app.run (ops ++ [.submit answer])).progress := by
  rw [run_concat] at hwritten ⊢
  obtain ⟨hprogress, hstore⟩ := perform_of_earns hearns
  rw [hstore, Progress.since_save] at hwritten
  have hfate : (app.run ops).store.schedule (app.run ops).store.journal.length = .answered := by
    obtain heq | hbadges := List.mem_cons.mp hwritten
    · exact (congrArg Prod.snd heq).symm
    · split at hbadges
      · next hfate => exact hfate
      · cases hbadges
  have hstars := Scheduled.set_run starsKey
    (toString ((app.run ops).progress.addStars starsPerAnswer).2.stars) (app.run ops).store
  rw [if_pos hfate] at hstars
  rw [hstore, hprogress]
  exact (h.ahead.addStars starsPerAnswer).saved_of_stars_ok hstars rfl

/-- Whatever calls of the store fail in a run without resets, the progress that can be loaded is
    that of one moment, of loading or of right after an answer since, and no more than is held now.
    It is all that is held now if the last answer that earned had its stars written. A schedule
    that refuses every call from some call on leaves the store as that call would have found it, so
    this is also what can be loaded in the middle of an operation. -/
theorem load_progress_run {acceptEmpty : Bool} {store left : Scheduled} {app : App Scheduled}
    (hload : load acceptEmpty store = (.ok app, left)) {ops : List Op}
    (hops : .resetProgress ∉ ops) :
    ∃ p, (Progress.load.run.run (Memory.ofEntries (app.run ops).store.entries)).1 = .ok p ∧
      Held app ops p ∧
      p.stars ≤ (app.run ops).progress.stars ∧ p.badges ⊆ (app.run ops).progress.badges ∧
      ∀ before answer after, ops = before ++ .submit answer :: after →
        (app.run before).earns (.submit answer) = true →
        (app.run (before ++ [.submit answer])).tally earns after = 0 →
        (.set starsKey, .answered) ∈
          (app.run (before ++ [.submit answer])).store.since (app.run before).store →
        p = (app.run ops).progress := by
  have hnow := trails_run hload hops
  refine ⟨_, congrArg Prod.fst (Progress.load_ofEntries _), hnow.held, hnow.ahead.saved_le,
    hnow.ahead.saved_badges_subset, ?_⟩
  intro before answer after hsplit hearns hright hwritten
  subst hsplit
  rw [List.append_cons] at hops
  obtain ⟨hfirst, hafter⟩ := not_or.mp (mt List.mem_append.mpr hops)
  have hsaved := saved_of_stars_written
    (trails_run hload fun hreset => hfirst (List.mem_append_left _ hreset)) hearns hwritten
  obtain ⟨hprogress, hraw⟩ := raw_run_of_tally_eq_zero hafter hright
  rw [List.append_cons, run_append, hprogress, ← hsaved]
  exact Progress.saved_congr hraw

/-- The fifth star brings a badge, and the store takes the star and refuses the badge: loading
    gives both. -/
theorem load_progress_run_badge_refused :
    ∃ (store left : Scheduled) (app : App Scheduled) (ops : List Op),
      load false store = (.ok app, left) ∧ .resetProgress ∉ ops ∧
        (.set badgesKey, .refused) ∈ (app.run ops).store.journal ∧
        (Progress.load.run.run (Memory.ofEntries (app.run ops).store.entries)).1 =
          .ok ⟨5, .ofList [.bronze]⟩ := by
  let q : Question := .plain "q" .single "Is it?" ["yes", "no"] (.single "yes")
  let start : Op := .startWith .keep [q] 1
  let store : Scheduled :=
    ⟨.ofList [(starsKey, "4")], fun n => if n = 4 then .refused else .answered, []⟩
  let opened : Scheduled := { store with
    journal := [questionsKey, starsKey, badgesKey].map fun key => (.get key, .answered) }
  have hload : load false store = (.ok ⟨.empty, .new false, ⟨4, ∅⟩, opened, []⟩, opened) := rfl
  have hops : .resetProgress ∉ [start, .submit (.single "yes")] := by simp [start]
  obtain ⟨p, hp, -, -, -, hlast⟩ := load_progress_run hload hops
  have hbadge : p = ⟨5, .ofList [.bronze]⟩ :=
    (hlast [start] (.single "yes") [] rfl rfl rfl (by decide +kernel)).trans (by decide +kernel)
  exact ⟨_, _, _, _, hload, hops, by decide +kernel, hbadge ▸ hp⟩

end App

end Quizmaster
