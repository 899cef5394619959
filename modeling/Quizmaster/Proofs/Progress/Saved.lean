import Quizmaster.Proofs.Encodings
import Quizmaster.Proofs.Progress.Granted
import Quizmaster.Proofs.Store.Reading

namespace Quizmaster

open Store

namespace Progress

/-- Stars and badges as they are written, before badges are granted. -/
def raw (entries : Entries) : Progress :=
  ⟨decodeStars (entries.get? starsKey), entries.decoded badgesKey Badge.decodeAll? ∅⟩

/-- The progress that entries hold. -/
def saved (entries : Entries) : Progress :=
  ⟨(raw entries).stars, Badge.granted (raw entries).stars (raw entries).badges⟩

/-- The entries once progress is saved in them. -/
def keep (p : Progress) (entries : Entries) : Entries :=
  (entries.insert starsKey (toString p.stars)).insert badgesKey (Badge.encodeAll p.badges)

/-- No text is read as more stars than can be counted. -/
theorem decodeStars_le (saved : Option String) : decodeStars saved ≤ maxStars := by
  unfold decodeStars
  cases hstars : saved.bind fun s => Text.natural? maxStars (Text.trimChars s.toList) with
  | none => exact Nat.zero_le _
  | some n =>
    obtain ⟨s, -, hnatural⟩ := Option.bind_eq_some_iff.mp hstars
    exact Text.natural?_le hnatural

/-- The progress that is loaded misses no badge. -/
theorem settled_saved (entries : Entries) : (saved entries).Settled :=
  settled_granted (decodeStars_le _) _

/-- What is written is settled exactly where loading it brings no new badge. -/
theorem settled_raw {entries : Entries} (h : (raw entries).eligible = []) :
    (raw entries).Settled where
  badges_eq := by
    have hunlock := congrArg (fun unlocked => unlocked.2.badges) (unlock_eq (raw entries))
    simp only [unlock, h, List.append_nil, Badges.ofList_toList] at hunlock
    exact hunlock
  stars_le := decodeStars_le _

/-- Progress that is written is read back as it is. -/
theorem raw_keep {p : Progress} (h : p.Settled) (entries : Entries) : raw (p.keep entries) = p := by
  have hne : starsKey ≠ badgesKey := by decide
  have hstars : (p.keep entries).get? starsKey = some (toString p.stars) := by
    rw [keep, Dictionary.get?_insert_of_ne _ _ hne, Dictionary.get?_insert_self]
  rw [raw, hstars, decodeStars_toString h.stars_le]
  simp [Entries.decoded, keep, Badge.decodeAll?_encodeAll]

/-- Progress that is written is loaded as it is. -/
theorem saved_keep {p : Progress} (h : p.Settled) (entries : Entries) :
    saved (p.keep entries) = p := by
  rw [saved, raw_keep h, ← h.badges_eq]

theorem readable_keep (p : Progress) (entries : Entries) :
    (p.keep entries).Readable badgesKey Badge.decodeAll? := by
  intro text htext
  rw [keep, Dictionary.get?_insert_self] at htext
  cases htext
  simp [Badge.decodeAll?_encodeAll]

theorem get?_keep_of_ne (p : Progress) (entries : Entries) {key : String} (hstars : key ≠ starsKey)
    (hbadges : key ≠ badgesKey) : (p.keep entries).get? key = entries.get? key := by
  rw [keep, Dictionary.get?_insert_of_ne _ _ hbadges, Dictionary.get?_insert_of_ne _ _ hstars]

theorem raw_congr {entries other : Entries} (hstars : entries.get? starsKey = other.get? starsKey)
    (hbadges : entries.get? badgesKey = other.get? badgesKey) : raw entries = raw other := by
  rw [raw, raw, hstars, Entries.decoded_congr _ hbadges]

theorem saved_congr {entries other : Entries} (h : raw entries = raw other) :
    saved entries = saved other := by
  rw [saved, h, saved]

/-- What is saved under a key of its own leaves stars and badges alone. -/
theorem raw_insert_questions (entries : Entries) (text : String) :
    raw (entries.insert questionsKey text) = raw entries :=
  raw_congr (Dictionary.get?_insert_of_ne entries text (by decide))
    (Dictionary.get?_insert_of_ne entries text (by decide))

/-- Writing the stars leaves the badges as they are read. -/
theorem raw_insert_stars (entries : Entries) {stars : Nat} (h : stars ≤ maxStars) :
    raw (entries.insert starsKey (toString stars)) = ⟨stars, (raw entries).badges⟩ := by
  have hbadges : (entries.insert starsKey (toString stars)).get? badgesKey =
      entries.get? badgesKey := Dictionary.get?_insert_of_ne _ _ (by decide)
  rw [raw, Entries.decoded_congr _ hbadges, Dictionary.get?_insert_self, decodeStars_toString h]
  rfl

/-- The entries that loading progress leaves: without an unreadable text of badges, and with the
    badges that were due. -/
def opened (entries : Entries) : Entries :=
  if (raw entries).eligible = [] then entries.tidy badgesKey Badge.decodeAll?
  else (saved entries).keep (entries.tidy badgesKey Badge.decodeAll?)

theorem get?_opened_of_ne (entries : Entries) {key : String} (hstars : key ≠ starsKey)
    (hbadges : key ≠ badgesKey) : (opened entries).get? key = entries.get? key := by
  unfold opened
  split
  · exact Entries.get?_tidy_of_ne entries hbadges
  · rw [get?_keep_of_ne _ _ hstars hbadges, Entries.get?_tidy_of_ne entries hbadges]

/-- Loading leaves badges that can be read. -/
theorem readable_opened (entries : Entries) :
    (opened entries).Readable badgesKey Badge.decodeAll? := by
  unfold opened
  split
  · exact Entries.readable_tidy entries
  · exact readable_keep _ _

/-- After loading, stars and badges are written as they are held. -/
theorem raw_opened (entries : Entries) : raw (opened entries) = saved entries := by
  unfold opened
  split
  · next heligible =>
    have htidy : raw (entries.tidy badgesKey Badge.decodeAll?) = raw entries := by
      rw [raw, raw, Entries.decoded_tidy, Entries.get?_tidy_of_ne entries (by decide)]
    rw [htidy, saved, ← (settled_raw heligible).badges_eq]
  · exact raw_keep (settled_saved entries) _

section

variable {ε σ : Type} [Store ε σ]

/-- Badges are read, or what stands for them is removed. -/
theorem loadBadges_eq : (loadBadges : ExceptT ε (StateM σ) Badges) =
    readOrRemove badgesKey Badge.decodeAll? ∅ := by
  unfold loadBadges readOrRemove
  congr 1
  funext found
  cases found with
  | none => rfl
  | some saved => cases hdecode : Badge.decodeAll? saved <;> simp only [hdecode]

/-- Takes the badges that are due, and saves progress if there are any. -/
def settle (p : Progress) : ExceptT ε (StateM σ) Progress := do
  if p.eligible ≠ [] then save p.unlock.2
  return p.unlock.2

theorem load_eq : (load : ExceptT ε (StateM σ) Progress) =
    Store.get starsKey >>= fun text =>
      readOrRemove badgesKey Badge.decodeAll? ∅ >>= fun badges =>
        settle ⟨decodeStars text, badges⟩ := by
  rw [← loadBadges_eq]
  rfl

variable {p : Progress} {s t u : σ}

/-- Mending progress is granting what the stars suffice for. -/
theorem settle_eq_unlock {q : Progress} (h : q.settle.run.run s = (.ok p, t)) : p = q.unlock.2 := by
  unfold settle at h
  by_cases heligible : q.eligible = []
  · rw [if_neg (not_not_intro heligible)] at h
    cases h
    rfl
  · rw [if_pos heligible] at h
    obtain ⟨_, u, -, hpure⟩ := run_bind_ok h
    cases hpure
    rfl

/-- The progress that loading gives misses no badge, in whatever store. -/
theorem settled_of_load_ok (h : load.run.run s = (.ok p, t)) : p.Settled := by
  rw [load_eq] at h
  obtain ⟨text, u, -, h⟩ := run_bind_ok h
  obtain ⟨badges, v, -, hsettle⟩ := run_bind_ok h
  rw [settle_eq_unlock hsettle, unlock_eq]
  exact settled_granted (decodeStars_le text) badges

variable [Lawful ε σ]

/-- Saving without a failure writes stars and badges. -/
theorem save_ok {v : Unit} (h : p.save.run.run s = (.ok v, t)) :
    Lawful.entries t = p.keep (Lawful.entries s) := by
  obtain ⟨_, u, hstars, hbadges⟩ := run_bind_ok h
  rw [Lawful.set_ok hbadges, Lawful.set_ok hstars]
  rfl

/-- Once the stars are written, what is kept is the new count with the badges before or after. -/
theorem save_of_stars_ok {v : Unit} {r : Except ε Unit}
    (hstars : (Store.set starsKey (toString p.stars)).run.run s = (.ok v, u))
    (h : p.save.run.run s = (r, t)) :
    Lawful.entries t = (Lawful.entries s).insert starsKey (toString p.stars) ∨
      Lawful.entries t = p.keep (Lawful.entries s) := by
  rw [save, run_bind_eq, hstars] at h
  rw [keep, ← Lawful.set_ok hstars]
  cases r with
  | ok _ => exact .inr (Lawful.set_ok h)
  | error _ => exact Lawful.set_error h

/-- Saving writes nothing, the stars alone, or stars and badges. -/
theorem save_cases {r : Except ε Unit} (h : p.save.run.run s = (r, t)) :
    Lawful.entries t = Lawful.entries s ∨
      Lawful.entries t = (Lawful.entries s).insert starsKey (toString p.stars) ∨
      Lawful.entries t = p.keep (Lawful.entries s) := by
  cases hstars : (Store.set starsKey (toString p.stars)).run.run s with
  | mk result u =>
    cases result with
    | ok _ => exact .inr (save_of_stars_ok hstars h)
    | error e =>
      rw [save, run_bind_eq, hstars] at h
      cases h
      obtain hsame | hwritten := Lawful.set_error hstars
      · exact .inl hsame
      · exact .inr (.inl hwritten)

/-- Saving progress touches two keys only, also where it fails. -/
theorem get?_save_of_ne (p : Progress) (s : σ) {key : String} (hstars : key ≠ starsKey)
    (hbadges : key ≠ badgesKey) :
    (Lawful.entries (p.save.run.run s).2).get? key = (Lawful.entries s).get? key := by
  have hsave : p.save.run.run s = ((p.save.run.run s).1, (p.save.run.run s).2) := rfl
  obtain hsame | halone | hboth := save_cases hsave
  · rw [hsame]
  · rw [halone, Dictionary.get?_insert_of_ne _ _ hstars]
  · rw [hboth, get?_keep_of_ne _ _ hstars hbadges]

/-- Mending without a failure writes progress only if badges were missing. -/
theorem settle_ok {grown : Progress} (h : p.settle.run.run s = (.ok grown, t)) :
    grown = p.unlock.2 ∧ Lawful.entries t =
      if p.eligible = [] then Lawful.entries s else grown.keep (Lawful.entries s) := by
  unfold settle at h
  by_cases heligible : p.eligible = []
  · rw [if_neg (not_not_intro heligible)] at h
    cases h
    exact ⟨rfl, (if_pos heligible).symm⟩
  · rw [if_pos heligible] at h
    obtain ⟨_, u, hsave, hpure⟩ := run_bind_ok h
    cases hpure
    exact ⟨rfl, (save_ok hsave).trans (if_neg heligible).symm⟩

/-- Loading without a failure gives what is saved, and mends it. -/
theorem load_ok (h : load.run.run s = (.ok p, t)) :
    p = saved (Lawful.entries s) ∧ Lawful.entries t = opened (Lawful.entries s) := by
  rw [load_eq] at h
  obtain ⟨text, u, hget, h⟩ := run_bind_ok h
  obtain ⟨rfl, hu⟩ := Lawful.get_ok hget
  obtain ⟨badges, v, hbadges, hsettle⟩ := run_bind_ok h
  obtain ⟨rfl, hv⟩ := readOrRemove_ok hbadges
  rw [hu] at hsettle hv
  obtain ⟨hp, ht⟩ := settle_ok hsettle
  have hsaved : p = saved (Lawful.entries s) := hp.trans (congrArg Prod.snd (unlock_eq _))
  rw [hv, hsaved] at ht
  exact ⟨hsaved, ht⟩

end

/-- Saving calls for the badges only if the stars were written. -/
theorem since_save (p : Progress) (s : Scheduled) :
    (p.save.run.run s).2.since s =
      (.set starsKey, s.schedule s.journal.length) ::
        if s.schedule s.journal.length = .answered then
          [(.set badgesKey, s.schedule (s.journal.length + 1))]
        else [] := by
  rw [save, run_bind_eq, Scheduled.set_run]
  by_cases hfate : s.schedule s.journal.length = .answered
  · simp [hfate, Scheduled.set_run, Scheduled.since]
  · simp [hfate, Scheduled.since]

theorem save_ofEntries (p : Progress) (entries : Entries) :
    p.save.run.run (Memory.ofEntries entries) = (.ok (), Memory.ofEntries (p.keep entries)) := by
  rw [save, run_bind_eq, Memory.set_ofEntries]
  exact Memory.set_ofEntries _ _ _

/-- A store that refuses nothing is mended at once. -/
theorem settle_ofEntries (p : Progress) (entries : Entries) :
    p.settle.run.run (Memory.ofEntries entries) =
      (.ok p.unlock.2,
        Memory.ofEntries (if p.eligible = [] then entries else p.unlock.2.keep entries)) := by
  unfold settle
  by_cases heligible : p.eligible = []
  · rw [if_neg (not_not_intro heligible), if_pos heligible]
    rfl
  · rw [if_pos heligible, if_neg heligible, run_bind_eq, save_ofEntries]
    rfl

/-- A store that refuses nothing is always loaded, whatever it holds. -/
theorem load_ofEntries (entries : Entries) :
    load.run.run (Memory.ofEntries entries) =
      (.ok (saved entries), Memory.ofEntries (opened entries)) := by
  rw [load_eq, run_bind_eq, Memory.get_ofEntries]
  simp only [run_bind_eq, readOrRemove_ofEntries, settle_ofEntries, unlock_eq]
  rfl

end Progress

end Quizmaster
