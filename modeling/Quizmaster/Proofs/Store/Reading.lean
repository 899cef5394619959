import Quizmaster.Proofs.Store.Lawful

namespace Quizmaster

namespace Store

namespace Entries

variable {α : Type} (key : String) (decode? : String → Option α) (missing : α)

/-- The value that is saved under a key; a text that is none counts as missing. -/
def decoded (entries : Entries) : α := ((entries.get? key).bind decode?).getD missing

/-- Whether what is saved under a key, if anything is, can be read. -/
def Readable (entries : Entries) : Prop :=
  ∀ saved, entries.get? key = some saved → (decode? saved).isSome = true

/-- The entries without an unreadable text under a key. -/
def tidy (entries : Entries) : Entries :=
  match entries.get? key with
  | none => entries
  | some saved => if (decode? saved).isSome then entries else entries.erase key

variable {key decode?}

/-- Removing an unreadable text touches one key only. -/
theorem get?_tidy_of_ne (entries : Entries) {other : String} (hne : other ≠ key) :
    (entries.tidy key decode?).get? other = entries.get? other := by
  unfold tidy
  split
  · rfl
  · split
    · rfl
    · exact Dictionary.get?_erase_of_ne entries hne

theorem tidy_of_readable {entries : Entries} (h : entries.Readable key decode?) :
    entries.tidy key decode? = entries := by
  unfold tidy
  split
  · rfl
  · next saved hsaved => rw [if_pos (h saved hsaved)]

theorem readable_tidy (entries : Entries) : (entries.tidy key decode?).Readable key decode? := by
  intro saved hsaved
  unfold tidy at hsaved
  split at hsaved
  · next hnone => simp [hnone] at hsaved
  · next text htext =>
    split at hsaved
    · next hread =>
      cases htext.symm.trans hsaved
      exact hread
    · simp at hsaved

/-- What is read is the same before and after the removal. -/
theorem decoded_tidy (entries : Entries) :
    (entries.tidy key decode?).decoded key decode? missing = entries.decoded key decode? missing := by
  unfold tidy
  split
  · rfl
  · next text htext =>
    split
    · rfl
    · next hread =>
      have hnone : decode? text = none := by simpa using hread
      simp [decoded, htext, hnone]

theorem decoded_congr {entries other : Entries} (h : entries.get? key = other.get? key) :
    entries.decoded key decode? missing = other.decoded key decode? missing := by
  rw [decoded, decoded, h]

theorem Readable.congr {entries other : Entries} (h : other.Readable key decode?)
    (heq : entries.get? key = other.get? key) : entries.Readable key decode? := by
  rw [Readable, heq]
  exact h

end Entries

section

variable {ε σ α : Type} [Store ε σ] (key : String) (decode? : String → Option α) (missing : α)

/-- Reads what is saved under a key, and removes a text that cannot be read. -/
def readOrRemove : ExceptT ε (StateM σ) α := do
  match ← Store.get key with
  | none => return missing
  | some saved =>
    match decode? saved with
    | some value => return value
    | none =>
      Store.remove key
      return missing

variable {key decode? missing}

/-- Reading without a failure gives what is saved, and removes a text that cannot be read. -/
theorem readOrRemove_ok [Lawful ε σ] {s t : σ} {value : α}
    (h : (readOrRemove key decode? missing).run.run s = (.ok value, t)) :
    value = (Lawful.entries s).decoded key decode? missing ∧
      Lawful.entries t = (Lawful.entries s).tidy key decode? := by
  obtain ⟨found, u, hget, h⟩ := run_bind_ok h
  obtain ⟨rfl, hu⟩ := Lawful.get_ok hget
  unfold Entries.decoded Entries.tidy
  cases hfound : (Lawful.entries s).get? key with
  | none =>
    rw [hfound] at h
    cases h
    exact ⟨rfl, hu⟩
  | some saved =>
    rw [hfound] at h
    cases hdecode : decode? saved with
    | some value =>
      simp only [hdecode] at h
      cases h
      simp [hdecode, hu]
    | none =>
      simp only [hdecode] at h
      obtain ⟨_, v, hremove, h⟩ := run_bind_ok h
      cases h
      simp [hdecode, Lawful.remove_ok hremove, hu]

/-- Reading that fails has removed an unreadable text or nothing. -/
theorem readOrRemove_error [Lawful ε σ] {s t : σ} {e : ε}
    (h : (readOrRemove key decode? missing).run.run s = (.error e, t)) :
    Lawful.entries t = Lawful.entries s ∨
      Lawful.entries t = (Lawful.entries s).tidy key decode? := by
  obtain hget | ⟨found, u, hget, h⟩ := run_bind_error h
  · exact .inl (Lawful.get_error hget)
  · obtain ⟨rfl, hu⟩ := Lawful.get_ok hget
    cases hfound : (Lawful.entries s).get? key with
    | none =>
      rw [hfound] at h
      cases h
    | some saved =>
      rw [hfound] at h
      cases hdecode : decode? saved with
      | some value =>
        simp only [hdecode] at h
        cases h
      | none =>
        simp only [hdecode] at h
        have htidy : (Lawful.entries s).tidy key decode? = (Lawful.entries s).erase key := by
          simp [Entries.tidy, hfound, hdecode]
        obtain hremove | ⟨_, v, -, hpure⟩ := run_bind_error h
        · rw [htidy, ← hu]
          exact Lawful.remove_error hremove
        · cases hpure

/-- A store that refuses nothing is read and mended at once. -/
theorem readOrRemove_ofEntries (entries : Entries) :
    (readOrRemove key decode? missing).run.run (Memory.ofEntries entries) =
      (.ok (entries.decoded key decode? missing),
        Memory.ofEntries (entries.tidy key decode?)) := by
  rw [readOrRemove, run_bind_eq, Memory.get_ofEntries]
  unfold Entries.decoded Entries.tidy
  cases hfound : entries.get? key with
  | none => rfl
  | some saved =>
    cases hdecode : decode? saved with
    | some value =>
      simp only [hdecode, Option.bind_some, Option.getD_some, Option.isSome_some, if_true]
      rfl
    | none =>
      simp only [hdecode, run_bind_eq, Memory.remove_ofEntries]
      simp only [Option.bind_some, hdecode, Option.getD_none, Option.isSome_none,
        Bool.false_eq_true, if_false]
      rfl

end

end Store

end Quizmaster
