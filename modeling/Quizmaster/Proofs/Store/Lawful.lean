import Quizmaster.Store

namespace Quizmaster

section

variable {ε σ α β : Type}

/-- A sequence goes on from what its first action left, unless that failed. -/
theorem run_bind_eq (x : ExceptT ε (StateM σ) α) (f : α → ExceptT ε (StateM σ) β) (s : σ) :
    (x >>= f).run.run s =
      match x.run.run s with
      | (.ok a, t) => (f a).run.run t
      | (.error e, t) => (.error e, t) := by
  simp only [ExceptT.run_bind, StateT.run_bind]
  obtain ⟨_ | _, t⟩ := x.run.run s <;> rfl

theorem run_pure_eq (a : α) (s : σ) : (pure a : ExceptT ε (StateM σ) α).run.run s = (.ok a, s) := rfl

/-- A sequence of two succeeds if both succeed. -/
theorem run_bind_ok {x : ExceptT ε (StateM σ) α} {f : α → ExceptT ε (StateM σ) β} {s t : σ} {b : β}
    (h : (x >>= f).run.run s = (.ok b, t)) :
    ∃ a u, x.run.run s = (.ok a, u) ∧ (f a).run.run u = (.ok b, t) := by
  rw [run_bind_eq] at h
  split at h
  · next a u hx => exact ⟨a, u, hx, h⟩
  · cases h

/-- A sequence fails with its first action, or with its second one after the first. -/
theorem run_bind_error {x : ExceptT ε (StateM σ) α} {f : α → ExceptT ε (StateM σ) β} {s t : σ}
    {e : ε} (h : (x >>= f).run.run s = (.error e, t)) :
    x.run.run s = (.error e, t) ∨
      ∃ a u, x.run.run s = (.ok a, u) ∧ (f a).run.run u = (.error e, t) := by
  rw [run_bind_eq] at h
  split at h
  · next a u hx => exact .inr ⟨a, u, hx, h⟩
  · next d u hx =>
    cases h
    exact .inl hx

end

namespace Store

/-- A kind of store whose calls, when they succeed, do what they say. A call that fails has made
    its change or none. -/
class Lawful (ε : outParam Type) (σ : Type) [Store ε σ] where
  entries : σ → Entries
  get_ok {key : String} {s t : σ} {value : Option String}
    (h : (Store.get key).run.run s = (.ok value, t)) :
    value = (entries s).get? key ∧ entries t = entries s
  get_error {key : String} {s t : σ} {e : ε} (h : (Store.get key).run.run s = (.error e, t)) :
    entries t = entries s
  set_ok {key value : String} {s t : σ} {u : Unit}
    (h : (Store.set key value).run.run s = (.ok u, t)) : entries t = (entries s).insert key value
  set_error {key value : String} {s t : σ} {e : ε}
    (h : (Store.set key value).run.run s = (.error e, t)) :
    entries t = entries s ∨ entries t = (entries s).insert key value
  remove_ok {key : String} {s t : σ} {u : Unit} (h : (Store.remove key).run.run s = (.ok u, t)) :
    entries t = (entries s).erase key
  remove_error {key : String} {s t : σ} {e : ε}
    (h : (Store.remove key).run.run s = (.error e, t)) :
    entries t = entries s ∨ entries t = (entries s).erase key

/-- What becomes of a call: it is answered; it is refused and changes nothing; or its change is
    made and still it fails, as with entries in memory whose file could not be written. -/
inductive Fate
  | answered
  | refused
  | unsaved
deriving DecidableEq, Repr

/-- A store whose calls end as a schedule says: the first call by the first fate of it, and so on.
    The journal holds the calls that were made and what became of them. -/
structure Scheduled where
  entries : Entries
  schedule : Nat → Fate
  journal : List (Call × Fate)

namespace Scheduled

/-- The calls that were made since an earlier moment. -/
def since (s earlier : Scheduled) : List (Call × Fate) := s.journal.drop earlier.journal.length

/-- Makes a call, with the fate that is next in the schedule. -/
def answer {α : Type} (call : Call) (act : Entries → α × Entries) :
    ExceptT Call (StateM Scheduled) α :=
  ExceptT.mk fun s =>
    let fate := s.schedule s.journal.length
    let journal := s.journal ++ [(call, fate)]
    let (result, entries) := act s.entries
    match fate with
    | .answered => (.ok result, { s with entries, journal })
    | .refused => (.error call, { s with journal })
    | .unsaved => (.error call, { s with entries, journal })

instance : Store Call Scheduled where
  get key := answer (.get key) fun entries => (entries.get? key, entries)
  set key value := answer (.set key) fun entries => ((), entries.insert key value)
  remove key := answer (.remove key) fun entries => ((), entries.erase key)

/-- A call is answered, refused, or carried out and still reported as failed, as the schedule says;
    it is noted in any case. -/
theorem answer_run {α : Type} (call : Call) (act : Entries → α × Entries) (s : Scheduled) :
    (answer call act).run.run s =
      (if s.schedule s.journal.length = .answered then .ok (act s.entries).1 else .error call,
        { s with
          entries := if s.schedule s.journal.length = .refused then s.entries else (act s.entries).2
          journal := s.journal ++ [(call, s.schedule s.journal.length)] }) := by
  change (match s.schedule s.journal.length with
    | .answered => _
    | .refused => _
    | .unsaved => _) = _
  cases hfate : s.schedule s.journal.length <;> simp

theorem set_run (key value : String) (s : Scheduled) :
    (Store.set key value).run.run s =
      (if s.schedule s.journal.length = .answered then .ok () else .error (.set key),
        { s with
          entries :=
            if s.schedule s.journal.length = .refused then s.entries else s.entries.insert key value
          journal := s.journal ++ [(.set key, s.schedule s.journal.length)] }) :=
  answer_run _ _ s

theorem answer_ok {α : Type} {call : Call} {act : Entries → α × Entries} {s t : Scheduled} {a : α}
    (h : (answer call act).run.run s = (.ok a, t)) :
    a = (act s.entries).1 ∧ t.entries = (act s.entries).2 := by
  rw [answer_run] at h
  split at h
  · next hfate =>
    cases h
    simp [hfate]
  · cases h

/-- A call that failed may have taken effect. -/
theorem answer_error {α : Type} {call : Call} {act : Entries → α × Entries} {s t : Scheduled}
    {e : Call} (h : (answer call act).run.run s = (.error e, t)) :
    t.entries = s.entries ∨ t.entries = (act s.entries).2 := by
  rw [answer_run] at h
  split at h
  · cases h
  · cases h
    simp only
    split
    · exact .inl rfl
    · exact .inr rfl

instance : Lawful Call Scheduled where
  entries := Scheduled.entries
  get_ok h := answer_ok h
  get_error h := (answer_error h).elim id id
  set_ok h := (answer_ok h).2
  set_error h := answer_error h
  remove_ok h := (answer_ok h).2
  remove_error h := answer_error h

end Scheduled

namespace Memory

/-- A store in memory refuses a call, or answers it. -/
theorem answer_run {α : Type} (call : Call) (act : Entries → α × Entries) (m : Memory) :
    (answer call act).run.run m =
      if m.refuses call then (.error call, m)
      else (.ok (act m.entries).1, { m with entries := (act m.entries).2 }) := by
  change (if m.refuses call then _ else _) = _
  split <;> rfl

theorem answer_ok {α : Type} {call : Call} {act : Entries → α × Entries} {m t : Memory} {a : α}
    (h : (answer call act).run.run m = (.ok a, t)) :
    a = (act m.entries).1 ∧ t.entries = (act m.entries).2 := by
  rw [answer_run] at h
  split at h
  · cases h
  · cases h
    exact ⟨rfl, rfl⟩

/-- A call that a store in memory refuses has no effect. -/
theorem answer_error {α : Type} {call : Call} {act : Entries → α × Entries} {m t : Memory}
    {e : Call} (h : (answer call act).run.run m = (.error e, t)) : t.entries = m.entries := by
  rw [answer_run] at h
  split at h
  · cases h
    rfl
  · cases h

instance : Lawful Call Memory where
  entries := Memory.entries
  get_ok h := answer_ok h
  get_error h := answer_error h
  set_ok h := (answer_ok h).2
  set_error h := .inl (answer_error h)
  remove_ok h := (answer_ok h).2
  remove_error h := .inl (answer_error h)

theorem get_ofEntries (key : String) (entries : Entries) :
    (Store.get key : ExceptT Call (StateM Memory) _).run.run (ofEntries entries) =
      (.ok (entries.get? key), ofEntries entries) :=
  answer_run _ _ _

theorem set_ofEntries (key value : String) (entries : Entries) :
    (Store.set key value : ExceptT Call (StateM Memory) _).run.run (ofEntries entries) =
      (.ok (), ofEntries (entries.insert key value)) :=
  answer_run _ _ _

theorem remove_ofEntries (key : String) (entries : Entries) :
    (Store.remove key : ExceptT Call (StateM Memory) _).run.run (ofEntries entries) =
      (.ok (), ofEntries (entries.erase key)) :=
  answer_run _ _ _

end Memory

end Store

end Quizmaster
