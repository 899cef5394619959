import Mathlib.Data.List.Induction
import Quizmaster.Proofs.Session.Invariant
import Quizmaster.Result

namespace Quizmaster

section

variable {σ α β : Type} (step : σ → α → σ) (seen : σ → α → List β)

/-- What is seen at the steps of a run, in their order. -/
def collect (s : σ) : List α → List β
  | [] => []
  | a :: as => seen s a ++ collect (step s a) as

theorem collect_append (s : σ) (first second : List α) :
    collect step seen s (first ++ second) =
      collect step seen s first ++ collect step seen (first.foldl step s) second := by
  induction first generalizing s with
  | nil => rfl
  | cons a as ih => rw [List.cons_append, collect, collect, ih, List.append_assoc, List.foldl_cons]

/-- What is seen in a run is seen at one of its steps. -/
theorem exists_of_mem_collect {s : σ} {as : List α} {b : β} (h : b ∈ collect step seen s as) :
    ∃ before a after, as = before ++ a :: after ∧ b ∈ seen (before.foldl step s) a := by
  induction as generalizing s with
  | nil => cases h
  | cons a as ih =>
    rw [collect, List.mem_append] at h
    rcases h with hhere | hlater
    · exact ⟨[], a, as, rfl, hhere⟩
    · obtain ⟨before, a', after, rfl, hseen⟩ := ih hlater
      exact ⟨a :: before, a', after, rfl, hseen⟩

theorem collect_map {γ : Type} (f : β → γ) (s : σ) (as : List α) :
    collect step (fun s a => (seen s a).map f) s as = (collect step seen s as).map f := by
  induction as generalizing s with
  | nil => rfl
  | cons a as ih => rw [collect, collect, ih, List.map_append]

end

namespace Session

/-- A call within a test. -/
inductive Move
  | submit (answer : Answer)
  | advance
  | retreat
deriving DecidableEq, Repr

def Move.call : Move → Call
  | .submit answer => .submit answer
  | .advance => .advance
  | .retreat => .retreat

/-- No move gives up the test. -/
theorem Move.call_ne_reset (move : Move) : move.call ≠ .reset := by
  cases move <;> simp [call]

theorem reset_not_mem_moves (moves : List Move) : .reset ∉ moves.map Move.call := by
  intro hreset
  obtain ⟨move, -, hmove⟩ := List.mem_map.mp hreset
  exact move.call_ne_reset hmove

/-- The slot and the record of an answer, if the call gives one and it is taken. -/
def takes (s : Session) : Call → List (Nat × Record)
  | .submit answer =>
    match s.submit answer with
    | .ok (record, _) => [(s.cursor, record)]
    | .error _ => []
  | _ => []

/-- The answers that a run takes, each with its slot. -/
def taken (s : Session) (calls : List Call) : List (Nat × Record) := collect perform takes s calls

theorem run_concat (s : Session) (calls : List Call) (call : Call) :
    s.run (calls ++ [call]) = (s.run calls).perform call := by
  rw [run_append, run_cons, run_nil]

theorem taken_append (s : Session) (first second : List Call) :
    s.taken (first ++ second) = s.taken first ++ (s.run first).taken second :=
  collect_append perform takes s first second

theorem taken_concat (s : Session) (calls : List Call) (call : Call) :
    s.taken (calls ++ [call]) = s.taken calls ++ (s.run calls).takes call := by
  rw [taken_append]
  simp [taken, collect]

/-- All that a call can do to a test that is started, short of giving it up: with what it takes,
    and what it leaves. -/
inductive Effect (s : Session) : List (Nat × Record) → Session → Prop
  | kept : Effect s [] s
  | moved (cursor : Nat) : Effect s [] { s with cursor }
  | filled (record : Record) (hrunning : s.state = .inProgress)
      (hslot : s.slots[s.cursor]? = some none) :
      Effect s [(s.cursor, record)] (s.fill record)

section

variable {acceptEmpty : Bool} {s t u : Session} {taken : List (Nat × Record)}

theorem slot_of_isAnswered_eq_false (hcursor : s.cursor < s.slots.length)
    (hopen : s.isAnswered = false) : s.slots[s.cursor]? = some none := by
  rw [isAnswered, isAnsweredAt, recordAt?, List.getElem?_eq_getElem hcursor] at hopen
  rw [List.getElem?_eq_getElem hcursor]
  cases hslot : s.slots[s.cursor] with
  | none => rfl
  | some record => simp [hslot] at hopen

/-- A call changes the test by the record that it takes, or moves the cursor at most. -/
theorem effect_perform (h : Invariant acceptEmpty s) (hstarted : s.state ≠ .notStarted)
    {call : Call} (hcall : call ≠ .reset) : Effect s (s.takes call) (s.perform call) := by
  cases call with
  | start questions =>
    have hrefused : s.start questions = .error .alreadyStarted := if_pos hstarted
    rw [perform, hrefused]
    exact .kept
  | submit answer =>
    rw [takes, perform]
    cases hsubmit : s.submit answer with
    | error e => exact .kept
    | ok result =>
      obtain ⟨record, after⟩ := result
      obtain ⟨question, hstate, hcurrent, hopen, -, -, rfl⟩ := submit_eq_ok_iff.mp hsubmit
      obtain ⟨hcursor, -⟩ := List.getElem?_eq_some_iff.mp hcurrent
      rw [← h.slots_length] at hcursor
      exact .filled record hstate (slot_of_isAnswered_eq_false hcursor hopen)
  | advance =>
    rw [perform]
    cases hadvance : s.advance? with
    | none => exact .kept
    | some after =>
      obtain ⟨-, rfl⟩ := advance?_eq_some_iff.mp hadvance
      exact .moved _
  | retreat =>
    rw [perform]
    cases hretreat : s.retreat? with
    | none => exact .kept
    | some after =>
      obtain ⟨-, rfl⟩ := retreat?_eq_some_iff.mp hretreat
      exact .moved _
  | reset => exact absurd rfl hcall

/-- A later moment of the same test. -/
structure Later (s t : Session) : Prop where
  sequence_eq : t.sequence = s.sequence
  started : s.state ≠ .notStarted → t.state ≠ .notStarted
  kept : ∀ i record, s.recordAt? i = some record → t.recordAt? i = some record
  closed : s.state = .completed → t.state = .completed ∧ t.slots = s.slots

theorem Later.refl (s : Session) : Later s s where
  sequence_eq := rfl
  started h := h
  kept _ _ h := h
  closed h := ⟨h, rfl⟩

theorem Later.trans (hst : Later s t) (htu : Later t u) : Later s u where
  sequence_eq := htu.sequence_eq.trans hst.sequence_eq
  started h := htu.started (hst.started h)
  kept i record h := htu.kept i record (hst.kept i record h)
  closed h := by
    obtain ⟨hstate, hslots⟩ := hst.closed h
    obtain ⟨hstate', hslots'⟩ := htu.closed hstate
    exact ⟨hstate', hslots'.trans hslots⟩

/-- Only the slot under the cursor changes. -/
theorem Effect.slots_eq (heffect : Effect s taken t) {i : Nat} (hi : i ≠ s.cursor) :
    t.slots[i]? = s.slots[i]? := by
  cases heffect with
  | kept => rfl
  | moved => rfl
  | filled record hrunning hslot =>
    obtain ⟨hcursor, -⟩ := List.getElem?_eq_some_iff.mp hslot
    rw [fill_eq hcursor]
    exact List.getElem?_set_ne (Ne.symm hi)

/-- A slot holds what it held and what is taken for it. -/
theorem Effect.recordAt?_eq_some_iff (heffect : Effect s taken t) {i : Nat} {record : Record} :
    t.recordAt? i = some record ↔ s.recordAt? i = some record ∨ (i, record) ∈ taken := by
  cases heffect with
  | kept => simp
  | moved => simp [recordAt?]
  | filled given hrunning hslot =>
    obtain ⟨hcursor, -⟩ := List.getElem?_eq_some_iff.mp hslot
    have hopen : s.recordAt? s.cursor = none := by rw [recordAt?, hslot]; rfl
    rw [recordAt?_fill hcursor, List.mem_singleton, Prod.mk.injEq]
    by_cases hi : i = s.cursor
    · simp [hi, hopen, eq_comm]
    · simp [hi]

/-- A call keeps the questions and all filled slots. -/
theorem Effect.later (heffect : Effect s taken t) : Later s t := by
  have hkept (i : Nat) (record : Record) (h : s.recordAt? i = some record) :
      t.recordAt? i = some record := heffect.recordAt?_eq_some_iff.mpr (.inl h)
  cases heffect with
  | kept => exact .refl s
  | moved => exact ⟨rfl, id, hkept, fun h => ⟨h, rfl⟩⟩
  | filled record hrunning hslot =>
    obtain ⟨hcursor, -⟩ := List.getElem?_eq_some_iff.mp hslot
    constructor
    · rw [fill_eq hcursor]
    · intro _
      rw [fill_eq hcursor]
      simp only [hrunning]
      split <;> simp
    · exact hkept
    · intro hcompleted
      simp [hrunning] at hcompleted

/-- Each record that is taken fills an empty slot, so the records with a property grow by those
    taken that have it. -/
theorem Effect.countP_slots (heffect : Effect s taken t) (p : Record → Bool) :
    t.slots.countP (Option.any p) =
      s.slots.countP (Option.any p) + taken.countP fun entry => p entry.2 := by
  cases heffect with
  | kept => simp
  | moved => simp
  | filled record hrunning hslot =>
    obtain ⟨hcursor, hempty⟩ := List.getElem?_eq_some_iff.mp hslot
    rw [fill_eq hcursor, List.countP_set hcursor, hempty]
    simp

/-- What holds at a start and is kept by every effect holds after every run that does not give the
    test up, of what it took and of what it left. -/
theorem run_induction (h : Invariant acceptEmpty s) (hstarted : s.state ≠ .notStarted)
    {motive : List (Nat × Record) → Session → Prop} (nil : motive [] s)
    (effect : ∀ taken t more u, motive taken t → Effect t more u → motive (taken ++ more) u)
    {calls : List Call} (hcalls : .reset ∉ calls) : motive (s.taken calls) (s.run calls) := by
  suffices hboth : Later s (s.run calls) ∧ motive (s.taken calls) (s.run calls) from hboth.2
  induction calls using List.reverseRecOn with
  | nil => exact ⟨.refl s, nil⟩
  | append_singleton calls call ih =>
    obtain ⟨hbefore, hcall⟩ := not_or.mp (mt List.mem_append.mpr hcalls)
    obtain ⟨hlater, hmotive⟩ := ih hbefore
    have heffect := effect_perform (h.run calls) (hlater.started hstarted)
      (fun hreset => hcall (List.mem_singleton.mpr hreset.symm))
    rw [run_concat, taken_concat]
    exact ⟨hlater.trans heffect.later, effect _ _ _ _ hmotive heffect⟩

/-- As long as the test is not given up, its questions stay and a filled slot keeps its record. -/
theorem later_run (h : Invariant acceptEmpty s) (hstarted : s.state ≠ .notStarted)
    {calls : List Call} (hcalls : .reset ∉ calls) : Later s (s.run calls) :=
  run_induction (motive := fun _ t => Later s t) h hstarted (.refl s)
    (fun _ _ _ _ hlater heffect => hlater.trans heffect.later) hcalls

/-- The slots hold what they held and what was taken since. -/
theorem recordAt?_run_eq_some_iff (h : Invariant acceptEmpty s) (hstarted : s.state ≠ .notStarted)
    {calls : List Call} (hcalls : .reset ∉ calls) {i : Nat} {record : Record} :
    (s.run calls).recordAt? i = some record ↔
      s.recordAt? i = some record ∨ (i, record) ∈ s.taken calls := by
  refine run_induction
    (motive := fun taken t => t.recordAt? i = some record ↔
      s.recordAt? i = some record ∨ (i, record) ∈ taken) h hstarted (by simp) ?_ hcalls
  intro taken t more u hbefore heffect
  rw [heffect.recordAt?_eq_some_iff, hbefore, List.mem_append, or_assoc]

/-- Filled slots are counted by what they were and what was taken since. -/
theorem countP_slots_run (h : Invariant acceptEmpty s) (hstarted : s.state ≠ .notStarted)
    {calls : List Call} (hcalls : .reset ∉ calls) (p : Record → Bool) :
    (s.run calls).slots.countP (Option.any p) =
      s.slots.countP (Option.any p) + (s.taken calls).countP fun entry => p entry.2 := by
  refine run_induction
    (motive := fun taken t => t.slots.countP (Option.any p) =
      s.slots.countP (Option.any p) + taken.countP fun entry => p entry.2) h hstarted (by simp) ?_
    hcalls
  intro taken t more u hbefore heffect
  rw [heffect.countP_slots, hbefore, List.countP_append, Nat.add_assoc]

end

section

variable {acceptEmpty : Bool} {s t : Session}

/-- Every question is answered or not. -/
theorem result_unanswered_add_answered (h : s.slots.length = s.sequence.length) :
    s.result.unanswered + s.result.answered.length = s.result.total := by
  change s.slots.countP Option.isNone + (s.slots.filterMap id).length = s.sequence.length
  rw [List.length_filterMap_eq_countP, ← h, List.length_eq_countP_add_countP Option.isNone]
  congr 2
  funext slot
  cases slot <;> rfl

/-- As many records are answered as slots are filled. -/
theorem result_answered_length (s : Session) : s.result.answered.length = s.answeredCount := by
  change (s.slots.filterMap id).length = s.slots.countP Option.isSome
  exact List.length_filterMap_eq_countP

/-- Only answered questions count as right. -/
theorem result_correct_le_answered (s : Session) :
    s.result.correct ≤ s.result.answered.length := by
  rw [result_answered_length]
  refine List.countP_mono_left fun slot _ hright => ?_
  cases slot with
  | none => cases hright
  | some record => rfl

/-- A test that was just started has no records, so what its slots hold later was taken since. -/
theorem countP_slots_since_start (h : Invariant acceptEmpty s) {questions : List Question}
    (hstart : s.start questions = .ok t) {calls : List Call} (hcalls : .reset ∉ calls)
    (p : Record → Bool) :
    (t.run calls).slots.countP (Option.any p) =
      (t.taken calls).countP fun entry => p entry.2 := by
  have ht : Invariant acceptEmpty t := h.start hstart
  obtain ⟨-, -, rfl⟩ := start_eq_ok_iff.mp hstart
  rw [countP_slots_run ht (by simp) hcalls]
  simp [List.countP_replicate]

/-- As many questions are answered as answers were taken since the start. -/
theorem answeredCount_since_start (h : Invariant acceptEmpty s) {questions : List Question}
    (hstart : s.start questions = .ok t) {calls : List Call} (hcalls : .reset ∉ calls) :
    (t.run calls).answeredCount = (t.taken calls).length := by
  have hcount := countP_slots_since_start h hstart hcalls fun _ => true
  rw [List.countP_true] at hcount
  exact hcount

/-- As many answers are right as were taken as right since the start. -/
theorem correct_since_start (h : Invariant acceptEmpty s) {questions : List Question}
    (hstart : s.start questions = .ok t) {calls : List Call} (hcalls : .reset ∉ calls) :
    (t.run calls).result.correct = (t.taken calls).countP fun entry => entry.2.correct :=
  countP_slots_since_start h hstart hcalls Record.correct

/-- A split of a run at the latest start that succeeded, where the test was not given up since. -/
structure LatestStart (s : Session) (before : List Call) (questions : List Question)
    (after : List Call) : Prop where
  started : ∃ t, (s.run before).start questions = .ok t
  none_later : ∀ mid more rest, after = mid ++ .start more :: rest →
    ∀ t, (s.run (before ++ .start questions :: mid)).start more ≠ .ok t
  not_reset : .reset ∉ after

theorem perform_start {questions : List Question} (hstart : s.start questions = .ok t) :
    s.perform (.start questions) = t := by
  simp [perform, hstart, Except.toOption]

theorem started_of_start {questions : List Question} (hstart : s.start questions = .ok t) :
    t.state ≠ .notStarted := by
  obtain ⟨-, -, rfl⟩ := start_eq_ok_iff.mp hstart
  simp

theorem recordAt?_of_start {questions : List Question} (hstart : s.start questions = .ok t)
    (i : Nat) : t.recordAt? i = none := by
  obtain ⟨-, -, rfl⟩ := start_eq_ok_iff.mp hstart
  rw [recordAt?, List.getElem?_replicate]
  split <;> rfl

/-- While a test is not given up, no other can be started. -/
theorem latestStart_of_not_reset (h : Invariant acceptEmpty s) {before after : List Call}
    {questions : List Question} (hstart : (s.run before).start questions = .ok t)
    (hafter : .reset ∉ after) : LatestStart s before questions after where
  started := ⟨t, hstart⟩
  none_later := by
    intro mid more rest hsplit u hagain
    subst hsplit
    have hmid : .reset ∉ mid := fun hreset => hafter (List.mem_append_left _ hreset)
    have hlater : Later t (t.run mid) :=
      later_run ((h.run before).start hstart) (started_of_start hstart) hmid
    rw [run_append, run_cons, perform_start hstart] at hagain
    exact hlater.started (started_of_start hstart) (start_eq_ok_iff.mp hagain).1
  not_reset := hafter

/-- Only a start that succeeds begins a test. -/
theorem exists_start_of_perform (hnew : s.state = .notStarted) {call : Call}
    (hstarted : (s.perform call).state ≠ .notStarted) :
    ∃ questions, call = .start questions ∧ s.start questions = .ok (s.perform call) := by
  obtain hsame | hstart | ⟨answer, record, -, hsubmit⟩ | ⟨-, hadvance⟩ | ⟨-, hretreat⟩ | ⟨-, hreset⟩ :=
    perform_cases s call
  · rw [hsame] at hstarted
    exact absurd hnew hstarted
  · exact hstart
  · obtain ⟨question, hrunning, -⟩ := submit_eq_ok_iff.mp hsubmit
    simp [hnew] at hrunning
  · rw [(advance?_eq_some_iff.mp hadvance).2] at hstarted
    exact absurd hnew hstarted
  · rw [(retreat?_eq_some_iff.mp hretreat).2] at hstarted
    exact absurd hnew hstarted
  · rw [hreset] at hstarted
    exact absurd rfl hstarted

/-- A test that is there has been started, and a run splits behind its latest start. -/
theorem exists_latestStart (h : Invariant acceptEmpty s) (hnew : s.state = .notStarted)
    {calls : List Call} (hstarted : (s.run calls).state ≠ .notStarted) :
    ∃ before questions after, calls = before ++ .start questions :: after ∧
      LatestStart s before questions after := by
  induction calls using List.reverseRecOn with
  | nil => exact absurd hnew hstarted
  | append_singleton calls call ih =>
    rw [run_concat] at hstarted
    by_cases hearlier : (s.run calls).state = .notStarted
    · obtain ⟨questions, rfl, hstart⟩ := exists_start_of_perform hearlier hstarted
      exact ⟨calls, questions, [], rfl, latestStart_of_not_reset h hstart List.not_mem_nil⟩
    · obtain ⟨before, questions, after, rfl, hlatest⟩ := ih hearlier
      obtain ⟨t, hstart⟩ := hlatest.started
      refine ⟨before, questions, after ++ [call], by simp, latestStart_of_not_reset h hstart ?_⟩
      intro hreset
      obtain hbefore | hlast := List.mem_append.mp hreset
      · exact hlatest.not_reset hbefore
      · rw [← List.mem_singleton.mp hlast] at hstarted
        exact hstarted rfl

/-- Once a test is started and while it is not given up, its questions stay and every record stays
    in its slot; a call changes the slot under the cursor or none, and after the end no call changes
    any. The records are those of the answers taken since the latest start, the right ones those
    that came back as right, and the counts of a result add up. -/
theorem later_run_new (acceptEmpty : Bool) (before : List Call)
    (hstarted : ((new acceptEmpty).run before).state ≠ .notStarted) (calls : List Call)
    (hcalls : .reset ∉ calls) :
    let s := (new acceptEmpty).run before
    let t := s.run calls
    Later s t ∧
    (∀ call, call ≠ .reset → ∀ i, (t.perform call).slots[i]? ≠ t.slots[i]? → i = t.cursor) ∧
    ∃ init questions since, before ++ calls = init ++ .start questions :: since ∧
      LatestStart (new acceptEmpty) init questions since ∧
      let answers := ((new acceptEmpty).run (init ++ [.start questions])).taken since
      t.answeredCount = answers.length ∧
      t.result.correct = answers.countP (fun entry => entry.2.correct) ∧
      t.result.unanswered + t.result.answered.length = t.result.total ∧
      t.result.correct ≤ t.result.answered.length ∧
      t.result.answered.length ≤ t.result.total ∧
      t.result.incorrect + t.result.correct = t.result.total := by
  intro s t
  have hnew : Invariant acceptEmpty (new acceptEmpty) := .new acceptEmpty
  have hs : Invariant acceptEmpty s := hnew.run before
  have ht : Invariant acceptEmpty t := hs.run calls
  have hlater : Later s t := later_run hs hstarted hcalls
  have hrunning : t.state ≠ .notStarted := hlater.started hstarted
  have hone (call : Call) (hcall : call ≠ .reset) (i : Nat)
      (hchanged : (t.perform call).slots[i]? ≠ t.slots[i]?) : i = t.cursor := by
    by_contra hi
    exact hchanged ((effect_perform ht hrunning hcall).slots_eq hi)
  refine ⟨hlater, hone, ?_⟩
  have hend : t = (new acceptEmpty).run (before ++ calls) := (run_append _ _ _).symm
  rw [hend] at hrunning
  obtain ⟨init, questions, since, hsplit, hlatest⟩ := exists_latestStart hnew rfl hrunning
  obtain ⟨u, hstart⟩ := hlatest.started
  have hbegun : (new acceptEmpty).run (init ++ [.start questions]) = u := by
    rw [run_concat, perform_start hstart]
  have hsince : t = u.run since := by
    rw [hend, hsplit, List.append_cons, run_append, hbegun]
  have hinit : Invariant acceptEmpty ((new acceptEmpty).run init) := hnew.run init
  have htotal := result_unanswered_add_answered ht.slots_length
  have hright := result_correct_le_answered t
  refine ⟨init, questions, since, hsplit, hlatest, ?_, ?_, htotal, hright, by omega, ?_⟩
  · rw [hbegun, hsince]
    exact answeredCount_since_start hinit hstart hlatest.not_reset
  · rw [hbegun, hsince]
    exact correct_since_start hinit hstart hlatest.not_reset
  · rw [Result.incorrect]
    omega

/-- A wrong answer stays wrong: another one to the same question, another start and answers after
    the end are refused. -/
theorem later_run_new_wrong_then_right :
    ∃ (before calls : List Call), ((new false).run before).state ≠ .notStarted ∧ .reset ∉ calls ∧
      ((new false).run (before ++ calls)).state = .completed ∧
      (((new false).run (before ++ calls)).recordAt? 0).map Record.correct = some false ∧
      ((new false).run (before ++ calls)).result.correct = 1 := by
  let q (id : String) : Question := .plain id .single "Is it?" ["yes", "no"] (.single "yes")
  let before : List Call := [.start [q "a", q "b"], .submit (.single "no"), .advance]
  let calls : List Call := [.retreat, .submit (.single "yes"), .start [q "c"], .advance,
    .submit (.single "yes"), .retreat, .submit (.single "yes")]
  have hstarted : ((new false).run before).state ≠ .notStarted := by decide +kernel
  have hcalls : .reset ∉ calls := by simp [calls]
  have hwrong : ((new false).run before).recordAt? 0 =
      some ⟨q "a", .single "no", false⟩ := by decide +kernel
  obtain ⟨hlater, -, -⟩ := later_run_new false before hstarted calls hcalls
  refine ⟨before, calls, hstarted, hcalls, by decide +kernel, ?_, by decide +kernel⟩
  rw [run_append, hlater.kept 0 _ hwrong]
  rfl

end

end Session

end Quizmaster
