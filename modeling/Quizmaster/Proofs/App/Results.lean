import Quizmaster.Proofs.App.Drawing
import Quizmaster.Proofs.App.Moves
import Quizmaster.Proofs.Item
import Quizmaster.Proofs.Typed
import Quizmaster.Service

namespace Quizmaster

open Json

/-- The text that a string holds. -/
def Json.text? : Json → Option String
  | .string s => some s
  | _ => none

namespace Answer

/-- The answer of a kind that has these contents: one text or a list of texts. -/
def regained? (k : Kind) : Json → Option Answer
  | .string s => some (ofText k s)
  | .array items => (items.mapM text?).map (ofList k)
  | _ => none

/-- An answer is had back from its contents by one who knows its kind. -/
theorem regained?_contents (a : Answer) : regained? a.kind a.contents = some a := by
  have hlist (items : List String) :
      (items.map Json.string).mapM text? = some items := by
    induction items with
    | nil => rfl
    | cons item items ih => simp [text?, ih]
  cases a with
  | single s => rfl
  | fillIn s => rfl
  | multiSelect items => simp [regained?, contents, ofStrings, hlist, kind, ofList]
  | ordering items => simp [regained?, contents, ofStrings, hlist, kind, ofList]

end Answer

namespace Service

/-- The entries of results that are handed in with this body. -/
def entries? (body : String) : Option (List Json) := do
  match ← (← Json.parse? body).member? "user_answers" with
  | .array entries => some entries
  | _ => none

/-- The record that an entry was made of, if its question has this id and this source. -/
def record? (id : String) (source : Source) (entry : Json) : Option Record := do
  let item ← (Item.ofJson (← entry.member? "question")).toOption
  let question ← (item.toQuestion id source).toOption
  let given ← Answer.regained? question.kind (← entry.member? "userAnswer")
  match ← entry.member? "correct" with
  | .bool correct => some ⟨question, given, correct⟩
  | _ => none

theorem member?_sorted_recordJson (r : Record) (key : String) :
    (recordJson r).sorted.member? key = ((recordJson r).member? key).map sorted := by
  refine member?_sorted ?_ key
  change ["question", "userAnswer", "correct"].Nodup
  decide

/-- A record of a well-formed question is had back from its entry, if its answer is of the kind
    that the question asks for. -/
theorem record?_sorted_recordJson {r : Record} (hquestion : r.question.WellFormed)
    (hkind : r.given.kind = r.question.kind) :
    record? r.question.id r.question.source (recordJson r).sorted = some r := by
  have hitem := Item.ofJson_sorted_ofQuestion r.question
  have hback := Item.toQuestion_ofQuestion hquestion
  have hgiven : Answer.regained? r.question.kind r.given.contents = some r.given := by
    rw [← hkind, Answer.regained?_contents]
  simp only [record?, member?_sorted_recordJson]
  simp [recordJson, member?, List.lookup_cons, hitem, hback, hgiven, Item.sorted_contents,
    Except.toOption, sorted]

theorem sorted_ofOption (r : Option Record) :
    (ofOption recordJson r).sorted = ofOption (fun r => (recordJson r).sorted) r := by
  cases r <;> rfl

theorem textual_ofOption_recordJson {room : Nat} (hroom : 2 < room) (r : Option Record) :
    (ofOption recordJson r).Textual room := by
  cases r with
  | none => trivial
  | some r =>
    refine ⟨by omega, Item.textual_toJson_ofQuestion (by omega) r.question, ?_, trivial, trivial⟩
    exact Item.textual_contents (by omega) r.given

/-- The entries that arrive, one for every slot. -/
theorem entries?_resultsBody (session : String) (slots : List (Option Record)) :
    entries? (resultsBody session slots).compact =
      some (slots.map (ofOption fun r => (recordJson r).sorted)) := by
  have htextual : (resultsBody session slots).Textual Written.maxDepth := by
    refine ⟨by decide, trivial, ⟨by decide, textualItems_iff.mpr fun item hitem => ?_⟩, trivial⟩
    obtain ⟨r, -, rfl⟩ := List.mem_map.mp hitem
    exact textual_ofOption_recordJson (by decide) r
  have hmember : (resultsBody session slots).sorted.member? "user_answers" =
      some (.array ((slots.map (ofOption recordJson)).map sorted)) := by
    rw [← sortedItems_eq_map]
    refine member?_sorted ?_ "user_answers"
    change ["session_id", "user_answers"].Nodup
    decide
  have hentries : (slots.map (ofOption recordJson)).map sorted =
      slots.map (ofOption fun r => (recordJson r).sorted) := by
    rw [List.map_map]
    exact List.map_congr_left fun r _ => sorted_ofOption r
  simp [entries?, parse?_compact htextual, hmember, hentries]

/-- From the entry of each filled slot its record is had back. -/
theorem exists_entries {acceptEmpty : Bool} {s : Session} (h : s.Invariant acceptEmpty)
    (hquestions : ∀ q ∈ s.sequence, q.WellFormed)
    (hkinds : ∀ i record, s.recordAt? i = some record → record.given.kind = record.question.kind)
    (session : String) :
    ∃ entries, entries? (resultsBody session s.slots).compact = some entries ∧
      entries.length = s.sequence.length ∧
      ∀ (i : Nat) (question : Question), s.sequence[i]? = some question →
        ∃ entry, entries[i]? = some entry ∧ (entry = .null ↔ s.recordAt? i = none) ∧
          ∀ record, s.recordAt? i = some record →
            record? question.id question.source entry =
              some ⟨question, record.given, question.isAnsweredBy record.given⟩ := by
  refine ⟨_, entries?_resultsBody session s.slots, ?_, ?_⟩
  · rw [List.length_map, h.slots_length]
  · intro i question hquestion
    obtain ⟨hi, -⟩ := List.getElem?_eq_some_iff.mp hquestion
    rw [← h.slots_length] at hi
    have hslot : s.recordAt? i = s.slots[i] := by
      rw [Session.recordAt?, List.getElem?_eq_getElem hi]
      rfl
    refine ⟨ofOption (fun r => (recordJson r).sorted) s.slots[i], ?_, ?_, ?_⟩
    · rw [List.getElem?_map, List.getElem?_eq_getElem hi]
      rfl
    · rw [hslot]
      cases s.slots[i] with
      | none => exact iff_of_true rfl rfl
      | some r =>
        refine iff_of_false ?_ (by simp)
        simp [ofOption, recordJson, sorted]
    · intro record hrecord
      obtain ⟨question', hquestion', hgrades⟩ := h.grades i record hrecord
      obtain rfl : question = question' := Option.some.inj (hquestion.symm.trans hquestion')
      have hformed : record.question.WellFormed := by
        rw [hgrades.question_eq]
        exact hquestions question (List.mem_of_getElem? hquestion)
      rw [← hslot, hrecord, ofOption, ← hgrades.correct_eq, ← hgrades.question_eq]
      exact record?_sorted_recordJson hformed (hkinds i record hrecord)

end Service

namespace App

variable {ε σ : Type} [Store ε σ]

/-- Every answer that is given to a question carries the tag of the question's kind. -/
def Tagged (app : App σ) (ops : List Op) : Prop :=
  ∀ before answer after, ops = before ++ .submit answer :: after →
    ∀ q, (app.run before).session.current? = some q → answer.kind = q.kind

theorem exists_submit_of_mem_taken {s : Session} {op : Op} {i : Nat} {record : Record}
    (h : (i, record) ∈ s.taken (calls [op])) :
    ∃ answer t, op = .submit answer ∧ s.submit answer = .ok (record, t) := by
  cases op with
  | submit answer =>
    rw [taken_calls_submit, Session.takes] at h
    cases hsubmit : s.submit answer with
    | error e =>
      rw [hsubmit] at h
      cases h
    | ok result =>
      rw [hsubmit] at h
      obtain ⟨record', t⟩ := result
      obtain ⟨rfl, rfl⟩ := Prod.mk.inj (List.mem_singleton.mp h)
      exact ⟨answer, t, rfl, hsubmit⟩
  | _ => cases h

/-- The records of a test that is not given up carry the tags that were given. -/
theorem kind_of_recordAt? {app : App σ} {op : Op} (hbegins : app.begins op = true) {ops : List Op}
    (hkept : (app.perform op).tally discards ops = 0) (htagged : (app.perform op).Tagged ops)
    {i : Nat} {record : Record}
    (hrecord : ((app.perform op).run ops).session.recordAt? i = some record) :
    record.given.kind = record.question.kind := by
  obtain ⟨questions, hstart⟩ := exists_start_of_begins hbegins
  have hinvariant := (Session.Invariant.new _).start hstart
  have hstarted := Session.started_of_start hstart
  have hopen := Session.recordAt?_of_start hstart i
  rw [session_run hkept, Session.recordAt?_run_eq_some_iff hinvariant hstarted
    (reset_not_mem_calls ops), hopen, taken_calls hkept] at hrecord
  have htaken := hrecord.resolve_left (by simp)
  obtain ⟨before, op', after, hops, hseen⟩ := exists_of_mem_collect _ _ htaken
  obtain ⟨answer, t, rfl, hsubmit⟩ := exists_submit_of_mem_taken hseen
  obtain ⟨question, -, hcurrent, -, -, rfl, -⟩ := Session.submit_eq_ok_iff.mp hsubmit
  exact htagged before answer after hops question hcurrent

/-- A test asks nothing but questions of the pool. -/
theorem mem_pool_of_begins {app : App σ} {shuffle : Shuffle} {pool : List Question} {length : Nat}
    (hbegins : app.begins (.startWith shuffle pool length) = true) {q : Question}
    (hq : q ∈ (app.perform (.startWith shuffle pool length)).session.sequence) : q ∈ pool := by
  rw [begins] at hbegins
  rw [perform] at hq
  cases hrun : (startWith shuffle pool length).run.run app with
  | mk result next =>
    rw [hrun] at hbegins hq
    cases result with
    | error e => cases hbegins
    | ok u =>
      obtain ⟨-, rfl⟩ := startWith_eq_ok_iff.mp hrun
      exact Shuffle.mem_of_mem_take_order hq

/-- In a test of questions of a published quiz, at every moment of it, if answers carry the tags of
    their questions' kinds, as all that are typed do: the text that is handed in has one entry for
    every slot, and nothing in it for a slot that is empty. From the entry of a filled slot, whoever
    knows the id and the source of the question has the question, the answer that was given to it,
    and the verdict that grading the one by the other gives. -/
theorem results_had_back {app : App σ} {code : String} {items : List Json} {shuffle : Shuffle}
    {pool : List Question} (hpool : ∀ q ∈ pool, q ∈ Service.questionsOf code items) {length : Nat}
    (hbegins : app.begins (.startWith shuffle pool length) = true) {ops : List Op}
    (hkept : (app.perform (.startWith shuffle pool length)).tally discards ops = 0)
    (htagged : (app.perform (.startWith shuffle pool length)).Tagged ops) (name : String) :
    (∀ q input, (Typed.answer q input).kind = q.kind) ∧
    let test := ((app.perform (.startWith shuffle pool length)).run ops).session
    ∃ entries, Service.entries? (Service.resultsBody name test.slots).compact = some entries ∧
      entries.length = test.sequence.length ∧
      ∀ (i : Nat) (question : Question), test.sequence[i]? = some question →
        ∃ entry, entries[i]? = some entry ∧ (entry = .null ↔ test.recordAt? i = none) ∧
          ∀ record, test.recordAt? i = some record →
            Service.record? question.id question.source entry =
              some ⟨question, record.given, question.isAnsweredBy record.given⟩ := by
  refine ⟨Typed.kind_answer, ?_⟩
  intro test
  obtain ⟨questions, hstart⟩ := exists_start_of_begins hbegins
  have hbegun := (Session.Invariant.new _).start hstart
  have htest : test = _ := session_run hkept
  have hsequence : test.sequence = _ := htest ▸ (Session.later_run hbegun
    (Session.started_of_start hstart) (reset_not_mem_calls ops)).sequence_eq
  refine Service.exists_entries (htest ▸ hbegun.run (calls ops)) ?_ ?_ name
  · intro q hq
    rw [hsequence] at hq
    exact Batch.wellFormed_of_mem_questions (hpool q (mem_pool_of_begins hbegins hq))
  · intro i record hrecord
    exact kind_of_recordAt? hbegins hkept htagged hrecord

/-- The first of two questions is passed over, the second one gets a wrong answer. -/
theorem results_had_back_one_skipped :
    ∃ (items : List Json) (app begun : App Store.Memory) (ops : List Op) (question : Question)
      (entries : List Json) (entry : Json),
      begun = app.perform (.startWith .keep (Service.questionsOf "sums" items) 2) ∧
        app.begins (.startWith .keep (Service.questionsOf "sums" items) 2) = true ∧
        begun.tally discards ops = 0 ∧ begun.Tagged ops ∧
        Service.entries? (Service.resultsBody "guest" (begun.run ops).session.slots).compact =
          some entries ∧
        entries.length = 2 ∧ entries[0]? = some .null ∧ entries[1]? = some entry ∧
        Service.record? "sums_1" (.ofCode "sums") entry =
          some ⟨question, .fillIn "40", false⟩ := by
  let items : List Json :=
    [.object [("Question", .string "2 + 2?"), ("Options", .ofStrings ["4", "5"]),
        ("answer", .string "4")],
      .object [("Question", .string "6 * 7?"), ("answer", .nat 42)]]
  let first : Question :=
    { Question.plain "sums_0" .single "2 + 2?" ["4", "5"] (.single "4") with source := .ofCode "sums" }
  let second : Question :=
    { Question.plain "sums_1" .fillIn "6 * 7?" [] (.fillIn "42") with source := .ofCode "sums" }
  let app : App Store.Memory := ⟨.empty, .new true, .new, .ofEntries ∅, []⟩
  let ops : List Op := [.advance, .submit (.fillIn "40")]
  obtain ⟨begun, hbegun⟩ :
    ∃ begun, begun = app.perform (.startWith .keep (Service.questionsOf "sums" items) 2) := ⟨_, rfl⟩
  have hbegins : app.begins (.startWith .keep (Service.questionsOf "sums" items) 2) = true := by
    decide +kernel
  have hkept : begun.tally discards ops = 0 := by
    rw [hbegun]
    rfl
  have hsequence : (begun.run ops).session.sequence = [first, second] := by
    rw [hbegun]
    decide +kernel
  have hslots : (begun.run ops).session.slots = [none, some ⟨second, .fillIn "40", false⟩] := by
    rw [hbegun]
    decide +kernel
  have htagged : begun.Tagged ops := by
    intro before answer after hops q hcurrent
    obtain _ | ⟨op, _ | ⟨other, rest⟩⟩ := before
    · simp [ops] at hops
    · obtain ⟨rfl, rfl, -⟩ : Op.advance = op ∧ Answer.fillIn "40" = answer ∧ [] = after := by
        simpa [ops] using hops
      have hkind : (begun.run [.advance]).session.current?.map Question.kind = some .fillIn := by
        rw [hbegun]
        decide +kernel
      rw [hcurrent] at hkind
      exact (Option.some.inj hkind).symm
    · simp [ops] at hops
  obtain ⟨-, hback⟩ :=
    results_had_back (fun _ hq => hq) hbegins (hbegun ▸ hkept) (hbegun ▸ htagged) "guest"
  rw [← hbegun] at hback
  obtain ⟨entries, hentries, hlength, heach⟩ := hback
  obtain ⟨skipped, hskipped, hiff, -⟩ := heach 0 first (by rw [hsequence]; rfl)
  obtain ⟨entry, hentry, -, hrecord⟩ := heach 1 second (by rw [hsequence]; rfl)
  have hempty : (begun.run ops).session.recordAt? 0 = none := by
    rw [Session.recordAt?, hslots]
    rfl
  have hfilled : (begun.run ops).session.recordAt? 1 = some ⟨second, .fillIn "40", false⟩ := by
    rw [Session.recordAt?, hslots]
    rfl
  have hwrong : second.isAnsweredBy (.fillIn "40") = false := by decide +kernel
  refine ⟨items, app, begun, ops, second, entries, entry, hbegun, hbegins, hkept, htagged, hentries,
    hlength.trans (congrArg List.length hsequence), hiff.mpr hempty ▸ hskipped, hentry, ?_⟩
  rw [← hwrong]
  exact hrecord _ hfilled

end App

end Quizmaster
