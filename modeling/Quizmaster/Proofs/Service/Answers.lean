import Quizmaster.Proofs.Batch.Fate
import Quizmaster.Proofs.Json.Fields

namespace Quizmaster

open Json (Written)

namespace Service

/-- A body whose text gives these values for the fields of a record. -/
def Holds (body : String) (names : List String) (fields : List (Option Written)) : Prop :=
  ∃ w, Json.read? body = some w ∧ w.Gives names fields

/-- Success that is not said is none. -/
inductive SaysSuccess : Option Written → Bool → Prop
  | leftOut : SaysSuccess none false
  | given (b : Bool) : SaysSuccess (some (.bool b)) b

/-- A message may be left out, or null. -/
inductive SaysMessage : Option Written → Option String → Prop
  | leftOut : SaysMessage none none
  | null : SaysMessage (some .null) none
  | given (text : String) : SaysMessage (some (.string (some text))) (some text)

/-- Without items there are none; each of them is read as any value is. -/
inductive SaysItems : Option Written → List Json → Prop
  | leftOut : SaysItems none []
  | given {ws : List Written} {items : List Json}
      (hitems : List.Forall₂ (fun w item => w.toJson? (Written.maxDepth - 2) = some item)
        ws items) : SaysItems (some (.array ws)) items

/-- A body that is read as an envelope. -/
def IsEnvelope (body : String) (e : Envelope) : Prop :=
  ∃ success message, Holds body ["success", "message"] [success, message] ∧
    SaysSuccess success e.success ∧ SaysMessage message e.message

/-- A body that is read as a published quiz. It need not say that it is a success. -/
def IsQuiz (body : String) (items : List Json) : Prop :=
  ∃ quiz, Holds body ["quiz"] [quiz] ∧ SaysItems quiz items

/-- A body that is read as a session that was opened. -/
def IsOpening (body id : String) : Prop :=
  Holds body ["session_id"] [some (.string (some id))]

/-- A body that is read as a receipt, which has to say whether it is a success. -/
def IsReceipt (body : String) (r : Receipt) : Prop :=
  ∃ message, Holds body ["success", "message"] [some (.bool r.success), message] ∧
    SaysMessage message r.message

section

variable {field : Option Written}

/-- A field that is left out says that the call failed. -/
theorem orElse_bool?_eq_some_iff {b : Bool} :
    Written.orElse false Written.bool? field = some b ↔ SaysSuccess field b := by
  constructor
  · intro h
    match field, h with
    | none, rfl => exact .leftOut
    | some (.bool _), rfl => exact .given b
  · rintro (_ | _) <;> rfl

/-- A message may be left out or null. -/
theorem orElse_text?_eq_some_iff {message : Option String} :
    Written.orElse none (Written.nullable? Written.text?) field = some message ↔
      SaysMessage field message := by
  constructor
  · intro h
    match field, h with
    | none, rfl => exact .leftOut
    | some .null, rfl => exact .null
    | some (.string (some text)), rfl => exact .given text
  · rintro (_ | _ | _) <;> rfl

/-- Items that are left out are none. -/
theorem orElse_list?_eq_some_iff {items : List Json} :
    Written.orElse [] (Written.list? (Written.toJson? (Written.maxDepth - 2))) field =
      some items ↔ SaysItems field items := by
  constructor
  · intro h
    match field, h with
    | none, rfl => exact .leftOut
    | some (.array ws), h => exact .given (Written.mapM_eq_some_iff.mp h)
  · intro h
    cases h with
    | leftOut => rfl
    | given hitems => exact Written.mapM_eq_some_iff.mpr hitems

theorem required_bool?_eq_some_iff {b : Bool} :
    Written.required Written.bool? field = some b ↔ field = some (.bool b) := by
  constructor
  · intro h
    match field, h with
    | some (.bool _), rfl => rfl
  · rintro rfl
    rfl

theorem required_text?_eq_some_iff {s : String} :
    Written.required Written.text? field = some s ↔ field = some (.string (some s)) := by
  constructor
  · intro h
    match field, h with
    | some (.string (some _)), rfl => rfl
  · rintro rfl
    rfl

end

section

variable {α : Type} {w : Written} {names : List String}

/-- A record of one field. -/
theorem bind_fields?_one_eq_some_iff {name : String} {decode : Option Written → Option α} {a : α} :
    (do match ← w.fields? [name] with | [x] => decode x | _ => none) = some a ↔
      ∃ x, w.Gives [name] [x] ∧ decode x = some a := by
  simp only [Option.bind_eq_bind, Option.bind_eq_some_iff, Written.fields?_eq_some_iff]
  constructor
  · rintro ⟨fields, hgives, h⟩
    obtain ⟨x, rfl⟩ := List.length_eq_one_iff.mp hgives.length_eq
    exact ⟨x, hgives, h⟩
  · rintro ⟨x, hgives, h⟩
    exact ⟨_, hgives, h⟩

/-- A record of two fields is read if its text gives them and both are right. -/
theorem bind_fields?_two_eq_some_iff {name name' : String}
    {decode : Option Written → Option Written → Option α} {a : α} :
    (do match ← w.fields? [name, name'] with | [x, y] => decode x y | _ => none) = some a ↔
      ∃ x y, w.Gives [name, name'] [x, y] ∧ decode x y = some a := by
  simp only [Option.bind_eq_bind, Option.bind_eq_some_iff, Written.fields?_eq_some_iff]
  constructor
  · rintro ⟨fields, hgives, h⟩
    obtain ⟨x, y, rfl⟩ := List.length_eq_two.mp hgives.length_eq
    exact ⟨x, y, hgives, h⟩
  · rintro ⟨x, y, hgives, h⟩
    exact ⟨_, hgives, h⟩

/-- An envelope says whether the call succeeded, and may say why not. -/
theorem Envelope.ofWritten?_eq_some_iff {e : Envelope} :
    Envelope.ofWritten? w = some e ↔ ∃ success message,
      w.Gives ["success", "message"] [success, message] ∧
        SaysSuccess success e.success ∧ SaysMessage message e.message := by
  refine bind_fields?_two_eq_some_iff.trans ⟨?_, ?_⟩
  · rintro ⟨success, message, hgives, h⟩
    obtain ⟨b, hb, h⟩ := Option.bind_eq_some_iff.mp h
    obtain ⟨text, htext, h⟩ := Option.bind_eq_some_iff.mp h
    obtain rfl := Option.some.inj h
    exact ⟨success, message, hgives, orElse_bool?_eq_some_iff.mp hb,
      orElse_text?_eq_some_iff.mp htext⟩
  · rintro ⟨success, message, hgives, hsuccess, hmessage⟩
    refine ⟨success, message, hgives, ?_⟩
    rw [orElse_bool?_eq_some_iff.mpr hsuccess, orElse_text?_eq_some_iff.mpr hmessage]
    rfl

/-- A receipt has to say whether the results were taken. -/
theorem Receipt.ofWritten?_eq_some_iff {r : Receipt} :
    Receipt.ofWritten? w = some r ↔ ∃ message,
      w.Gives ["success", "message"] [some (.bool r.success), message] ∧
        SaysMessage message r.message := by
  refine bind_fields?_two_eq_some_iff.trans ⟨?_, ?_⟩
  · rintro ⟨success, message, hgives, h⟩
    obtain ⟨b, hb, h⟩ := Option.bind_eq_some_iff.mp h
    obtain ⟨text, htext, h⟩ := Option.bind_eq_some_iff.mp h
    obtain rfl := Option.some.inj h
    obtain rfl := required_bool?_eq_some_iff.mp hb
    exact ⟨message, hgives, orElse_text?_eq_some_iff.mp htext⟩
  · rintro ⟨message, hgives, hmessage⟩
    refine ⟨_, message, hgives, ?_⟩
    rw [required_bool?_eq_some_iff.mpr rfl, orElse_text?_eq_some_iff.mpr hmessage]
    rfl

theorem quizItems?_eq_some_iff {items : List Json} :
    quizItems? w = some items ↔ ∃ quiz, w.Gives ["quiz"] [quiz] ∧ SaysItems quiz items := by
  simp only [← orElse_list?_eq_some_iff]
  exact bind_fields?_one_eq_some_iff

theorem sessionId?_eq_some_iff {id : String} :
    sessionId? w = some id ↔ w.Gives ["session_id"] [some (.string (some id))] := by
  refine bind_fields?_one_eq_some_iff.trans ⟨?_, ?_⟩
  · rintro ⟨field, hgives, h⟩
    obtain rfl := required_text?_eq_some_iff.mp h
    exact hgives
  · intro hgives
    exact ⟨_, hgives, required_text?_eq_some_iff.mpr rfl⟩

end

/-- What an answer has to come to, whatever it is: `reads` tells what its body is read as, for the
    call that it answers. -/
structure Judged {α : Type} (reads : α → Prop) (fallback : String) (status : Nat) (body : String)
    (result : Except Failure α) : Prop where
  ok_iff : ∀ a, result = .ok a ↔
    status < 400 ∧ (∃ e, IsEnvelope body e ∧ e.success = true) ∧ reads a
  /-- An error that says why. -/
  told : 400 ≤ status → ∀ e message, IsEnvelope body e → e.message = some message →
    result = .error (.status status message)
  untold : 400 ≤ status → (∀ e, IsEnvelope body e → e.message = none) → body ≠ "" →
    result = .error (.status status body)
  empty : 400 ≤ status → body = "" → result = .error (.status status fallback)
  rejected : status < 400 → ∀ e, IsEnvelope body e → e.success = false →
    result = .error (.rejected (e.message.getD fallback))
  unreadable : status < 400 → (∀ e, IsEnvelope body e → e.success = true ∧ ∀ a, ¬ reads a) →
    result = .error .unreadable

section

variable {α : Type} {decode : Written → Option α} {fallback : String} {status : Nat}
  {body : String} {e : Envelope}

/-- The envelopes that are stated apart are those that are read. -/
theorem isEnvelope_iff : IsEnvelope body e ↔
    ∃ w, Json.read? body = some w ∧ Envelope.ofWritten? w = some e := by
  simp only [IsEnvelope, Holds, Envelope.ofWritten?_eq_some_iff]
  constructor
  · rintro ⟨success, message, ⟨w, hread, hgives⟩, hsays⟩
    exact ⟨w, hread, success, message, hgives, hsays⟩
  · rintro ⟨w, hread, success, message, hgives, hsays⟩
    exact ⟨success, message, ⟨w, hread, hgives⟩, hsays⟩

/-- A body is one envelope at most. -/
theorem IsEnvelope.unique {e' : Envelope} (h : IsEnvelope body e) (h' : IsEnvelope body e') :
    e = e' := by
  obtain ⟨w, hread, he⟩ := isEnvelope_iff.mp h
  obtain ⟨w', hread', he'⟩ := isEnvelope_iff.mp h'
  obtain rfl := Option.some.inj (hread.symm.trans hread')
  exact Option.some.inj (he.symm.trans he')

theorem not_isEnvelope_empty : ¬ IsEnvelope "" e := by
  intro h
  obtain ⟨w, hread, -⟩ := isEnvelope_iff.mp h
  cases hread

/-- A failure is told in the words of the service, if it has any. -/
theorem errorMessage_of_told {message : String} (h : IsEnvelope body e)
    (hmessage : e.message = some message) : errorMessage fallback body = message := by
  obtain ⟨w, hread, he⟩ := isEnvelope_iff.mp h
  simp only [errorMessage, hread, he, Option.bind_some, hmessage]

/-- A failure that has no words is told by its body, or by what the call was for. -/
theorem errorMessage_of_untold (h : ∀ e, IsEnvelope body e → e.message = none) :
    errorMessage fallback body = if body == "" then fallback else body := by
  have hnone : ((Json.read? body).bind Envelope.ofWritten?).bind Envelope.message = none := by
    refine Option.bind_eq_none_iff.mpr fun e he => ?_
    exact h e (isEnvelope_iff.mpr (Option.bind_eq_some_iff.mp he))
  rw [errorMessage, hnone]

/-- A status of failure is told with what the body says of it. -/
theorem contents_of_le (hstatus : 400 ≤ status) :
    contents fallback decode status body =
      .error (.status status (errorMessage fallback body)) := by
  rw [contents, if_pos hstatus]
  rfl

/-- A body without an envelope cannot be read. -/
theorem contents_of_not_isEnvelope (hstatus : status < 400) (h : ∀ e, ¬ IsEnvelope body e) :
    contents fallback decode status body = .error .unreadable := by
  rw [contents, if_neg hstatus.not_ge]
  cases hread : Json.read? body with
  | none => rfl
  | some w =>
    cases he : Envelope.ofWritten? w with
    | none => simp [he]; rfl
    | some e => exact absurd (isEnvelope_iff.mpr ⟨w, hread, he⟩) (h e)

/-- What an envelope says about success decides before its text is read once more. -/
theorem contents_of_isEnvelope (hstatus : status < 400) (h : IsEnvelope body e) :
    ∃ w, Json.read? body = some w ∧ contents fallback decode status body =
      if e.success then ((decode w).map Except.ok).getD (.error .unreadable)
      else .error (.rejected (e.message.getD fallback)) := by
  obtain ⟨w, hread, he⟩ := isEnvelope_iff.mp h
  refine ⟨w, hread, ?_⟩
  rw [contents, if_neg hstatus.not_ge, hread]
  cases hsuccess : e.success with
  | false => simp [he, hsuccess]; rfl
  | true => cases hdecode : decode w <;> simp [he, hsuccess, hdecode] <;> rfl

/-- A call succeeds only if the status and both readings of the body allow it. -/
theorem contents_eq_ok_iff {a : α} : contents fallback decode status body = .ok a ↔
    status < 400 ∧ (∃ e, IsEnvelope body e ∧ e.success = true) ∧
      ∃ w, Json.read? body = some w ∧ decode w = some a := by
  by_cases hstatus : status < 400
  · by_cases he : ∃ e, IsEnvelope body e
    · obtain ⟨e, he⟩ := he
      obtain ⟨w, hread, hcontents⟩ := contents_of_isEnvelope hstatus he
      have hsuccess : (∃ e, IsEnvelope body e ∧ e.success = true) ↔ e.success = true :=
        ⟨fun ⟨_, he', h⟩ => he.unique he' ▸ h, fun h => ⟨e, he, h⟩⟩
      rw [hcontents, hsuccess, hread]
      simp only [Option.some.injEq, exists_eq_left']
      cases e.success with
      | false => simp
      | true => cases decode w <;> simp [hstatus]
    · rw [contents_of_not_isEnvelope hstatus (not_exists.mp he)]
      exact ⟨nofun, fun ⟨_, ⟨e, h, _⟩, _⟩ => absurd ⟨e, h⟩ he⟩
  · rw [contents_of_le (Nat.le_of_not_lt hstatus)]
    exact ⟨nofun, fun h => absurd h.1 hstatus⟩

variable {reads : α → Prop}

/-- What a call takes from its answer is judged by the status and both readings. -/
theorem judged_contents
    (hreads : ∀ a, reads a ↔ ∃ w, Json.read? body = some w ∧ decode w = some a) :
    Judged reads fallback status body (contents fallback decode status body) where
  ok_iff a := by rw [contents_eq_ok_iff, hreads]
  told hstatus e message he hmessage := by
    rw [contents_of_le hstatus, errorMessage_of_told he hmessage]
  untold hstatus hnone hbody := by
    rw [contents_of_le hstatus, errorMessage_of_untold hnone, if_neg (by simpa using hbody)]
  empty hstatus hbody := by
    subst hbody
    rw [contents_of_le hstatus, errorMessage_of_untold fun e he => absurd he not_isEnvelope_empty]
    rfl
  rejected hstatus e he hfalse := by
    obtain ⟨w, -, hcontents⟩ := contents_of_isEnvelope hstatus he
    rw [hcontents, hfalse]
    rfl
  unreadable hstatus hnone := by
    by_cases he : ∃ e, IsEnvelope body e
    · obtain ⟨e, he⟩ := he
      obtain ⟨hsuccess, hall⟩ := hnone e he
      obtain ⟨w, hread, hcontents⟩ := contents_of_isEnvelope hstatus he
      have hw : decode w = none := Option.eq_none_iff_forall_ne_some.mpr fun a hdecode =>
        hall a ((hreads a).mpr ⟨w, hread, hdecode⟩)
      rw [hcontents, hsuccess, hw]
      rfl
    · exact contents_of_not_isEnvelope hstatus (not_exists.mp he)

/-- What is made of the contents changes nothing about when there are any. -/
theorem Judged.map {β : Type} {result : Except Failure α}
    (h : Judged reads fallback status body result) (f : α → β) :
    Judged (fun b => ∃ a, reads a ∧ b = f a) fallback status body (result.map f) where
  ok_iff b := by
    have hmap : result.map f = .ok b ↔ ∃ a, result = .ok a ∧ b = f a := by
      cases result <;> simp [Except.map, eq_comm]
    simp only [hmap, h.ok_iff]
    constructor
    · rintro ⟨a, ⟨hstatus, hsuccess, ha⟩, hb⟩
      exact ⟨hstatus, hsuccess, a, ha, hb⟩
    · rintro ⟨hstatus, hsuccess, a, ha, hb⟩
      exact ⟨a, ⟨hstatus, hsuccess, ha⟩, hb⟩
  told hstatus e message he hmessage := by
    rw [h.told hstatus e message he hmessage]
    rfl
  untold hstatus hnone hbody := by
    rw [h.untold hstatus hnone hbody]
    rfl
  empty hstatus hbody := by
    rw [h.empty hstatus hbody]
    rfl
  rejected hstatus e he hfalse := by
    rw [h.rejected hstatus e he hfalse]
    rfl
  unreadable hstatus hnone := by
    have hnone (e : Envelope) (he : IsEnvelope body e) : e.success = true ∧ ∀ a, ¬ reads a :=
      ⟨(hnone e he).1, fun a ha => (hnone e he).2 (f a) ⟨a, ha, rfl⟩⟩
    rw [h.unreadable hstatus hnone]
    rfl

end

section

variable {s : Service} {request : Request} {status : Nat} {body : String}

/-- A quiz is taken from an answer whose envelope says success and that holds its items. -/
theorem judged_load {code : String} (hrequest : s.loadRequest? code = some request) :
    Judged (fun pool => ∃ items, IsQuiz body items ∧ pool = questionsOf (Text.trim code) items)
      "Failed to load quiz." status body (outcome (s.load · code) (.answered status body)) := by
  rw [outcome_load hrequest]
  refine (judged_contents fun items => ?_).map _
  simp only [IsQuiz, Holds, quizItems?_eq_some_iff]
  constructor
  · rintro ⟨quiz, ⟨w, hread, hgives⟩, hitems⟩
    exact ⟨w, hread, quiz, hgives, hitems⟩
  · rintro ⟨w, hread, quiz, hgives, hitems⟩
    exact ⟨quiz, ⟨w, hread, hgives⟩, hitems⟩

/-- A session is taken from an answer whose envelope says success and that names it. -/
theorem judged_start {code player : String}
    (hrequest : s.startRequest? code player = some request) :
    Judged (IsOpening body) "Could not start session." status body
      (outcome (s.start · code player) (.answered status body)) := by
  rw [outcome, start, call_of_request?_eq_some hrequest]
  refine judged_contents fun id => ?_
  simp only [IsOpening, Holds, sessionId?_eq_some_iff]

/-- A receipt is taken from an answer whose envelope says success and that is a receipt. -/
theorem judged_submit {session : String} {records : List (Option Record)}
    (hrequest : s.submitRequest? session records = some request) :
    Judged (IsReceipt body) "Could not submit results." status body
      (outcome (s.submit · session records) (.answered status body)) := by
  rw [outcome, submit, call_of_request?_eq_some hrequest]
  refine judged_contents fun r => ?_
  simp only [IsReceipt, Holds, Receipt.ofWritten?_eq_some_iff]
  constructor
  · rintro ⟨message, ⟨w, hread, hgives⟩, hmessage⟩
    exact ⟨w, hread, message, hgives, hmessage⟩
  · rintro ⟨w, hread, message, hgives, hmessage⟩
    exact ⟨message, ⟨w, hread, hgives⟩, hmessage⟩

/-- A receipt says the same as the envelope of its text. -/
theorem IsReceipt.isEnvelope {r : Receipt} (h : IsReceipt body r) :
    IsEnvelope body ⟨r.success, r.message⟩ := by
  obtain ⟨message, hholds, hmessage⟩ := h
  exact ⟨_, message, hholds, .given r.success, hmessage⟩

/-- The only item of an array would have to say success and to be the contents. -/
theorem not_reads_of_array {items : List Written} {e : Envelope}
    (hread : Json.read? body = some (.array items)) (he : IsEnvelope body e)
    (hsuccess : e.success = true) :
    (∀ quiz, ¬ IsQuiz body quiz) ∧ ∀ id, ¬ IsOpening body id := by
  have hitems {names : List String} {fields : List (Option Written)}
      (h : Holds body names fields) :
      items.length ≤ names.length ∧
        fields = items.map some ++ List.replicate (names.length - items.length) none := by
    obtain ⟨w, hw, hgives⟩ := h
    obtain rfl := Option.some.inj (hread.symm.trans hw)
    cases hgives with
    | array hlength => exact ⟨hlength, rfl⟩
  obtain ⟨success, message, hholds, hsays, -⟩ := he
  obtain ⟨-, hfields⟩ := hitems hholds
  rw [hsuccess] at hsays
  cases hsays
  -- The first item is there, and it is `true`.
  obtain ⟨rest, rfl⟩ : ∃ rest, items = .bool true :: rest := by
    cases items with
    | nil => simp at hfields
    | cons item rest =>
      rw [List.map_cons, List.cons_append] at hfields
      obtain rfl := Option.some.inj (List.cons.inj hfields).1
      exact ⟨rest, rfl⟩
  constructor
  · rintro quiz ⟨field, hholds, hquiz⟩
    obtain ⟨-, hfields⟩ := hitems hholds
    rw [List.map_cons, List.cons_append] at hfields
    obtain rfl := (List.cons.inj hfields).1
    cases hquiz
  · intro id hopening
    obtain ⟨-, hfields⟩ := hitems hopening
    rw [List.map_cons, List.cons_append] at hfields
    cases (List.cons.inj hfields).1

end

/-- The rules leave no choice: whatever an answer is, they allow one result. -/
theorem Judged.unique {α : Type} {reads : α → Prop} {fallback body : String} {status : Nat}
    {result result' : Except Failure α} (h : Judged reads fallback status body result)
    (h' : Judged reads fallback status body result') : result = result' := by
  by_cases hstatus : status < 400
  · by_cases he : ∃ e, IsEnvelope body e ∧ (e.success = true → ∃ a, reads a)
    · obtain ⟨e, he, ha⟩ := he
      cases hsuccess : e.success with
      | false => rw [h.rejected hstatus e he hsuccess, h'.rejected hstatus e he hsuccess]
      | true =>
        obtain ⟨a, ha⟩ := ha hsuccess
        rw [(h.ok_iff a).mpr ⟨hstatus, ⟨e, he, hsuccess⟩, ha⟩,
          (h'.ok_iff a).mpr ⟨hstatus, ⟨e, he, hsuccess⟩, ha⟩]
    · have hnone (e : Envelope) (h : IsEnvelope body e) : e.success = true ∧ ∀ a, ¬ reads a := by
        simpa using not_and.mp (not_exists.mp he e) h
      rw [h.unreadable hstatus hnone, h'.unreadable hstatus hnone]
  · have hstatus := Nat.le_of_not_lt hstatus
    by_cases he : ∃ e message, IsEnvelope body e ∧ e.message = some message
    · obtain ⟨e, message, he, hmessage⟩ := he
      rw [h.told hstatus e message he hmessage, h'.told hstatus e message he hmessage]
    · have hnone (e : Envelope) (h : IsEnvelope body e) : e.message = none :=
        Option.eq_none_iff_forall_ne_some.mpr fun message hmessage => he ⟨e, message, h, hmessage⟩
      by_cases hbody : body = ""
      · rw [h.empty hstatus hbody, h'.empty hstatus hbody]
      · rw [h.untold hstatus hnone hbody, h'.untold hstatus hnone hbody]

/-- No failure is taken for a success, whatever the status and the body of an answer are. A call
    that is answered succeeds only where the status, the envelope and its own reading of the body
    allow it, and what it fails with tells which of them did not. -/
theorem answered_judged (s : Service) (status : Nat) (body : String) :
    (∀ code request, s.loadRequest? code = some request →
      Judged (fun pool => ∃ items, IsQuiz body items ∧ pool = questionsOf (Text.trim code) items)
        "Failed to load quiz." status body (outcome (s.load · code) (.answered status body))) ∧
    (∀ code player request, s.startRequest? code player = some request →
      Judged (IsOpening body) "Could not start session." status body
        (outcome (s.start · code player) (.answered status body))) ∧
    ∀ session records request, s.submitRequest? session records = some request →
      Judged (IsReceipt body) "Could not submit results." status body
        (outcome (s.submit · session records) (.answered status body)) ∧
      ∀ r, outcome (s.submit · session records) (.answered status body) = .ok r →
        r.success = true := by
  refine ⟨fun code request => judged_load, fun code player request => judged_start,
    fun session records request hrequest => ⟨judged_submit hrequest, fun r hr => ?_⟩⟩
  obtain ⟨-, ⟨e, he, hsuccess⟩, hreceipt⟩ := ((judged_submit hrequest).ok_iff r).mp hr
  obtain rfl := he.unique hreceipt.isEnvelope
  exact hsuccess

/-- The array of `true` is an envelope and a receipt, but no quiz and no opening. -/
theorem answered_judged_array :
    outcome ((⟨"http://h", 1⟩ : Service).load · " c ") (.answered 200 "[true]") =
        .error .unreadable ∧
      outcome ((⟨"http://h", 1⟩ : Service).start · " c " "p") (.answered 200 "[true]") =
        .error .unreadable ∧
      outcome ((⟨"http://h", 1⟩ : Service).submit · "i" []) (.answered 200 "[true]") =
        .ok ⟨true, none⟩ := by
  obtain ⟨hload, hstart, hsubmit⟩ := answered_judged ⟨"http://h", 1⟩ 200 "[true]"
  have hread : Json.read? "[true]" = some (.array [.bool true]) := by rfl
  have hholds : Holds "[true]" ["success", "message"] [some (.bool true), none] :=
    ⟨_, hread, .array (by decide)⟩
  have henvelope : IsEnvelope "[true]" ⟨true, none⟩ := ⟨_, _, hholds, .given true, .leftOut⟩
  have hnone := not_reads_of_array hread henvelope rfl
  refine ⟨(hload " c " _ rfl).unreadable (by decide) fun e he => ?_,
    (hstart " c " "p" _ rfl).unreadable (by decide) fun e he => ?_,
    ((hsubmit "i" [] _ rfl).1.ok_iff _).mpr ⟨by decide, ⟨_, henvelope, rfl⟩, _, hholds, .leftOut⟩⟩
  · obtain rfl := he.unique henvelope
    exact ⟨rfl, fun pool ⟨items, hitems, _⟩ => hnone.1 items hitems⟩
  · obtain rfl := he.unique henvelope
    exact ⟨rfl, hnone.2⟩

end Service

end Quizmaster
