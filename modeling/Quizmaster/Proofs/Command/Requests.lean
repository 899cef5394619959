import Quizmaster.Proofs.Command.Course

namespace Quizmaster.Command.Occasion

open Service (outcome)

variable (o : Occasion) (replies : Nat → Service.Reply)

/-- What a test of a published quiz asks of the service, in this order. -/
inductive Trace (s : Service) (code player : String) : List Service.Request → Prop
  | nothing : Trace s code player []
  | loaded {load : Service.Request} (hload : s.loadRequest? code = some load) :
      Trace s code player [load]
  | opened {load start : Service.Request} (hload : s.loadRequest? code = some load)
      (hstart : s.startRequest? (Text.trim code) player = some start) :
      Trace s code player [load, start]
  | handedIn {load start submit : Service.Request} {id : String} {records : List (Option Record)}
      (hload : s.loadRequest? code = some load)
      (hstart : s.startRequest? (Text.trim code) player = some start)
      (hsubmit : s.submitRequest? id records = some submit) :
      Trace s code player [load, start, submit]

/-- The session was opened and the last question answered, and nothing went wrong here. -/
structure IsDue (id : String) (played : Round) (after : Desk) : Prop where
  attended_eq : o.attended (replies 0) = (.ok played, after)
  session_eq : o.session played.config (replies 1) = .ok id
  isFinished : played.app.session.isFinished = true

/-- What is asked of the service, and when, and what does not depend on its replies. -/
structure Correspondence (out : (Except Failure Unit × Desk) × List Service.Request) : Prop where
  /-- A quiz is loaded once at most, then a session opened, then its results handed in. -/
  ordered : out.2 = [] ∨ ∃ config app mid, o.opened = (.ok (config, app), mid) ∧
    Trace (serviceOf config) o.code config.player out.2
  blank : Text.trim o.code = "" → out.2 = []
  /-- A session is opened only for a quiz that was loaded and a test that is running. -/
  started : 1 < out.2.length → ∃ round mid pool, o.started (replies 0) = (.ok round, mid) ∧
    outcome ((serviceOf round.config).load · o.code) (replies 0) = .ok pool ∧
    round.app.session.state = .inProgress
  /-- Results are handed in exactly where they are due. -/
  handedIn_iff : out.2.length = 3 ↔ ∃ id played after, o.IsDue replies id played after
  /-- They are handed in for the session that was opened, with an entry for each question. -/
  handedIn : ∀ id played after, o.IsDue replies id played after → ∃ submit,
    out.2[2]? = some submit ∧
    (serviceOf played.config).submitRequest? id played.app.session.result.records = some submit ∧
    played.app.session.result.records.length = played.app.session.size
  /-- The command succeeds or fails as the test does without a session. -/
  result_eq : out.1.1 = (o.attended (replies 0)).1.map fun _ => ()
  /-- It leaves the same stars and the same report. -/
  disk_eq : out.1.2.disk = (o.attended (replies 0)).2.disk
  /-- It prints the same, and in the end that the results were taken, if they were. -/
  out_eq : out.1.2.out = (o.attended (replies 0)).2.out ∨
    ∃ id played after accepted, o.IsDue replies id played after ∧
      receipt played id (replies 2) = .ok accepted ∧
      out.1.2.out = (o.attended (replies 0)).2.out ++ receiptText (.ok accepted)

variable {o replies} {out : (Except Failure Unit × Desk) × List Service.Request}

/-- With or without a request for a session, at most two requests are there. -/
theorem Trace.of_start? {s : Service} {code player : String} {load : Service.Request}
    (hload : s.loadRequest? code = some load) :
    Trace s code player (load :: (s.startRequest? (Text.trim code) player).toList) := by
  cases hstart : s.startRequest? (Text.trim code) player with
  | none => exact .loaded hload
  | some start => exact .opened hload hstart

/-- The quiz is asked for first, then a session, then the results are handed in. -/
theorem Course.ordered (h : o.Course replies out) :
    out.2 = [] ∨ ∃ config app mid, o.opened = (.ok (config, app), mid) ∧
      Trace (serviceOf config) o.code config.player out.2 := by
  cases h with
  | unopened => exact .inl rfl
  | @unstarted config app mid _ _ _ hopened =>
    refine .inr ⟨config, app, mid, hopened, ?_⟩
    cases hload : (serviceOf config).loadRequest? o.code with
    | none => exact .nothing
    | some load => exact .loaded hload
  | failed hstarted hload | kept hstarted hload =>
    obtain ⟨⟨app, mid, hopened⟩, -, -⟩ := o.started_ok hstarted
    exact .inr ⟨_, app, mid, hopened, .of_start? hload⟩
  | handedIn hstarted hload _ _ _ _ hstart hsubmit =>
    obtain ⟨⟨app, mid, hopened⟩, -, -⟩ := o.started_ok hstarted
    exact .inr ⟨_, app, mid, hopened, .handedIn hload hstart hsubmit⟩

theorem Course.blank (h : o.Course replies out) (hblank : Text.trim o.code = "") : out.2 = [] := by
  have hnone (s : Service) : s.loadRequest? o.code = none := if_pos hblank
  cases h with
  | unopened => rfl
  | unstarted => rw [hnone, Option.toList_none]
  | failed _ hload | kept _ hload | handedIn _ hload =>
    rw [hnone] at hload
    cases hload

/-- A session is asked for only once the quiz is loaded and the test has started. -/
theorem Course.started (h : o.Course replies out) (hsent : 1 < out.2.length) :
    ∃ round mid pool, o.started (replies 0) = (.ok round, mid) ∧
      outcome ((serviceOf round.config).load · o.code) (replies 0) = .ok pool ∧
      round.app.session.state = .inProgress := by
  cases h with
  | unopened => simp at hsent
  | unstarted =>
    simp only at hsent
    exact absurd hsent (Nat.not_lt.mpr Option.length_toList_le)
  | @failed round mid _ _ _ _ hstarted | @kept round _ mid _ _ _ hstarted
  | @handedIn round _ mid _ _ _ _ _ _ hstarted =>
    obtain ⟨-, ⟨pool, hpool⟩, _, _, -, hsession⟩ := o.started_ok hstarted
    exact ⟨round, mid, pool, hstarted, hpool, by rw [hsession]; rfl⟩

/-- Where the test does not come to its end, nothing is due. -/
theorem not_isDue_of_error {failure : Failure} {after : Desk}
    (h : o.attended (replies 0) = (.error failure, after)) :
    ¬ ∃ id played after, o.IsDue replies id played after := by
  rintro ⟨id, played, after, hdue⟩
  cases h.symm.trans hdue.attended_eq

/-- Nor is anything due without a session or an answer to the last question. -/
theorem not_isDue_of_kept {config : Config} {played : Round} {after : Desk}
    (hattended : o.attended (replies 0) = (.ok played, after)) (hconfig : played.config = config)
    (hkept : ∀ id, o.session config (replies 1) = .ok id →
      played.app.session.isFinished = false) :
    ¬ ∃ id played after, o.IsDue replies id played after := by
  rintro ⟨id, played, after, hdue⟩
  cases hattended.symm.trans hdue.attended_eq
  have hfinished := hkept id (hconfig ▸ hdue.session_eq)
  rw [hdue.isFinished] at hfinished
  cases hfinished

/-- Results are handed in exactly if they are due. -/
theorem Course.handedIn_iff (h : o.Course replies out) :
    out.2.length = 3 ↔ ∃ id played after, o.IsDue replies id played after := by
  have hfew (request : Option Service.Request) : request.toList.length ≤ 1 :=
    Option.length_toList_le
  cases h with
  | unopened hattended => simp [not_isDue_of_error hattended]
  | @unstarted config _ _ _ _ _ _ hattended =>
    have := hfew ((serviceOf config).loadRequest? o.code)
    exact iff_of_false (by simp only; omega) (not_isDue_of_error hattended)
  | @failed round _ _ _ _ _ _ _ hattended =>
    have := hfew ((serviceOf round.config).startRequest? (Text.trim o.code) round.config.player)
    exact iff_of_false (by simp only [List.length_cons]; omega) (not_isDue_of_error hattended)
  | @kept round _ _ _ _ _ _ _ hattended hconfig hkept =>
    have := hfew ((serviceOf round.config).startRequest? (Text.trim o.code) round.config.player)
    exact iff_of_false (by simp only [List.length_cons]; omega)
      (not_isDue_of_kept hattended hconfig hkept)
  | handedIn _ _ hattended hconfig hsession hfinished =>
    exact iff_of_true rfl ⟨_, _, _, hattended, hconfig ▸ hsession, hfinished⟩

/-- There is a slot for every question of a test that was asked. -/
theorem records_length {round played : Round} {mid after : Desk}
    (hstarted : o.started (replies 0) = (.ok round, mid))
    (hattended : o.attended (replies 0) = (.ok played, after)) :
    played.app.session.result.records.length = played.app.session.size := by
  obtain ⟨-, -, acceptEmpty, questions, hne, hsession⟩ := o.started_ok hstarted
  have hround : round.app.session.Invariant acceptEmpty := by
    rw [hsession]
    exact (Session.Invariant.new acceptEmpty).start (Session.start_reset_eq (.new acceptEmpty) hne)
  obtain ⟨-, hplayed⟩ := attend_ok ((o.attended_of_started_ok hstarted).symm.trans hattended)
  exact (hplayed acceptEmpty hround).slots_length

/-- What is handed in has an entry for every question. -/
theorem Course.submit_of_isDue (h : o.Course replies out) {id : String} {played : Round}
    {after : Desk} (hdue : o.IsDue replies id played after) :
    ∃ submit, out.2[2]? = some submit ∧
      (serviceOf played.config).submitRequest? id played.app.session.result.records = some submit ∧
      played.app.session.result.records.length = played.app.session.size := by
  have hsome : ∃ id played after, o.IsDue replies id played after := ⟨id, played, after, hdue⟩
  cases h with
  | unopened hattended | unstarted _ hattended | failed _ _ hattended =>
    exact absurd hsome (not_isDue_of_error hattended)
  | kept _ _ hattended hconfig hkept =>
    exact absurd hsome (not_isDue_of_kept hattended hconfig hkept)
  | @handedIn _ _ _ _ _ _ submit _ _ hstarted _ hattended hconfig hsession _ _ hsubmit =>
    cases hattended.symm.trans hdue.attended_eq
    cases (hconfig ▸ hsession).symm.trans hdue.session_eq
    exact ⟨submit, rfl, hconfig ▸ hsubmit, records_length hstarted hattended⟩

/-- Whatever becomes of the session, the test goes as it does without one. -/
theorem Course.alike (h : o.Course replies out) :
    out.1.1 = (o.attended (replies 0)).1.map (fun _ => ()) ∧
    out.1.2.disk = (o.attended (replies 0)).2.disk ∧
    (out.1.2.out = (o.attended (replies 0)).2.out ∨
      ∃ id played after accepted, o.IsDue replies id played after ∧
        receipt played id (replies 2) = .ok accepted ∧
        out.1.2.out = (o.attended (replies 0)).2.out ++ receiptText (.ok accepted)) := by
  cases h with
  | unopened hattended | unstarted _ hattended | failed _ _ hattended | kept _ _ hattended =>
    rw [hattended]
    exact ⟨rfl, rfl, .inl rfl⟩
  | @handedIn round played _ after _ _ _ id _ _ _ hattended hconfig hsession hfinished =>
    have hdue : o.IsDue replies id played after := ⟨hattended, hconfig ▸ hsession, hfinished⟩
    rw [hattended]
    refine ⟨rfl, rfl, ?_⟩
    cases hreceipt : receipt played id (replies 2) with
    | error failure =>
      rw [receiptText_error, Desk.printed_empty]
      exact .inl rfl
    | ok accepted => exact .inr ⟨id, played, after, accepted, hdue, hreceipt, rfl⟩

/-- Whatever the service replies, a test of a published quiz asks for the quiz, a session and the
    results to be taken, in this order, the last of them exactly where a session was opened and the
    test came to its end; and the test itself goes as if there were no sessions. -/
theorem requests (o : Occasion) (replies : Nat → Service.Reply) :
    o.Correspondence replies (o.take replies) := by
  have hcourse := o.course replies
  obtain ⟨hresult, hdisk, hout⟩ := hcourse.alike
  exact {
    ordered := hcourse.ordered
    blank := hcourse.blank
    started := hcourse.started
    handedIn_iff := hcourse.handedIn_iff
    handedIn := fun _ _ _ => hcourse.submit_of_isDue
    result_eq := hresult
    disk_eq := hdisk
    out_eq := hout }

/-- The last question is answered and the results are handed in, though nobody takes them. -/
theorem requests_unanswered_results :
    ∃ (o : Occasion) (replies : Nat → Service.Reply) (id : String) (played : Round) (after : Desk),
      o.IsDue replies id played after ∧ (o.take replies).2.length = 3 := by
  let replies : Nat → Service.Reply
    | 0 => .answered 200
      "\x7b\"success\":true,\"quiz\":[\x7b\"Question\":\"q\",\"answer\":\"a\"\x7d]\x7d"
    | 1 => .answered 200 "\x7b\"success\":true,\"session_id\":\"s\"\x7d"
    | _ => .silent
  let o : Occasion := {
    env := .ofList [("QUIZRUN_API_URL", "http:h"), ("QUIZRUN_DATA_DIR", "d")]
    shuffle := .keep
    code := "c"
    options := {}
    lines := [some "a"]
    stamp := ⟨⟨List.replicate 32 '0'⟩, ⟨0, 0⟩, 0⟩
    desk := ⟨⟨.directory [], []⟩, "", []⟩ }
  have hsent : (o.take replies).2.length = 3 := by decide +kernel
  obtain ⟨id, played, after, hdue⟩ := (o.requests replies).handedIn_iff.mp hsent
  exact ⟨o, replies, id, played, after, hdue, hsent⟩

end Quizmaster.Command.Occasion
