import Quizmaster.Proofs.Disk
import Quizmaster.Proofs.Json.FloatText
import Quizmaster.Proofs.Records
import Quizmaster.Proofs.Session.Invariant
import Quizmaster.Proofs.Uuid
import Quizmaster.Report

namespace Quizmaster

open Json Binary64

namespace Result

variable {correct total : Nat}

/-- The percentage is the rounded share, taken a hundredfold and rounded again. -/
theorem percentOf_eq_some (htotal : total ≠ 0) {share percent : Binary64}
    (hshare : (Binary64.ofNat correct).div? (.ofNat total) = some share)
    (hpercent : share.mul? (.ofNat 100) = some percent) : percentOf correct total = percent := by
  rw [percentOf, if_neg htotal]
  dsimp only
  rw [hshare, Option.bind_some, hpercent, Option.getD_some]

/-- The share of right answers is two at most, however it is rounded, and it is no less than the
    smallest one. -/
theorem share_spec {least : Nat} (hleast : Representable least) (hone : least * 2 ^ 64 = one)
    (hpos : 0 < correct) (hle : correct ≤ total) (htotal : total < 2 ^ 64) :
    ∃ share, (Binary64.ofNat correct).div? (.ofNat total) = some share ∧
      least ≤ share.units ∧ share.units ≤ 2 * one := by
  have hne : total ≠ 0 := by omega
  have hself : 2 ^ total.log2 ≤ total := Nat.log2_self_le hne
  have hlt : total < 2 ^ (total.log2 + 1) := Nat.lt_log2_self
  have hleft : one ≤ (Binary64.ofNat correct).units := one_le_ofNat hpos
  have hleft' : (Binary64.ofNat correct).units ≤ 2 ^ (total.log2 + 1) * one :=
    ofNat_le (representable_two_pow_mul_one _) (hle.trans hlt.le)
  have hright : 2 ^ total.log2 * one ≤ (Binary64.ofNat total).units :=
    le_ofNat (representable_two_pow_mul_one _) hself
  have hright' : (Binary64.ofNat total).units ≤ 2 ^ 64 * one :=
    ofNat_le (representable_two_pow_mul_one _) htotal.le
  have htwo : Representable (2 * one) := representable_natural (by decide)
  have hd : 0 < (Binary64.ofNat total).units :=
    (Nat.mul_pos (Nat.two_pow_pos _) Binary64.one_pos).trans_le hright
  have habove : (Binary64.ofNat correct).units * one ≤ 2 * one * (Binary64.ofNat total).units :=
    calc _ ≤ 2 ^ (total.log2 + 1) * one * one := Nat.mul_le_mul_right one hleft'
      _ = 2 * one * (2 ^ total.log2 * one) := by rw [Nat.pow_succ]; ring
      _ ≤ _ := Nat.mul_le_mul_left _ hright
  have hbelow : least * (Binary64.ofNat total).units ≤ (Binary64.ofNat correct).units * one :=
    calc _ ≤ least * (2 ^ 64 * one) := Nat.mul_le_mul_left least hright'
      _ = one * one := by rw [← Nat.mul_assoc, hone]
      _ ≤ _ := Nat.mul_le_mul_right one hleft
  have hfinite : 2 * one < limit := by decide +kernel
  exact ⟨_, div?_eq_some hd htwo hfinite habove, le_roundUnits hd hleast hbelow,
    roundUnits_le hd htwo habove⟩

/-- A score is zero or of moderate size, and it is a number of binary64. -/
theorem percentOf_spec (hle : correct ≤ total) (htotal : total < 2 ^ 64) :
    (percentOf correct total).units = 0 ∨
      Number.Moderate (percentOf correct total).units ∧
        Representable (percentOf correct total).units := by
  by_cases hne : total = 0
  · left
    rw [percentOf, if_pos hne]
    rfl
  obtain rfl | hpos := Nat.eq_zero_or_pos correct
  · left
    have hzero : (Binary64.ofNat 0).units = 0 := by
      rw [units_ofNat (representable_natural (Nat.zero_le _)), Nat.zero_mul]
    have hshare : (Binary64.ofNat 0).div? (.ofNat total) = some .zero := by
      have hd : 0 < (Binary64.ofNat total).units :=
        Binary64.one_pos.trans_le (one_le_ofNat (Nat.pos_of_ne_zero hne))
      rw [div?_ofNat (Nat.zero_le _) (Nat.pos_of_ne_zero hne), hzero, Nat.zero_mul,
        roundUnits_zero hd]
      rfl
    have hpercent : Binary64.zero.mul? (.ofNat 100) = some .zero := by decide +kernel
    rw [percentOf_eq_some hne hshare hpercent]
    rfl
  right
  obtain ⟨least, hleast, hone⟩ := exists_mul_two_pow_eq_one (k := 64) (by decide)
  obtain ⟨share, hshare, hlow, hhigh⟩ := share_spec hleast hone hpos hle htotal
  have hhundred : (Binary64.ofNat 100).units = 100 * one :=
    units_ofNat (representable_natural (by decide))
  have htop : Representable (2 ^ 8 * one) := representable_two_pow_mul_one 8
  have habove : share.units * (Binary64.ofNat 100).units ≤ 2 ^ 8 * one * one := by
    rw [hhundred]
    calc share.units * (100 * one) ≤ 2 * one * (100 * one) := Nat.mul_le_mul_right _ hhigh
      _ = 200 * (one * one) := by ring
      _ ≤ 2 ^ 8 * (one * one) := Nat.mul_le_mul_right _ (by decide)
      _ = 2 ^ 8 * one * one := by ring
  have hbelow : least * one ≤ share.units * (Binary64.ofNat 100).units := by
    rw [hhundred]
    calc least * one ≤ share.units * one := Nat.mul_le_mul_right one hlow
      _ ≤ share.units * (100 * one) := Nat.mul_le_mul_left _ (Nat.le_mul_of_pos_left _ (by decide))
  have hfinite : 2 ^ 8 * one < limit := by decide +kernel
  rw [percentOf_eq_some hne hshare (mul?_eq_some htop hfinite habove)]
  refine ⟨⟨?_, ?_⟩, representable_roundUnits Binary64.one_pos _⟩
  · calc one = least * 2 ^ 64 := hone.symm
      _ ≤ _ := Nat.mul_le_mul (le_roundUnits Binary64.one_pos hleast hbelow) (by norm_num)
  · refine (roundUnits_le Binary64.one_pos htop habove).trans_lt ?_
    exact Nat.mul_lt_mul_of_pos_right (by decide) Binary64.one_pos

theorem legible_toJson {r : Result} (h : r.percent.units = 0 ∨ Number.Moderate r.percent.units) :
    r.toJson.Legible :=
  ⟨(Number.binary64?_written_float h).1, legible_nat _, legible_nat _,
    legible_array r.records (legible_ofOption Record.legible_toJson), trivial⟩

/-- A result is read back but for its score, which is read as `reread?` says. -/
theorem ofWritten?_written {r : Result} {percent : Binary64}
    (h : r.percent.units = 0 ∨ Number.Moderate r.percent.units)
    (hpercent : Number.reread? r.percent = some percent)
    (hcorrect : r.correct ≤ Number.significandLimit) (htotal : r.total ≤ Number.significandLimit) :
    ofWritten? r.toJson.written = some { r with percent := percent } := by
  have hfloat := (Number.binary64?_written_float h).2
  rw [hpercent] at hfloat
  have hrecords : (Json.array (r.records.map (Json.ofOption Record.toJson))).written.list?
      (Written.nullable? Record.ofWritten?) = some r.records :=
    list?_written_array fun slot _ =>
      nullable?_written_ofOption Record.ofWritten?_written Record.written_toJson_ne_null slot
  have hright := nat?_written_nat hcorrect
  have hall := nat?_written_nat htotal
  rw [toJson, written]
  simp [writtenMembers, ofWritten?, Written.fields?, Written.required, hfloat, hrecords, hright, hall]

end Result

namespace Session

/-- No more answers are right than there are questions. -/
theorem correct_le_total {acceptEmpty : Bool} {s : Session} (h : s.Invariant acceptEmpty) :
    s.result.correct ≤ s.result.total :=
  List.countP_le_length.trans h.slots_length.le

/-- The score of a session that has come to be in any way is zero or of moderate size. -/
theorem percent_spec {acceptEmpty : Bool} {s : Session} (h : s.Invariant acceptEmpty)
    (hsize : s.result.total < 2 ^ 64) :
    s.result.percent.units = 0 ∨
      Number.Moderate s.result.percent.units ∧ Representable s.result.percent.units :=
  Result.percentOf_spec (correct_le_total h) hsize

end Session

namespace Report

/-- What is needed of a report to be read back: counts of 64 bits, a score that is not too small or
    large, and a time that its text tells. -/
structure Readable (r : Report) : Prop where
  percent : r.result.percent.units = 0 ∨ Number.Moderate r.result.percent.units
  correct : r.result.correct ≤ Number.significandLimit
  total : r.result.total ≤ Number.significandLimit
  duration : r.duration ≤ Number.significandLimit
  createdAt : Instant.parse? r.createdAt.text = some r.createdAt

section

variable {r : Report} {percent : Binary64} {path : String} {disk after : Disk}

theorem Readable.legible_toJson (h : r.Readable) : r.toJson.Legible := by
  have hcode : (ofOption Json.string r.quizCode).Legible := by
    cases r.quizCode <;> exact trivial
  exact ⟨trivial, trivial, trivial, hcode, Result.legible_toJson h.percent, legible_nat _, trivial⟩

/-- A report is read back but for its score. -/
theorem Readable.ofWritten?_written (h : r.Readable)
    (hpercent : Number.reread? r.result.percent = some percent) :
    ofWritten? r.toJson.written =
      some { r with result := { r.result with percent := percent } } := by
  have hcode : Written.nullable? Written.text? (ofOption Json.string r.quizCode).written =
      some r.quizCode := nullable?_written_ofOption (fun _ => rfl) (by simp [written]) r.quizCode
  have hresult := Result.ofWritten?_written h.percent hpercent h.correct h.total
  have hduration := nat?_written_nat h.duration
  rw [toJson, written]
  simp [writtenMembers, ofWritten?, Written.fields?, fieldNames, Written.required, Written.orElse,
    Uuid.parse?_text, h.createdAt, hcode, hresult, hduration]

theorem load_eq_ok {text : String} (hread : disk.read path = .ok text)
    (hdecode : decode? text = some r) : load path disk = .ok r := by
  rw [load, hread]
  simp [Except.mapError, bind, Except.bind, hdecode, pure, Except.pure]

theorem save_eq_ok_iff : r.save path disk = (.ok (), after) ↔
    disk.save path r.toJson.pretty = (.ok (), after) := by
  rw [save]
  generalize disk.save path r.toJson.pretty = saved
  obtain ⟨result, after⟩ := saved
  cases result <;> simp [Except.mapError]

/-- A report that was saved is loaded with the score that its text is read as. -/
theorem Readable.load_of_save (h : r.Readable)
    (hpercent : Number.reread? r.result.percent = some percent)
    (hsave : r.save path disk = (.ok (), after)) :
    load path after = .ok { r with result := { r.result with percent := percent } } := by
  have hdecode : decode? r.toJson.pretty =
      some { r with result := { r.result with percent := percent } } := by
    rw [decode?, read?_pretty h.legible_toJson, Option.bind_some, h.ofWritten?_written hpercent]
  exact load_eq_ok (Disk.read_of_save (save_eq_ok_iff.mp hsave)).2 hdecode

/-- A report is loaded unchanged exactly if its score is read back. -/
theorem Readable.load_eq_self_iff (h : r.Readable)
    (hpercent : Number.reread? r.result.percent = some percent)
    (hsave : r.save path disk = (.ok (), after)) :
    load path after = .ok r ↔ percent = r.result.percent := by
  rw [h.load_of_save hpercent hsave]
  constructor
  · intro heq
    exact congrArg (·.result.percent) (Except.ok.inj heq)
  · rintro rfl
    rfl

/-- The report of a session, of however many questions and whatever was answered, is loaded from the
    file that it was saved in. All of it comes back, except that the score is the quotient which the
    reader makes of its shortest decimal. So the report is unchanged exactly if that quotient is the
    score, and it is wherever the digits of the decimal are a whole number of binary64 and their last
    one stands no further than twenty-two places behind the point. -/
theorem load_of_save_session {acceptEmpty : Bool} {calls : List Session.Call}
    (hresult : r.result = ((Session.new acceptEmpty).run calls).result)
    (hsize : r.result.total < 2 ^ 64) (hduration : r.duration < 2 ^ 64)
    (hcreated : Instant.parse? r.createdAt.text = some r.createdAt)
    (hsave : r.save path disk = (.ok (), after)) :
    ∃ percent, Number.reread? r.result.percent = some percent ∧
      load path after = .ok { r with result := { r.result with percent := percent } } ∧
      (load path after = .ok r ↔ percent = r.result.percent) ∧
      let d := shortest r.result.percent.units
      (Binary64.ofNat d.digits).units = d.digits * one → -22 ≤ d.exponent →
        load path after = .ok r := by
  have hinvariant := (Session.Invariant.new acceptEmpty).run calls
  have htotal : r.result.total ≤ Number.significandLimit := Nat.le_sub_one_of_lt hsize
  have hcorrect : r.result.correct ≤ r.result.total := by
    rw [hresult]
    exact Session.correct_le_total hinvariant
  have hpercent : r.result.percent.units = 0 ∨
      Number.Moderate r.result.percent.units ∧ Representable r.result.percent.units := by
    rw [hresult] at hsize ⊢
    exact Session.percent_spec hinvariant hsize
  have hreadable : r.Readable := {
    percent := hpercent.imp_right And.left
    correct := hcorrect.trans htotal
    total := htotal
    duration := Nat.le_sub_one_of_lt hduration
    createdAt := hcreated }
  obtain ⟨percent, hreread⟩ := Number.exists_reread? hreadable.percent
  have hsame := hreadable.load_eq_self_iff hreread hsave
  refine ⟨percent, hreread, hreadable.load_of_save hreread hsave, hsame, fun hdigits hpower => ?_⟩
  refine hsame.mpr ?_
  obtain hzero | ⟨hmoderate, hunits⟩ := hpercent
  · rw [Number.reread?, if_pos (isZero_iff.mpr hzero)] at hreread
    exact (Option.some.inj hreread).symm
  · rw [Number.reread?_eq_self hmoderate hunits rfl hdigits hpower] at hreread
    exact (Option.some.inj hreread).symm

/-- A file can be written in an empty directory. -/
theorem save_in_empty_directory (r : Report) :
    ∃ after, r.save "report.json" ⟨.directory [], []⟩ = (.ok (), after) := by
  have hwrite (text : String) : (Disk.save ⟨.directory [], []⟩ "report.json" text).1 = .ok () := rfl
  exact ⟨_, save_eq_ok_iff.mpr (Prod.ext (hwrite _) rfl)⟩

/-- One right answer of three questions, `33.33333333333333` percent. -/
theorem load_of_save_session_third :
    ∃ (calls : List Session.Call) (r : Report) (after : Disk),
      r.result = ((Session.new false).run calls).result ∧ r.result.correct = 1 ∧
        r.result.total = 3 ∧ r.player = "\"\n" ∧
        r.save "report.json" ⟨.directory [], []⟩ = (.ok (), after) ∧
        load "report.json" after = .ok r := by
  let q : Question := .plain "q" .ordering "" [""] (.ordering ["", ""])
  let calls : List Session.Call := [.start [q, q, q], .submit (.ordering ["", ""]), .advance]
  let r : Report := {
    id := .ofRandom 0x67e5504410b1426f9247bb680e5fe0c8
    createdAt := ⟨1709210096, 789000000⟩
    player := "\"\n"
    quizCode := none
    result := ((Session.new false).run calls).result
    duration := 1234 }
  obtain ⟨after, hsave⟩ := save_in_empty_directory r
  have hresult : r.result = ((Session.new false).run calls).result := rfl
  obtain ⟨-, -, -, -, hsame⟩ := load_of_save_session hresult (by decide +kernel) (by decide)
    (by decide +kernel) hsave
  exact ⟨calls, r, after, hresult, by decide +kernel, rfl, rfl, hsave,
    hsame (by decide +kernel) (by decide +kernel)⟩

/-- Two right answers of thirteen questions, `15.384615384615385` percent, are loaded as
    `15.384615384615383` percent. -/
theorem load_of_save_two_of_thirteen :
    ∃ (calls : List Session.Call) (r : Report) (after : Disk),
      r.result = ((Session.new false).run calls).result ∧ r.result.correct = 2 ∧
        r.result.total = 13 ∧ Uuid.parse? r.id.text = some r.id ∧
        Instant.parse? r.createdAt.text = some r.createdAt ∧
        r.save "report.json" ⟨.directory [], []⟩ = (.ok (), after) ∧
        load "report.json" after ≠ .ok r := by
  let q : Question := .plain "q" .single "Which?" ["yes", "no"] (.single "yes")
  let calls : List Session.Call :=
    [.start (List.replicate 13 q), .submit (.single "yes"), .advance, .submit (.single "yes")]
  let r : Report := {
    id := .ofRandom 0x67e5504410b1426f9247bb680e5fe0c8
    createdAt := ⟨1709210096, 789000000⟩
    player := "ada"
    quizCode := none
    result := ((Session.new false).run calls).result
    duration := 1234 }
  have hreadable : r.Readable := {
    percent := .inr ⟨by decide +kernel, by decide +kernel⟩
    correct := by decide +kernel
    total := by decide +kernel
    duration := by decide +kernel
    createdAt := by decide +kernel }
  have hlost : Number.reread? r.result.percent ≠ some r.result.percent := by decide +kernel
  obtain ⟨after, hsave⟩ := save_in_empty_directory r
  obtain ⟨percent, hreread⟩ := Number.exists_reread? hreadable.percent
  refine ⟨calls, r, after, rfl, by decide +kernel, by decide +kernel, Uuid.parse?_text _,
    hreadable.createdAt, hsave, fun hload => hlost ?_⟩
  rw [hreread, (hreadable.load_eq_self_iff hreread hsave).mp hload]

end

end Report

end Quizmaster
