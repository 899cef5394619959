import Quizmaster.Numeral

namespace Quizmaster

/-- What is needed of an exponent to be one that a scan can find. -/
structure Exponent.WellFormed (e : Exponent) : Prop where
  mark_eq : e.mark = 'e' ∨ e.mark = 'E'
  digits_ne : e.digits ≠ []
  isDigit : ∀ c ∈ e.digits, c.isDigit = true

/-- What is needed of a numeral's parts to be those that a scan can find. -/
structure Numeral.WellFormed (n : Numeral) : Prop where
  whole_isDigit : ∀ c ∈ n.whole, c.isDigit = true
  fraction_isDigit : ∀ digits, n.fraction = some digits → ∀ c ∈ digits, c.isDigit = true
  hasDigit : ¬ (n.whole = [] ∧ n.fraction.getD [] = [])
  exponent : ∀ e, n.exponent = some e → e.WellFormed

/-- A text that goes on no numeral before it. -/
def Numeral.Ends (rest : List Char) : Prop :=
  ∀ c, rest.head? = some c → c.isDigit = false ∧ c ≠ '.' ∧ c ≠ 'e' ∧ c ≠ 'E'

theorem takeWhile_append_of_head {p : Char → Bool} {cs rest : List Char}
    (hcs : ∀ c ∈ cs, p c = true) (hrest : ∀ c, rest.head? = some c → p c = false) :
    (cs ++ rest).takeWhile p = cs ∧ (cs ++ rest).dropWhile p = rest := by
  rw [List.takeWhile_append_of_pos hcs, List.dropWhile_append_of_pos hcs]
  cases rest with
  | nil => simp
  | cons c rest => simp [hrest c rfl]

/-- A sign is scanned back, and none is found where there is none. -/
theorem Sign.scan_text_append (sign : Sign) {cs : List Char}
    (hcs : sign = .absent → cs.head? ≠ some '+' ∧ cs.head? ≠ some '-') :
    Sign.scan (sign.text ++ cs) = (sign, cs) := by
  cases sign with
  | plus => rfl
  | minus => rfl
  | absent =>
    obtain ⟨hplus, hminus⟩ := hcs rfl
    simp only [Sign.text, List.nil_append]
    unfold Sign.scan
    split
    · simp at hplus
    · simp at hminus
    · rfl

theorem not_sign_of_isDigit {c : Char} (h : c.isDigit = true) : c ≠ '+' ∧ c ≠ '-' := by
  constructor <;> rintro rfl <;> exact absurd h (by decide)

/-- Whatever follows a mark, a sign and digits, they are found, with all digits that go on. -/
theorem Exponent.scan_text_extended {e : Exponent} (h : e.WellFormed) (rest : List Char) :
    Exponent.scan (e.text ++ rest) =
      (some { e with digits := e.digits ++ rest.takeWhile Char.isDigit },
        rest.dropWhile Char.isDigit) := by
  have htake : (e.digits ++ rest).takeWhile Char.isDigit = e.digits ++ rest.takeWhile Char.isDigit :=
    List.takeWhile_append_of_pos h.isDigit
  have hdrop : (e.digits ++ rest).dropWhile Char.isDigit = rest.dropWhile Char.isDigit :=
    List.dropWhile_append_of_pos h.isDigit
  have hsign : Sign.scan (e.sign.text ++ (e.digits ++ rest)) = (e.sign, e.digits ++ rest) := by
    refine Sign.scan_text_append e.sign fun _ => ?_
    obtain ⟨c, digits, hdigits⟩ := List.exists_cons_of_ne_nil h.digits_ne
    obtain ⟨hplus, hminus⟩ := not_sign_of_isDigit (h.isDigit c (by simp [hdigits]))
    simp [hdigits, hplus, hminus]
  simp only [Exponent.text, List.cons_append, List.append_assoc, Exponent.scan, hsign, htake, hdrop]
  rw [if_pos ⟨h.mark_eq, by simp [h.digits_ne]⟩]

/-- An exponent is scanned back, if no digit follows. -/
theorem Exponent.scan_text_append {e : Exponent} (h : e.WellFormed) {rest : List Char}
    (hrest : Numeral.Ends rest) : Exponent.scan (e.text ++ rest) = (some e, rest) := by
  have hnone : ∀ c ∈ ([] : List Char), c.isDigit = true := nofun
  obtain ⟨htake, hdrop⟩ := takeWhile_append_of_head hnone fun c hc => (hrest c hc).1
  rw [List.nil_append] at htake hdrop
  rw [Exponent.scan_text_extended h, htake, hdrop, List.append_nil]

theorem Exponent.scan_of_ends {rest : List Char} (hrest : Numeral.Ends rest) :
    Exponent.scan rest = (none, rest) := by
  cases rest with
  | nil => rfl
  | cons c rest =>
    obtain ⟨-, -, hsmall, hlarge⟩ := hrest c rfl
    simp [Exponent.scan, hsmall, hlarge]

/-- What follows the digits of a numeral, its exponent or the rest of the text, is no digit and no
    point. -/
theorem Numeral.head?_exponentText {n : Numeral} (h : n.WellFormed) {rest : List Char}
    (hrest : Ends rest) :
    ∀ c, ((n.exponent.map Exponent.text).getD [] ++ rest).head? = some c →
      c.isDigit = false ∧ c ≠ '.' := by
  intro c hc
  cases he : n.exponent with
  | none =>
    rw [he] at hc
    exact ⟨(hrest c hc).1, (hrest c hc).2.1⟩
  | some e =>
    have hmark : e.mark = c := by simpa [he, Exponent.text] using hc
    subst hmark
    obtain hmark | hmark := (h.exponent e he).mark_eq <;> rw [hmark] <;> decide

section

variable {n : Numeral}

/-- The sign is told from what follows it, which is a digit or a point. -/
theorem Numeral.scan_sign (h : n.WellFormed) (tail : List Char) :
    Sign.scan (n.sign.text ++ (n.whole ++ (fractionText n.fraction ++ tail))) =
      (n.sign, n.whole ++ (fractionText n.fraction ++ tail)) := by
  refine Sign.scan_text_append n.sign fun _ => ?_
  cases hwhole : n.whole with
  | cons c digits =>
    obtain ⟨hplus, hminus⟩ := not_sign_of_isDigit (h.whole_isDigit c (by simp [hwhole]))
    simp [hplus, hminus]
  | nil =>
    cases hf : n.fraction with
    | none => exact absurd ⟨hwhole, by simp [hf]⟩ h.hasDigit
    | some digits => simp [fractionText]

/-- The digits before and after the point are found, up to something that is no digit and no
    point. -/
theorem Numeral.scan_mantissa (h : n.WellFormed) {tail : List Char}
    (htail : ∀ c, tail.head? = some c → c.isDigit = false ∧ c ≠ '.') :
    (n.whole ++ (fractionText n.fraction ++ tail)).takeWhile Char.isDigit = n.whole ∧
      scanFraction ((n.whole ++ (fractionText n.fraction ++ tail)).dropWhile Char.isDigit) =
        (n.fraction, tail) := by
  have hfraction : scanFraction (fractionText n.fraction ++ tail) = (n.fraction, tail) := by
    cases hf : n.fraction with
    | none =>
      simp only [fractionText, List.nil_append]
      unfold scanFraction
      split
      · exact absurd rfl (htail '.' rfl).2
      · rfl
    | some digits =>
      obtain ⟨htake, hdrop⟩ := takeWhile_append_of_head (h.fraction_isDigit digits hf)
        fun c hc => (htail c hc).1
      simp [fractionText, scanFraction, htake, hdrop]
  have hpoint : ∀ c, (fractionText n.fraction ++ tail).head? = some c → c.isDigit = false := by
    intro c hc
    cases hf : n.fraction with
    | none => exact (htail c (by simpa [hf, fractionText] using hc)).1
    | some digits =>
      have : '.' = c := by simpa [hf, fractionText] using hc
      subst this
      decide
  obtain ⟨htake, hdrop⟩ := takeWhile_append_of_head h.whole_isDigit hpoint
  rw [hdrop]
  exact ⟨htake, hfraction⟩

/-- The text of a numeral is scanned back in full, wherever no digit, point or exponent mark
    follows. -/
theorem Numeral.scan?_text_append (h : n.WellFormed) {rest : List Char}
    (hrest : Ends rest) : scan? (n.text ++ rest) = some (n, rest) := by
  have htail := head?_exponentText h hrest
  generalize htext : (n.exponent.map Exponent.text).getD [] ++ rest = tail at htail
  have hexponent : Exponent.scan tail = (n.exponent, rest) := by
    rw [← htext]
    cases he : n.exponent with
    | none => simpa using Exponent.scan_of_ends hrest
    | some e => simpa using Exponent.scan_text_append (h.exponent e he) hrest
  obtain ⟨htake, hfraction⟩ := scan_mantissa h htail
  simp only [text, List.append_assoc, htext, scan?, scan_sign h, htake, hfraction, hexponent]
  rw [if_neg h.hasDigit]

end

end Quizmaster
