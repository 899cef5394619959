import Quizmaster.Proofs.Json.NumeralText
import Quizmaster.Proofs.Text

namespace Quizmaster

namespace Sign

theorem scan_cases (cs : List Char) :
    (∃ rest, cs = '+' :: rest ∧ scan cs = (.plus, rest)) ∨
    (∃ rest, cs = '-' :: rest ∧ scan cs = (.minus, rest)) ∨
    (cs.head? ≠ some '+' ∧ cs.head? ≠ some '-' ∧ scan cs = (.absent, cs)) := by
  cases cs with
  | nil => exact .inr (.inr ⟨nofun, nofun, rfl⟩)
  | cons c rest =>
    by_cases hplus : c = '+'
    · exact .inl ⟨rest, by rw [hplus], by rw [hplus]; rfl⟩
    · by_cases hminus : c = '-'
      · exact .inr (.inl ⟨rest, by rw [hminus], by rw [hminus]; rfl⟩)
      · have hscan : scan (c :: rest) = (.absent, c :: rest) :=
          scan_text_append .absent fun _ => by simp [hplus, hminus]
        exact .inr (.inr ⟨by simpa using hplus, by simpa using hminus, hscan⟩)

/-- A sign and the rest make up the text. -/
theorem text_append_scan (cs : List Char) : (scan cs).1.text ++ (scan cs).2 = cs := by
  obtain ⟨rest, rfl, hscan⟩ | ⟨rest, rfl, hscan⟩ | ⟨-, -, hscan⟩ := scan_cases cs <;>
    rw [hscan] <;> rfl

end Sign

namespace Exponent

/-- An exponent and the rest make up the text. -/
theorem text_append_scan (cs : List Char) :
    ((scan cs).1.map text).getD [] ++ (scan cs).2 = cs := by
  cases cs with
  | nil => rfl
  | cons mark cs =>
    simp only [scan]
    split
    · simp [text, Sign.text_append_scan]
    · rfl

/-- An exponent that is found has digits. -/
theorem wellFormed_of_scan {cs rest : List Char} {e : Exponent} (h : scan cs = (some e, rest)) :
    e.WellFormed := by
  cases cs with
  | nil => cases h
  | cons mark cs =>
    simp only [scan] at h
    split at h
    · next hform =>
      cases h
      exact {
        mark_eq := hform.1
        digits_ne := hform.2
        isDigit := fun c hc => List.mem_takeWhile_imp hc }
    · cases h

theorem mem_text {e : Exponent} (h : e.WellFormed) {c : Char} (hc : c ∈ e.text) :
    c.isDigit = true ∨ c = '+' ∨ c = '-' ∨ c = 'e' ∨ c = 'E' := by
  rw [text, List.mem_cons, List.mem_append] at hc
  rcases hc with rfl | hsign | hdigits
  · exact .inr (.inr (.inr h.mark_eq))
  · cases hs : e.sign <;> simp [hs, Sign.text] at hsign <;> simp [hsign]
  · exact .inl (h.isDigit c hdigits)

end Exponent

namespace Numeral

theorem scanFraction_cases (cs : List Char) :
    (∃ rest, cs = '.' :: rest ∧
      scanFraction cs = (some (rest.takeWhile Char.isDigit), rest.dropWhile Char.isDigit)) ∨
    (cs.head? ≠ some '.' ∧ scanFraction cs = (none, cs)) := by
  unfold scanFraction
  split
  · next rest => exact .inl ⟨rest, rfl, rfl⟩
  · next hpoint =>
    refine .inr ⟨fun hhead => ?_, rfl⟩
    obtain ⟨rest, rfl⟩ := List.head?_eq_some_iff.mp hhead
    exact hpoint rest rfl

/-- A fraction and the rest make up the text. -/
theorem fractionText_append_scanFraction (cs : List Char) :
    fractionText (scanFraction cs).1 ++ (scanFraction cs).2 = cs := by
  obtain ⟨rest, rfl, hscan⟩ | ⟨-, hscan⟩ := scanFraction_cases cs
  · simp [hscan, fractionText]
  · simp [hscan, fractionText]

theorem scanFraction_isDigit {cs digits rest : List Char}
    (h : scanFraction cs = (some digits, rest)) : ∀ c ∈ digits, c.isDigit = true := by
  unfold scanFraction at h
  split at h
  · cases h
    exact fun c hc => List.mem_takeWhile_imp hc
  · cases h

section

variable {cs signed tail : List Char} {sign : Sign} {fraction : Option (List Char)}
  (hsign : Sign.scan cs = (sign, signed))
  (hfraction : scanFraction (signed.dropWhile Char.isDigit) = (fraction, tail))

include hsign

theorem signed_parts : sign.text ++ signed = cs := by
  simpa [hsign] using Sign.text_append_scan cs

theorem whole_parts :
    sign.text ++ signed.takeWhile Char.isDigit ++ signed.dropWhile Char.isDigit = cs := by
  rw [List.append_assoc, List.takeWhile_append_dropWhile, signed_parts hsign]

include hfraction

theorem fraction_parts :
    sign.text ++ signed.takeWhile Char.isDigit ++ fractionText fraction ++ tail = cs := by
  have hpoint := fractionText_append_scanFraction (signed.dropWhile Char.isDigit)
  rw [hfraction] at hpoint
  rw [List.append_assoc, hpoint, whole_parts hsign]

end

/-- A numeral that is found has parts that a numeral can have. -/
theorem wellFormed_of_scan? {cs rest : List Char} {n : Numeral} (h : scan? cs = some (n, rest)) :
    n.WellFormed := by
  simp only [scan?] at h
  split at h
  · cases h
  · next hdigit =>
    simp only [Option.some.injEq, Prod.mk.injEq] at h
    obtain ⟨rfl, -⟩ := h
    exact {
      whole_isDigit := fun c hc => List.mem_takeWhile_imp hc
      fraction_isDigit := fun digits hdigits => scanFraction_isDigit (Prod.ext hdigits rfl)
      hasDigit := hdigit
      exponent := fun e he => Exponent.wellFormed_of_scan (Prod.ext he rfl) }

/-- The numeral that is found and what is left make up the text. -/
theorem text_append_of_scan? {cs rest : List Char} {n : Numeral} (h : scan? cs = some (n, rest)) :
    n.text ++ rest = cs := by
  obtain ⟨⟨sign, signed⟩, hsign⟩ : ∃ found, Sign.scan cs = found := ⟨_, rfl⟩
  obtain ⟨⟨fraction, tail⟩, hfraction⟩ :
      ∃ found, scanFraction (signed.dropWhile Char.isDigit) = found := ⟨_, rfl⟩
  simp only [scan?, hsign, hfraction, Option.ite_none_left_eq_some, Option.some.injEq,
    Prod.mk.injEq] at h
  obtain ⟨-, rfl, rfl⟩ := h
  rw [text, List.append_assoc, Exponent.text_append_scan]
  exact fraction_parts hsign hfraction

/-- A numeral is read back from its text. -/
theorem ofText?_text {n : Numeral} (h : n.WellFormed) : ofText? (String.ofList n.text) = some n := by
  have hends : Ends [] := nofun
  have hscan := scan?_text_append h hends
  rw [List.append_nil] at hscan
  rw [ofText?, String.toList_ofList, hscan]

theorem scan?_of_ofText? {s : String} {n : Numeral} (h : ofText? s = some n) :
    scan? s.toList = some (n, []) := by
  unfold ofText? at h
  split at h
  · next numeral hscan =>
    cases h
    exact hscan
  · cases h

/-- The characters that numerals are written with. -/
def isNumeric (c : Char) : Bool :=
  c.isDigit || c == '+' || c == '-' || c == '.' || c == 'e' || c == 'E'

/-- Every character of a numeral is one that numerals are written with. -/
theorem isNumeric_of_mem_text {n : Numeral} (h : n.WellFormed) {c : Char} (hc : c ∈ n.text) :
    isNumeric c = true := by
  simp only [isNumeric, Bool.or_eq_true, beq_iff_eq]
  simp only [text, List.mem_append] at hc
  rcases hc with ((hsign | hwhole) | hfraction) | hexponent
  · cases hs : n.sign <;> simp [hs, Sign.text] at hsign <;> simp [hsign]
  · simp [h.whole_isDigit c hwhole]
  · cases hf : n.fraction with
    | none => simp [hf, fractionText] at hfraction
    | some digits =>
      rw [hf, fractionText, List.mem_cons] at hfraction
      rcases hfraction with rfl | hdigits
      · simp
      · simp [h.fraction_isDigit digits hf c hdigits]
  · cases he : n.exponent with
    | none => simp [he] at hexponent
    | some e =>
      have hmem : c ∈ e.text := by simpa [he] using hexponent
      have hchar := Exponent.mem_text (h.exponent e he) hmem
      tauto

theorem text_ne_nil {n : Numeral} (h : n.WellFormed) : n.text ≠ [] := by
  intro hempty
  simp only [text, List.append_eq_nil_iff] at hempty
  obtain ⟨⟨⟨-, hwhole⟩, hfraction⟩, -⟩ := hempty
  refine h.hasDigit ⟨hwhole, ?_⟩
  cases hf : n.fraction with
  | none => rfl
  | some digits => simp [hf, fractionText] at hfraction

/-- No numeral is written with white space or a comma. -/
theorem plain_of_isNumeric {c : Char} (h : isNumeric c = true) :
    Text.isBlank c = false ∧ c ≠ ',' := by
  simp only [isNumeric, Bool.or_eq_true, beq_iff_eq] at h
  rcases h with ((((hdigit | rfl) | rfl) | rfl) | rfl) | rfl
  · refine ⟨Text.isBlank_of_isDigit hdigit, ?_⟩
    rintro rfl
    exact absurd hdigit (by decide)
  all_goals decide

end Numeral

end Quizmaster
