import Mathlib.Computability.RegularExpressions
import Mathlib.Tactic.IntervalCases
import Quizmaster.Proofs.Numeral.Extent

namespace Quizmaster

namespace Numeral

open RegularExpression

/-- One of these characters. -/
def oneOf (cs : List Char) : RegularExpression Char := (cs.map char).sum

def optional (r : RegularExpression Char) : RegularExpression Char := 1 + r

def digit : RegularExpression Char :=
  oneOf ['0', '1', '2', '3', '4', '5', '6', '7', '8', '9']

/-- `d+` -/
def digits : RegularExpression Char := digit * star digit

/-- `[+-]?` -/
def anySign : RegularExpression Char := optional (oneOf ['+', '-'])

/-- `d+(.d*)?|.d+` -/
def mantissa : RegularExpression Char :=
  digits * optional (char '.' * star digit) + char '.' * digits

/-- `([eE][+-]?d+)?` -/
def anyExponent : RegularExpression Char :=
  optional (oneOf ['e', 'E'] * (anySign * digits))

/-- `[+-]?(d+(.d*)?|.d+)([eE][+-]?d+)?` -/
def grammar : RegularExpression Char := anySign * (mantissa * anyExponent)

theorem mem_oneOf_iff {chars cs : List Char} :
    cs ∈ (oneOf chars).matches' ↔ ∃ c ∈ chars, cs = [c] := by
  induction chars with
  | nil => simp [oneOf]
  | cons c chars ih =>
    have hstep : cs ∈ (oneOf (c :: chars)).matches' ↔ cs = [c] ∨ cs ∈ (oneOf chars).matches' := .rfl
    rw [hstep, ih]
    simp

theorem mem_optional_iff {r : RegularExpression Char} {cs : List Char} :
    cs ∈ (optional r).matches' ↔ cs = [] ∨ cs ∈ r.matches' := by
  rw [optional, matches'_add, matches'_epsilon, Language.mem_add, Language.mem_one]

/-- The ten digits. -/
theorem mem_digit_iff {cs : List Char} :
    cs ∈ digit.matches' ↔ ∃ c, c.isDigit = true ∧ cs = [c] := by
  have hdigit (c : Char) : c ∈ ['0', '1', '2', '3', '4', '5', '6', '7', '8', '9'] ↔
      c.isDigit = true := by
    refine ⟨fun hc => List.all_eq_true.mp (by decide) c hc, fun hc => ?_⟩
    obtain ⟨hzero, hnine⟩ : 48 ≤ c.toNat ∧ c.toNat ≤ 57 := Char.isDigit_iff_toNat.mp hc
    rw [← Char.ofNat_toNat c]
    interval_cases c.toNat <;> decide
  simp only [digit, mem_oneOf_iff, hdigit]

theorem mem_star_digit_iff {cs : List Char} :
    cs ∈ (star digit).matches' ↔ ∀ c ∈ cs, c.isDigit = true := by
  rw [matches'_star, Language.mem_kstar]
  constructor
  · rintro ⟨pieces, rfl, hpieces⟩ c hc
    obtain ⟨piece, hpiece, hmem⟩ := List.mem_flatten.mp hc
    obtain ⟨d, hd, rfl⟩ := mem_digit_iff.mp (hpieces piece hpiece)
    rwa [List.mem_singleton.mp hmem]
  · intro h
    refine ⟨cs.map ([·]), by simp [← List.flatMap_def], fun piece hpiece => ?_⟩
    obtain ⟨c, hc, rfl⟩ := List.mem_map.mp hpiece
    exact mem_digit_iff.mpr ⟨c, h c hc, rfl⟩

theorem mem_digits_iff {cs : List Char} :
    cs ∈ digits.matches' ↔ cs ≠ [] ∧ ∀ c ∈ cs, c.isDigit = true := by
  rw [digits, matches'_mul, Language.mem_mul]
  constructor
  · rintro ⟨first, hfirst, rest, hrest, rfl⟩
    obtain ⟨c, hc, rfl⟩ := mem_digit_iff.mp hfirst
    exact ⟨by simp, List.forall_mem_cons.mpr ⟨hc, mem_star_digit_iff.mp hrest⟩⟩
  · rintro ⟨hne, hdigits⟩
    obtain ⟨c, rest, rfl⟩ := List.exists_cons_of_ne_nil hne
    obtain ⟨hc, hrest⟩ := List.forall_mem_cons.mp hdigits
    exact ⟨[c], mem_digit_iff.mpr ⟨c, hc, rfl⟩, rest, mem_star_digit_iff.mpr hrest, rfl⟩

/-- A sign, or none. -/
theorem mem_anySign_iff {cs : List Char} :
    cs ∈ anySign.matches' ↔ ∃ sign : Sign, sign.text = cs := by
  rw [anySign, mem_optional_iff, mem_oneOf_iff]
  constructor
  · rintro (rfl | ⟨c, hc, rfl⟩)
    · exact ⟨.absent, rfl⟩
    · obtain rfl | rfl : c = '+' ∨ c = '-' := by simpa using hc
      · exact ⟨.plus, rfl⟩
      · exact ⟨.minus, rfl⟩
  · rintro ⟨sign, rfl⟩
    cases sign <;> simp [Sign.text]

/-- Digits on one side of the point at least. -/
theorem mem_mantissa_iff {cs : List Char} :
    cs ∈ mantissa.matches' ↔ ∃ (whole : List Char) (fraction : Option (List Char)),
      (∀ c ∈ whole, c.isDigit = true) ∧
      (∀ digits, fraction = some digits → ∀ c ∈ digits, c.isDigit = true) ∧
      ¬ (whole = [] ∧ fraction.getD [] = []) ∧ whole ++ fractionText fraction = cs := by
  simp only [mantissa, matches'_add, matches'_mul, matches'_char, Language.mem_add,
    Language.mem_mul, mem_optional_iff, mem_digits_iff, mem_star_digit_iff]
  constructor
  · rintro (⟨whole, ⟨hne, hwhole⟩, tail, (rfl | ⟨point, rfl, digits, hdigits, rfl⟩), rfl⟩ |
      ⟨point, rfl, digits, ⟨hne, hdigits⟩, rfl⟩)
    · exact ⟨whole, none, hwhole, nofun, fun h => hne h.1, rfl⟩
    · exact ⟨whole, some digits, hwhole, by rintro _ ⟨⟩; exact hdigits, fun h => hne h.1, rfl⟩
    · exact ⟨[], some digits, nofun, by rintro _ ⟨⟩; exact hdigits, fun h => hne h.2, rfl⟩
  · rintro ⟨whole, fraction, hwhole, hfraction, hdigit, rfl⟩
    cases fraction with
    | none =>
      have hne : whole ≠ [] := fun hempty => hdigit ⟨hempty, rfl⟩
      exact .inl ⟨whole, ⟨hne, hwhole⟩, [], .inl rfl, rfl⟩
    | some digits =>
      have hdigits := hfraction digits rfl
      by_cases hempty : whole = []
      · subst hempty
        exact .inr ⟨['.'], rfl, digits, ⟨fun h => hdigit ⟨rfl, h⟩, hdigits⟩, rfl⟩
      · exact .inl ⟨whole, ⟨hempty, hwhole⟩, '.' :: digits, .inr ⟨['.'], rfl, digits, hdigits, rfl⟩,
          rfl⟩

/-- An exponent with its digits, or none. -/
theorem mem_anyExponent_iff {cs : List Char} :
    cs ∈ anyExponent.matches' ↔ ∃ exponent : Option Exponent,
      (∀ e, exponent = some e → e.WellFormed) ∧ (exponent.map Exponent.text).getD [] = cs := by
  simp only [anyExponent, mem_optional_iff, matches'_mul, Language.mem_mul, mem_oneOf_iff,
    mem_anySign_iff, mem_digits_iff]
  constructor
  · rintro (rfl | ⟨_, ⟨mark, hmark, rfl⟩, _, ⟨_, ⟨sign, rfl⟩, digits, ⟨hne, hdigits⟩, rfl⟩, rfl⟩)
    · exact ⟨none, nofun, rfl⟩
    · exact ⟨some ⟨mark, sign, digits⟩, by rintro _ ⟨⟩; exact ⟨by simpa using hmark, hne, hdigits⟩, rfl⟩
  · rintro ⟨exponent, hexponent, rfl⟩
    cases exponent with
    | none => exact .inl rfl
    | some e =>
      obtain ⟨hmark, hne, hdigits⟩ := hexponent e rfl
      exact .inr ⟨[e.mark], ⟨e.mark, by simpa using hmark, rfl⟩, _,
        ⟨_, ⟨e.sign, rfl⟩, e.digits, ⟨hne, hdigits⟩, rfl⟩, rfl⟩

/-- The texts of the grammar are those of well-formed numerals. -/
theorem mem_grammar_iff {cs : List Char} :
    cs ∈ grammar.matches' ↔ ∃ n : Numeral, n.WellFormed ∧ n.text = cs := by
  simp only [grammar, matches'_mul, Language.mem_mul, mem_anySign_iff, mem_mantissa_iff,
    mem_anyExponent_iff]
  constructor
  · rintro ⟨_, ⟨sign, rfl⟩, _, ⟨_, ⟨whole, fraction, hwhole, hfraction, hdigit, rfl⟩, _,
      ⟨exponent, hexponent, rfl⟩, rfl⟩, rfl⟩
    exact ⟨⟨sign, whole, fraction, exponent⟩, ⟨hwhole, hfraction, hdigit, hexponent⟩,
      by simp [text]⟩
  · rintro ⟨n, ⟨hwhole, hfraction, hdigit, hexponent⟩, rfl⟩
    exact ⟨_, ⟨n.sign, rfl⟩, _, ⟨_, ⟨n.whole, n.fraction, hwhole, hfraction, hdigit, rfl⟩, _,
      ⟨n.exponent, hexponent, rfl⟩, rfl⟩, by simp [text]⟩

/-- What the scan finds once sign, digits and fraction are found. -/
theorem scan?_eq_some {cs signed tail : List Char} {sign : Sign} {fraction : Option (List Char)}
    (hsign : Sign.scan cs = (sign, signed))
    (hfraction : scanFraction (signed.dropWhile Char.isDigit) = (fraction, tail))
    (hdigit : ¬ (signed.takeWhile Char.isDigit = [] ∧ fraction.getD [] = [])) :
    scan? cs = some (⟨sign, signed.takeWhile Char.isDigit, fraction, (Exponent.scan tail).1⟩,
      (Exponent.scan tail).2) := by
  simp only [scan?, hsign, hfraction]
  rw [if_neg hdigit]

section

variable {m : Numeral} (h : m.WellFormed)

include h

/-- A numeral with an exponent is found up to its exponent, whose digits may go on. -/
theorem exists_scan?_of_exponent {e : Exponent} (he : m.exponent = some e) (rest : List Char) :
    ∃ n tail, scan? (m.text ++ rest) = some (n, tail) ∧ m.text <+: n.text := by
  have htext : m.text ++ rest =
      m.sign.text ++ (m.whole ++ (fractionText m.fraction ++ (e.text ++ rest))) := by
    simp [text, he]
  have hmark : ∀ c, (e.text ++ rest).head? = some c → c.isDigit = false ∧ c ≠ '.' := by
    intro c hc
    obtain rfl : e.mark = c := by simpa [Exponent.text] using hc
    obtain hmark | hmark := (h.exponent e he).mark_eq <;> rw [hmark] <;> decide
  obtain ⟨hwhole, hfraction⟩ := scan_mantissa h hmark
  have hdigit := h.hasDigit
  rw [← hwhole] at hdigit
  refine ⟨_, _, by rw [htext, scan?_eq_some (scan_sign h _) hfraction hdigit], ?_⟩
  rw [Exponent.scan_text_extended (h.exponent e he), hwhole]
  exact ⟨rest.takeWhile Char.isDigit, by simp [text, he, Exponent.text]⟩

/-- A fraction without an exponent after it may have more digits and an exponent. -/
theorem exists_scan?_of_fraction {digits : List Char} (he : m.exponent = none)
    (hf : m.fraction = some digits) (rest : List Char) :
    ∃ n tail, scan? (m.text ++ rest) = some (n, tail) ∧ m.text <+: n.text := by
  have htext : m.text ++ rest =
      m.sign.text ++ (m.whole ++ (fractionText m.fraction ++ rest)) := by
    simp [text, he]
  have hpoint : ∀ c, ('.' :: (digits ++ rest)).head? = some c → c.isDigit = false := by
    rintro _ ⟨⟩
    rfl
  obtain ⟨hwhole, hdrop⟩ := takeWhile_append_of_head h.whole_isDigit hpoint
  have hmore : (digits ++ rest).takeWhile Char.isDigit = digits ++ rest.takeWhile Char.isDigit :=
    List.takeWhile_append_of_pos (h.fraction_isDigit digits hf)
  have hsign := scan_sign h rest
  rw [← htext, hf, fractionText, List.cons_append] at hsign
  have hfraction : scanFraction ((m.whole ++ '.' :: (digits ++ rest)).dropWhile Char.isDigit) =
      (some (digits ++ rest.takeWhile Char.isDigit), (digits ++ rest).dropWhile Char.isDigit) := by
    rw [hdrop, ← hmore]
    rfl
  have hdigit : ¬ ((m.whole ++ '.' :: (digits ++ rest)).takeWhile Char.isDigit = [] ∧
      digits ++ rest.takeWhile Char.isDigit = []) := by
    rw [hwhole, List.append_eq_nil_iff]
    exact fun hnone => h.hasDigit ⟨hnone.1, by rw [hf]; exact hnone.2.1⟩
  refine ⟨_, _, scan?_eq_some hsign hfraction hdigit, ?_⟩
  rw [hwhole]
  simp only [text, he, hf, fractionText, Option.map_none, Option.getD_none, List.append_nil,
    List.append_assoc, List.cons_append, List.prefix_append_right_inj, List.cons_prefix_cons,
    true_and]
  exact List.prefix_append digits _

/-- Digits without a point or an exponent after them may be any start of a numeral. -/
theorem exists_scan?_of_whole (he : m.exponent = none) (hf : m.fraction = none)
    (rest : List Char) :
    ∃ n tail, scan? (m.text ++ rest) = some (n, tail) ∧ m.text <+: n.text := by
  have htext : m.text ++ rest =
      m.sign.text ++ (m.whole ++ (fractionText m.fraction ++ rest)) := by
    simp [text, he]
  have hsign := scan_sign h rest
  rw [← htext, hf, fractionText, List.nil_append] at hsign
  have hmore : (m.whole ++ rest).takeWhile Char.isDigit = m.whole ++ rest.takeWhile Char.isDigit :=
    List.takeWhile_append_of_pos h.whole_isDigit
  have hdigit : ¬ ((m.whole ++ rest).takeWhile Char.isDigit = [] ∧
      (scanFraction ((m.whole ++ rest).dropWhile Char.isDigit)).1.getD [] = []) := by
    rw [hmore, List.append_eq_nil_iff]
    exact fun hnone => h.hasDigit ⟨hnone.1.1, by rw [hf]; rfl⟩
  refine ⟨_, _, scan?_eq_some hsign rfl hdigit, ?_⟩
  rw [hmore]
  simp only [text, he, hf, fractionText, Option.map_none, Option.getD_none, List.append_nil,
    List.append_assoc, List.prefix_append_right_inj]
  exact List.prefix_append m.whole _

/-- A numeral that a text starts with is the start of the one that is found. -/
theorem exists_scan?_text_append (rest : List Char) :
    ∃ n tail, scan? (m.text ++ rest) = some (n, tail) ∧ m.text <+: n.text := by
  cases he : m.exponent with
  | some e => exact exists_scan?_of_exponent h he rest
  | none =>
    cases hf : m.fraction with
    | some digits => exact exists_scan?_of_fraction h he hf rest
    | none => exact exists_scan?_of_whole h he hf rest

end

/-- The longest text of the grammar that a text starts with. -/
structure Longest (numeral s : String) : Prop where
  starts : numeral.toList <+: s.toList
  admitted : numeral.toList ∈ grammar.matches'
  le_length : ∀ cs, cs <+: s.toList → cs ∈ grammar.matches' → cs.length ≤ numeral.length

/-- What is scanned is the longest text of the grammar at the start. -/
theorem longest_of_scan? {s : String} {n : Numeral} {rest : List Char}
    (h : scan? s.toList = some (n, rest)) : Longest (String.ofList n.text) s where
  starts := by
    rw [String.toList_ofList]
    exact ⟨rest, text_append_of_scan? h⟩
  admitted := by
    rw [String.toList_ofList]
    exact mem_grammar_iff.mpr ⟨n, wellFormed_of_scan? h, rfl⟩
  le_length := by
    rintro cs ⟨tail, htail⟩ hcs
    obtain ⟨m, hform, rfl⟩ := mem_grammar_iff.mp hcs
    obtain ⟨found, left, hscan, hlonger⟩ := exists_scan?_text_append hform tail
    rw [htail, h] at hscan
    obtain ⟨rfl, -⟩ := Prod.mk.inj (Option.some.inj hscan)
    simpa using hlonger.length_le

/-- Nothing is found only where no start of the text is in the grammar. -/
theorem scan?_eq_none_iff {cs : List Char} :
    scan? cs = none ↔ ∀ start, start <+: cs → start ∉ grammar.matches' := by
  constructor
  · rintro hnone start ⟨rest, rfl⟩ hstart
    obtain ⟨m, hform, rfl⟩ := mem_grammar_iff.mp hstart
    obtain ⟨n, tail, hscan, -⟩ := exists_scan?_text_append hform rest
    rw [hnone] at hscan
    cases hscan
  · intro hall
    by_contra hsome
    obtain ⟨⟨n, rest⟩, hscan⟩ := Option.ne_none_iff_exists'.mp hsome
    refine hall n.text ⟨rest, text_append_of_scan? hscan⟩ ?_
    exact mem_grammar_iff.mpr ⟨n, wellFormed_of_scan? hscan, rfl⟩

end Numeral

end Quizmaster
