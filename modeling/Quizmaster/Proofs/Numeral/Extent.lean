import Quizmaster.Proofs.Numeral.Scan
import Quizmaster.Proofs.Text.Bytes

namespace Quizmaster

namespace Sign

theorem isAscii_text (sign : Sign) : Text.IsAscii sign.text := by
  cases sign <;> simp [Text.IsAscii, text]

end Sign

namespace Numeral

open Text (bytes IsAscii)

theorem isDigitByte_iff {b : UInt8} : isDigitByte b = true ↔ 48 ≤ b.toNat ∧ b.toNat ≤ 57 := by
  simp [isDigitByte, UInt8.le_iff_toNat_le]

/-- There are as many bytes of digits as digits. -/
theorem length_takeWhile_bytes (cs : List Char) :
    ((bytes cs).takeWhile isDigitByte).length = (cs.takeWhile Char.isDigit).length := by
  induction cs with
  | nil => rfl
  | cons c cs ih =>
    have hdigit : c.isDigit = true ↔ 48 ≤ c.toNat ∧ c.toNat ≤ 57 := Char.isDigit_iff_toNat
    obtain ⟨b, rest, hencode, hfirst⟩ := Text.exists_utf8EncodeChar c
    have hbytes : bytes (c :: cs) = b :: (rest ++ bytes cs) := by simp [bytes, hencode]
    have hsame : isDigitByte b = c.isDigit := by
      rw [Bool.eq_iff_iff, isDigitByte_iff, hdigit]
      omega
    rw [hbytes, List.takeWhile_cons, List.takeWhile_cons, hsame]
    split
    · next hc =>
      obtain ⟨-, -, rfl⟩ : c.toNat < 0x80 ∧ b.toNat = c.toNat ∧ rest = [] := by
        have hlow := hdigit.mp hc
        exact hfirst.resolve_right fun hhigh => by omega
      rw [List.length_cons, List.length_cons, List.nil_append, ih]
    · rfl

theorem isAscii_fractionText (cs : List Char) : IsAscii (fractionText (scanFraction cs).1) := by
  obtain ⟨rest, rfl, hscan⟩ | ⟨-, hscan⟩ := scanFraction_cases cs
  · have hdigits : IsAscii (rest.takeWhile Char.isDigit) :=
      Text.isAscii_of_isDigit fun c hc => List.mem_takeWhile_imp hc
    have hpoint : IsAscii ['.'] := by simp [IsAscii]
    rw [hscan]
    exact hpoint.append hdigits
  · simp [hscan, fractionText, IsAscii]

section

variable {before : List Char} (hbefore : IsAscii before) (cs : List Char)

include hbefore

/-- Digits end in the bytes where they end in the characters. -/
theorem digitsEnd_bytes : digitsEnd (bytes (before ++ cs)) before.length =
    (before ++ cs.takeWhile Char.isDigit).length := by
  rw [digitsEnd, Text.drop_bytes hbefore, length_takeWhile_bytes, List.length_append]

/-- A character below 128 stands at a place if its byte does. -/
theorem getElem?_bytes_eq_iff {b : UInt8} {c : Char} (hb : b.toNat < 0x80)
    (hc : c.toNat = b.toNat) :
    (bytes (before ++ cs))[before.length]? = some b ↔ cs.head? = some c := by
  rw [Text.getElem?_bytes hbefore, Text.head?_bytes_eq_iff hb hc]

theorem signEnd_bytes : signEnd (bytes (before ++ cs)) before.length =
    (before ++ (Sign.scan cs).1.text).length := by
  simp only [signEnd, getElem?_bytes_eq_iff hbefore cs (c := '+') (b := 0x2B) (by decide) rfl,
    getElem?_bytes_eq_iff hbefore cs (c := '-') (b := 0x2D) (by decide) rfl]
  obtain ⟨rest, rfl, hscan⟩ | ⟨rest, rfl, hscan⟩ | ⟨hplus, hminus, hscan⟩ := Sign.scan_cases cs
  · simp [hscan, Sign.text]
  · simp [hscan, Sign.text]
  · simp [hscan, hplus, hminus, Sign.text]

theorem fractionEnd_bytes : fractionEnd (bytes (before ++ cs)) before.length =
    (before ++ fractionText (scanFraction cs).1).length := by
  simp only [fractionEnd, getElem?_bytes_eq_iff hbefore cs (c := '.') (b := 0x2E) (by decide) rfl]
  obtain ⟨rest, rfl, hscan⟩ | ⟨hpoint, hscan⟩ := scanFraction_cases cs
  · have hpointed : IsAscii (before ++ ['.']) := hbefore.append (by simp [IsAscii])
    have hstop := digitsEnd_bytes hpointed rest
    rw [← List.append_cons, List.length_append, List.length_singleton] at hstop
    rw [if_pos (List.head?_cons), hstop, hscan, ← List.append_cons]
    rfl
  · rw [if_neg hpoint, hscan, fractionText, List.append_nil]

/-- An exponent ends in the bytes where it ends in the characters. -/
theorem exponentEnd_bytes : exponentEnd (bytes (before ++ cs)) before.length =
    (before ++ ((Exponent.scan cs).1.map Exponent.text).getD []).length := by
  simp only [exponentEnd, getElem?_bytes_eq_iff hbefore cs (c := 'e') (b := 0x65) (by decide) rfl,
    getElem?_bytes_eq_iff hbefore cs (c := 'E') (b := 0x45) (by decide) rfl]
  cases cs with
  | nil => simp [Exponent.scan]
  | cons mark cs =>
    by_cases hmark : mark = 'e' ∨ mark = 'E'
    · have hmarked : IsAscii (before ++ [mark]) := hbefore.append (by
        obtain rfl | rfl := hmark <;> simp [IsAscii])
      have hsigned : IsAscii (before ++ [mark] ++ (Sign.scan cs).1.text) :=
        hmarked.append (Sign.isAscii_text _)
      have hstart := signEnd_bytes hmarked cs
      have hstop := digitsEnd_bytes hsigned (Sign.scan cs).2
      rw [List.append_assoc _ _ (Sign.scan cs).2, Sign.text_append_scan] at hstop
      rw [← List.append_cons, List.length_append, List.length_singleton] at hstart
      rw [← List.append_cons] at hstop
      rw [if_pos (by simpa using hmark), hstart, hstop]
      by_cases hdigits : (Sign.scan cs).2.takeWhile Char.isDigit = []
      · simp [Exponent.scan, hdigits]
      · have hlonger : (before ++ [mark] ++ (Sign.scan cs).1.text).length <
            (before ++ [mark] ++ (Sign.scan cs).1.text ++
              (Sign.scan cs).2.takeWhile Char.isDigit).length := by
          have hpos := List.length_pos_iff.mpr hdigits
          simp only [List.length_append]
          omega
        rw [if_pos hlonger]
        simp [Exponent.scan, Exponent.text, hmark, hdigits]
    · rw [if_neg (by simpa using hmark)]
      simp [Exponent.scan, hmark]

end

theorem length_fractionText_le_one_iff {fraction : Option (List Char)} :
    (fractionText fraction).length ≤ 1 ↔ fraction.getD [] = [] := by
  cases fraction <;> simp [fractionText]

/-- As many bytes as the numeral at the start has characters. -/
theorem extent?_bytes (cs : List Char) :
    extent? (bytes cs) = (scan? cs).map fun found => found.1.text.length := by
  obtain ⟨⟨sign, signed⟩, hsign⟩ : ∃ found, Sign.scan cs = found := ⟨_, rfl⟩
  obtain ⟨⟨fraction, tail⟩, hfraction⟩ :
      ∃ found, scanFraction (signed.dropWhile Char.isDigit) = found := ⟨_, rfl⟩
  have hasciiSign : IsAscii sign.text := Sign.isAscii_text sign
  have hasciiWhole : IsAscii (sign.text ++ signed.takeWhile Char.isDigit) :=
    hasciiSign.append (Text.isAscii_of_isDigit fun c hc => List.mem_takeWhile_imp hc)
  have hasciiFraction :
      IsAscii (sign.text ++ signed.takeWhile Char.isDigit ++ fractionText fraction) := by
    have hascii := isAscii_fractionText (signed.dropWhile Char.isDigit)
    rw [hfraction] at hascii
    exact hasciiWhole.append hascii
  -- Each step of the scan is at the place where the parts before it end.
  have hempty : IsAscii [] := nofun
  have hstart := signEnd_bytes hempty cs
  have hdigits := digitsEnd_bytes hasciiSign signed
  have hstop := fractionEnd_bytes hasciiWhole (signed.dropWhile Char.isDigit)
  have hend := exponentEnd_bytes hasciiFraction tail
  rw [List.nil_append, List.nil_append, List.length_nil, hsign] at hstart
  rw [signed_parts hsign] at hdigits
  rw [whole_parts hsign, hfraction] at hstop
  rw [fraction_parts hsign hfraction] at hend
  have hnone : (sign.text ++ signed.takeWhile Char.isDigit).length = sign.text.length ∧
      (sign.text ++ signed.takeWhile Char.isDigit ++ fractionText fraction).length ≤
        (sign.text ++ signed.takeWhile Char.isDigit).length + 1 ↔
      signed.takeWhile Char.isDigit = [] ∧ fraction.getD [] = [] := by
    rw [← length_fractionText_le_one_iff, ← List.length_eq_zero_iff]
    simp only [List.length_append]
    omega
  simp only [extent?, hstart, hdigits, hstop, hend, hnone, scan?, hsign, hfraction]
  split
  · rfl
  · rfl

theorem isAscii_text {n : Numeral} (h : n.WellFormed) : IsAscii n.text := by
  intro c hc
  have hnumeric := isNumeric_of_mem_text h hc
  simp only [isNumeric, Bool.or_eq_true, beq_iff_eq] at hnumeric
  rcases hnumeric with ((((hdigit | rfl) | rfl) | rfl) | rfl) | rfl
  · have hnine : c.toNat ≤ 57 := (Char.isDigit_iff_toNat.mp hdigit).2
    omega
  all_goals decide

end Numeral

/-- The number that a text starts with is that of the numeral which its characters start with. -/
theorem leadingNumber?_eq (s : String) :
    leadingNumber? s = (Numeral.scan? s.toList).bind fun found => found.1.toBinary64? := by
  rw [leadingNumber?, Text.toUTF8_data, Numeral.extent?_bytes]
  cases hscan : Numeral.scan? s.toList with
  | none => rfl
  | some found =>
    obtain ⟨n, rest⟩ := found
    have hform := Numeral.wellFormed_of_scan? hscan
    have hsize := Text.utf8ByteSize_ofList (Numeral.isAscii_text hform)
    have hbytes := Text.firstBytes?_append (String.ofList n.text) (String.ofList rest)
    rw [hsize, ← String.ofList_append, Numeral.text_append_of_scan? hscan,
      String.ofList_toList] at hbytes
    simp [hbytes, Numeral.ofText?_text hform]

end Quizmaster
