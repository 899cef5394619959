import Quizmaster.Proofs.Numeral.Longest

namespace Quizmaster

namespace Numeral

section

variable {cs ds : List Char}

/-- Texts that start with the same numerals are scanned to the same one. -/
theorem exists_scan?_of_starts {n : Numeral} {rest : List Char}
    (h : ∀ m : Numeral, m.WellFormed → (m.text <+: cs ↔ m.text <+: ds))
    (hscan : scan? cs = some (n, rest)) : ∃ tail, scan? ds = some (n, tail) := by
  have hform := wellFormed_of_scan? hscan
  obtain ⟨after, hds⟩ := (h n hform).mp ⟨rest, text_append_of_scan? hscan⟩
  obtain ⟨m, tail, hfound, hlonger⟩ := exists_scan?_text_append hform after
  rw [hds] at hfound
  have hformFound := wellFormed_of_scan? hfound
  -- What is found there starts the first text too, where nothing longer than `n` is found.
  obtain ⟨before, hcs⟩ := (h m hformFound).mpr ⟨tail, text_append_of_scan? hfound⟩
  obtain ⟨found, left, hagain, hshorter⟩ := exists_scan?_text_append hformFound before
  rw [hcs, hscan] at hagain
  obtain ⟨rfl, -⟩ := Prod.mk.inj (Option.some.inj hagain)
  have htext : n.text = m.text := hlonger.eq_of_length_le hshorter.length_le
  have hsame := ofText?_text hform
  rw [htext, ofText?_text hformFound] at hsame
  obtain rfl := Option.some.inj hsame
  exact ⟨tail, hfound⟩

/-- Texts that start with the same numerals start with the same longest one. -/
theorem map_fst_scan?_congr
    (h : ∀ m : Numeral, m.WellFormed → (m.text <+: cs ↔ m.text <+: ds)) :
    (scan? cs).map Prod.fst = (scan? ds).map Prod.fst := by
  cases hcs : scan? cs with
  | some found =>
    obtain ⟨tail, hds⟩ := exists_scan?_of_starts h hcs
    rw [hds]
    rfl
  | none =>
    cases hds : scan? ds with
    | none => rfl
    | some found =>
      obtain ⟨tail, hfound⟩ := exists_scan?_of_starts (fun m hm => (h m hm).symm) hds
      rw [hcs] at hfound
      cases hfound

/-- Numerals end before the first character that they are not written with. -/
theorem text_prefix_append_iff {m : Numeral} (hm : m.WellFormed)
    (hds : ∀ c, ds.head? = some c → isNumeric c = false) :
    m.text <+: cs ++ ds ↔ m.text <+: cs := by
  refine ⟨fun h => ?_, fun h => h.trans (List.prefix_append cs ds)⟩
  obtain hshort | ⟨after, hafter⟩ := List.prefix_or_prefix_of_prefix h (List.prefix_append cs ds)
  · exact hshort
  · rw [← hafter, List.prefix_append_right_inj] at h
    cases after with
    | nil => simp [← hafter]
    | cons c after =>
      obtain ⟨rest, rfl⟩ := h
      have hnumeric := isNumeric_of_mem_text hm (c := c) (by simp [← hafter])
      exact absurd hnumeric (by simp [hds c rfl])

end

/-- The mark of an exponent in its lower-case form; other characters are kept. -/
def lowerMark (c : Char) : Char := if c = 'E' then 'e' else c

theorem lowerMark_eq_iff {c d : Char} (hsmall : d ≠ 'e') (hlarge : d ≠ 'E') :
    lowerMark c = d ↔ c = d := by
  unfold lowerMark
  split
  · next hc =>
    subst hc
    exact iff_of_false hsmall.symm hlarge.symm
  · rfl

/-- An exponent mark is one in either case. -/
theorem lowerMark_mark {c : Char} :
    (lowerMark c = 'e' ∨ lowerMark c = 'E') ↔ c = 'e' ∨ c = 'E' := by
  unfold lowerMark
  split
  · next hc => simp [hc]
  · rfl

theorem isDigit_lowerMark : Char.isDigit ∘ lowerMark = Char.isDigit := by
  funext c
  simp only [Function.comp_apply, lowerMark]
  split
  · next hc =>
    subst hc
    rfl
  · rfl

section

variable (cs : List Char)

theorem takeWhile_isDigit_map :
    (cs.map lowerMark).takeWhile Char.isDigit = cs.takeWhile Char.isDigit := by
  rw [List.takeWhile_map, isDigit_lowerMark]
  refine (List.map_congr_left fun c hc => ?_).trans (List.map_id _)
  have hdigit : c.isDigit = true := List.mem_takeWhile_imp hc
  refine if_neg ?_
  rintro rfl
  exact absurd hdigit (by decide)

theorem dropWhile_isDigit_map :
    (cs.map lowerMark).dropWhile Char.isDigit = (cs.dropWhile Char.isDigit).map lowerMark := by
  rw [List.dropWhile_map, isDigit_lowerMark]

theorem head?_map_lowerMark_ne {d : Char} (hsmall : d ≠ 'e') (hlarge : d ≠ 'E')
    (h : cs.head? ≠ some d) : (cs.map lowerMark).head? ≠ some d := by
  rw [List.head?_map, ne_eq, Option.map_eq_some_iff]
  rintro ⟨c, hc, hlower⟩
  exact h (((lowerMark_eq_iff hsmall hlarge).mp hlower) ▸ hc)

theorem scan_sign_map :
    Sign.scan (cs.map lowerMark) = ((Sign.scan cs).1, (Sign.scan cs).2.map lowerMark) := by
  obtain ⟨rest, rfl, hscan⟩ | ⟨rest, rfl, hscan⟩ | ⟨hplus, hminus, hscan⟩ := Sign.scan_cases cs
  · rw [hscan]
    rfl
  · rw [hscan]
    rfl
  · rw [hscan]
    exact Sign.scan_text_append .absent fun _ =>
      ⟨head?_map_lowerMark_ne cs (by decide) (by decide) hplus,
        head?_map_lowerMark_ne cs (by decide) (by decide) hminus⟩

theorem scanFraction_map :
    scanFraction (cs.map lowerMark) = ((scanFraction cs).1, (scanFraction cs).2.map lowerMark) := by
  obtain ⟨rest, rfl, hscan⟩ | ⟨hpoint, hscan⟩ := scanFraction_cases cs
  · rw [hscan, ← dropWhile_isDigit_map, ← takeWhile_isDigit_map]
    rfl
  · have hlower := head?_map_lowerMark_ne cs (by decide) (by decide) hpoint
    obtain ⟨rest, hcs, -⟩ | ⟨-, hnone⟩ := scanFraction_cases (cs.map lowerMark)
    · exact absurd (by rw [hcs]; rfl) hlower
    · rw [hscan, hnone]

/-- An exponent is scanned in either case of its mark. -/
theorem scan_exponent_map : Exponent.scan (cs.map lowerMark) =
    ((Exponent.scan cs).1.map (fun e => { e with mark := lowerMark e.mark }),
      (Exponent.scan cs).2.map lowerMark) := by
  cases cs with
  | nil => rfl
  | cons mark cs =>
    simp only [List.map_cons, Exponent.scan, scan_sign_map, takeWhile_isDigit_map,
      dropWhile_isDigit_map, lowerMark_mark]
    split <;> rfl

end

/-- A numeral with its mark in lower case. -/
def lower (n : Numeral) : Numeral :=
  { n with exponent := n.exponent.map fun e => { e with mark := lowerMark e.mark } }

/-- The case of its mark does not change a number. -/
theorem toBinary64?_lower (n : Numeral) : n.lower.toBinary64? = n.toBinary64? := by
  have hscale : n.lower.scale = n.scale := by
    cases he : n.exponent <;> simp [scale, lower, he, Exponent.value]
  rw [toBinary64?, toBinary64?, hscale]
  rfl

/-- Scanning finds the same numeral when exponent marks are lowered, but for its mark. -/
theorem scan?_map (cs : List Char) : scan? (cs.map lowerMark) =
    (scan? cs).map fun found => (found.1.lower, found.2.map lowerMark) := by
  simp only [scan?, scan_sign_map, takeWhile_isDigit_map, dropWhile_isDigit_map, scanFraction_map,
    scan_exponent_map]
  split <;> rfl

/-- Of a character that numerals are written with, lower-casing changes the capital mark only. -/
theorem lowerChar_of_isNumeric {c : Char} (h : isNumeric c = true) :
    Text.lowerChar c = lowerMark c := by
  simp only [isNumeric, Bool.or_eq_true, beq_iff_eq] at h
  by_cases hc : c = 'E'
  · subst hc
    decide +kernel
  · rw [lowerMark, if_neg hc]
    refine Text.lowerChar_of_lt ?_
    rcases h with ((((hdigit | rfl) | rfl) | rfl) | rfl) | rfl
    · have hnine : c.toNat ≤ 57 := (Char.isDigit_iff_toNat.mp hdigit).2
      omega
    all_goals revert hc; decide

/-- No other character is lower-cased to one that numerals are written with. -/
theorem isNumeric_of_lowerChar {c : Char} (h : isNumeric (Text.lowerChar c) = true) :
    isNumeric c = true := by
  generalize hd : Text.lowerChar c = d at h
  have hcode : d ≠ '\x00' ∧ d.toNat ≤ 0x65 ∧ (d.toNat < 0x61 ∨ d = 'e') := by
    simp only [isNumeric, Bool.or_eq_true, beq_iff_eq] at h
    rcases h with ((((hdigit | rfl) | rfl) | rfl) | rfl) | rfl
    · obtain ⟨hzero, hnine⟩ : 48 ≤ d.toNat ∧ d.toNat ≤ 57 := Char.isDigit_iff_toNat.mp hdigit
      refine ⟨?_, by omega, .inl (by omega)⟩
      rintro rfl
      exact absurd hzero (by decide)
    all_goals decide
  obtain ⟨hnull, hlow, hletter⟩ := hcode
  obtain rfl | ⟨hfirst, hlast, hmoved⟩ := Text.eq_or_capital_of_lowerChar_eq hnull hlow hd
  · exact h
  · obtain hbelow | rfl := hletter
    · omega
    · obtain rfl : c = 'E' := Char.toNat_inj.mp (Nat.add_right_cancel hmoved)
      rfl

/-- Lowering a mark makes and loses no character of numerals. -/
theorem isNumeric_lowerMark (c : Char) : isNumeric (lowerMark c) = isNumeric c := by
  unfold lowerMark
  split
  · next hc =>
    subst hc
    rfl
  · rfl

/-- Lower-casing a text lowers the marks of its numeral, and nothing else of that. -/
theorem takeWhile_lowerAfter (before cs : List Char) :
    (Text.lowerAfter before cs).takeWhile isNumeric = (cs.takeWhile isNumeric).map lowerMark := by
  induction cs generalizing before with
  | nil => rfl
  | cons c cs ih =>
    by_cases hc : isNumeric c = true
    · have hsigma : c ≠ 'Σ' := by
        rintro rfl
        exact absurd hc (by decide)
      have hdotted : c ≠ 'İ' := by
        rintro rfl
        exact absurd hc (by decide)
      have hlower : isNumeric (lowerMark c) = true := (isNumeric_lowerMark c).trans hc
      simp [Text.lowerAfter, hsigma, hdotted, lowerChar_of_isNumeric hc, hlower, hc, ih]
    · rw [List.takeWhile_cons_of_neg hc, Text.lowerAfter]
      split
      · split <;> rfl
      · split
        · rfl
        · exact List.takeWhile_cons_of_neg fun hlower => hc (isNumeric_of_lowerChar hlower)

end Numeral

/-- The number that a text starts with is that of its characters up to the first that no numeral is
    written with. -/
theorem leadingNumber?_takeWhile (s : String) :
    leadingNumber? (String.ofList (s.toList.takeWhile Numeral.isNumeric)) = leadingNumber? s := by
  have hend : ∀ c, (s.toList.dropWhile Numeral.isNumeric).head? = some c →
      Numeral.isNumeric c = false := by
    intro c hc
    have hhead := List.head?_dropWhile_not Numeral.isNumeric s.toList
    rw [hc] at hhead
    simpa using hhead
  have hstart (m : Numeral) (hm : m.WellFormed) :
      m.text <+: s.toList ↔ m.text <+: s.toList.takeWhile Numeral.isNumeric := by
    conv_lhs => rw [← List.takeWhile_append_dropWhile (p := Numeral.isNumeric) (l := s.toList)]
    exact Numeral.text_prefix_append_iff hm hend
  rw [leadingNumber?_eq, leadingNumber?_eq, String.toList_ofList]
  have hbind (found : Option (Numeral × List Char)) :
      (found.bind fun f => f.1.toBinary64?) = (found.map Prod.fst).bind Numeral.toBinary64? := by
    cases found <;> rfl
  rw [hbind, hbind, Numeral.map_fst_scan?_congr hstart]

/-- Case does not matter for the number that a text starts with. -/
theorem leadingNumber?_lowercase (s : String) :
    leadingNumber? (Text.lowercase s) = leadingNumber? s := by
  rw [← leadingNumber?_takeWhile s, ← leadingNumber?_takeWhile (Text.lowercase s), Text.lowercase,
    String.toList_ofList, Numeral.takeWhile_lowerAfter, leadingNumber?_eq, leadingNumber?_eq,
    String.toList_ofList, String.toList_ofList, Numeral.scan?_map]
  cases Numeral.scan? (s.toList.takeWhile Numeral.isNumeric) with
  | none => rfl
  | some found => exact found.1.toBinary64?_lower

end Quizmaster
