import Mathlib.Data.List.DropRight
import Quizmaster.Text.Blank
import Quizmaster.Text.Lowercase
import Quizmaster.Text.Pieces

namespace Quizmaster.Text

section

variable {p : Char → Bool} {cs : List Char}

theorem isBlank_of_isDigit {c : Char} (h : c.isDigit = true) : isBlank c = false := by
  obtain ⟨hzero, hnine⟩ : 48 ≤ c.toNat ∧ c.toNat ≤ 57 := Char.isDigit_iff_toNat.mp h
  simp only [isBlank, Bool.or_eq_false_iff, Bool.and_eq_false_iff, decide_eq_false_iff_not,
    beq_eq_false_iff_ne, ne_eq]
  omega

theorem dropEndWhile_eq_rdropWhile (p : Char → Bool) (cs : List Char) :
    dropEndWhile p cs = cs.rdropWhile p := rfl

theorem dropEndWhile_of_forall (h : ∀ c ∈ cs, p c = false) : dropEndWhile p cs = cs := by
  rw [dropEndWhile_eq_rdropWhile, List.rdropWhile_eq_self_iff]
  intro hne
  exact Bool.eq_false_iff.mp (h _ (List.getLast_mem hne))

/-- A trimmed text does not end in anything that counts as white space. -/
theorem dropEndWhile_trimChars (hp : ∀ c, p c = true → isBlank c = true) (cs : List Char) :
    dropEndWhile p (trimChars cs) = trimChars cs := by
  rw [dropEndWhile_eq_rdropWhile, List.rdropWhile_eq_self_iff]
  intro hne hlast
  exact List.rdropWhile_last_not isBlank _ hne (hp _ hlast)

/-- Trimming takes nothing from a text that was trimmed. -/
theorem trimChars_trimChars (cs : List Char) : trimChars (trimChars cs) = trimChars cs := by
  have hinit : trimChars cs <+: cs.dropWhile isBlank := List.rdropWhile_prefix isBlank _
  have hstart : (trimChars cs).dropWhile isBlank = trimChars cs := by
    rw [List.dropWhile_eq_self_iff]
    intro hne
    rw [hinit.getElem hne]
    exact List.dropWhile_get_zero_not isBlank cs (hne.trans_le hinit.length_le)
  conv_lhs => rw [trimChars, hstart]
  exact dropEndWhile_trimChars (fun _ h => h) cs

/-- A text that neither starts nor ends with white space. -/
def Trimmed (cs : List Char) : Prop :=
  (∀ c, cs.head? = some c → isBlank c = false) ∧ ∀ c, cs.getLast? = some c → isBlank c = false

theorem trimmed_reverse_iff : Trimmed cs.reverse ↔ Trimmed cs := by
  rw [Trimmed, List.head?_reverse, List.getLast?_reverse, and_comm, Trimmed]

theorem dropWhile_eq_self_iff_head? :
    cs.dropWhile p = cs ↔ ∀ c, cs.head? = some c → p c = false := by
  cases cs with
  | nil => simp
  | cons c cs => simp [List.dropWhile_eq_self_iff]

theorem rdropWhile_eq_self_iff_getLast? :
    cs.rdropWhile p = cs ↔ ∀ c, cs.getLast? = some c → p c = false := by
  rw [← List.reverse_reverse cs, List.rdropWhile_reverse, List.reverse_inj,
    dropWhile_eq_self_iff_head?, List.getLast?_reverse]

theorem trimEndWhile_eq_self_iff {s : String} :
    trimEndWhile p s = s ↔ ∀ c, s.toList.getLast? = some c → p c = false := by
  rw [trimEndWhile, dropEndWhile_eq_rdropWhile, ← String.toList_inj, String.toList_ofList,
    rdropWhile_eq_self_iff_getLast?]

/-- Trimming keeps exactly the texts that are trimmed. -/
theorem trimChars_eq_self_iff : trimChars cs = cs ↔ Trimmed cs := by
  rw [Trimmed, ← dropWhile_eq_self_iff_head?, ← rdropWhile_eq_self_iff_getLast?]
  constructor
  · intro h
    have hstart : cs.dropWhile isBlank = cs := by
      refine (List.dropWhile_sublist isBlank).eq_of_length_le ?_
      conv_lhs => rw [← h]
      exact (List.rdropWhile_prefix isBlank _).length_le
    rw [trimChars, hstart] at h
    exact ⟨hstart, h⟩
  · rintro ⟨hstart, hend⟩
    rw [trimChars, hstart]
    exact hend

theorem trimmed_of_forall (h : ∀ c ∈ cs, isBlank c = false) : Trimmed cs :=
  ⟨fun c hc => h c (List.mem_of_head? hc), fun c hc => h c (List.mem_of_getLast? hc)⟩

theorem trimChars_of_forall (h : ∀ c ∈ cs, isBlank c = false) : trimChars cs = cs :=
  trimChars_eq_self_iff.mpr (trimmed_of_forall h)

/-- Trimming leaves nothing exactly of white space. -/
theorem trimChars_eq_nil_iff : trimChars cs = [] ↔ ∀ c ∈ cs, isBlank c = true := by
  constructor
  · intro h c hc
    rw [trimChars, dropEndWhile_eq_rdropWhile, List.rdropWhile_eq_nil_iff] at h
    rw [← List.takeWhile_append_dropWhile (p := isBlank) (l := cs)] at hc
    rcases List.mem_append.mp hc with hstart | hrest
    · exact List.mem_takeWhile_imp hstart
    · exact h c hrest
  · intro h
    rw [trimChars, List.dropWhile_eq_nil_iff.mpr h]
    rfl

/-- Trimming leaves something of a text that is not white space alone. -/
theorem trim_ne_empty_iff {s : String} : trim s ≠ "" ↔ ∃ c ∈ s.toList, isBlank c = false := by
  have hempty : trim s = "" ↔ ∀ c ∈ s.toList, isBlank c = true := by
    rw [← trimChars_eq_nil_iff, ← String.toList_inj, trim, String.toList_ofList]
    rfl
  rw [ne_eq, hempty]
  simp

theorem trimmed_trimChars (cs : List Char) : Trimmed (trimChars cs) :=
  trimChars_eq_self_iff.mp (trimChars_trimChars cs)

/-- White space around a text is taken away. -/
theorem trimChars_append {before after : List Char} (hbefore : ∀ c ∈ before, isBlank c = true)
    (hafter : ∀ c ∈ after, isBlank c = true) (cs : List Char) :
    trimChars (before ++ cs ++ after) = trimChars cs := by
  have hend (text : List Char) : (text ++ after).rdropWhile isBlank = text.rdropWhile isBlank := by
    rw [List.rdropWhile, List.reverse_append,
      List.dropWhile_append_of_pos (by simpa using hafter), List.rdropWhile]
  rw [trimChars, trimChars, List.append_assoc, List.dropWhile_append_of_pos hbefore,
    List.dropWhile_append]
  split
  · next hblank =>
    have hnone : after.dropWhile isBlank = [] := List.dropWhile_eq_nil_iff.mpr hafter
    rw [hnone, List.isEmpty_iff.mp hblank]
  · exact hend (cs.dropWhile isBlank)

/-- What trimming takes away is white space around the rest. -/
theorem exists_trimChars_parts (cs : List Char) : ∃ before after,
    cs = before ++ trimChars cs ++ after ∧
      (∀ c ∈ before, isBlank c = true) ∧ ∀ c ∈ after, isBlank c = true := by
  refine ⟨cs.takeWhile isBlank, (cs.dropWhile isBlank).rtakeWhile isBlank, ?_,
    fun c hc => List.mem_takeWhile_imp hc, fun c hc => List.mem_rtakeWhile_imp hc⟩
  have hend : trimChars cs ++ (cs.dropWhile isBlank).rtakeWhile isBlank = cs.dropWhile isBlank :=
    List.rdropWhile_append_rtakeWhile
  rw [List.append_assoc, hend, List.takeWhile_append_dropWhile]

/-- Trimming treats both ends alike. -/
theorem trimChars_reverse (cs : List Char) : trimChars cs.reverse = (trimChars cs).reverse := by
  obtain ⟨before, after, hcs, hbefore, hafter⟩ := exists_trimChars_parts cs
  have hparts : cs.reverse = after.reverse ++ (trimChars cs).reverse ++ before.reverse := by
    conv_lhs => rw [hcs]
    simp
  rw [hparts, trimChars_append (by simpa using hafter) (by simpa using hbefore),
    trimChars_eq_self_iff, trimmed_reverse_iff]
  exact trimmed_trimChars cs

theorem trimChars_sublist (cs : List Char) : (trimChars cs).Sublist cs :=
  (List.rdropWhile_prefix isBlank _).sublist.trans (List.dropWhile_sublist isBlank)

theorem trim_eq_self_iff {s : String} : trim s = s ↔ Trimmed s.toList := by
  rw [trim, ← String.toList_inj, String.toList_ofList, trimChars_eq_self_iff]

theorem trim_of_forall {s : String} (h : ∀ c ∈ s.toList, isBlank c = false) : trim s = s :=
  trim_eq_self_iff.mpr (trimmed_of_forall h)

end

/-- Digits are read as the number that they stand for. -/
theorem natural?_of_isDigit {limit n : Nat} {cs : List Char} (hne : cs ≠ [])
    (hdigits : ∀ c ∈ cs, c.isDigit = true) (hvalue : ofDigits cs = n) (h : n ≤ limit) :
    natural? limit cs = some n := by
  have hall : cs.all Char.isDigit = true := List.all_eq_true.mpr hdigits
  unfold natural?
  split
  · next rest => exact absurd (hdigits '+' (by simp)) (by decide)
  · simp [hall, hvalue, h, hne]

theorem natural?_le {limit n : Nat} {cs : List Char} (h : natural? limit cs = some n) :
    n ≤ limit := by
  unfold natural? at h
  simp only [Option.ite_none_right_eq_some, Bool.and_eq_true, decide_eq_true_eq,
    Option.some.injEq] at h
  obtain ⟨⟨-, hbound⟩, rfl⟩ := h
  exact hbound

theorem toList_join (separator : String) (items : List String) :
    (join separator items).toList = separator.toList.intercalate (items.map String.toList) := by
  induction items using join.induct with
  | case1 => rfl
  | case2 s => simp [join]
  | case3 s t rest ih => simp [join, ih, List.intercalate_cons_cons]

/-- A character of a join is one of the separator or of an item. -/
theorem mem_join {separator : String} {items : List String} {c : Char}
    (hc : c ∈ (join separator items).toList) :
    c ∈ separator.toList ∨ ∃ item ∈ items, c ∈ item.toList := by
  induction items using join.induct with
  | case1 => simp [join] at hc
  | case2 s => exact .inr ⟨s, by simp, hc⟩
  | case3 s t rest ih =>
    rw [join, String.toList_append, String.toList_append, List.mem_append,
      List.mem_append] at hc
    rcases hc with (hfirst | hseparator) | hrest
    · exact .inr ⟨s, by simp, hfirst⟩
    · exact .inl hseparator
    · rcases ih hrest with hseparator | ⟨item, hitem, hmem⟩
      · exact .inl hseparator
      · exact .inr ⟨item, List.mem_cons_of_mem _ hitem, hmem⟩

/-- Pieces without the separator are had back from their join. -/
theorem split_join {separator : Char} {items : List String}
    (h : ∀ item ∈ items, separator ∉ item.toList) (hne : items ≠ []) :
    split separator (join (String.singleton separator) items) = items := by
  have hpieces : ∀ piece ∈ items.map String.toList, separator ∉ piece := by
    intro piece hpiece
    obtain ⟨item, hitem, rfl⟩ := List.mem_map.mp hpiece
    exact h item hitem
  have hlist := List.splitOn_intercalate separator hpieces (by simpa using hne)
  rw [split, toList_join, String.toList_singleton, hlist, List.map_map]
  simp

/-- Of the characters below the Latin supplement the table has the capitals A to Z, and the other rows
    lead to characters after `e`. -/
theorem lowered_rows : CaseTable.lowered.all (fun (first, last, _, shift) =>
    0x41 ≤ first && last ≤ 0x5A && shift == 32 || 0x80 ≤ first && 0x65 < first + shift) = true := by
  decide +kernel

/-- A character is kept, or it is moved by the shift of a row that it is covered by. -/
theorem lowerChar_cases (c : Char) : lowerChar c = c ∨
    ∃ first last step shift, (first, last, step, shift) ∈ CaseTable.lowered ∧ first ≤ c.toNat ∧
      c.toNat ≤ last ∧ lowerChar c = Char.ofNat (c.toNat + shift).toNat := by
  unfold lowerChar
  generalize CaseTable.lowered = rows
  simp only
  split
  · next first last step shift hrow =>
    have hcovers := Array.find?_some hrow
    simp only [Bool.and_eq_true, decide_eq_true_eq] at hcovers
    obtain ⟨⟨hfirst, hlast⟩, -⟩ := hcovers
    exact .inr ⟨first, last, step, shift, Array.mem_of_find?_eq_some hrow, hfirst, hlast, rfl⟩
  · exact .inl rfl

/-- The rows of the table that can lead to or from ASCII. -/
theorem bounds_of_mem_lowered {first last step : Nat} {shift : Int}
    (h : (first, last, step, shift) ∈ CaseTable.lowered) :
    0x41 ≤ first ∧ last ≤ 0x5A ∧ shift = 32 ∨ 0x80 ≤ first ∧ 0x65 < first + shift := by
  simpa [and_assoc] using Array.all_eq_true_iff_forall_mem.mp lowered_rows _ h

/-- Of the ASCII characters only the capitals are changed. -/
theorem lowerChar_of_lt {c : Char} (h : c.toNat < 0x41 ∨ 0x5A < c.toNat ∧ c.toNat < 0x80) :
    lowerChar c = c := by
  obtain hkept | ⟨first, last, step, shift, hrow, hfirst, hlast, -⟩ := lowerChar_cases c
  · exact hkept
  · have hbounds := bounds_of_mem_lowered hrow
    omega

theorem eq_toNat_of_ofNat_eq {n : Nat} {c : Char} (hc : c ≠ '\x00') (h : Char.ofNat n = c) :
    n = c.toNat := by
  by_cases hvalid : n.isValidChar
  · rw [Char.ofNat, dif_pos hvalid] at h
    exact congrArg Char.toNat h
  · rw [Char.ofNat, dif_neg hvalid] at h
    exact absurd h.symm hc

/-- Up to `e`, a character is had by lower-casing from itself and from its capital only. -/
theorem eq_or_capital_of_lowerChar_eq {c d : Char} (hd : d ≠ '\x00') (hlow : d.toNat ≤ 0x65)
    (h : lowerChar c = d) : c = d ∨ 0x41 ≤ c.toNat ∧ c.toNat ≤ 0x5A ∧ c.toNat + 32 = d.toNat := by
  obtain hkept | ⟨first, last, step, shift, hrow, hfirst, hlast, hmoved⟩ := lowerChar_cases c
  · exact .inl (hkept.symm.trans h)
  · have hcode := eq_toNat_of_ofNat_eq hd (hmoved.symm.trans h)
    have hbounds := bounds_of_mem_lowered hrow
    omega

/-- Nothing but a line break is lower-cased to one. -/
theorem lowerChar_eq_newline_iff {c : Char} : lowerChar c = '\n' ↔ c = '\n' := by
  constructor
  · intro h
    obtain hkept | ⟨hcapital, -, hcode⟩ := eq_or_capital_of_lowerChar_eq (by decide) (by decide) h
    · exact hkept
    · exact absurd hcode (by rw [show '\n'.toNat = 10 from rfl]; omega)
  · rintro rfl
    exact lowerChar_of_lt (.inl (by decide))

theorem lowerAfter_of_forall {before cs : List Char}
    (h : ∀ c ∈ cs, c.toNat < 0x41 ∨ 0x5A < c.toNat ∧ c.toNat < 0x80) :
    lowerAfter before cs = cs := by
  induction cs generalizing before with
  | nil => rfl
  | cons c cs ih =>
    obtain ⟨hc, hcs⟩ := List.forall_mem_cons.mp h
    have hsigma : c ≠ 'Σ' := by
      rintro rfl
      exact absurd hc (by decide)
    have hdotted : c ≠ 'İ' := by
      rintro rfl
      exact absurd hc (by decide)
    simp only [lowerAfter, hsigma, hdotted, if_false, lowerChar_of_lt hc, ih hcs]
    rfl

/-- A text without capitals and without characters beyond ASCII is kept. -/
theorem lowercase_of_forall {s : String}
    (h : ∀ c ∈ s.toList, c.toNat < 0x41 ∨ 0x5A < c.toNat ∧ c.toNat < 0x80) : lowercase s = s := by
  rw [lowercase, lowerAfter_of_forall h, String.ofList_toList]

theorem newline_mem_lowerAfter_iff {before cs : List Char} :
    '\n' ∈ lowerAfter before cs ↔ '\n' ∈ cs := by
  induction cs generalizing before with
  | nil => simp [lowerAfter]
  | cons c cs ih =>
    rw [lowerAfter, List.mem_append, ih, List.mem_cons]
    refine or_congr_left ?_
    by_cases hsigma : c = 'Σ'
    · subst hsigma
      simp only [if_true, List.mem_singleton]
      refine iff_of_false ?_ (by decide)
      split <;> decide
    · by_cases hdotted : c = 'İ'
      · subst hdotted
        simp
      · simp [hsigma, hdotted, lowerChar_eq_newline_iff, @eq_comm _ '\n']

/-- Lower-casing keeps line breaks and makes none. -/
theorem newline_mem_lowercase_iff {s : String} :
    '\n' ∈ (lowercase s).toList ↔ '\n' ∈ s.toList := by
  rw [lowercase, String.toList_ofList, newline_mem_lowerAfter_iff]

end Quizmaster.Text
