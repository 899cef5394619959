import Mathlib.Data.List.Sort
import Quizmaster.Grading
import Quizmaster.Proofs.Numeral.Extent

namespace Quizmaster

namespace Grading

/-- White space around a fill-in text does not count. -/
theorem normalize_trim (s : String) : normalize (Text.trim s) = normalize s := by
  simp only [normalize, Text.trim, String.toList_ofList, Text.trimChars_trimChars]

/-- Texts without white space and commas are compared as they are. -/
theorem normalize_of_forall {s : String}
    (h : ∀ c ∈ s.toList, Text.isBlank c = false ∧ c ≠ ',') : normalize s = s := by
  have hkept : s.toList.filter (fun c => c != ',' && c != ' ') = s.toList := by
    rw [List.filter_eq_self]
    intro c hc
    obtain ⟨hblank, hcomma⟩ := h c hc
    have hspace : c ≠ ' ' := by
      rintro rfl
      exact absurd hblank (by decide)
    simp [hcomma, hspace]
  rw [normalize, Text.trimChars_of_forall fun c hc => (h c hc).1, hkept, String.ofList_toList]

/-- A line break inside a text is not lost by what is removed. -/
theorem newline_mem_normalize_iff {s : String} :
    '\n' ∈ (normalize s).toList ↔ '\n' ∈ (Text.trim s).toList := by
  simp [normalize, Text.trim]

/-- Sorting tells whether two lists have the same items. -/
theorem mergeSort_eq_iff_perm {expected given : List String} :
    expected.mergeSort = given.mergeSort ↔ expected.Perm given := by
  have hsorted (items : List String) : items.mergeSort.Pairwise (· ≤ ·) :=
    List.pairwise_mergeSort' (· ≤ ·) items
  have hexpected : expected.mergeSort.Perm expected := List.mergeSort_perm expected _
  have hgiven : given.mergeSort.Perm given := List.mergeSort_perm given _
  constructor
  · intro hsame
    rw [← hsame] at hgiven
    exact hexpected.symm.trans hgiven
  · intro hperm
    have hboth := hexpected.trans (hperm.trans hgiven.symm)
    exact hboth.eq_of_pairwise (fun _ _ _ _ => String.le_antisymm)
      (hsorted expected) (hsorted given)

/-- Two selections are the same if one is the other in another order. -/
theorem sameItems_iff_perm {expected given : List String} :
    sameItems expected given = true ↔ expected.Perm given := by
  rw [sameItems, Bool.and_eq_true, beq_iff_eq, beq_iff_eq, mergeSort_eq_iff_perm]
  exact and_iff_right_of_imp List.Perm.length_eq

theorem distance?_self (x : Binary64) : x.distance? x = some .zero := by
  have hunits : Binary64.roundUnits 0 1 = 0 := by decide +kernel
  have hfinite : 0 < Binary64.limit := by decide +kernel
  rw [Binary64.distance?, Int.sub_self, Int.natAbs_zero, Binary64.round?, hunits]
  exact if_pos hfinite

theorem sameNumber_self (x : Binary64) : sameNumber x x = true := by
  have htolerance : decide (Binary64.zero.units < tolerance.units) = true := by decide +kernel
  unfold sameNumber
  split
  · next d hd =>
    obtain rfl := Option.some.inj ((distance?_self x).symm.trans hd)
    exact htolerance
  · next hd => cases (distance?_self x).symm.trans hd

/-- A text matches whatever is compared as the same. -/
theorem fillInMatches_of_normalize_eq {expected given : String}
    (h : normalize given = normalize expected) : fillInMatches expected given = true := by
  simp only [fillInMatches, h]
  cases leadingNumber? (normalize expected) with
  | none => exact beq_self_eq_true _
  | some x => exact sameNumber_self x

/-- What starts with a number is matched by that number alone, written without white space. -/
theorem exists_numeral_fillInMatches {expected : String} {x : Binary64}
    (h : leadingNumber? (normalize expected) = some x) :
    ∃ given, given ≠ "" ∧ (∀ c ∈ given.toList, Text.isBlank c = false) ∧
      fillInMatches expected given = true := by
  have hfound := h
  rw [leadingNumber?_eq] at hfound
  obtain ⟨⟨n, rest⟩, hscan, hvalue⟩ := Option.bind_eq_some_iff.mp hfound
  have hform := Numeral.wellFormed_of_scan? hscan
  have hplain : ∀ c ∈ (String.ofList n.text).toList, Text.isBlank c = false ∧ c ≠ ',' := by
    intro c hc
    rw [String.toList_ofList] at hc
    exact Numeral.plain_of_isNumeric (Numeral.isNumeric_of_mem_text hform hc)
  have hnumber : leadingNumber? (normalize (String.ofList n.text)) = some x := by
    have hends : Numeral.Ends [] := fun c hc => by cases hc
    have hown := Numeral.scan?_text_append hform hends
    rw [List.append_nil] at hown
    rw [normalize_of_forall hplain, leadingNumber?_eq, String.toList_ofList, hown]
    exact hvalue
  refine ⟨String.ofList n.text, ?_, fun c hc => (hplain c hc).1, ?_⟩
  · simpa using Numeral.text_ne_nil hform
  · simp only [fillInMatches, h, hnumber]
    exact sameNumber_self x

/-- Where no number is compared, a line break is matched by a line break only. -/
theorem newline_mem_of_fillInMatches {expected given : String}
    (hnumber : leadingNumber? (normalize expected) = none)
    (hbreak : '\n' ∈ (normalize expected).toList) (h : fillInMatches expected given = true) :
    '\n' ∈ given.toList := by
  simp only [fillInMatches, hnumber] at h
  have hlower := eq_of_beq h
  rw [← Text.newline_mem_lowercase_iff, hlower, Text.newline_mem_lowercase_iff,
    newline_mem_normalize_iff, Text.trim, String.toList_ofList] at hbreak
  exact (Text.trimChars_sublist _).mem hbreak

end Grading

end Quizmaster
