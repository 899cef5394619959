import Quizmaster.Proofs.Grading.Verdict
import Quizmaster.Proofs.Numeral.LetterCase

namespace Quizmaster

namespace Grading

open Text (isBlank trimChars Trimmed)

/-- The characters of a text, commas and spaces left out. -/
def bare (cs : List Char) : List Char := cs.filter fun c => c != ',' && c != ' '

/-- Read from its start, the text has a comma before other white space than spaces, with nothing but
    white space and commas up to there, and something other than white space after it. -/
def Covered (cs : List Char) : Prop :=
  ∃ outer c inner, cs = outer ++ c :: inner ∧ (∀ d ∈ outer, isBlank d = true ∨ d = ',') ∧
    ',' ∈ outer ∧ isBlank c = true ∧ c ≠ ' ' ∧ ∃ d ∈ inner, isBlank d = false

/-- A comma keeps white space from standing at the start or at the end of a text. -/
def Guarded (s : String) : Prop := Covered s.toList ∨ Covered s.toList.reverse

section

variable {cs : List Char}

/-- A fill-in text is trimmed before commas and spaces are removed from it. -/
theorem toList_normalize (s : String) : (normalize s).toList = bare (trimChars s.toList) :=
  String.toList_ofList

theorem mem_bare_iff {c : Char} : c ∈ bare cs ↔ c ∈ cs ∧ c ≠ ',' ∧ c ≠ ' ' := by
  simp [bare]

theorem bare_append (cs ds : List Char) : bare (cs ++ ds) = bare cs ++ bare ds :=
  List.filter_append cs ds

theorem bare_reverse (cs : List Char) : bare cs.reverse = (bare cs).reverse :=
  List.filter_reverse

theorem bare_eq_self (h : ∀ c ∈ cs, c ≠ ',' ∧ c ≠ ' ') : bare cs = cs := by
  rw [bare, List.filter_eq_self]
  intro c hc
  simpa using h c hc

/-- Once commas and spaces are removed, trimming leaves none of them. -/
theorem bare_trimChars_bare (cs : List Char) :
    bare (trimChars (bare cs)) = trimChars (bare cs) :=
  bare_eq_self fun _ hc => (mem_bare_iff.mp ((Text.trimChars_sublist _).mem hc)).2

/-- Trimming first makes no difference to what is trimmed last. -/
theorem trimChars_bare_trimChars (cs : List Char) :
    trimChars (bare (trimChars cs)) = trimChars (bare cs) := by
  obtain ⟨before, after, hcs, hbefore, hafter⟩ := Text.exists_trimChars_parts cs
  conv_rhs => rw [hcs, bare_append, bare_append]
  refine (Text.trimChars_append (fun c hc => ?_) (fun c hc => ?_) _).symm
  · exact hbefore c (mem_bare_iff.mp hc).1
  · exact hafter c (mem_bare_iff.mp hc).1

/-- What is normalized twice is trimmed after commas and spaces are left out. -/
theorem normalize_normalize (s : String) :
    normalize (normalize s) = String.ofList (trimChars (bare s.toList)) := by
  rw [← String.toList_inj, toList_normalize, toList_normalize, trimChars_bare_trimChars,
    bare_trimChars_bare, String.toList_ofList]

/-- Normalising twice is normalising once exactly if it leaves no white space at the ends. -/
theorem normalize_normalize_eq_iff_trimmed {s : String} :
    normalize (normalize s) = normalize s ↔ Trimmed (normalize s).toList := by
  rw [normalize_normalize, ← Text.trimChars_eq_self_iff, toList_normalize, trimChars_bare_trimChars,
    ← String.toList_inj, String.toList_ofList, toList_normalize]

/-- Trimming stops at a comma, with whatever is behind it. -/
theorem trimChars_comma {before within inner : List Char} {c : Char}
    (hbefore : ∀ d ∈ before, isBlank d = true) (hinner : ∃ d ∈ inner, isBlank d = false) :
    trimChars (before ++ ',' :: within ++ c :: inner) =
      ',' :: within ++ c :: inner.rdropWhile isBlank := by
  have hkept : inner.rdropWhile isBlank ≠ [] := by
    intro hnone
    obtain ⟨d, hd, hplain⟩ := hinner
    have hblank := List.rdropWhile_eq_nil_iff.mp hnone d hd
    simp [hplain] at hblank
  have htrimmed : Trimmed (',' :: within ++ c :: inner.rdropWhile isBlank) := by
    constructor
    · rintro _ ⟨⟩
      decide
    · intro e he
      rw [List.getLast?_append_cons, List.getLast?_cons_of_ne_nil hkept,
        List.getLast?_eq_some_getLast hkept] at he
      cases he
      exact Bool.eq_false_iff.mpr (List.rdropWhile_last_not isBlank inner hkept)
  have hparts : before ++ ',' :: within ++ c :: inner =
      before ++ (',' :: within ++ c :: inner.rdropWhile isBlank) ++ inner.rtakeWhile isBlank := by
    conv_lhs => rw [← List.rdropWhile_append_rtakeWhile (p := isBlank) (l := inner)]
    simp
  rw [hparts, Text.trimChars_append hbefore (fun e he => List.mem_rtakeWhile_imp he),
    Text.trimChars_eq_self_iff.mpr htrimmed]

/-- Of a covered text the comma is the start that trimming leaves, and white space comes up once
    commas and spaces are left out. -/
theorem head?_of_covered (h : Covered cs) :
    ∃ c, (bare (trimChars cs)).head? = some c ∧ isBlank c = true := by
  obtain ⟨outer, c, inner, rfl, houter, hcomma, hblank, hspace, hinner⟩ := h
  obtain ⟨before, within, rfl, hfirst⟩ := List.eq_append_cons_of_mem hcomma
  have hbefore : ∀ d ∈ before, isBlank d = true := by
    intro d hd
    refine (houter d (by simp [hd])).resolve_right ?_
    rintro rfl
    exact hfirst hd
  have hc : c ≠ ',' := by
    rintro rfl
    exact absurd hblank (by decide)
  have hbare : bare (',' :: within ++ c :: inner.rdropWhile isBlank) =
      bare within ++ c :: bare (inner.rdropWhile isBlank) := by
    simp [bare, hc, hspace]
  rw [trimChars_comma hbefore hinner, hbare]
  cases hwithin : bare within with
  | nil => exact ⟨c, rfl, hblank⟩
  | cons e rest =>
    obtain ⟨hmem, hne, -⟩ := mem_bare_iff.mp (hwithin ▸ List.mem_cons_self : e ∈ bare within)
    exact ⟨e, rfl, (houter e (by simp [hmem])).resolve_right hne⟩

/-- White space that comes up at the start stood behind a comma. -/
theorem covered_of_head? {c : Char} (h : (bare (trimChars cs)).head? = some c)
    (hblank : isBlank c = true) : Covered cs := by
  obtain ⟨rest, hrest⟩ := List.head?_eq_some_iff.mp h
  obtain ⟨removed, tail, htrim, hremoved, hc, -⟩ := List.filter_eq_cons_iff.mp hrest
  obtain ⟨before, after, hcs, hbefore, hafter⟩ := Text.exists_trimChars_parts cs
  obtain ⟨hstart, hend⟩ := Text.trimmed_trimChars cs
  rw [htrim] at hcs hstart hend
  have hspace : c ≠ ' ' := by simpa using (Bool.and_eq_true_iff.mp hc).2
  have hseparator : ∀ d ∈ removed, d = ',' ∨ d = ' ' := by
    intro d hd
    have := hremoved d hd
    simp only [Bool.and_eq_true, bne_iff_ne] at this
    tauto
  refine ⟨before ++ removed, c, tail ++ after, by simp [hcs], ?_, ?_, hblank, hspace, ?_⟩
  · intro d hd
    obtain hd | hd := List.mem_append.mp hd
    · exact .inl (hbefore d hd)
    · obtain rfl | rfl := hseparator d hd
      · exact .inr rfl
      · exact .inl (by decide)
  · -- A trimmed text starts with something other than white space, here with a comma.
    cases removed with
    | nil => exact absurd (hstart c rfl) (by simp [hblank])
    | cons first rest =>
      have hfirst := hstart first rfl
      obtain rfl | rfl := hseparator first List.mem_cons_self
      · simp
      · exact absurd hfirst (by decide)
  · have hlast : (removed ++ c :: tail).getLast? = (c :: tail).getLast? :=
      List.getLast?_append_cons removed c tail
    cases htail : tail.getLast? with
    | none =>
      rw [List.getLast?_eq_none_iff.mp htail] at hend
      exact absurd (hend c (by simp)) (by simp [hblank])
    | some d =>
      refine ⟨d, List.mem_append_left _ (List.mem_of_getLast? htail), hend d ?_⟩
      rw [hlast, List.getLast?_cons, htail]
      rfl

/-- Only white space that is not removed can come to stand at the start. -/
theorem covered_iff :
    Covered cs ↔ ∃ c, (bare (trimChars cs)).head? = some c ∧ isBlank c = true :=
  ⟨head?_of_covered, fun ⟨_, h, hblank⟩ => covered_of_head? h hblank⟩

/-- A text is guarded exactly if white space stands at an end once commas and spaces are removed. -/
theorem guarded_iff {s : String} : Guarded s ↔ ¬ Trimmed (normalize s).toList := by
  rw [Guarded, covered_iff, covered_iff, Text.trimChars_reverse, bare_reverse, List.head?_reverse,
    Trimmed, toList_normalize]
  simp only [not_and_or, not_forall, Bool.not_eq_false, exists_prop]

/-- Normalizing again changes a text exactly if a comma guards white space at one of its ends. -/
theorem normalize_normalize_eq_iff {s : String} :
    normalize (normalize s) = normalize s ↔ ¬ Guarded s := by
  rw [guarded_iff, not_not, normalize_normalize_eq_iff_trimmed]

end

/-- The texts are normalized to the same one, or they start with the same number. -/
def ReadAlike (s t : String) : Prop :=
  normalize s = normalize t ∨
    ∃ x, leadingNumber? (normalize s) = some x ∧ leadingNumber? (normalize t) = some x

section

variable {s s' t t' : String}

/-- A text that starts with a number is not matched by one that does not, whatever the case of its
    letters. -/
theorem leadingNumber?_of_fillInMatches {x : Binary64}
    (hs : leadingNumber? (normalize s) = some x) (h : fillInMatches s t = true) :
    ∃ y, leadingNumber? (normalize t) = some y := by
  rw [← Option.ne_none_iff_exists']
  intro hnone
  simp only [fillInMatches, hs, hnone, beq_iff_eq] at h
  have hnumber := leadingNumber?_lowercase (normalize s)
  rw [h, leadingNumber?_lowercase, hnone, hs] at hnumber
  cases hnumber

/-- A given text may be replaced by one that is read alike. -/
theorem fillInMatches_congr_right (h : ReadAlike t t') :
    fillInMatches s t' = fillInMatches s t := by
  obtain hsame | ⟨x, ht, ht'⟩ := h
  · simp only [fillInMatches, hsame]
  · cases hs : leadingNumber? (normalize s) with
    | some y => simp only [fillInMatches, hs, ht, ht']
    | none =>
      have hwrong {u : String} (hu : leadingNumber? (normalize u) = some x) :
          fillInMatches s u = false := by
        rw [Bool.eq_false_iff]
        intro hmatch
        rw [fillInMatches_comm] at hmatch
        obtain ⟨y, hy⟩ := leadingNumber?_of_fillInMatches hu hmatch
        rw [hs] at hy
        cases hy
      rw [hwrong ht, hwrong ht']

/-- What is read alike is matched alike, as either text. -/
theorem fillInMatches_congr (hs : ReadAlike s s') (ht : ReadAlike t t') :
    fillInMatches s' t' = fillInMatches s t := by
  rw [fillInMatches_congr_right ht, fillInMatches_comm, fillInMatches_congr_right hs,
    fillInMatches_comm]

/-- A text with white space around it is read alike. -/
theorem readAlike_padded {before after : List Char} (hbefore : ∀ c ∈ before, isBlank c = true)
    (hafter : ∀ c ∈ after, isBlank c = true) (h : t.toList = before ++ s.toList ++ after) :
    ReadAlike s t := by
  refine .inl ?_
  rw [normalize, normalize, h, Text.trimChars_append hbefore hafter]

/-- Texts that differ in commas and spaces only are read alike if neither is guarded. -/
theorem readAlike_of_not_guarded (h : bare s.toList = bare t.toList) (hs : ¬ Guarded s)
    (ht : ¬ Guarded t) : ReadAlike s t := by
  refine .inl ?_
  rw [← normalize_normalize_eq_iff.mpr hs, ← normalize_normalize_eq_iff.mpr ht,
    normalize_normalize, normalize_normalize, h]

/-- Where no comma guards the start, what is left of a text is its trimmed bare characters with
    white space after them. -/
theorem exists_toList_normalize (h : ¬ Covered s.toList) : ∃ after,
    (normalize s).toList = trimChars (bare s.toList) ++ after ∧
      ∀ c ∈ after, isBlank c = true := by
  obtain ⟨before, after, hparts, hbefore, hafter⟩ :=
    Text.exists_trimChars_parts (bare (trimChars s.toList))
  rw [trimChars_bare_trimChars] at hparts
  cases before with
  | nil => exact ⟨after, by rw [toList_normalize, hparts]; rfl, hafter⟩
  | cons c before =>
    refine absurd (covered_iff.mpr ⟨c, ?_, hbefore c List.mem_cons_self⟩) h
    rw [hparts]
    rfl

theorem isNumeric_of_isBlank {c : Char} (h : isBlank c = true) : Numeral.isNumeric c = false := by
  rw [Bool.eq_false_iff]
  intro hnumeric
  rw [(Numeral.plain_of_isNumeric hnumeric).1] at h
  cases h

/-- The number of a text that is not covered is read behind its commas and spaces. -/
theorem leadingNumber?_normalize (h : ¬ Covered s.toList) :
    leadingNumber? (normalize s) = leadingNumber? (String.ofList (trimChars (bare s.toList))) := by
  obtain ⟨after, hparts, hafter⟩ := exists_toList_normalize h
  have hnone : after.takeWhile Numeral.isNumeric = [] := by
    cases after with
    | nil => rfl
    | cons c after =>
      have hblank := isNumeric_of_isBlank (hafter c List.mem_cons_self)
      exact List.takeWhile_cons_of_neg (by simp [hblank])
  have hstart : (normalize s).toList.takeWhile Numeral.isNumeric =
      (trimChars (bare s.toList)).takeWhile Numeral.isNumeric := by
    rw [hparts, List.takeWhile_append, hnone, List.append_nil]
    split
    · next hall => rw [(List.takeWhile_prefix _).eq_of_length hall]
    · rfl
  rw [← leadingNumber?_takeWhile, hstart]
  conv_rhs => rw [← leadingNumber?_takeWhile, String.toList_ofList]

/-- A number does not start with white space. -/
theorem not_covered_of_leadingNumber? {x : Binary64} (h : leadingNumber? (normalize s) = some x) :
    ¬ Covered s.toList := by
  rw [covered_iff]
  rintro ⟨c, hc, hblank⟩
  obtain ⟨rest, hrest⟩ := List.head?_eq_some_iff.mp hc
  have hnumeric := isNumeric_of_isBlank hblank
  have hnone : Numeral.scan? [] = none := rfl
  rw [← leadingNumber?_takeWhile, toList_normalize, hrest,
    List.takeWhile_cons_of_neg (by simp [hnumeric]), leadingNumber?_eq, String.toList_ofList, hnone,
    Option.bind_none] at h
  cases h

/-- Where a number is read, only the start of a text matters. -/
theorem readAlike_of_leadingNumber? {x : Binary64} (h : bare s.toList = bare t.toList)
    (hs : leadingNumber? (normalize s) = some x) (ht : ¬ Covered t.toList) : ReadAlike s t := by
  refine .inr ⟨x, hs, ?_⟩
  rw [leadingNumber?_normalize ht, ← h,
    ← leadingNumber?_normalize (not_covered_of_leadingNumber? hs)]
  exact hs

end

/-- One way to rewrite a fill-in text that leaves what it is read as. -/
inductive Restyled (s t : String) : Prop
  /-- White space is put around the text. -/
  | padded (before after : List Char) (hbefore : ∀ c ∈ before, isBlank c = true)
      (hafter : ∀ c ∈ after, isBlank c = true) (text : t.toList = before ++ s.toList ++ after)
  /-- Commas and spaces are put in or left out anywhere, where none guards an end, before or after. -/
  | separated (text : bare s.toList = bare t.toList) (before : ¬ Guarded s) (after : ¬ Guarded t)
  /-- The text starts with a number, and the start of what it is rewritten to is not guarded. -/
  | numeral (text : bare s.toList = bare t.toList) (number : leadingNumber? (normalize s) ≠ none)
      (start : ¬ Covered t.toList)

/-- Texts that are styled in another way are read alike. -/
theorem Restyled.readAlike {s t : String} (h : Restyled s t) : ReadAlike s t := by
  cases h with
  | padded before after hbefore hafter text => exact readAlike_padded hbefore hafter text
  | separated text before after => exact readAlike_of_not_guarded text before after
  | numeral text number start =>
    obtain ⟨x, hx⟩ := Option.ne_none_iff_exists'.mp number
    exact readAlike_of_leadingNumber? text hx start

end Grading

namespace Question

open Grading

/-- White space around a fill-in text never matters, and commas and spaces do not wherever they are
    put, as long as none of them keeps other white space from an end of the text. Of a text that starts
    with a number only the start can be spoiled so, and is then always wrong. -/
theorem isAnsweredBy_restyled (q : Question) :
    (∀ s, normalize (normalize (normalize s)) = normalize (normalize s)) ∧
    (∀ s, normalize (normalize s) = normalize s ↔ ¬ Guarded s) ∧
    (q.kind = .fillIn → ∀ a a' b b' : Answer, Restyled a.text a'.text → Restyled b.text b'.text →
      { q with answer := a' }.isAnsweredBy b' = { q with answer := a }.isAnsweredBy b) ∧
    (q.kind = .fillIn → ∀ a b : Answer, bare a.text.toList = bare b.text.toList →
      leadingNumber? (normalize a.text) ≠ none →
      ({ q with answer := a }.isAnsweredBy b = true ↔ ¬ Covered b.text.toList)) := by
  refine ⟨fun s => ?_, fun s => normalize_normalize_eq_iff, fun hk a a' b b' ha hb => ?_,
    fun hk a b htext hnumber => ?_⟩
  · rw [normalize_normalize_eq_iff_trimmed, normalize_normalize, String.toList_ofList]
    exact Text.trimmed_trimChars _
  · simp only [isAnsweredBy, hk, Grading.grade]
    exact fillInMatches_congr ha.readAlike hb.readAlike
  · simp only [isAnsweredBy, hk, Grading.grade]
    obtain ⟨x, hx⟩ := Option.ne_none_iff_exists'.mp hnumber
    constructor
    · intro h
      obtain ⟨y, hy⟩ := leadingNumber?_of_fillInMatches hx h
      exact not_covered_of_leadingNumber? hy
    · intro hstart
      rw [fillInMatches_congr_right (readAlike_of_leadingNumber? htext hx hstart)]
      exact fillInMatches_of_normalize_eq rfl

/-- One thousand with a comma and a space, with a tab before it, and with a comma before the tab,
    which spoils it. -/
theorem isAnsweredBy_restyled_thousand :
    let q : Question := .plain "q" .fillIn "How many?" [] (.fillIn "1000")
    { q with answer := .fillIn "1, 000" }.isAnsweredBy (.fillIn "\t1000") = true ∧
      { q with answer := .fillIn "\t1000" }.isAnsweredBy (.fillIn ",\t1000") = false := by
  intro q
  obtain ⟨-, hidempotent, hverdict, hnumber⟩ := isAnsweredBy_restyled q
  have hplain : ¬ Guarded "1000" := (hidempotent _).mp (by decide +kernel)
  have hsplit : ¬ Guarded "1, 000" := (hidempotent _).mp (by decide +kernel)
  have hseparated : Restyled "1000" "1, 000" := .separated (by decide) hplain hsplit
  have hpadded : Restyled "1000" "\t1000" :=
    .padded ['\t'] [] (List.all_eq_true.mp rfl) nofun rfl
  have hspoilt : Covered ",\t1000".toList :=
    ⟨[','], '\t', ['1', '0', '0', '0'], rfl, by simp, by simp, rfl, by decide, '1', by simp, rfl⟩
  constructor
  · rw [hverdict rfl (.fillIn "1000") (.fillIn "1, 000") (.fillIn "1000") (.fillIn "\t1000")
      hseparated hpadded]
    exact (hnumber rfl (.fillIn "1000") (.fillIn "1000") rfl (by decide +kernel)).mpr fun h =>
      hplain (.inl h)
  · rw [Bool.eq_false_iff]
    intro h
    exact (hnumber rfl (.fillIn "\t1000") (.fillIn ",\t1000") (by decide) (by decide +kernel)).mp h
      hspoilt

/-- A tab after a comma is not trimmed, so that it is left at the start once the comma is removed:
    normalizing is not idempotent, and the comma makes a right text wrong. -/
theorem comma_spoils_number :
    let q : Question := .plain "q" .fillIn "Which?" [] (.fillIn "42")
    normalize (normalize ",\t42") ≠ normalize ",\t42" ∧
      q.isAnsweredBy (.fillIn "42") = true ∧ q.isAnsweredBy (.fillIn "\t42") = true ∧
      q.isAnsweredBy (.fillIn ",\t42") = false := by
  decide +kernel

end Question

end Quizmaster
