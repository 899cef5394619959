import Quizmaster.Proofs.Text.Pieces
import Quizmaster.Source

namespace Quizmaster.Source

/-- The end of a question file's name. -/
def suffix : String := ".json"

/-- The grade word with a digit right after it. -/
def StartsGrade (part : String) : Prop :=
  ∃ d rest, part.toList = gradeWord.toList ++ d :: rest ∧ d.isDigit = true

/-- A part is a grade if a digit follows the word. -/
theorem isGrade_iff {part : String} : isGrade part = true ↔ StartsGrade part := by
  unfold isGrade
  split
  · next d rest hpart =>
    have htext := List.isPrefixOf?_eq_some_iff_append_eq.mp hpart
    constructor
    · intro hdigit
      exact ⟨d, rest, htext.symm, hdigit⟩
    · rintro ⟨d', rest', htext', hdigit⟩
      obtain ⟨rfl, -⟩ := List.cons.inj (List.append_cancel_left (htext.trans htext'))
      exact hdigit
  · next hnone =>
    refine iff_of_false Bool.false_ne_true ?_
    rintro ⟨d, rest, htext, -⟩
    exact hnone d rest (List.isPrefixOf?_eq_some_iff_append_eq.mpr htext.symm)

instance (part : String) : Decidable (StartsGrade part) :=
  decidable_of_iff (isGrade part = true) isGrade_iff

theorem isGrade_eq_false_iff {part : String} : isGrade part = false ↔ ¬ StartsGrade part := by
  rw [← isGrade_iff, Bool.not_eq_true]

/-- What follows the grade word is the grade level, since a digit starts no grade word. -/
theorem gradeOf_of_digit {part : String} {d : Char} {rest : List Char}
    (h : part.toList = gradeWord.toList ++ d :: rest) (hd : d.isDigit = true) :
    gradeOf part = String.ofList (d :: rest) := by
  have hword : gradeWord.toList ≠ [] := by decide
  have hstop : ¬ gradeWord.toList <+: d :: rest := by
    intro hprefix
    obtain ⟨rfl, -⟩ := List.cons_prefix_cons.mp hprefix
    exact absurd hd (by decide)
  rw [gradeOf, h, Text.dropRepeats, dif_pos ⟨hword, by simp⟩, List.drop_left, Text.dropRepeats,
    dif_neg]
  rintro ⟨-, hprefix⟩
  exact hstop (List.isPrefixOf_iff_prefix.mp hprefix)

/-- The parts of a name. -/
def partsOf (file : String) : List String := Text.split '_' (Text.erase suffix file)

/-- The first part is the subject. -/
def subjectOf (parts : List String) : String :=
  if parts.head?.getD "" == "" then general else parts.head?.getD ""

/-- The first part that gives a grade tells the grade level. -/
def gradeLevelOf (parts : List String) : String :=
  match parts.find? isGrade with
  | some grade => gradeOf grade
  | none => unknown

/-- What follows this part is the identifier, and if there is none what follows the subject. -/
def identifierParts (parts : List String) : List String :=
  match parts.dropWhile (!isGrade ·) with
  | _ :: rest => rest
  | [] => parts.drop 1

section

variable {parts before rest : List String} {grade : String}

/-- A name has a first part that gives a grade, or none. -/
theorem grade_cases (parts : List String) : (∀ part ∈ parts, isGrade part = false) ∨
    ∃ before grade rest, parts = before ++ grade :: rest ∧
      (∀ part ∈ before, isGrade part = false) ∧ isGrade grade = true := by
  cases hfind : parts.find? isGrade with
  | none => exact .inl (by simpa using List.find?_eq_none.mp hfind)
  | some grade =>
    obtain ⟨hgrade, before, rest, hparts, hbefore⟩ := List.find?_eq_some_iff_append.mp hfind
    exact .inr ⟨before, grade, rest, hparts, by simpa using hbefore, hgrade⟩

/-- The first grade among the parts gives the grade level. -/
theorem gradeLevelOf_of_grade (hbefore : ∀ part ∈ before, isGrade part = false)
    (hgrade : isGrade grade = true) : gradeLevelOf (before ++ grade :: rest) = gradeOf grade := by
  have hfind : (before ++ grade :: rest).find? isGrade = some grade :=
    List.find?_eq_some_iff_append.mpr ⟨hgrade, before, rest, rfl, by simpa using hbefore⟩
  rw [gradeLevelOf, hfind]

theorem gradeLevelOf_of_no_grade (h : ∀ part ∈ parts, isGrade part = false) :
    gradeLevelOf parts = unknown := by
  have hfind : parts.find? isGrade = none := List.find?_eq_none.mpr (by simpa using h)
  rw [gradeLevelOf, hfind]

theorem dropWhile_of_grade (hbefore : ∀ part ∈ before, isGrade part = false)
    (hgrade : isGrade grade = true) :
    (before ++ grade :: rest).dropWhile (!isGrade ·) = grade :: rest := by
  rw [List.dropWhile_append_of_pos (by simpa using hbefore),
    List.dropWhile_cons_of_neg (by simpa using hgrade)]

theorem dropWhile_of_no_grade (h : ∀ part ∈ parts, isGrade part = false) :
    parts.dropWhile (!isGrade ·) = [] :=
  List.dropWhile_eq_nil_iff.mpr (by simpa using h)

/-- The identifier stands behind the grade. -/
theorem identifierParts_of_grade (hbefore : ∀ part ∈ before, isGrade part = false)
    (hgrade : isGrade grade = true) : identifierParts (before ++ grade :: rest) = rest := by
  rw [identifierParts, dropWhile_of_grade hbefore hgrade]

theorem identifierParts_of_no_grade (h : ∀ part ∈ parts, isGrade part = false) :
    identifierParts parts = parts.drop 1 := by
  rw [identifierParts, dropWhile_of_no_grade h]

/-- Each of the three is read off the parts on its own. -/
theorem ofFileName_eq (file : String) :
    ofFileName file = ⟨subjectOf (partsOf file), gradeLevelOf (partsOf file),
      identifierOf (identifierParts (partsOf file)), file⟩ := by
  unfold ofFileName partsOf suffix
  generalize Text.split '_' (Text.erase ".json" file) = parts
  rcases grade_cases parts with hnone | ⟨before, grade, rest, rfl, hbefore, hgrade⟩
  · rw [gradeLevelOf_of_no_grade hnone, identifierParts_of_no_grade hnone]
    simp only [dropWhile_of_no_grade hnone]
    rfl
  · rw [gradeLevelOf_of_grade hbefore hgrade, identifierParts_of_grade hbefore hgrade]
    simp only [dropWhile_of_grade hbefore hgrade]
    rfl

theorem subjectOf_cons {s : String} (h : s ≠ "") (rest : List String) :
    subjectOf (s :: rest) = s := by
  simp [subjectOf, h]

/-- Cut into parts and joined again, an identifier is what it was. -/
theorem identifierOf_split {t : String} (hne : t ≠ "") (hend : t.toList.getLast? ≠ some '_') :
    identifierOf (Text.split '_' t) = t := by
  have hbar : "_" = String.singleton '_' := by decide
  have hjoin : Text.join "_" (Text.split '_' t) = t := by rw [hbar, Text.join_split]
  have htrim : Text.trimEndWhile (· == '_') t = t := by
    apply Text.trimEndWhile_eq_self_iff.mpr
    rintro c hlast
    rw [hlast] at hend
    simpa using hend
  rw [identifierOf, hjoin, htrim, orUnknown, if_neg (by simpa using hne)]

end

/-- A source with all that a name can tell filled in. -/
structure Complete (source : Source) : Prop where
  subject_ne : source.subject ≠ ""
  underscore_not_mem_subject : '_' ∉ source.subject.toList
  gradeLevel_ne : source.gradeLevel ≠ ""
  underscore_not_mem_gradeLevel : '_' ∉ source.gradeLevel.toList
  identifier_ne : source.identifier ≠ ""
  identifier_end : source.identifier.toList.getLast? ≠ some '_'

section

variable {parts : List String}

/-- The subject is filled in and has no underscore. -/
theorem subjectOf_spec (h : ∀ part ∈ parts, '_' ∉ part.toList) :
    subjectOf parts ≠ "" ∧ '_' ∉ (subjectOf parts).toList := by
  unfold subjectOf
  split
  · decide
  · next hne =>
    refine ⟨by simpa using hne, ?_⟩
    cases parts with
    | nil => exact absurd rfl hne
    | cons first rest => exact h first List.mem_cons_self

theorem gradeOf_spec {part : String} (hgrade : isGrade part = true) (h : '_' ∉ part.toList) :
    gradeOf part ≠ "" ∧ '_' ∉ (gradeOf part).toList := by
  obtain ⟨d, rest, htext, hdigit⟩ := isGrade_iff.mp hgrade
  rw [gradeOf_of_digit htext hdigit, ne_eq, ← String.toList_inj, String.toList_ofList]
  refine ⟨List.cons_ne_nil d rest, fun hmem => h ?_⟩
  rw [htext]
  exact List.mem_append_right _ hmem

/-- The grade level is filled in and has no underscore. -/
theorem gradeLevelOf_spec (h : ∀ part ∈ parts, '_' ∉ part.toList) :
    gradeLevelOf parts ≠ "" ∧ '_' ∉ (gradeLevelOf parts).toList := by
  unfold gradeLevelOf
  split
  · next grade hfind =>
    exact gradeOf_spec (List.find?_some hfind) (h grade (List.mem_of_find?_eq_some hfind))
  · decide

/-- The identifier is filled in and does not end in an underscore. -/
theorem identifierOf_spec (parts : List String) :
    identifierOf parts ≠ "" ∧ (identifierOf parts).toList.getLast? ≠ some '_' := by
  unfold identifierOf orUnknown
  split
  · decide
  · next hne =>
    refine ⟨by simpa using hne, fun hlast => ?_⟩
    rw [Text.trimEndWhile, Text.dropEndWhile_eq_rdropWhile, String.toList_ofList] at hlast
    have hnil : ((Text.join "_" parts).toList.rdropWhile (· == '_')) ≠ [] := by
      rintro hnil
      rw [hnil] at hlast
      cases hlast
    rw [List.getLast?_eq_some_getLast hnil] at hlast
    apply List.rdropWhile_last_not (· == '_') _ hnil
    rw [Option.some.inj hlast]
    rfl

end

/-- Whatever a name is, it gives all three. -/
theorem complete_ofFileName (file : String) : (ofFileName file).Complete := by
  have hparts : ∀ part ∈ partsOf file, '_' ∉ part.toList := fun _ => Text.not_mem_of_mem_split
  have hsubject := subjectOf_spec hparts
  have hlevel := gradeLevelOf_spec hparts
  have hidentifier := identifierOf_spec (identifierParts (partsOf file))
  rw [ofFileName_eq]
  generalize subjectOf (partsOf file) = subject at hsubject
  generalize gradeLevelOf (partsOf file) = gradeLevel at hlevel
  generalize identifierOf (identifierParts (partsOf file)) = identifier at hidentifier
  exact ⟨hsubject.1, hsubject.2, hlevel.1, hlevel.2, hidentifier.1, hidentifier.2⟩

/-- What can stand as the subject in a name. -/
structure IsSubject (s : String) : Prop where
  ne_empty : s ≠ ""
  underscore_not_mem : '_' ∉ s.toList
  noSuffix : ¬ Text.Occurs suffix s
  noGrade : ¬ StartsGrade s

/-- What can stand after the grade word in a name. -/
structure IsGradeLevel (n : String) : Prop where
  digit : ∃ d rest, n.toList = d :: rest ∧ d.isDigit = true
  underscore_not_mem : '_' ∉ n.toList
  noSuffix : ¬ Text.Occurs suffix n

/-- What can stand as the identifier in a name; it may have parts of its own. -/
structure IsIdentifier (t : String) : Prop where
  ne_empty : t ≠ ""
  noUnderscoreAtEnd : t.toList.getLast? ≠ some '_'
  noSuffix : ¬ Text.Occurs suffix t

theorem suffix_toList_ne : suffix.toList ≠ [] := by
  decide

/-- The suffix of a name is removed, and nothing else. -/
theorem erase_append_suffix {stem : String} (h : ¬ Text.Occurs suffix stem) :
    Text.erase suffix (stem ++ suffix) = stem := by
  rw [Text.erase, ← String.toList_inj, String.toList_ofList, String.toList_append]
  exact Text.eraseFrom_append_pattern (by decide) h

theorem split_append_underscore {s : String} (h : '_' ∉ s.toList) (t : String) :
    Text.split '_' (s ++ "_" ++ t) = s :: Text.split '_' t := by
  have hbar : "_" = String.singleton '_' := by decide
  rw [hbar, Text.split_append h]

/-- Two parts without the extension have none between them. -/
theorem not_occurs_suffix_append {s t : String} (hs : ¬ Text.Occurs suffix s)
    (ht : ¬ Text.Occurs suffix t) : ¬ Text.Occurs suffix (s ++ "_" ++ t) := by
  have htext : (s ++ "_" ++ t).toList = s.toList ++ '_' :: t.toList := by
    simp [String.toList_append]
  rw [Text.Occurs, htext]
  exact Text.not_infix_append_cons suffix_toList_ne (by decide) hs ht

theorem not_occurs_suffix_grade {n : String} (h : ¬ Text.Occurs suffix n) :
    ¬ Text.Occurs suffix (gradeWord ++ n) := by
  rw [Text.Occurs, String.toList_append]
  exact Text.not_infix_append_of_forall suffix_toList_ne (by simp [gradeWord, suffix]) h

section

variable {s n t : String}

/-- A name that is put together from a subject, a grade level and an identifier is taken apart into
    these. -/
theorem ofFileName_graded (hs : IsSubject s) (hn : IsGradeLevel n) (ht : IsIdentifier t) :
    ofFileName (s ++ "_grade" ++ n ++ "_" ++ t ++ suffix) =
      ⟨s, n, t, s ++ "_grade" ++ n ++ "_" ++ t ++ suffix⟩ := by
  have hgradePlain : '_' ∉ (gradeWord ++ n).toList := by
    rw [String.toList_append, List.mem_append, not_or]
    exact ⟨by decide, hn.underscore_not_mem⟩
  have hstem : s ++ "_grade" ++ n ++ "_" ++ t = s ++ "_" ++ (gradeWord ++ n ++ "_" ++ t) := by
    have hword : "_grade" = "_" ++ gradeWord := by decide
    rw [hword]
    simp only [String.append_assoc]
  have hfree : ¬ Text.Occurs suffix (s ++ "_grade" ++ n ++ "_" ++ t) := by
    rw [hstem]
    apply not_occurs_suffix_append hs.noSuffix
    exact not_occurs_suffix_append (not_occurs_suffix_grade hn.noSuffix) ht.noSuffix
  have hparts : partsOf (s ++ "_grade" ++ n ++ "_" ++ t ++ suffix) =
      [s] ++ (gradeWord ++ n) :: Text.split '_' t := by
    rw [partsOf, erase_append_suffix hfree, hstem, split_append_underscore hs.underscore_not_mem,
      split_append_underscore hgradePlain, List.singleton_append]
  have hsubject : ∀ part ∈ [s], isGrade part = false := by
    intro part hpart
    rw [List.mem_singleton.mp hpart]
    exact isGrade_eq_false_iff.mpr hs.noGrade
  obtain ⟨d, rest, hdigits, hdigit⟩ := hn.digit
  have htext : (gradeWord ++ n).toList = gradeWord.toList ++ d :: rest := by
    rw [String.toList_append, hdigits]
  have hgrade : isGrade (gradeWord ++ n) = true := isGrade_iff.mpr ⟨d, rest, htext, hdigit⟩
  have hlevel : gradeOf (gradeWord ++ n) = n := by
    rw [gradeOf_of_digit htext hdigit, ← hdigits, String.ofList_toList]
  rw [ofFileName_eq, hparts, gradeLevelOf_of_grade hsubject hgrade, hlevel,
    identifierParts_of_grade hsubject hgrade, identifierOf_split ht.ne_empty ht.noUnderscoreAtEnd,
    List.singleton_append, subjectOf_cons hs.ne_empty]

/-- A name that is put together from a subject and an identifier is taken apart into these, with no
    grade level. -/
theorem ofFileName_ungraded (hs : IsSubject s) (ht : IsIdentifier t)
    (hnone : ∀ part ∈ Text.split '_' t, ¬ StartsGrade part) :
    ofFileName (s ++ "_" ++ t ++ suffix) = ⟨s, unknown, t, s ++ "_" ++ t ++ suffix⟩ := by
  have hparts : partsOf (s ++ "_" ++ t ++ suffix) = s :: Text.split '_' t := by
    rw [partsOf, erase_append_suffix (not_occurs_suffix_append hs.noSuffix ht.noSuffix),
      split_append_underscore hs.underscore_not_mem]
  have hplain : ∀ part ∈ s :: Text.split '_' t, isGrade part = false := by
    intro part hpart
    apply isGrade_eq_false_iff.mpr
    rcases List.mem_cons.mp hpart with rfl | htail
    · exact hs.noGrade
    · exact hnone part htail
  rw [ofFileName_eq, hparts, gradeLevelOf_of_no_grade hplain, identifierParts_of_no_grade hplain,
    List.drop_one, List.tail_cons, identifierOf_split ht.ne_empty ht.noUnderscoreAtEnd,
    subjectOf_cons hs.ne_empty]

end

/-- Names built from a subject, a grade level and an identifier are taken apart into them, without a
    grade level if there is none, and every name gives a subject, a grade level and an identifier. -/
theorem ofFileName_convention :
    (∀ s n t, IsSubject s → IsGradeLevel n → IsIdentifier t →
      ofFileName (s ++ "_grade" ++ n ++ "_" ++ t ++ suffix) =
        ⟨s, n, t, s ++ "_grade" ++ n ++ "_" ++ t ++ suffix⟩) ∧
    (∀ s t, IsSubject s → IsIdentifier t → (∀ part ∈ Text.split '_' t, ¬ StartsGrade part) →
      ofFileName (s ++ "_" ++ t ++ suffix) = ⟨s, unknown, t, s ++ "_" ++ t ++ suffix⟩) ∧
    ∀ file, (ofFileName file).Complete :=
  ⟨fun _ _ _ => ofFileName_graded, fun _ _ => ofFileName_ungraded, complete_ofFileName⟩

/-- An identifier with another grade, empty parts and the start of the suffix, and one whose grade
    word has no digit. -/
theorem ofFileName_convention_later_grade :
    (IsSubject "math" ∧ IsGradeLevel "5a" ∧ IsIdentifier "_x__grade6_.js" ∧
      ofFileName "math_grade5a__x__grade6_.js.json" =
        ⟨"math", "5a", "_x__grade6_.js", "math_grade5a__x__grade6_.js.json"⟩) ∧
    IsSubject "gradeX" ∧ IsIdentifier "grade_.colors" ∧
      (∀ part ∈ Text.split '_' "grade_.colors", ¬ StartsGrade part) ∧
      ofFileName "gradeX_grade_.colors.json" =
        ⟨"gradeX", "unknown", "grade_.colors", "gradeX_grade_.colors.json"⟩ := by
  have hfree : ∀ s ∈ ["math", "5a", "_x__grade6_.js", "gradeX", "grade_.colors"],
      ¬ Text.Occurs suffix s := by
    unfold Text.Occurs
    decide +kernel
  have hmath : IsSubject "math" := ⟨by decide, by decide, hfree _ (by simp), by decide⟩
  have hlevel : IsGradeLevel "5a" := ⟨⟨'5', ['a'], rfl, rfl⟩, by decide, hfree _ (by simp)⟩
  have hlater : IsIdentifier "_x__grade6_.js" := ⟨by decide, by decide, hfree _ (by simp)⟩
  have hword : IsSubject "gradeX" := ⟨by decide, by decide, hfree _ (by simp), by decide⟩
  have hcolors : IsIdentifier "grade_.colors" := ⟨by decide, by decide, hfree _ (by simp)⟩
  have hnone : ∀ part ∈ Text.split '_' "grade_.colors", ¬ StartsGrade part := by decide +kernel
  have hgraded := ofFileName_convention.1 _ _ _ hmath hlevel hlater
  have hungraded := ofFileName_convention.2.1 _ _ hword hcolors hnone
  have hname : "math" ++ "_grade" ++ "5a" ++ "_" ++ "_x__grade6_.js" ++ suffix =
      "math_grade5a__x__grade6_.js.json" := by decide +kernel
  have hname' : "gradeX" ++ "_" ++ "grade_.colors" ++ suffix = "gradeX_grade_.colors.json" := by
    decide +kernel
  rw [hname] at hgraded
  rw [hname'] at hungraded
  exact ⟨⟨hmath, hlevel, hlater, hgraded⟩, hword, hcolors, hnone, hungraded⟩

end Quizmaster.Source
