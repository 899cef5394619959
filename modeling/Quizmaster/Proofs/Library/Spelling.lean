import Quizmaster.Proofs.Library
import Quizmaster.Proofs.Source

namespace Quizmaster

/-- An extension that question files are found by: the letters of `json`, in any case. -/
def IsExtension (ext : String) : Prop := Text.sameIgnoringCase "json" ext = true

instance (ext : String) : Decidable (IsExtension ext) := inferInstanceAs (Decidable (_ = true))

namespace IsExtension

variable {ext : String}

theorem map_toLower (h : IsExtension ext) : ext.toList.map Char.toLower = "json".toList := by
  have hsame := eq_of_beq h
  rw [← hsame]
  decide

theorem length_eq (h : IsExtension ext) : ext.toList.length = 4 := by
  have hlength := congrArg List.length h.map_toLower
  rw [List.length_map] at hlength
  exact hlength

theorem not_mem (h : IsExtension ext) {c : Char} (hc : c.toLower ∉ "json".toList) :
    c ∉ ext.toList := by
  intro hmem
  apply hc
  rw [← h.map_toLower]
  exact List.mem_map_of_mem hmem

end IsExtension

namespace Path

/-- The extension of a name is what follows its last point. -/
theorem extension?_append {stem ext : String} (hstem : stem ≠ "") (hext : '.' ∉ ext.toList) :
    extension? (stem ++ "." ++ ext) = some ext := by
  have hpoint : "." = String.singleton '.' := by decide
  have hsplit : (Text.split '.' (stem ++ "." ++ ext)).reverse =
      ext :: (Text.split '.' stem).reverse := by
    rw [hpoint, Text.split_append_separator, Text.split_of_not_mem hext, List.reverse_append]
    rfl
  have hnotEmpty : ((Text.split '.' stem).reverse == [""]) = false := by
    rw [beq_eq_false_iff_ne, ne_eq, List.reverse_eq_iff]
    intro hempty
    apply hstem
    have hjoin := Text.join_split '.' stem
    rw [hempty] at hjoin
    exact hjoin.symm
  obtain ⟨first, rest, hbefore⟩ :=
    List.exists_cons_of_ne_nil (mt List.reverse_eq_nil_iff.mp (Text.split_ne_nil '.' stem))
  rw [hbefore] at hsplit hnotEmpty
  rw [extension?, hsplit]
  simp only [hnotEmpty, Bool.false_eq_true, if_false]

/-- A name has an extension if its last point is not its first character. -/
theorem extension?_eq_some_iff {name ext : String} : extension? name = some ext ↔
    ∃ stem, stem ≠ "" ∧ '.' ∉ ext.toList ∧ name = stem ++ "." ++ ext := by
  constructor
  · intro h
    by_cases hpoint : '.' ∈ name.toList
    · obtain ⟨after, before, hreverse, hafter⟩ :=
        List.eq_append_cons_of_mem (List.mem_reverse.mpr hpoint)
      have hname : name = String.ofList before.reverse ++ "." ++ String.ofList after.reverse := by
        rw [← String.toList_inj, ← List.reverse_inj, hreverse]
        simp
      have hafter : '.' ∉ (String.ofList after.reverse).toList := by simpa using hafter
      have hbefore : String.ofList before.reverse ≠ "" := by
        intro hempty
        have hsplit : Text.split '.' name = ["", String.ofList after.reverse] := by
          rw [hname, hempty]
          exact (Text.split_append (s := "") (by simp) _).trans
            (congrArg _ (Text.split_of_not_mem hafter))
        rw [extension?, hsplit] at h
        cases h
      rw [hname, extension?_append hbefore hafter] at h
      obtain rfl := Option.some.inj h
      exact ⟨_, hbefore, hafter, hname⟩
    · rw [extension?, Text.split_of_not_mem hpoint] at h
      cases h
  · rintro ⟨stem, hstem, hext, rfl⟩
    exact extension?_append hstem hext

end Path

/-- A file is found whatever the case of its extension. -/
theorem Library.isQuestionFile_of_isExtension {stem ext : String} (hstem : stem ≠ "")
    (h : IsExtension ext) : isQuestionFile (stem ++ "." ++ ext) = true := by
  rw [isQuestionFile, Path.extension?_append hstem (h.not_mem (by decide)), Option.any_some]
  exact h

/-- Names of question files: there is something before the extension. -/
def Library.IsQuestionName (name : String) : Prop :=
  ∃ stem ext, stem ≠ "" ∧ IsExtension ext ∧ name = stem ++ "." ++ ext

/-- The names of question files are those that end in a point and an extension, behind something. -/
theorem Library.isQuestionFile_iff {name : String} :
    isQuestionFile name = true ↔ IsQuestionName name := by
  constructor
  · intro h
    rw [isQuestionFile] at h
    cases hextension : Path.extension? name with
    | none =>
      rw [hextension] at h
      cases h
    | some ext =>
      rw [hextension, Option.any_some] at h
      obtain ⟨stem, hstem, -, hname⟩ := Path.extension?_eq_some_iff.mp hextension
      exact ⟨stem, ext, hstem, h, hname⟩
  · rintro ⟨stem, ext, hstem, hext, rfl⟩
    exact isQuestionFile_of_isExtension hstem hext

namespace Source

/-- What a name tells: the subject, the grade level and the identifier. -/
def labels (source : Source) : String × String × String :=
  (source.subject, source.gradeLevel, source.identifier)

/-- What a name tells if its end `rest` stays in it, beside what it tells without this end. Its
    parts are `init` and `last`. -/
structure EndKept (rest : String) (init : List String) (last : String) (plain kept : Source) :
    Prop where
  subject_eq : kept.subject = if init = [] then plain.subject ++ rest else plain.subject
  gradeLevel_eq : kept.gradeLevel =
    if identifierParts (init ++ [last]) = [] ∧ StartsGrade last then plain.gradeLevel ++ rest
    else plain.gradeLevel
  /-- Underscores before the end stay along with it. -/
  identifier_eq : kept.identifier =
    if identifierParts (init ++ [last]) = [] then plain.identifier
    else Text.join "_" (identifierParts (init ++ [last])) ++ rest

/-- An end that starts with a point and does not end in an underscore. -/
structure IsEnd (rest : String) : Prop where
  point : ∃ tail, rest.toList = '.' :: tail
  noUnderscoreAtEnd : rest.toList.getLast? ≠ some '_'

section

variable {rest last : String} {init : List String}

theorem IsEnd.append_ne (h : IsEnd rest) (s : String) : s ++ rest ≠ s := by
  obtain ⟨tail, htail⟩ := h.point
  rw [ne_eq, ← String.toList_inj, String.toList_append, List.append_right_eq_self, htail]
  exact List.cons_ne_nil _ _

/-- The point is neither a digit nor in the grade word. -/
theorem IsEnd.isGrade_append (h : IsEnd rest) (last : String) :
    isGrade (last ++ rest) = isGrade last := by
  obtain ⟨tail, htail⟩ := h.point
  rw [Bool.eq_iff_iff, isGrade_iff, isGrade_iff, StartsGrade, String.toList_append, htail]
  constructor
  · rintro ⟨d, after, htext, hdigit⟩
    have hstart : gradeWord.toList ++ [d] <+: last.toList ++ '.' :: tail := by
      rw [htext, List.append_cons]
      exact List.prefix_append _ after
    have hpoint : '.' ∉ gradeWord.toList ++ [d] := by
      rw [List.mem_append, List.mem_singleton, not_or]
      refine ⟨by decide, ?_⟩
      rintro rfl
      exact absurd hdigit (by decide)
    obtain ⟨rest, hlast⟩ := Text.prefix_of_prefix_append_cons hpoint hstart
    exact ⟨d, rest, by rw [← hlast, List.append_assoc, List.singleton_append], hdigit⟩
  · rintro ⟨d, after, htext, hdigit⟩
    exact ⟨d, after ++ '.' :: tail, by rw [htext, List.append_assoc, List.cons_append], hdigit⟩

/-- What follows a grade is kept at the end of it. -/
theorem gradeOf_append (h : isGrade last = true) (rest : String) :
    gradeOf (last ++ rest) = gradeOf last ++ rest := by
  obtain ⟨d, after, htext, hdigit⟩ := isGrade_iff.mp h
  have happended : (last ++ rest).toList = gradeWord.toList ++ d :: (after ++ rest.toList) := by
    rw [String.toList_append, htext, List.append_assoc]
    rfl
  rw [gradeOf_of_digit htext hdigit, gradeOf_of_digit happended hdigit, ← String.toList_inj]
  simp [String.toList_append]

/-- What follows the name is part of the subject only if the name has no other part. -/
theorem subjectOf_concat_append (hlast : init = [] → last ≠ "") (rest : String) :
    subjectOf (init ++ [last ++ rest]) =
      if init = [] then subjectOf (init ++ [last]) ++ rest else subjectOf (init ++ [last]) := by
  cases init with
  | nil =>
    have hne : last ++ rest ≠ "" := by
      rw [ne_eq, String.append_eq_empty_iff]
      exact fun hboth => hlast rfl hboth.1
    rw [List.nil_append, List.nil_append, subjectOf_cons hne, subjectOf_cons (hlast rfl),
      if_pos rfl]
  | cons first init => rfl

/-- An end that stays is kept with all that stands before it. -/
theorem IsEnd.identifierOf_append (h : IsEnd rest) (parts : List String) (last : String) :
    identifierOf (parts ++ [last ++ rest]) = Text.join "_" (parts ++ [last]) ++ rest := by
  obtain ⟨tail, htail⟩ := h.point
  have hne : Text.join "_" (parts ++ [last]) ++ rest ≠ "" := by
    rw [ne_eq, String.append_eq_empty_iff]
    rintro ⟨-, rfl⟩
    cases htail
  have htrim : Text.trimEndWhile (· == '_') (Text.join "_" (parts ++ [last]) ++ rest) =
      Text.join "_" (parts ++ [last]) ++ rest := by
    apply Text.trimEndWhile_eq_self_iff.mpr
    rintro c hlast
    rw [String.toList_append, List.getLast?_append_of_ne_nil _ (by simp [htail])] at hlast
    have hend := h.noUnderscoreAtEnd
    rw [hlast] at hend
    simpa using hend
  rw [identifierOf, Text.join_concat_append, htrim, orUnknown, if_neg (by simpa using hne)]

/-- Without their end, the parts of the identifier never give it. -/
theorem IsEnd.join_append_ne (h : IsEnd rest) (parts : List String) :
    Text.join "_" parts ++ rest ≠ identifierOf parts := by
  obtain ⟨tail, htail⟩ := h.point
  intro heq
  have htext := congrArg String.toList heq
  rw [String.toList_append, htail] at htext
  unfold identifierOf orUnknown at htext
  split at htext
  · have hpoint : '.' ∈ unknown.toList := by
      rw [← htext]
      exact List.mem_append_right _ List.mem_cons_self
    exact absurd hpoint (by decide)
  · rw [Text.trimEndWhile, Text.dropEndWhile_eq_rdropWhile, String.toList_ofList] at htext
    have hle := (List.rdropWhile_prefix (· == '_') (Text.join "_" parts).toList).length_le
    rw [← htext, List.length_append, List.length_cons] at hle
    omega

theorem no_grade_concat (hnone : ∀ part ∈ init, isGrade part = false)
    (hlast : isGrade last = false) : ∀ part ∈ init ++ [last], isGrade part = false := by
  rw [List.forall_mem_append, List.forall_mem_singleton]
  exact ⟨hnone, hlast⟩

/-- The last part closes the identifier, unless it is the first one or that of the grade. -/
theorem identifierParts_concat (init : List String) (last : String) :
    ((init = [] ∨ StartsGrade last) ∧
      ∀ last', isGrade last' = isGrade last → identifierParts (init ++ [last']) = []) ∨
    ∃ parts, ∀ last', isGrade last' = isGrade last →
      identifierParts (init ++ [last']) = parts ++ [last'] := by
  rcases grade_cases init with hnone | ⟨before, grade, rest, rfl, hbefore, hgrade⟩
  · by_cases hlast : isGrade last = true
    · refine .inl ⟨.inr (isGrade_iff.mp hlast), fun last' hsame => ?_⟩
      exact identifierParts_of_grade hnone (hsame.trans hlast)
    · rw [Bool.not_eq_true] at hlast
      have hplain (last' : String) (hsame : isGrade last' = isGrade last) :
          identifierParts (init ++ [last']) = (init ++ [last']).drop 1 :=
        identifierParts_of_no_grade (no_grade_concat hnone (hsame.trans hlast))
      cases init with
      | nil => exact .inl ⟨.inl rfl, hplain⟩
      | cons first init => exact .inr ⟨init, hplain⟩
  · refine .inr ⟨rest, fun last' _ => ?_⟩
    rw [List.append_assoc, List.cons_append, identifierParts_of_grade hbefore hgrade]

/-- What follows the name is part of the grade level if the name ends with it. -/
theorem IsEnd.gradeLevelOf_append (h : IsEnd rest) (init : List String) (last : String) :
    gradeLevelOf (init ++ [last ++ rest]) =
      if identifierParts (init ++ [last]) = [] ∧ StartsGrade last then
        gradeLevelOf (init ++ [last]) ++ rest
      else gradeLevelOf (init ++ [last]) := by
  have hsame := h.isGrade_append last
  rcases grade_cases init with hnone | ⟨before, grade, after, rfl, hbefore, hgrade⟩
  · by_cases hlast : isGrade last = true
    · rw [if_pos ⟨identifierParts_of_grade hnone hlast, isGrade_iff.mp hlast⟩,
        gradeLevelOf_of_grade hnone hlast, gradeLevelOf_of_grade hnone (hsame.trans hlast),
        gradeOf_append hlast]
    · rw [if_neg fun hboth => hlast (isGrade_iff.mpr hboth.2)]
      rw [Bool.not_eq_true] at hlast
      rw [gradeLevelOf_of_no_grade (no_grade_concat hnone hlast),
        gradeLevelOf_of_no_grade (no_grade_concat hnone (hsame.trans hlast))]
  · simp only [List.append_assoc, List.cons_append]
    rw [identifierParts_of_grade hbefore hgrade, gradeLevelOf_of_grade hbefore hgrade,
      gradeLevelOf_of_grade hbefore hgrade, if_neg]
    exact fun hboth => List.concat_ne_nil last after hboth.1

variable {file file' : String}

/-- What stays at the end of the last part is found in what this part tells. -/
theorem IsEnd.endKept (h : IsEnd rest) (hlast : init = [] → last ≠ "")
    (hfile : partsOf file = init ++ [last]) (hfile' : partsOf file' = init ++ [last ++ rest]) :
    EndKept rest init last (ofFileName file) (ofFileName file') := by
  rw [ofFileName_eq, ofFileName_eq, hfile, hfile']
  refine ⟨subjectOf_concat_append hlast rest, h.gradeLevelOf_append init last, ?_⟩
  have hsame := h.isGrade_append last
  rcases identifierParts_concat init last with ⟨-, hnil⟩ | ⟨parts, hparts⟩
  · rw [hnil last rfl, hnil _ hsame, if_pos rfl]
  · rw [hparts last rfl, hparts _ hsame, if_neg (List.concat_ne_nil last parts),
      h.identifierOf_append]

/-- A name tells something else if an end stays in it. -/
theorem IsEnd.labels_ne (h : IsEnd rest) (hfile : partsOf file = init ++ [last])
    (hkept : EndKept rest init last (ofFileName file) (ofFileName file')) :
    (ofFileName file').labels ≠ (ofFileName file).labels := by
  intro hlabels
  obtain ⟨hsubject, hothers⟩ := Prod.mk.inj hlabels
  obtain ⟨hlevel, hidentifier⟩ := Prod.mk.inj hothers
  rcases identifierParts_concat init last with ⟨rfl | hgrade, hnil⟩ | ⟨parts, hparts⟩
  · rw [hkept.subject_eq, if_pos rfl] at hsubject
    exact h.append_ne _ hsubject
  · rw [hkept.gradeLevel_eq, if_pos ⟨hnil last rfl, hgrade⟩] at hlevel
    exact h.append_ne _ hlevel
  · have hplain : (ofFileName file).identifier = identifierOf (parts ++ [last]) := by
      rw [ofFileName_eq, hfile, hparts last rfl]
    rw [hkept.identifier_eq, hparts last rfl, if_neg (List.concat_ne_nil last parts),
      hplain] at hidentifier
    exact h.join_append_ne _ hidentifier

end

section

variable {stem ext : String}

/-- A stem in which the suffix stands in no case. -/
def Bare (stem : String) : Prop := ¬ suffix.toList <:+: stem.toList.map Char.toLower

theorem Bare.not_occurs (h : Bare stem) : ¬ Text.Occurs suffix stem := by
  intro hoccurs
  apply h
  have hlower := List.IsInfix.map Char.toLower hoccurs
  have hsuffix : suffix.toList.map Char.toLower = suffix.toList := by decide
  rwa [hsuffix] at hlower

theorem isEnd_of_isExtension (h : IsExtension ext) : IsEnd ("." ++ ext) where
  point := ⟨ext.toList, by rw [String.toList_append]; rfl⟩
  noUnderscoreAtEnd := by
    intro hlast
    have hmem := List.mem_of_getLast? hlast
    rw [String.toList_append, List.mem_append] at hmem
    rcases hmem with hpoint | hext
    · exact absurd hpoint (by decide)
    · exact h.not_mem (by decide) hext

/-- Only the lower-case extension is removed. -/
theorem erase_append_of_isExtension (hstem : Bare stem) (h : IsExtension ext)
    (hne : ext ≠ "json") : Text.erase suffix (stem ++ "." ++ ext) = stem ++ ("." ++ ext) := by
  have htext : (stem ++ "." ++ ext).toList = stem.toList ++ '.' :: ext.toList := by
    simp [String.toList_append]
  have hsuffix : suffix.toList = '.' :: "json".toList := by decide
  have hfree : ¬ '.' :: "json".toList <:+: stem.toList := by
    rw [← hsuffix]
    exact hstem.not_occurs
  have hend : ¬ '.' :: "json".toList <:+: '.' :: ext.toList := by
    intro hwithin
    apply hne
    have hlength : ('.' :: "json".toList).length = ('.' :: ext.toList).length := by
      rw [List.length_cons, List.length_cons, h.length_eq]
      rfl
    rw [← String.toList_inj]
    exact (List.cons.inj (hwithin.eq_of_length hlength)).2.symm
  rw [Text.erase, htext, hsuffix, Text.eraseFrom_append_cons (by decide) hfree,
    Text.eraseFrom_of_not_within hend, ← htext, String.ofList_toList, String.append_assoc]

/-- Only the lower-case extension is taken off a name, and any other stays at the end of it. -/
theorem endKept_of_isExtension (hne : stem ≠ "") (hstem : Bare stem) (h : IsExtension ext)
    (hext : ext ≠ "json") :
    ∃ init last, Text.split '_' stem = init ++ [last] ∧
      EndKept ("." ++ ext) init last (ofFileName (stem ++ suffix))
        (ofFileName (stem ++ "." ++ ext)) ∧
      (ofFileName (stem ++ "." ++ ext)).labels ≠ (ofFileName (stem ++ suffix)).labels := by
  obtain ⟨init, last, hsplit⟩ :=
    (List.eq_nil_or_concat' (Text.split '_' stem)).resolve_left (Text.split_ne_nil '_' stem)
  have hlast : init = [] → last ≠ "" := by
    rintro rfl rfl
    apply hne
    have hjoin := Text.join_split '_' stem
    rw [hsplit] at hjoin
    exact hjoin.symm
  have hplain : partsOf (stem ++ suffix) = init ++ [last] := by
    rw [partsOf, erase_append_suffix hstem.not_occurs, hsplit]
  have hend := isEnd_of_isExtension h
  have hunderscore : '_' ∉ ("." ++ ext).toList := by
    rw [String.toList_append, List.mem_append, not_or]
    exact ⟨by decide, h.not_mem (by decide)⟩
  have hparts : partsOf (stem ++ "." ++ ext) = init ++ [last ++ ("." ++ ext)] := by
    rw [partsOf, erase_append_of_isExtension hstem h hext,
      Text.split_append_of_not_mem hsplit hunderscore]
  have hkept := hend.endKept hlast hplain hparts
  exact ⟨init, last, hsplit, hkept, hend.labels_ne hplain hkept⟩

/-- A name has the labels of the lower-case one exactly if it is spelled like that. -/
theorem labels_eq_iff_of_isExtension (hne : stem ≠ "") (hstem : Bare stem) (h : IsExtension ext) :
    (ofFileName (stem ++ "." ++ ext)).labels = (ofFileName (stem ++ suffix)).labels ↔
      ext = "json" := by
  constructor
  · intro hlabels
    by_contra hext
    obtain ⟨-, -, -, -, hlabelsNe⟩ := endKept_of_isExtension hne hstem h hext
    exact hlabelsNe hlabels
  · rintro rfl
    have hsuffix : suffix = "." ++ "json" := by decide
    rw [hsuffix, String.append_assoc]

end

end Source

namespace Filter

/-- Asks for what a name tells. -/
def sameAs (source : Source) : Filter :=
  ⟨some source.subject, some source.gradeLevel, some source.identifier⟩

variable {source source' : Source}

theorem selects_sameAs_iff {q : Question} :
    (sameAs source).selects q = true ↔ source.labels = q.source.labels := by
  simp [sameAs, selects, agrees, Source.labels, and_assoc]

/-- A question is selected by what the name of its file tells. -/
theorem selects_placed (f : Filter) (h : source.labels = source'.labels) (q : Question)
    (id id' : String) : f.selects (q.placed id source) = f.selects (q.placed id' source') := by
  obtain ⟨hsubject, hothers⟩ := Prod.mk.inj h
  obtain ⟨hlevel, hidentifier⟩ := Prod.mk.inj hothers
  simp only [selects, Question.placed, hsubject, hlevel, hidentifier]

end Filter

namespace QuestionFile

/-- The file of this name that holds these items. -/
def under (name : String) (items : List Json) : QuestionFile :=
  ⟨.ofFileName name, .ofItems name (.ofFileName name) items⟩

/-- What a filter selects of the file's questions, wherever they stand. -/
def chosen (f : QuestionFile) (filter : Filter) : List Question :=
  (f.questions.filter filter.selects).map Question.content

variable {name name' : String} {items : List Json} {filter : Filter} {q : Question}

theorem source_of_mem_under (h : q ∈ (under name items).questions) :
    q.source = .ofFileName name := by
  obtain ⟨index, value, -, hconvert⟩ := Batch.mem_questions_iff.mp h
  exact (Batch.id_and_source_of_convert hconvert).2

/-- A filter selects by what the name tells and, for that, among the contents alone. -/
theorem chosen_under (name : String) (items : List Json) (filter : Filter) :
    (under name items).chosen filter =
      (items.filterMap fun value => (Batch.fate value).toOption).filter fun q =>
        filter.selects (q.placed "" (.ofFileName name)) := by
  rw [← Batch.contents_questions name (.ofFileName name) items, List.filter_map]
  apply congrArg (List.map Question.content)
  apply List.filter_congr
  intro q hq
  rw [Function.comp_apply, ← source_of_mem_under hq]
  rfl

/-- A file has no questions if none of its items becomes one. -/
theorem questions_under_eq_nil_iff : (under name items).questions = [] ↔
    (items.filterMap fun value => (Batch.fate value).toOption) = [] := by
  rw [← Batch.contents_questions name (.ofFileName name) items, List.map_eq_nil_iff]
  rfl

/-- Under two names, the same questions are selected exactly if the names tell the same, or if there
    is none to select. -/
theorem chosen_under_eq_iff (name name' : String) (items : List Json) :
    (∀ filter, (under name items).chosen filter = (under name' items).chosen filter) ↔
      (Source.ofFileName name).labels = (Source.ofFileName name').labels ∨
        (under name items).questions = [] := by
  rw [questions_under_eq_nil_iff]
  simp only [chosen_under]
  generalize (items.filterMap fun value => (Batch.fate value).toOption) = contents
  generalize Source.ofFileName name = source, Source.ofFileName name' = source'
  constructor
  · intro hchosen
    by_cases hlabels : source.labels = source'.labels
    · exact .inl hlabels
    · refine .inr (List.eq_nil_iff_forall_not_mem.mpr fun q hq => hlabels ?_)
      have hwanted : (Filter.sameAs source).selects (q.placed "" source) = true :=
        Filter.selects_sameAs_iff.mpr rfl
      have hmem : q ∈ contents.filter fun q =>
          (Filter.sameAs source).selects (q.placed "" source) :=
        List.mem_filter.mpr ⟨hq, hwanted⟩
      rw [hchosen] at hmem
      exact Filter.selects_sameAs_iff.mp (List.mem_filter.mp hmem).2
  · rintro (hlabels | rfl) filter
    · simp only [filter.selects_placed hlabels _ "" ""]
    · rfl

end QuestionFile

namespace Library

/-- What a question file gives is what its items give under its name. -/
theorem ofNode_file_eq_iff {name : String} {content : ByteArray} {file : QuestionFile}
    (hname : isQuestionFile name = true) :
    ofNode name (.file content) = [file] ↔ ∃ text value, Disk.decode content = .ok text ∧
      Json.parse? text = some value ∧ file = .under name (QuestionFile.itemsOf value) := by
  have hread : ofNode name (.file content) = [file] ↔
      (Disk.decode content).toOption.bind (QuestionFile.parse? name) = some file := by
    rw [ofNode, if_pos hname]
    cases (Disk.decode content).toOption.bind (QuestionFile.parse? name) <;> simp
  rw [hread, Option.bind_eq_some_iff]
  simp only [toOption_decode_eq_some_iff]
  constructor
  · rintro ⟨text, htext, hparse⟩
    obtain ⟨value, hvalue, hfile⟩ := Option.bind_eq_some_iff.mp hparse
    exact ⟨text, value, htext, hvalue, (Option.some.inj hfile).symm⟩
  · rintro ⟨text, value, htext, hvalue, rfl⟩
    refine ⟨text, htext, ?_⟩
    rw [QuestionFile.parse?, hvalue]
    rfl

/-- A question file is found under every spelling of its extension, but only the lower-case one is
    no part of what the name tells. Any other stays at the end of it, and then no file with a
    question is selected from as it would be with the lower-case one. -/
theorem alike_iff_lower_case {stem ext : String} (hne : stem ≠ "") (hstem : Source.Bare stem)
    (h : IsExtension ext) :
    isQuestionFile (stem ++ "." ++ ext) = true ∧
    (ext ≠ "json" → ∃ init last, Text.split '_' stem = init ++ [last] ∧
      Source.EndKept ("." ++ ext) init last (.ofFileName (stem ++ Source.suffix))
        (.ofFileName (stem ++ "." ++ ext))) ∧
    ((Source.ofFileName (stem ++ "." ++ ext)).labels =
      (Source.ofFileName (stem ++ Source.suffix)).labels ↔ ext = "json") ∧
    ∀ content file, ofNode (stem ++ "." ++ ext) (.file content) = [file] →
      ∃ plain, ofNode (stem ++ Source.suffix) (.file content) = [plain] ∧
        (∀ q ∈ file.questions, q.source = .ofFileName (stem ++ "." ++ ext)) ∧
        (∀ q ∈ plain.questions, q.source = .ofFileName (stem ++ Source.suffix)) ∧
        ((∀ filter, file.chosen filter = plain.chosen filter) ↔
          ext = "json" ∨ file.questions = []) := by
  have hname := isQuestionFile_of_isExtension hne h
  have hname' : isQuestionFile (stem ++ Source.suffix) = true := by
    have hsuffix : Source.suffix = "." ++ "json" := by decide
    rw [hsuffix, ← String.append_assoc]
    exact isQuestionFile_of_isExtension hne (by decide)
  have hlabels := Source.labels_eq_iff_of_isExtension hne hstem h
  refine ⟨hname, fun hext => ?_, hlabels, fun content file hfile => ?_⟩
  · obtain ⟨init, last, hsplit, hkept, -⟩ := Source.endKept_of_isExtension hne hstem h hext
    exact ⟨init, last, hsplit, hkept⟩
  · obtain ⟨text, value, htext, hvalue, rfl⟩ := (ofNode_file_eq_iff hname).mp hfile
    have hplain := (ofNode_file_eq_iff hname').mpr ⟨text, value, htext, hvalue, rfl⟩
    refine ⟨_, hplain, fun q => QuestionFile.source_of_mem_under,
      fun q => QuestionFile.source_of_mem_under, ?_⟩
    rw [QuestionFile.chosen_under_eq_iff, hlabels]

theorem ofNode_card {name : String} (hname : isQuestionFile name = true) (prompt answer : String) :
    ofNode name (.file (card prompt answer).compact.toUTF8) = [cardFile name prompt answer] :=
  ofNode_of_parse? hname (parse?_card ..)

/-- An extension in upper case stays in the identifier. -/
theorem alike_iff_lower_case_fractions :
    "math_grade5_fractions" ≠ "" ∧ Source.Bare "math_grade5_fractions" ∧ IsExtension "JSON" ∧
      isQuestionFile "math_grade5_fractions.JSON" = true ∧
      Source.EndKept ".JSON" ["math", "grade5"] "fractions"
        (.ofFileName "math_grade5_fractions.json") (.ofFileName "math_grade5_fractions.JSON") ∧
      ∃ content file plain, ofNode "math_grade5_fractions.JSON" (.file content) = [file] ∧
        ofNode "math_grade5_fractions.json" (.file content) = [plain] ∧
        ¬ ∀ filter, file.chosen filter = plain.chosen filter := by
  have hbare : Source.Bare "math_grade5_fractions" := by
    unfold Source.Bare
    decide +kernel
  have hextension : IsExtension "JSON" := by decide
  obtain ⟨hname, hkept, -, hload⟩ := alike_iff_lower_case (by decide) hbare hextension
  have hupper : "math_grade5_fractions" ++ "." ++ "JSON" = "math_grade5_fractions.JSON" := by
    decide +kernel
  have hlower : "math_grade5_fractions" ++ Source.suffix = "math_grade5_fractions.json" := by
    decide +kernel
  have hdot : "." ++ "JSON" = ".JSON" := by decide
  rw [hupper] at hname
  rw [hupper, hlower, hdot] at hkept
  rw [hupper, hlower] at hload
  obtain ⟨init, last, hsplit, hend⟩ := hkept (by decide)
  have hparts : Text.split '_' "math_grade5_fractions" = ["math", "grade5"] ++ ["fractions"] := by
    decide +kernel
  obtain ⟨rfl, hlast⟩ := List.append_inj' (hparts.symm.trans hsplit) rfl
  obtain ⟨rfl, -⟩ := List.cons.inj hlast
  have hcard := ofNode_card hname "Half of 4?" "2"
  obtain ⟨plain, hplain, -, -, hchosen⟩ := hload _ _ hcard
  refine ⟨by decide, hbare, hextension, hname, hend, _, _, plain, hcard, hplain, ?_⟩
  rw [hchosen, not_or]
  have hquestions :
      (cardFile "math_grade5_fractions.JSON" "Half of 4?" "2").questions ≠ [] := by decide +kernel
  exact ⟨by decide, hquestions⟩

/-- A question about fractions that is found in the one file only: with the extension in upper case
    it is about something else. -/
theorem upper_case_extension_not_alike :
    "math_grade5_fractions" ≠ "" ∧ Source.Bare "math_grade5_fractions" ∧ IsExtension "JSON" ∧
      isQuestionFile "math_grade5_fractions.JSON" = true ∧
      Source.ofFileName "math_grade5_fractions.JSON" =
        ⟨"math", "5", "fractions.JSON", "math_grade5_fractions.JSON"⟩ ∧
      Source.ofFileName "math_grade5_fractions.json" =
        ⟨"math", "5", "fractions", "math_grade5_fractions.json"⟩ ∧
      ∃ content file plain, ofNode "math_grade5_fractions.JSON" (.file content) = [file] ∧
        ofNode "math_grade5_fractions.json" (.file content) = [plain] ∧
        file.chosen ⟨none, none, some "fractions"⟩ = [] ∧
        (plain.chosen ⟨none, none, some "fractions"⟩).map Question.prompt = ["Half of 4?"] := by
  have hbare : Source.Bare "math_grade5_fractions" := by
    unfold Source.Bare
    decide +kernel
  have hname : isQuestionFile "math_grade5_fractions.JSON" = true := by decide +kernel
  have hname' : isQuestionFile "math_grade5_fractions.json" = true := by decide +kernel
  refine ⟨by decide, hbare, by decide, hname, by decide +kernel, by decide +kernel, ?_⟩
  refine ⟨_, _, _, ofNode_card hname "Half of 4?" "2", ofNode_card hname' "Half of 4?" "2", ?_⟩
  decide +kernel

end Library

end Quizmaster
