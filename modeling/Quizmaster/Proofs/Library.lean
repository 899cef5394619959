import Quizmaster.Library
import Quizmaster.Proofs.Batch.Fate
import Quizmaster.Proofs.Disk

namespace Quizmaster

open Question

namespace QuestionFile

variable {f g : QuestionFile}

/-- The file's questions have the ids that its name gives. -/
def Named (f : QuestionFile) : Prop := ∃ items, f.batch = .ofItems f.source.file f.source items

theorem file_ofFileName (name : String) : (Source.ofFileName name).file = name := by
  unfold Source.ofFileName
  dsimp only
  split <;> rfl

/-- A file's questions are named after the file, by the places of their items. -/
theorem named_of_parse? {name content : String} (h : parse? name content = some f) : f.Named := by
  obtain ⟨value, -, hfile⟩ := Option.bind_eq_some_iff.mp h
  obtain rfl := Option.some.inj hfile
  exact ⟨itemsOf value, by rw [file_ofFileName]⟩

/-- There is a question of the item at this place. -/
def Holds (f : QuestionFile) (index : Nat) : Prop :=
  ∃ q ∈ f.questions, q.id = Batch.idOf f.source.file index

/-- The ids of a file are those of the places where it holds a question. -/
theorem Named.mem_ids_iff (h : f.Named) {id : String} : id ∈ f.questions.map Question.id ↔
    ∃ index, f.Holds index ∧ id = Batch.idOf f.source.file index := by
  obtain ⟨items, hbatch⟩ := h
  constructor
  · intro hid
    have hat := hid
    rw [questions, hbatch, Batch.ids_questions] at hat
    obtain ⟨index, -, rfl⟩ := List.mem_map.mp hat
    exact ⟨index, List.mem_map.mp hid, rfl⟩
  · rintro ⟨index, ⟨q, hq, hid⟩, rfl⟩
    exact List.mem_map.mpr ⟨q, hq, hid⟩

/-- No id is used twice within a file. -/
theorem Named.distinctIds (h : f.Named) : DistinctIds f.questions := by
  obtain ⟨items, hbatch⟩ := h
  rw [questions, hbatch]
  exact Batch.distinctIds_questions ..

/-- If two files have one name, then no place is that of a question in both. -/
def Apart (f g : QuestionFile) : Prop :=
  f.source.file = g.source.file → ∀ index, ¬ (f.Holds index ∧ g.Holds index)

/-- Two files share no id exactly if they differ in name or hold no question at one place. -/
theorem Named.disjoint_ids_iff (hf : f.Named) (hg : g.Named) :
    (f.questions.map Question.id).Disjoint (g.questions.map Question.id) ↔ f.Apart g := by
  constructor
  · rintro hdisjoint hname index ⟨hholds, hholds'⟩
    refine hdisjoint (hf.mem_ids_iff.mpr ⟨index, hholds, rfl⟩) (hg.mem_ids_iff.mpr ?_)
    exact ⟨index, hholds', by rw [hname]⟩
  · intro hapart id hid hid'
    obtain ⟨index, hholds, rfl⟩ := hf.mem_ids_iff.mp hid
    obtain ⟨index', hholds', hsame⟩ := hg.mem_ids_iff.mp hid'
    obtain ⟨hname, rfl⟩ := Batch.idOf_inj.mp hsame
    exact hapart hname index ⟨hholds, hholds'⟩

/-- The questions of files have different ids if and only if the files are apart. -/
theorem distinctIds_flatMap_iff {files : List QuestionFile} (h : ∀ f ∈ files, f.Named) :
    DistinctIds (files.flatMap questions) ↔ files.Pairwise Apart := by
  rw [DistinctIds, List.map_flatMap, List.nodup_flatMap]
  refine (and_iff_right fun f hf => (h f hf).distinctIds).trans ?_
  exact List.Pairwise.iff_of_mem fun hf hg => (h _ hf).disjoint_ids_iff (h _ hg)

end QuestionFile

namespace Library

theorem mem_inOrder {given : List (String × List QuestionFile)} {f : QuestionFile} :
    f ∈ inOrder given ↔ ∃ name files, (name, files) ∈ given ∧ f ∈ files := by
  simp only [inOrder, List.mem_flatMap, List.mem_mergeSort, Prod.exists]

theorem inOrder_of_pairwise {given : List (String × List QuestionFile)}
    (h : given.Pairwise fun a b => a.1 ≤ b.1) : inOrder given = given.flatMap Prod.snd := by
  have hsorted : given.Pairwise fun a b => decide (a.1 ≤ b.1) = true :=
    h.imp decide_eq_true
  rw [inOrder, List.mergeSort_of_pairwise hsorted]

theorem toOption_decode_eq_some_iff {content : ByteArray} {text : String} :
    (Disk.decode content).toOption = some text ↔ Disk.decode content = .ok text := by
  cases Disk.decode content <;> simp [Except.toOption]

/-- A file gives questions if its name, its bytes and its text are right. -/
theorem mem_ofNode_file_iff {name : String} {content : ByteArray} {f : QuestionFile} :
    f ∈ ofNode name (.file content) ↔ isQuestionFile name = true ∧
      ∃ text, Disk.decode content = .ok text ∧ QuestionFile.parse? name text = some f := by
  rw [ofNode]
  split
  · next hname =>
    simp only [Option.mem_toList, Option.bind_eq_some_iff, toOption_decode_eq_some_iff, hname,
      true_and]
  · next hname => simp [hname]

mutual

/-- All files under a node are named after themselves, not after their directories. -/
theorem named_of_mem_ofNode {name : String} {f : QuestionFile} : ∀ {node : Disk.Node},
    f ∈ ofNode name node → f.Named
  | .file content, h => by
    obtain ⟨-, text, -, hparse⟩ := mem_ofNode_file_iff.mp h
    exact QuestionFile.named_of_parse? hparse
  | .directory entries, h => by
    rw [ofNode, mem_inOrder] at h
    obtain ⟨inside, files, hgiven, hf⟩ := h
    exact named_of_mem_ofEach hgiven hf

theorem named_of_mem_ofEach {name : String} {files : List QuestionFile} {f : QuestionFile} :
    ∀ {entries : List (String × Disk.Node)}, (name, files) ∈ ofEach entries → f ∈ files → f.Named
  | [], h, _ => by
    rw [ofEach] at h
    cases h
  | (first, node) :: rest, h, hf => by
    rw [ofEach, List.mem_cons, Prod.mk.injEq] at h
    obtain ⟨rfl, rfl⟩ | h := h
    · exact named_of_mem_ofNode hf
    · exact named_of_mem_ofEach h hf

end

theorem named_of_mem_ofEntries {entries : List (String × Disk.Node)} {f : QuestionFile}
    (h : f ∈ ofEntries entries) : f.Named := by
  obtain ⟨name, files, hgiven, hf⟩ := mem_inOrder.mp h
  exact named_of_mem_ofEach hgiven hf

variable {disk : Disk} {path : String} {entries : List (String × Disk.Node)}

/-- A directory gives what its entries give. -/
theorem load_of_directory (h : disk.node path = .ok (.directory entries)) :
    load disk path = .ok (ofEntries entries) := by
  have hdirectory : disk.isDirectory path = true := by
    rw [Disk.isDirectory, h]
    rfl
  rw [load, if_pos hdirectory, readDirectory, h]

/-- The bank that files fill holds an id for each place of a question in a file. -/
theorem mem_ids_add_flatMap {files : List QuestionFile} (h : ∀ f ∈ files, f.Named) {id : String} :
    id ∈ (Bank.empty.add (files.flatMap QuestionFile.questions)).2.questions.map Question.id ↔
      ∃ f ∈ files, ∃ index, f.Holds index ∧ id = Batch.idOf f.source.file index := by
  rw [Bank.mem_ids_add_empty, List.map_flatMap, List.mem_flatMap]
  exact exists_congr fun f => and_congr_right fun hf => (h f hf).mem_ids_iff

/-- A readable directory gives files, and from these an empty bank takes one question for each name
    of a file and each place that is that of a question in a file of this name. It takes all of
    them if and only if the files are apart, as they are if their names differ. -/
theorem import_directory (h : disk.node path = .ok (.directory entries)) :
    ∃ files questions count bank, load disk path = .ok files ∧
      questions = files.flatMap QuestionFile.questions ∧
      Bank.empty.add questions = (count, bank) ∧
      count = bank.size ∧ DistinctIds bank.questions ∧
      (∀ id, id ∈ bank.questions.map Question.id ↔
        ∃ f ∈ files, ∃ index, f.Holds index ∧ id = Batch.idOf f.source.file index) ∧
      (∀ name name' index index', Batch.idOf name index = Batch.idOf name' index' ↔
        name = name' ∧ index = index') ∧
      (DistinctIds questions ↔ files.Pairwise QuestionFile.Apart) ∧
      (count = questions.length ↔ files.Pairwise QuestionFile.Apart) ∧
      ((files.map fun f => f.source.file).Nodup → count = questions.length) := by
  have hnamed : ∀ f ∈ ofEntries entries, f.Named := fun f => named_of_mem_ofEntries
  have hids := QuestionFile.distinctIds_flatMap_iff hnamed
  have hcount := Bank.count_add_empty_eq_length_iff.trans hids
  have hapart (hnames : ((ofEntries entries).map fun f => f.source.file).Nodup) :
      (ofEntries entries).Pairwise QuestionFile.Apart :=
    (List.pairwise_map.mp hnames).imp fun hdiffer hname => absurd hname hdiffer
  exact ⟨_, _, _, _, load_of_directory h, rfl, rfl, rfl,
    Bank.distinctIds_add Bank.distinctIds_empty _, fun _ => mem_ids_add_flatMap hnamed,
    fun _ _ _ _ => Batch.idOf_inj, hids, hcount, fun hnames => hcount.mpr (hapart hnames)⟩

/-- A disk with two files of these names in different directories. -/
def shelves (name name' text text' : String) : Disk :=
  ⟨.directory [("banks", .directory [("a", .directory [(name, .file text.toUTF8)]),
    ("b", .directory [(name', .file text'.toUTF8)])])], []⟩

theorem node_shelves (name name' text text' : String) :
    (shelves name name' text text').node "banks" =
      .ok (.directory [("a", .directory [(name, .file text.toUTF8)]),
        ("b", .directory [(name', .file text'.toUTF8)])]) := rfl

theorem ofNode_of_parse? {name text : String} {f : QuestionFile}
    (hname : isQuestionFile name = true) (hparse : QuestionFile.parse? name text = some f) :
    ofNode name (.file text.toUTF8) = [f] := by
  rw [ofNode, if_pos hname, Disk.decode_toUTF8, Except.toOption, Option.bind_some, hparse,
    Option.toList_some]

theorem ofNode_directory_singleton (directory name : String) (node : Disk.Node) :
    ofNode directory (.directory [(name, node)]) = ofNode name node := by
  rw [ofNode, ofEach, ofEach, inOrder_of_pairwise (List.pairwise_singleton _ _),
    List.flatMap_singleton]

theorem load_shelves {name name' text text' : String} {f g : QuestionFile}
    (hname : isQuestionFile name = true) (hname' : isQuestionFile name' = true)
    (hf : QuestionFile.parse? name text = some f) (hg : QuestionFile.parse? name' text' = some g) :
    load (shelves name name' text text') "banks" = .ok [f, g] := by
  have hab : "a" ≤ "b" := by decide
  rw [load_of_directory (node_shelves ..), ofEntries, ofEach, ofEach, ofEach,
    ofNode_directory_singleton, ofNode_directory_singleton, ofNode_of_parse? hname hf,
    ofNode_of_parse? hname' hg, inOrder_of_pairwise (by simp [hab])]
  rfl

/-- An item with its answer, which is filled in. -/
def card (prompt answer : String) : Json :=
  .object [("Question", .string prompt), ("answer", .string answer)]

def cardFile (name prompt answer : String) : QuestionFile :=
  ⟨.ofFileName name, .ofItems name (.ofFileName name) [card prompt answer]⟩

theorem parse?_card (name prompt answer : String) :
    QuestionFile.parse? name (card prompt answer).compact = some (cardFile name prompt answer) := by
  have htextual : Json.Textual Json.Written.maxDepth (card prompt answer) :=
    ⟨by decide, trivial, trivial, trivial⟩
  have hkeys : "Question" < "answer" := by decide
  have hsorted : (card prompt answer).sorted = card prompt answer :=
    congrArg Json.object (Dictionary.toList_ofList (List.pairwise_pair.mpr hkeys))
  rw [QuestionFile.parse?, Json.parse?_compact htextual, hsorted]
  rfl

/-- Of two files with one question each, a bank takes both questions. -/
theorem import_directory_of_two_names :
    let disk := shelves "p.json" "q.json" (card "Capital of France?" "Paris").compact
      (card "Capital of Italy?" "Rome").compact
    ∃ files questions bank, load disk "banks" = .ok files ∧
      questions = files.flatMap QuestionFile.questions ∧ questions.length = 2 ∧
      Bank.empty.add questions = (2, bank) := by
  intro disk
  obtain ⟨files, questions, count, bank, hload, hquestions, hadd, -, -, -, -, -, -, hnames⟩ :=
    import_directory (node_shelves "p.json" "q.json" (card "Capital of France?" "Paris").compact
      (card "Capital of Italy?" "Rome").compact)
  cases hload.symm.trans (load_shelves (by decide +kernel) (by decide +kernel)
    (parse?_card ..) (parse?_card ..))
  have hlength : questions.length = 2 := by
    rw [hquestions]
    decide +kernel
  have hcount : count = 2 := (hnames (by decide +kernel)).trans hlength
  exact ⟨_, questions, bank, hload, hquestions, hlength, hcount ▸ hadd⟩

/-- Of two files of one name with one question each, a bank takes the first question only. -/
theorem import_same_name :
    let disk := shelves "q.json" "q.json" (card "Capital of France?" "Paris").compact
      (card "Capital of Italy?" "Rome").compact
    ∃ files questions bank, load disk "banks" = .ok files ∧
      questions = files.flatMap QuestionFile.questions ∧ questions.length = 2 ∧
      ¬ DistinctIds questions ∧ Bank.empty.add questions = (1, bank) := by
  have hload := load_shelves (by decide +kernel) (by decide +kernel)
    (parse?_card "q.json" "Capital of France?" "Paris")
    (parse?_card "q.json" "Capital of Italy?" "Rome")
  let files := [cardFile "q.json" "Capital of France?" "Paris",
    cardFile "q.json" "Capital of Italy?" "Rome"]
  have hlength : (files.flatMap QuestionFile.questions).length = 2 := by decide +kernel
  have hcount : (Bank.empty.add (files.flatMap QuestionFile.questions)).1 = 1 := by decide +kernel
  refine ⟨_, _, _, hload, rfl, hlength, ?_, Prod.ext hcount rfl⟩
  rw [← Bank.count_add_empty_eq_length_iff]
  exact fun hall => absurd (hcount.symm.trans (hall.trans hlength)) (by decide)

end Library

end Quizmaster
