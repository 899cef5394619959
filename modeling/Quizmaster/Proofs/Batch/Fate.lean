import Mathlib.Data.List.Nodup
import Quizmaster.Proofs.Bank
import Quizmaster.Proofs.Item.Acceptance
import Quizmaster.Proofs.Service

namespace Quizmaster

namespace Question

/-- The question at a place of its own. -/
def placed (q : Question) (id : String) (source : Source) : Question := { q with id, source }

/-- A question without what tells where it stands. -/
def content (q : Question) : Question := q.placed "" .default

@[simp] theorem content_placed (q : Question) (id : String) (source : Source) :
    (q.placed id source).content = q.content := rfl

end Question

/-- An item is judged, and its question made, without regard to its place. -/
theorem Item.toQuestion_eq (item : Item) (id : String) (source : Source) :
    item.toQuestion id source =
      (item.toQuestion "" .default).map (Question.placed · id source) := by
  unfold toQuestion
  cases textField? item.question with
  | none => rfl
  | some prompt =>
    cases given item.answer with
    | none => rfl
    | some answer =>
      simp only [bind, Except.bind]
      cases kindOf item answer with
      | error flaw => rfl
      | ok kind =>
        simp only
        split <;> rfl

/-- The last mark in a text is found where no mark can stand behind it. -/
theorem append_cons_inj_of_forall {p : Char → Bool} {mark : Char} (hmark : p mark = false)
    {before before' after after' : List Char} (hafter : ∀ c ∈ after, p c = true)
    (hafter' : ∀ c ∈ after', p c = true)
    (h : before ++ mark :: after = before' ++ mark :: after') :
    before = before' ∧ after = after' := by
  have hsplit {after : List Char} (hafter : ∀ c ∈ after, p c = true) (before : List Char) :
      (after.reverse ++ mark :: before).takeWhile p = after.reverse ∧
        (after.reverse ++ mark :: before).dropWhile p = mark :: before :=
    takeWhile_append_of_head (fun c hc => hafter c (List.mem_reverse.mp hc)) (by simpa using hmark)
  have hreverse : after.reverse ++ mark :: before.reverse =
      after'.reverse ++ mark :: before'.reverse := by
    simpa using congrArg List.reverse h
  obtain ⟨htake, hdrop⟩ := hsplit hafter before.reverse
  obtain ⟨htake', hdrop'⟩ := hsplit hafter' before'.reverse
  rw [hreverse, htake'] at htake
  rw [hreverse, hdrop'] at hdrop
  exact ⟨(List.reverse_injective (List.cons.inj hdrop).2).symm,
    (List.reverse_injective htake).symm⟩

/-- What is kept of the entries of a list, by a test of the entry alone, and told by its place. -/
theorem filterMap_zipIdx_eq {α β : Type} (items : List α) (p : α → Bool) {f : α × Nat → Option β}
    {g : Nat → β} (hf : ∀ a i, f (a, i) = if p a then some (g i) else none) :
    items.zipIdx.filterMap f =
      ((List.range items.length).filter fun i => items[i]?.any p).map g := by
  calc items.zipIdx.filterMap f
      = (items.zipIdx.filter fun entry => p entry.1).map (g ∘ Prod.snd) := by
        rw [← List.filterMap_eq_map, List.filterMap_filter]
        exact List.filterMap_congr fun entry _ => hf entry.1 entry.2
    _ = ((items.zipIdx.filter fun entry => items[entry.2]?.any p).map Prod.snd).map g := by
        rw [List.map_map]
        congr 1
        refine List.filter_congr fun entry hentry => ?_
        rw [List.mem_zipIdx_iff_getElem?.mp hentry, Option.any_some]
    _ = ((List.range items.length).filter fun i => items[i]?.any p).map g := by
        rw [List.range_eq_range', ← List.zipIdx_map_snd 0 items, List.filter_map]
        rfl

namespace Batch

/-- What becomes of a value, wherever it stands. -/
def fate (value : Json) : Except Item.Flaw Question := do
  (← Item.ofJson value).toQuestion "" .default

/-- Stem, source and place are only seen in the id and the source of the question. -/
theorem convert_eq (stem : String) (source : Source) (index : Nat) (value : Json) :
    convert stem source index value =
      (fate value).map (Question.placed · (idOf stem index) source) := by
  unfold convert fate
  cases Item.ofJson value with
  | error flaw => rfl
  | ok item => exact item.toQuestion_eq _ _

theorem content_of_fate {value : Json} {q : Question} (h : fate value = .ok q) : q.content = q := by
  have hplaced : fate value = (fate value).map Question.content := by
    unfold fate
    cases Item.ofJson value with
    | error flaw => rfl
    | ok item => exact item.toQuestion_eq "" .default
  rw [h] at hplaced
  exact (Except.ok.inj hplaced).symm

/-- Both the name of a list and the place in it can be told from an id. -/
theorem idOf_inj {stem stem' : String} {i j : Nat} :
    idOf stem i = idOf stem' j ↔ stem = stem' ∧ i = j := by
  constructor
  · intro h
    have hchars : stem.toList ++ '_' :: Nat.toDigits 10 i =
        stem'.toList ++ '_' :: Nat.toDigits 10 j := by
      simpa [idOf] using congrArg String.toList h
    obtain ⟨hstem, -⟩ := append_cons_inj_of_forall (p := Char.isDigit) (by decide)
      (fun c hc => Nat.isDigit_of_mem_toDigits (by decide) (by decide) hc)
      (fun c hc => Nat.isDigit_of_mem_toDigits (by decide) (by decide) hc) hchars
    have hsame : stem = stem' := String.toList_inj.mp hstem
    subst hsame
    exact ⟨rfl, idOf_injective stem h⟩
  · rintro ⟨rfl, rfl⟩
    rfl

/-- Why a value is skipped, if it is. -/
def flaw? (value : Json) : Option Item.Flaw :=
  match fate value with
  | .ok _ => none
  | .error flaw => some flaw

/-- Whether the value at a place becomes a question. -/
def keeps (items : List Json) (index : Nat) : Bool :=
  items[index]?.any fun value => (fate value).isOk

section

variable (stem : String) (source : Source) (items : List Json)

/-- The questions are the values that are kept, each placed by its index. -/
theorem questions_eq : (ofItems stem source items).questions =
    items.zipIdx.filterMap fun entry =>
      (fate entry.1).toOption.map (Question.placed · (idOf stem entry.2) source) := by
  refine List.filterMap_congr fun (value, index) _ => ?_
  simp only [convert_eq]
  cases fate value <;> rfl

/-- The skipped values are those that have a flaw. -/
theorem skipped_eq : (ofItems stem source items).skipped =
    items.zipIdx.filterMap fun entry => (flaw? entry.1).map (Skipped.mk entry.2) := by
  refine List.filterMap_congr fun (value, index) _ => ?_
  simp only [convert_eq, flaw?]
  cases fate value <;> rfl

/-- The ids are those of the places whose values are kept, in order. -/
theorem ids_questions : (ofItems stem source items).questions.map Question.id =
    ((List.range items.length).filter (keeps items)).map (idOf stem) := by
  rw [questions_eq, List.map_filterMap]
  refine filterMap_zipIdx_eq items (fun value => (fate value).isOk) fun value index => ?_
  cases fate value <;> rfl

/-- The places that are skipped are the others, in order. -/
theorem indices_skipped : (ofItems stem source items).skipped.map Skipped.index =
    (List.range items.length).filter fun index => !keeps items index := by
  have hskipped : (ofItems stem source items).skipped.map Skipped.index =
      ((List.range items.length).filter fun index =>
        items[index]?.any fun value => !(fate value).isOk).map id := by
    rw [skipped_eq, List.map_filterMap]
    refine filterMap_zipIdx_eq items (fun value => !(fate value).isOk) fun value index => ?_
    simp only [flaw?]
    cases fate value <;> rfl
  rw [hskipped, List.map_id]
  refine List.filter_congr fun index hindex => ?_
  rw [keeps, List.getElem?_eq_getElem (List.mem_range.mp hindex), Option.any_some, Option.any_some]

/-- What the questions hold besides their places depends on the values alone. -/
theorem contents_questions : (ofItems stem source items).questions.map Question.content =
    items.filterMap fun value => (fate value).toOption := by
  rw [questions_eq, List.map_filterMap]
  calc _ = items.zipIdx.filterMap ((fun value => (fate value).toOption) ∘ Prod.fst) := by
        refine List.filterMap_congr fun (value, index) _ => ?_
        simp only [Function.comp_apply]
        cases hfate : fate value with
        | error flaw => rfl
        | ok q => exact congrArg some (content_of_fate hfate)
    _ = items.filterMap fun value => (fate value).toOption := by
        rw [← List.filterMap_map, List.zipIdx_map_fst]

end

variable {stem stem' : String} {source source' : Source} {items items' : List Json}
  {index index' : Nat} {value : Json}

theorem mem_skipped_iff (hvalue : items[index]? = some value) {flaw : Item.Flaw} :
    ⟨index, flaw⟩ ∈ (ofItems stem source items).skipped ↔ fate value = .error flaw := by
  have hflaw : flaw? value = some flaw ↔ fate value = .error flaw := by
    unfold flaw?
    cases fate value <;> simp
  rw [skipped_eq, List.mem_filterMap, ← hflaw]
  constructor
  · rintro ⟨⟨other, place⟩, hmem, hskip⟩
    obtain ⟨found, hfound, hsame⟩ := Option.map_eq_some_iff.mp hskip
    cases hsame
    have hother := List.mem_zipIdx_iff_getElem?.mp hmem
    cases hother.symm.trans hvalue
    exact hfound
  · intro hfound
    exact ⟨(value, index), List.mem_zipIdx_iff_getElem?.mpr hvalue, by rw [hfound]; rfl⟩

theorem exists_question_iff (hvalue : items[index]? = some value) {content : Question} :
    (∃ q ∈ (ofItems stem source items).questions, q.id = idOf stem index ∧ q.content = content) ↔
      fate value = .ok content := by
  constructor
  · rintro ⟨q, hq, hid, rfl⟩
    have hconvert := (mem_questions_at_iff hvalue).mp ⟨hq, hid⟩
    rw [convert_eq] at hconvert
    cases hfate : fate value with
    | error flaw =>
      rw [hfate] at hconvert
      cases hconvert
    | ok made =>
      rw [hfate] at hconvert
      obtain rfl := Except.ok.inj hconvert
      rw [Question.content_placed, content_of_fate hfate]
  · intro hfate
    have hconvert : convert stem source index value =
        .ok (content.placed (idOf stem index) source) := by
      rw [convert_eq, hfate]
      rfl
    obtain ⟨hmem, hid⟩ := (mem_questions_at_iff hvalue).mpr hconvert
    exact ⟨_, hmem, hid, by rw [Question.content_placed, content_of_fate hfate]⟩

/-- No two questions of a list share an id. -/
theorem distinctIds_questions (stem : String) (source : Source) (items : List Json) :
    Question.DistinctIds (ofItems stem source items).questions := by
  rw [Question.DistinctIds, ids_questions]
  exact (List.nodup_range.filter _).map (idOf_injective stem)

end Batch

namespace Service

variable {s : Service} {code body : String} {status : Nat} {items : List Json}

/-- What is asked for under a code is read as the items of a quiz. -/
theorem outcome_load {request : Request} (h : s.loadRequest? code = some request) (reply : Reply) :
    outcome (s.load · code) reply =
      (s.read request.url "Failed to load quiz." quizItems? reply).map
        (questionsOf (Text.trim code)) := by
  by_cases hblank : Text.trim code = ""
  · rw [loadRequest?, if_pos hblank] at h
    cases h
  · rw [loadRequest?, if_neg hblank] at h
    rw [outcome, load_of_not_blank hblank, call_of_request?_eq_some h]
    rfl

/-- A body that says that the call succeeded, and holds these items. -/
def Publishes (body : String) (items : List Json) : Prop :=
  ∃ w envelope, Json.read? body = some w ∧ Envelope.ofWritten? w = some envelope ∧
    envelope.success = true ∧ quizItems? w = some items

/-- A quiz that the service publishes is converted as a file of its items would be. -/
theorem load_of_publishes (hrequest : (s.loadRequest? code).isSome = true) (hstatus : status < 400)
    (h : Publishes body items) :
    outcome (s.load · code) (.answered status body) =
      .ok (questionsOf (Text.trim code) items) := by
  obtain ⟨w, envelope, hread, henvelope, hsuccess, hitems⟩ := h
  obtain ⟨request, hrequest⟩ := Option.isSome_iff_exists.mp hrequest
  have hcontents : s.read request.url "Failed to load quiz." quizItems? (.answered status body) =
      .ok items := by
    simp [read, contents, Nat.not_le.mpr hstatus, hread, henvelope, hsuccess, hitems]
    rfl
  rw [outcome_load hrequest, hcontents]
  rfl

end Service

namespace Batch

/-- At these places of two batches stand the same questions, but for their ids and sources, and the
    same flaws. -/
structure SameFate (stem stem' : String) (i j : Nat) (b b' : Batch) : Prop where
  flaws : ∀ flaw, ⟨i, flaw⟩ ∈ b.skipped ↔ ⟨j, flaw⟩ ∈ b'.skipped
  contents : ∀ content, (∃ q ∈ b.questions, q.id = idOf stem i ∧ q.content = content) ↔
    ∃ q ∈ b'.questions, q.id = idOf stem' j ∧ q.content = content

/-- What becomes of a value is the same at any place of any list. -/
theorem sameFate_ofItems {stem stem' : String} {source source' : Source} {items items' : List Json}
    {i j : Nat} {value : Json} (hvalue : items[i]? = some value)
    (hvalue' : items'[j]? = some value) :
    SameFate stem stem' i j (ofItems stem source items) (ofItems stem' source' items') where
  flaws _ := (mem_skipped_iff hvalue).trans (mem_skipped_iff hvalue').symm
  contents _ := (exists_question_iff hvalue).trans (exists_question_iff hvalue').symm

/-- The same questions, but for their ids and sources, and the same skipped values. -/
structure Alike (b b' : Batch) : Prop where
  contents : b.questions.map Question.content = b'.questions.map Question.content
  skipped : b.skipped = b'.skipped

/-- Two conversions of one list give the same questions but for ids and sources, and skip the same
    places. -/
theorem alike_ofItems (stem stem' : String) (source source' : Source) (items : List Json) :
    Alike (ofItems stem source items) (ofItems stem' source' items) where
  contents := by rw [contents_questions, contents_questions]
  skipped := by rw [skipped_eq, skipped_eq]

/-- Every value of a list stands for itself. Each place is that of one question or of one skipped
    value, in the order of places, and an id tells the place and the name of the list. What becomes
    of a value is the same at any place of any list, and a file and a quiz of the same values are
    alike. -/
theorem ofItems_itemwise (stem : String) (source : Source) (items : List Json) :
    (∃ kept : Nat → Bool,
      (ofItems stem source items).questions.map Question.id =
        ((List.range items.length).filter kept).map (idOf stem) ∧
      (ofItems stem source items).skipped.map Skipped.index =
        (List.range items.length).filter fun index => !kept index) ∧
    Question.DistinctIds (ofItems stem source items).questions ∧
    (∀ (stem' : String) (i j : Nat), idOf stem i = idOf stem' j ↔ stem = stem' ∧ i = j) ∧
    (∀ (stem' : String) (source' : Source) (items' : List Json) (i j : Nat) (value : Json),
      items[i]? = some value → items'[j]? = some value →
      SameFate stem stem' i j (ofItems stem source items) (ofItems stem' source' items')) ∧
    ∀ (name content : String) (value : Json), Json.parse? content = some value →
      QuestionFile.itemsOf value = items →
      ∃ file, QuestionFile.parse? name content = some file ∧
        file.batch = ofItems name (.ofFileName name) items ∧
        ∀ (s : Service) (code body : String) (status : Nat),
          (s.loadRequest? code).isSome = true → status < 400 → Service.Publishes body items →
          ∃ quiz, Service.outcome (s.load · code) (.answered status body) = .ok quiz.questions ∧
            quiz = ofItems (Text.trim code) (.ofCode (Text.trim code)) items ∧
            Alike quiz file.batch := by
  refine ⟨⟨keeps items, ids_questions .., indices_skipped ..⟩, distinctIds_questions ..,
    fun _ _ _ => idOf_inj, fun _ _ _ _ _ _ => sameFate_ofItems, ?_⟩
  rintro name content value hparse rfl
  refine ⟨_, by rw [QuestionFile.parse?, hparse]; rfl, rfl, fun s code body status => ?_⟩
  intro hrequest hstatus hpublishes
  exact ⟨_, Service.load_of_publishes hrequest hstatus hpublishes, rfl, alike_ofItems ..⟩

/-- A good item before a broken one, in a file and in a quiz, and after a broken one. -/
theorem ofItems_itemwise_of_two :
    let good : Json := .array [.string "Q", .null, .string "A"]
    let items : List Json := [good, .bool true]
    let body : Json := .object [("success", .bool true), ("quiz", .array items)]
    SameFate "a_1" "b" 0 1 (ofItems "a_1" .default items) (ofItems "b" .default [.null, good]) ∧
      ∃ file, QuestionFile.parse? "q.json" (Json.array items).compact = some file ∧
        ∃ quiz, Service.outcome ((⟨"http://h", 1⟩ : Service).load · " c ")
            (.answered 200 body.compact) = .ok quiz.questions ∧
          Alike quiz file.batch := by
  intro good items body
  obtain ⟨-, -, -, hlocal, hsources⟩ := ofItems_itemwise "a_1" .default items
  have htextual : Json.Textual Json.Written.maxDepth (.array items) := by
    simp [items, good, Json.Textual, Json.TextualItems, Json.Written.maxDepth]
  have hread : Json.read? body.compact = some body.written :=
    Json.read?_compact ⟨trivial, htextual.legible, trivial⟩
  have hquiz : Service.quizItems? body.written = some items := by rfl
  refine ⟨hlocal "b" .default [.null, good] 0 1 good rfl rfl, ?_⟩
  obtain ⟨file, hfile, -, hload⟩ := hsources "q.json" _ _ (Json.parse?_compact htextual) rfl
  obtain ⟨quiz, hquestions, -, halike⟩ := hload ⟨"http://h", 1⟩ " c " body.compact 200
    (by decide) (by decide) ⟨_, ⟨true, none⟩, hread, rfl, rfl, hquiz⟩
  exact ⟨file, hfile, quiz, hquestions, halike⟩

end Batch

end Quizmaster
