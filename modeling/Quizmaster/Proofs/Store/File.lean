import Quizmaster.Proofs.Disk
import Quizmaster.Proofs.Encodings
import Quizmaster.Proofs.Json.Indented
import Quizmaster.Proofs.Dictionary
import Quizmaster.Store.File

namespace Quizmaster

theorem Json.text?_eq_some_iff {w : Json.Written} {s : String} :
    w.text? = some s ↔ w = .string (some s) := by
  cases w <;> simp [Written.text?]

namespace Store.File

/-- A JSON object of texts, in the form that it is read in. -/
def objectOf (pairs : List (String × String)) : Json.Written :=
  .object (pairs.map fun (key, value) => (some key, .string (some value)))

theorem mapM_texts_eq_some_iff {members : List (Option String × Json.Written)}
    {pairs : List (String × String)} :
    members.mapM (fun (key, value) => (do return (← key, ← value.text?) : Option _)) = some pairs ↔
      Json.Written.object members = objectOf pairs := by
  rw [objectOf, Json.Written.object.injEq]
  induction members generalizing pairs with
  | nil => cases pairs <;> simp
  | cons member members ih =>
    obtain ⟨key, value⟩ := member
    cases pairs with
    | nil => simp [Option.bind_eq_some_iff]
    | cons pair pairs =>
      rw [List.map_cons, List.cons.injEq, ← ih]
      simp [Option.bind_eq_some_iff, Json.text?_eq_some_iff, Prod.ext_iff]

/-- Entries are read from the text of an object of texts and from no other text. -/
theorem decode?_eq_some_iff {text : String} {entries : Entries} :
    decode? text = some entries ↔
      ∃ pairs, Json.read? text = some (objectOf pairs) ∧ entries = .ofList pairs := by
  unfold decode?
  cases hread : Json.read? text with
  | none => simp
  | some w =>
    simp only [Option.bind_eq_bind, Option.bind_some, Option.some.injEq]
    cases w with
    | object members =>
      simp only [← mapM_texts_eq_some_iff]
      rw [Option.bind_eq_some_iff]
      simp [eq_comm]
    | _ => simp [objectOf]

theorem read?_pretty_texts (pairs : List (String × String)) :
    Json.read? (Json.object (pairs.map fun (key, value) => (key, .string value))).pretty =
      some (objectOf pairs) := by
  have hmembers : Json.LegibleMembers (pairs.map fun (key, value) => (key, .string value)) ∧
      Json.writtenMembers (pairs.map fun (key, value) => (key, .string value)) =
        pairs.map fun (key, value) => (some key, .string (some value)) := by
    induction pairs with
    | nil => exact ⟨trivial, rfl⟩
    | cons pair pairs ih => exact ⟨⟨trivial, ih.1⟩, congrArg _ ih.2⟩
  have hlegible : Json.Legible (.object (pairs.map fun (key, value) => (key, .string value))) :=
    hmembers.1
  rw [Json.read?_pretty hlegible, objectOf, Json.written, hmembers.2]

/-- The text of a store spells its entries. -/
theorem read?_encode (entries : Entries) :
    Json.read? (encode entries) = some (objectOf entries.toList) :=
  read?_pretty_texts entries.toList

/-- The text that a store is written as is read as the same store. -/
theorem decode?_encode (entries : Entries) : decode? (encode entries) = some entries :=
  decode?_eq_some_iff.mpr ⟨_, read?_encode entries, (Dictionary.ofList_toList entries).symm⟩

section

variable {disk : Disk} {path text : String} {file after : File}

theorem load_of_read (hcontains : disk.contains path = true) (hread : disk.read path = .ok text) :
    load path disk = .ok ⟨path, (decode? text).getD ∅, disk⟩ := by
  rw [load, if_pos hcontains, hread]

/-- A file that was loaded has the path and the disk that it was loaded from. -/
theorem load_ok (h : load path disk = .ok file) :
    file.path = path ∧ file.disk = disk := by
  unfold load at h
  split at h
  · split at h
    · cases h
      exact ⟨rfl, rfl⟩
    · cases h
  · cases h
    exact ⟨rfl, rfl⟩

/-- Entries that were written are what the file holds, and all that it holds. -/
theorem flush_ok (h : file.flush = (.ok (), after)) :
    after = { file with disk := after.disk } ∧ after.disk.contains file.path = true ∧
      after.disk.read file.path = .ok (encode file.entries) := by
  rw [flush] at h
  cases hsave : file.disk.save file.path (encode file.entries) with
  | mk result disk =>
    rw [hsave] at h
    cases result with
    | error fault => cases h
    | ok =>
      cases h
      exact ⟨rfl, Disk.read_of_save hsave⟩

/-- A value that is set is in memory before the file is written. -/
theorem set_run (key value : String) (file : File) :
    (Store.set key value).run.run file =
      flush { file with entries := file.entries.insert key value } := rfl

/-- A file whose bytes are a text is always loaded: as what it holds, if it is an object of texts,
    of which the last one under a key counts, and as an empty store if it is anything else. Bytes
    that are no text make loading fail. Whatever was there, a change that succeeds leaves in the
    file the store's entries and nothing else. -/
theorem load_existing {content : ByteArray} (hfile : disk.node path = .ok (.file content)) :
    (∀ text, String.fromUTF8? content = some text →
      ∃ file, load path disk = .ok file ∧
        (∀ pairs, Json.read? text = some (objectOf pairs) →
          ∀ key, file.entries.get? key = pairs.reverse.lookup key) ∧
        ((∀ pairs, Json.read? text ≠ some (objectOf pairs)) → file.entries = ∅)) ∧
    (String.fromUTF8? content = none → load path disk = .error (.unreadable path .notText)) ∧
    ∀ (file after : File) (key value : String), file.path = path →
      (Store.set key value).run.run file = (.ok (), after) →
        after.entries = file.entries.insert key value ∧
        ∃ text, after.disk.read path = .ok text ∧
          Json.read? text = some (objectOf after.entries.toList) := by
  have hcontains : disk.contains path = true := by rw [Disk.contains, hfile]; rfl
  have hread := Disk.read_of_node hfile
  refine ⟨fun text htext => ?_, fun hnone => ?_, ?_⟩
  · have hdecoded : disk.read path = .ok text := by rw [hread, Disk.decode, htext]
    refine ⟨_, load_of_read hcontains hdecoded, fun pairs hpairs key => ?_, fun hother => ?_⟩
    · rw [decode?_eq_some_iff.mpr ⟨pairs, hpairs, rfl⟩]
      exact Dictionary.get?_ofList pairs key
    · cases hdecode : decode? text with
      | none => rfl
      | some entries =>
        obtain ⟨pairs, hpairs, -⟩ := decode?_eq_some_iff.mp hdecode
        exact absurd hpairs (hother pairs)
  · have hfault : disk.read path = .error .notText := by rw [hread, Disk.decode, hnone]
    rw [load, if_pos hcontains, hfault]
  · rintro file after key value rfl hset
    obtain ⟨hafter, -, hwritten⟩ := flush_ok hset
    rw [hafter]
    exact ⟨rfl, _, hwritten, read?_encode _⟩

/-- Of two texts under one key the later one counts, and what was set is in the file. -/
theorem load_existing_same_key :
    ∃ (disk : Disk) (path text : String) (file after : File),
      disk.node path = .ok (.file text.toUTF8) ∧ load path disk = .ok file ∧
        file.entries.get? "k" = some "new" ∧
        (Store.set "j" "v").run.run file = (.ok (), after) ∧
        ∃ written, after.disk.read path = .ok written ∧
          Json.read? written = some (objectOf after.entries.toList) := by
  let text := "\x7b\"k\":\"old\",\"k\":\"new\"\x7d "
  let disk : Disk := ⟨.directory [("store.json", .file text.toUTF8)], []⟩
  have hfile : disk.node "store.json" = .ok (.file text.toUTF8) := rfl
  have hdecode : decode? text = some (.ofList [("k", "new")]) := by decide +kernel
  obtain ⟨pairs, hread, hpairs⟩ := decode?_eq_some_iff.mp hdecode
  obtain ⟨htext, -, hset⟩ := load_existing hfile
  obtain ⟨file, hload, hentries, -⟩ := htext text (dif_pos text.isValidUTF8)
  obtain ⟨hpath, hdisk⟩ := load_ok hload
  obtain ⟨after, hafter⟩ : ∃ after, (Store.set "j" "v").run.run file = (.ok (), after) := by
    refine ⟨_, Prod.ext ?_ rfl⟩
    rw [set_run, flush, hpath, hdisk]
    rfl
  obtain ⟨-, hwritten⟩ := hset file after "j" "v" hpath hafter
  refine ⟨disk, "store.json", text, file, after, hfile, hload, ?_, hafter, hwritten⟩
  rw [hentries pairs hread, ← Dictionary.get?_ofList, ← hpairs]
  rfl

/-- A file that is no text keeps its store from being loaded. -/
theorem load_undecodable :
    ∃ (disk : Disk) (path : String) (content : ByteArray),
      disk.node path = .ok (.file content) ∧
        load path disk = .error (.unreadable path .notText) := by
  let content : ByteArray := ⟨#[0xff]⟩
  let disk : Disk := ⟨.directory [("store.json", .file content)], []⟩
  have hfile : disk.node "store.json" = .ok (.file content) := rfl
  have hnone : String.fromUTF8? content = none := by
    rw [← Option.isNone_iff_eq_none]
    decide +kernel
  have hcontains : disk.contains "store.json" = true := rfl
  refine ⟨disk, "store.json", content, hfile, ?_⟩
  rw [load, if_pos hcontains, Disk.read_of_node hfile, Disk.decode, hnone]

end

end Store.File

end Quizmaster
