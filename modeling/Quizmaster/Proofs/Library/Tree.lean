import Mathlib.Logic.Relation
import Quizmaster.Proofs.Disk.Order
import Quizmaster.Proofs.Library.Spelling

namespace Quizmaster

namespace Library

/-- At a place in a tree there is a file of questions: it is named as one, and its content is the
    text of one. -/
inductive FileAt : List (String × Disk.Node) → List String → QuestionFile → Prop
  | here {entries : List (String × Disk.Node)} {name text : String} {content : ByteArray}
      {f : QuestionFile} (hentry : (name, .file content) ∈ entries) (hname : IsQuestionName name)
      (htext : Disk.decode content = .ok text) (hparse : QuestionFile.parse? name text = some f) :
      FileAt entries [name] f
  | inside {entries inner : List (String × Disk.Node)} {name : String} {place : List String}
      {f : QuestionFile} (hentry : (name, .directory inner) ∈ entries)
      (hinner : FileAt inner place f) : FileAt entries (name :: place) f

/-- The files of a tree with their places, in the order of these. -/
structure IsListing (entries : List (String × Disk.Node)) (files : List QuestionFile)
    (listing : List (List String × QuestionFile)) : Prop where
  files_eq : files = listing.map Prod.snd
  ordered : listing.Pairwise fun file file' => Disk.Precedes file.1 file'.1
  mem_iff : ∀ place f, (place, f) ∈ listing ↔ FileAt entries place f

namespace FileAt

variable {entries entries' : List (String × Disk.Node)} {place : List String} {f : QuestionFile}
  {name : String}

theorem iff_exists_entry :
    FileAt entries place f ↔ ∃ entry ∈ entries, FileAt [entry] place f := by
  constructor
  · intro h
    cases h with
    | here hentry hname htext hparse =>
      exact ⟨_, hentry, .here (List.mem_singleton_self _) hname htext hparse⟩
    | inside hentry hinner => exact ⟨_, hentry, .inside (List.mem_singleton_self _) hinner⟩
  · rintro ⟨entry, hentry, h⟩
    cases h with
    | here hsame hname htext hparse =>
      exact .here (List.mem_singleton.mp hsame ▸ hentry) hname htext hparse
    | inside hsame hinner => exact .inside (List.mem_singleton.mp hsame ▸ hentry) hinner

/-- The order of entries does not matter for what is found. -/
theorem congr_mem (h : ∀ entry, entry ∈ entries ↔ entry ∈ entries') :
    FileAt entries place f ↔ FileAt entries' place f := by
  rw [iff_exists_entry, @iff_exists_entry entries']
  simp only [h]

theorem append_iff : FileAt (entries ++ entries') place f ↔
    FileAt entries place f ∨ FileAt entries' place f := by
  rw [iff_exists_entry, @iff_exists_entry entries, @iff_exists_entry entries']
  simp only [List.mem_append, or_and_right, exists_or]

theorem cons_iff {entry : String × Disk.Node} : FileAt (entry :: entries) place f ↔
    FileAt [entry] place f ∨ FileAt entries place f := by
  rw [← List.singleton_append, append_iff]

theorem append_cons_iff {entry : String × Disk.Node} :
    FileAt (entries ++ entry :: entries') place f ↔
      FileAt entries place f ∨ FileAt [entry] place f ∨ FileAt entries' place f := by
  rw [append_iff, cons_iff]

theorem not_nil : ¬ FileAt [] place f := by
  rw [iff_exists_entry]
  simp

/-- What a directory holds is found one name further down. -/
theorem directory_iff : FileAt [(name, .directory entries)] place f ↔
    ∃ inner, place = name :: inner ∧ FileAt entries inner f := by
  constructor
  · rintro (⟨hentry, -, -, -⟩ | ⟨hentry, hinner⟩)
    · cases List.mem_singleton.mp hentry
    · cases List.mem_singleton.mp hentry
      exact ⟨_, rfl, hinner⟩
  · rintro ⟨inner, rfl, hinner⟩
    exact .inside (List.mem_singleton_self _) hinner

/-- The one file that a node can be. -/
theorem file_iff {content : ByteArray} :
    FileAt [(name, .file content)] place f ↔ place = [name] ∧ f ∈ ofNode name (.file content) := by
  rw [mem_ofNode_file_iff, isQuestionFile_iff]
  constructor
  · rintro (⟨hentry, hname, htext, hparse⟩ | ⟨hentry, -⟩)
    · cases List.mem_singleton.mp hentry
      exact ⟨rfl, hname, _, htext, hparse⟩
    · cases List.mem_singleton.mp hentry
  · rintro ⟨rfl, hname, text, htext, hparse⟩
    exact .here (List.mem_singleton_self _) hname htext hparse

/-- A place begins with the name of an entry. -/
theorem exists_eq_cons {node : Disk.Node} (h : FileAt [(name, node)] place f) :
    ∃ rest, place = name :: rest := by
  cases h with
  | here hentry _ _ _ =>
    cases List.mem_singleton.mp hentry
    exact ⟨[], rfl⟩
  | inside hentry _ =>
    cases List.mem_singleton.mp hentry
    exact ⟨_, rfl⟩

end FileAt

namespace IsListing

variable {entries entries' rest : List (String × Disk.Node)} {files files' : List QuestionFile}
  {listing listing' : List (List String × QuestionFile)}

theorem congr_mem (h : IsListing entries files listing)
    (hsame : ∀ entry, entry ∈ entries ↔ entry ∈ entries') : IsListing entries' files listing :=
  ⟨h.files_eq, h.ordered, fun place f => (h.mem_iff place f).trans (FileAt.congr_mem hsame)⟩

/-- A file is listed at its own name. -/
theorem file (name : String) (content : ByteArray) :
    IsListing [(name, .file content)] (ofNode name (.file content))
      ((ofNode name (.file content)).map ([name], ·)) where
  files_eq := by rw [List.map_map, Function.comp_def, List.map_id']
  ordered := by
    rw [ofNode]
    split
    · cases (Disk.decode content).toOption.bind (QuestionFile.parse? name) with
      | none => exact .nil
      | some f => exact List.pairwise_singleton _ _
    · exact .nil
  mem_iff place f := by
    rw [FileAt.file_iff]
    simp [and_comm, eq_comm]

/-- What a directory holds is listed with the directory's name in front. -/
theorem directory (h : IsListing entries files listing) (name : String) :
    IsListing [(name, .directory entries)] files
      (listing.map fun file => (name :: file.1, file.2)) where
  files_eq := by
    rw [List.map_map]
    exact h.files_eq
  ordered := List.pairwise_map.mpr (h.ordered.imp fun hprecedes => hprecedes.cons name)
  mem_iff place f := by
    simp only [FileAt.directory_iff, ← h.mem_iff]
    constructor
    · intro hmem
      obtain ⟨file, hfile, hsame⟩ := List.mem_map.mp hmem
      obtain ⟨rfl, rfl⟩ := Prod.mk.inj hsame
      exact ⟨file.1, rfl, hfile⟩
    · rintro ⟨inner, rfl, hfile⟩
      exact List.mem_map.mpr ⟨_, hfile, rfl⟩

/-- An entry that comes before the others comes with all its files before theirs. -/
theorem cons {name : String} {node : Disk.Node} (h : IsListing [(name, node)] files listing)
    (hrest : IsListing rest files' listing') (hlt : ∀ entry ∈ rest, name < entry.1) :
    IsListing ((name, node) :: rest) (files ++ files') (listing ++ listing') where
  files_eq := by rw [h.files_eq, hrest.files_eq, List.map_append]
  ordered := by
    refine List.pairwise_append.mpr ⟨h.ordered, hrest.ordered, ?_⟩
    rintro ⟨place, f⟩ hfile ⟨place', f'⟩ hfile'
    obtain ⟨below, rfl⟩ := ((h.mem_iff _ _).mp hfile).exists_eq_cons
    obtain ⟨⟨name', node'⟩, hentry, hat⟩ :=
      FileAt.iff_exists_entry.mp ((hrest.mem_iff _ _).mp hfile')
    obtain ⟨below', rfl⟩ := hat.exists_eq_cons
    exact .of_lt (hlt _ hentry) below below'
  mem_iff place f := by
    rw [List.mem_append, h.mem_iff, hrest.mem_iff]
    exact FileAt.cons_iff.symm

/-- Where the same files stand at the same places, they come in the same order. -/
theorem unique (h : IsListing entries files listing) (h' : IsListing entries' files' listing')
    (hsame : ∀ place f, FileAt entries place f ↔ FileAt entries' place f) : files = files' := by
  have hnodup {listing : List (List String × QuestionFile)}
      (hordered : listing.Pairwise fun file file' => Disk.Precedes file.1 file'.1) :
      listing.Nodup := hordered.imp fun hprecedes heq => hprecedes.ne (congrArg Prod.fst heq)
  have hperm : listing.Perm listing' :=
    (List.perm_ext_iff_of_nodup (hnodup h.ordered) (hnodup h'.ordered)).mpr fun (place, f) =>
      (h.mem_iff place f).trans ((hsame place f).trans (h'.mem_iff place f).symm)
  have heq : listing = listing' := hperm.eq_of_pairwise
    (fun _ _ _ _ hprecedes hprecedes' => absurd hprecedes' hprecedes.asymm) h.ordered h'.ordered
  rw [h.files_eq, h'.files_eq, heq]

end IsListing

/-- Entries in the order of their names. -/
def byName (entries : List (String × Disk.Node)) : List (String × Disk.Node) :=
  entries.mergeSort fun entry entry' => entry.1 ≤ entry'.1

section

variable {entries : List (String × Disk.Node)}

/-- Entries of different names are put in the order of their names. -/
theorem pairwise_byName (hnodup : (entries.map Prod.fst).Nodup) :
    (byName entries).Pairwise fun entry entry' => entry.1 < entry'.1 := by
  have hsorted : (byName entries).Pairwise fun entry entry' => entry.1 ≤ entry'.1 := by
    refine (List.pairwise_mergeSort ?_ ?_ entries).imp of_decide_eq_true
    · intro a b c hab hbc
      exact decide_eq_true (le_trans (of_decide_eq_true hab) (of_decide_eq_true hbc))
    · intro a b
      rw [Bool.or_eq_true, decide_eq_true_eq, decide_eq_true_eq]
      exact le_total a.1 b.1
  have hdistinct : (byName entries).Pairwise fun entry entry' => entry.1 ≠ entry'.1 :=
    List.pairwise_map.mp (((List.mergeSort_perm entries _).map Prod.fst).nodup_iff.mpr hnodup)
  exact (hsorted.and hdistinct).imp fun h => lt_of_le_of_ne h.1 h.2

theorem ofEach_eq (entries : List (String × Disk.Node)) :
    ofEach entries = entries.map fun entry => (entry.1, ofNode entry.1 entry.2) := by
  induction entries with
  | nil => rw [ofEach, List.map_nil]
  | cons entry rest ih => rw [ofEach, ih, List.map_cons]

/-- The files of a directory are those of its entries, in the order of names. -/
theorem ofEntries_eq (entries : List (String × Disk.Node)) :
    ofEntries entries = (byName entries).flatMap fun entry => ofNode entry.1 entry.2 := by
  have hmap : (byName entries).map (fun entry => (entry.1, ofNode entry.1 entry.2)) =
      (ofEach entries).mergeSort fun given given' => given.1 ≤ given'.1 := by
    rw [ofEach_eq]
    exact List.map_mergeSort fun _ _ _ _ => rfl
  rw [ofEntries, inOrder, ← hmap, List.flatMap_map]

/-- Entries in order are listed one after the other. -/
theorem exists_isListing_of_pairwise
    (hsorted : entries.Pairwise fun entry entry' => entry.1 < entry'.1)
    (h : ∀ entry ∈ entries, ∃ listing, IsListing [entry] (ofNode entry.1 entry.2) listing) :
    ∃ listing, IsListing entries (entries.flatMap fun entry => ofNode entry.1 entry.2) listing := by
  induction entries with
  | nil => exact ⟨[], rfl, .nil, fun place f => by simp [FileAt.not_nil]⟩
  | cons entry rest ih =>
    obtain ⟨hlt, hrest⟩ := List.pairwise_cons.mp hsorted
    obtain ⟨⟨listing, hlisting⟩, hothers⟩ := List.forall_mem_cons.mp h
    obtain ⟨listing', hlisting'⟩ := ih hrest hothers
    exact ⟨listing ++ listing', hlisting.cons hlisting' hlt⟩

/-- Entries of different names are listed, in whatever order they stand. -/
theorem exists_isListing_entries (hnodup : (entries.map Prod.fst).Nodup)
    (h : ∀ entry ∈ entries, ∃ listing, IsListing [entry] (ofNode entry.1 entry.2) listing) :
    ∃ listing, IsListing entries (ofEntries entries) listing := by
  have hmem (entry : String × Disk.Node) : entry ∈ byName entries ↔ entry ∈ entries :=
    List.mem_mergeSort
  obtain ⟨listing, hlisting⟩ := exists_isListing_of_pairwise (pairwise_byName hnodup)
    fun entry hentry => h entry ((hmem entry).mp hentry)
  rw [ofEntries_eq]
  exact ⟨listing, hlisting.congr_mem hmem⟩

/-- A well-named node is listed, at any depth: by induction on the tree. -/
theorem exists_isListing_node {node : Disk.Node} (h : node.WellNamed) (name : String) :
    ∃ listing, IsListing [(name, node)] (ofNode name node) listing := by
  induction h generalizing name with
  | file content => exact ⟨_, .file name content⟩
  | directory hnodup _ ih =>
    obtain ⟨listing, hlisting⟩ :=
      exists_isListing_entries hnodup fun entry hentry => ih entry hentry entry.1
    rw [ofNode]
    exact ⟨_, hlisting.directory name⟩

/-- The files of a tree are those that stand somewhere in it, each once, in the order of places. -/
theorem exists_isListing (h : (Disk.Node.directory entries).WellNamed) :
    ∃ listing, IsListing entries (ofEntries entries) listing := by
  cases h with
  | directory hnodup hinside =>
    exact exists_isListing_entries hnodup fun entry hentry =>
      exists_isListing_node (hinside entry hentry) entry.1

end

/-- An entry that is no file of questions, and has none below it at any depth. -/
inductive Barren : String × Disk.Node → Prop
  | misnamed {name : String} (hname : ¬ IsQuestionName name) (content : ByteArray) :
      Barren (name, .file content)
  | malformed {name : String} {content : ByteArray}
      (hparse : ∀ text, Disk.decode content = .ok text → QuestionFile.parse? name text = none) :
      Barren (name, .file content)
  | directory (name : String) {entries : List (String × Disk.Node)}
      (hall : ∀ entry ∈ entries, Barren entry) : Barren (name, .directory entries)

/-- A change of one entry, anywhere in a tree, that no file of questions is part of. -/
inductive Edit : List (String × Disk.Node) → List (String × Disk.Node) → Prop
  | add (before after : List (String × Disk.Node)) {entry : String × Disk.Node}
      (hentry : Barren entry) : Edit (before ++ after) (before ++ entry :: after)
  | remove (before after : List (String × Disk.Node)) {entry : String × Disk.Node}
      (hentry : Barren entry) : Edit (before ++ entry :: after) (before ++ after)
  | change (before after : List (String × Disk.Node)) {name : String} {node node' : Disk.Node}
      (hnode : Barren (name, node)) (hnode' : Barren (name, node')) :
      Edit (before ++ (name, node) :: after) (before ++ (name, node') :: after)
  | inside (before after : List (String × Disk.Node)) (name : String)
      {inner inner' : List (String × Disk.Node)} (hinner : Edit inner inner') :
      Edit (before ++ (name, .directory inner) :: after)
        (before ++ (name, .directory inner') :: after)

section

variable {entries entries' : List (String × Disk.Node)} {entry : String × Disk.Node}
  {place : List String} {f : QuestionFile}

theorem Barren.not_fileAt (h : Barren entry) : ¬ FileAt [entry] place f := by
  induction h generalizing place with
  | misnamed hname content =>
    rintro (⟨hentry, hnamed, -, -⟩ | ⟨hentry, -⟩)
    · cases List.mem_singleton.mp hentry
      exact hname hnamed
    · cases List.mem_singleton.mp hentry
  | malformed hparse =>
    rintro (⟨hentry, -, htext, hsome⟩ | ⟨hentry, -⟩)
    · cases List.mem_singleton.mp hentry
      cases (hparse _ htext).symm.trans hsome
    · cases List.mem_singleton.mp hentry
  | directory name hall ih =>
    rw [FileAt.directory_iff]
    rintro ⟨inner, -, hinner⟩
    obtain ⟨entry, hentry, hat⟩ := FileAt.iff_exists_entry.mp hinner
    exact ih entry hentry hat

/-- A change of what is barren changes nothing of what is found. -/
theorem Edit.fileAt_iff (h : Edit entries entries') :
    FileAt entries place f ↔ FileAt entries' place f := by
  induction h generalizing place with
  | add before after hentry =>
    rw [FileAt.append_cons_iff, or_iff_right hentry.not_fileAt, FileAt.append_iff]
  | remove before after hentry =>
    rw [FileAt.append_cons_iff, or_iff_right hentry.not_fileAt, FileAt.append_iff]
  | change before after hnode hnode' =>
    rw [FileAt.append_cons_iff, FileAt.append_cons_iff, or_iff_right hnode.not_fileAt,
      or_iff_right hnode'.not_fileAt]
  | inside before after name hinner ih =>
    rw [FileAt.append_cons_iff, FileAt.append_cons_iff, FileAt.directory_iff,
      FileAt.directory_iff]
    simp only [ih]

/-- No number of such changes does. -/
theorem fileAt_iff_of_edits (h : Relation.ReflTransGen Edit entries entries') :
    FileAt entries place f ↔ FileAt entries' place f := by
  induction h with
  | refl => rfl
  | tail _ hlast ih => exact ih.trans hlast.fileAt_iff

end

/-- No file of a directory hides another. A directory gives exactly the files of questions that
    stand in it, at any depth, each once and in the order of places; and whatever is added, changed
    or removed that is no such file and holds none, it gives the same files. -/
theorem load_tree {disk : Disk} {path : String} {entries : List (String × Disk.Node)}
    (hpath : disk.node path = .ok (.directory entries)) :
    ∃ files listing, readDirectory disk path = .ok files ∧ load disk path = .ok files ∧
      IsListing entries files listing ∧
      ∀ (disk' : Disk) (path' : String) (entries' : List (String × Disk.Node)),
        disk'.node path' = .ok (.directory entries') →
        Relation.ReflTransGen Edit entries entries' →
        readDirectory disk' path' = .ok files ∧ load disk' path' = .ok files := by
  have hread {disk : Disk} {path : String} {entries : List (String × Disk.Node)}
      (hpath : disk.node path = .ok (.directory entries)) :
      readDirectory disk path = .ok (ofEntries entries) ∧
        load disk path = .ok (ofEntries entries) :=
    ⟨by rw [readDirectory, hpath], load_of_directory hpath⟩
  obtain ⟨listing, hlisting⟩ := exists_isListing (Disk.wellNamed_of_node hpath)
  refine ⟨ofEntries entries, listing, (hread hpath).1, (hread hpath).2, hlisting, ?_⟩
  intro disk' path' entries' hpath' hedits
  obtain ⟨listing', hlisting'⟩ := exists_isListing (Disk.wellNamed_of_node hpath')
  rw [hlisting.unique hlisting' fun place f => fileAt_iff_of_edits hedits]
  exact hread hpath'

def cardEntry (name prompt answer : String) : String × Disk.Node :=
  (name, .file (card prompt answer).compact.toUTF8)

theorem isListing_cardEntry {name : String} (hname : isQuestionFile name = true)
    (prompt answer : String) :
    IsListing [cardEntry name prompt answer] [cardFile name prompt answer]
      [([name], cardFile name prompt answer)] := by
  have hlisting := IsListing.file name (card prompt answer).compact.toUTF8
  rwa [ofNode_card hname] at hlisting

/-- A directory that is named as a file of questions comes before a file of questions. A file that
    is not JSON, ahead of both, and one with nothing before its extension make no difference. -/
theorem load_tree_mixed :
    let italy := cardEntry "q.json" "Capital of Italy?" "Rome"
    let france := cardEntry "b.JSON" "Capital of France?" "Paris"
    let tidy := [france, ("a.json", .directory [italy])]
    let mixed := ("z.json", .file "[".toUTF8) ::
      [france, ("a.json", .directory [italy, cardEntry ".json" "1 + 1?" "2"])]
    let files := [cardFile "q.json" "Capital of Italy?" "Rome",
      cardFile "b.JSON" "Capital of France?" "Paris"]
    let shelf (entries : List (String × Disk.Node))
        (wellNamed : (Disk.Node.directory entries).WellNamed) : Disk :=
      ⟨.directory [("banks", .directory entries)] (by simpa using wellNamed), []⟩
    load (shelf tidy (by simp [tidy, france, italy, cardEntry])) "banks" = .ok files ∧
      load (shelf mixed (by simp [mixed, france, italy, cardEntry])) "/banks/" = .ok files := by
  intro italy france tidy mixed files shelf
  obtain ⟨found, listing, -, hload, hlisting, hframe⟩ :=
    @load_tree (shelf tidy (by simp [tidy, france, italy, cardEntry])) "banks" tidy rfl
  -- The same files, listed entry by entry.
  have hitaly : IsListing [italy] [cardFile "q.json" _ _] _ :=
    isListing_cardEntry (by decide +kernel) "Capital of Italy?" "Rome"
  have hfrance : IsListing [france] [cardFile "b.JSON" _ _] _ :=
    isListing_cardEntry (by decide +kernel) "Capital of France?" "Paris"
  have hknown := (hitaly.directory "a.json").cons hfrance
    (List.forall_mem_singleton.mpr (by decide))
  have hfound : found = files := hlisting.unique hknown fun place f =>
    FileAt.congr_mem fun entry => (List.Perm.swap _ _ _).mem_iff
  have hmalformed : Barren ("z.json", .file "[".toUTF8) := by
    refine .malformed fun text htext => ?_
    rw [Disk.decode_toUTF8] at htext
    obtain rfl := Except.ok.inj htext
    rfl
  have hdot : Barren (cardEntry ".json" "1 + 1?" "2") :=
    .misnamed (mt isQuestionFile_iff.mpr (by decide +kernel)) _
  have hedits : Relation.ReflTransGen Edit tidy mixed :=
    (Relation.ReflTransGen.single (.inside [france] [] "a.json" (.add [italy] [] hdot))).tail
      (.add [] _ hmalformed)
  rw [← hfound]
  exact ⟨hload, (hframe _ _ _ rfl hedits).2⟩

end Library

end Quizmaster
