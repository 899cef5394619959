import Quizmaster.Keyed
import Quizmaster.Path

namespace Quizmaster

namespace Disk

/-- A file, or a directory of named entries. -/
inductive Node
  | file (content : ByteArray)
  | directory (entries : List (String × Node))

namespace Node

def isDirectory : Node → Bool
  | .directory _ => true
  | .file _ => false

/-- The node that names lead to. -/
def find? : Node → List String → Option Node
  | node, [] => some node
  | .directory entries, name :: names => (entries.lookup name).bind (find? · names)
  | .file _, _ :: _ => none

/-- The tree with another node where the names lead to. Only the last name may be new. -/
def put : Node → List String → Node → Node
  | _, [], node => node
  | .file content, _ :: _, _ => .file content
  | .directory entries, [name], node => .directory (Keyed.insert Prod.fst (name, node) entries)
  | .directory entries, name :: names, node =>
    match entries.lookup name with
    | some inner => .directory (Keyed.insert Prod.fst (name, put inner names node) entries)
    | none => .directory entries

/-- Below an entry that is there, only that entry changes. -/
theorem put_cons {entries : List (String × Node)} {name : String} {inner : Node}
    (h : entries.lookup name = some inner) (names : List String) (node : Node) :
    put (.directory entries) (name :: names) node =
      .directory (Keyed.insert Prod.fst (name, put inner names node) entries) := by
  cases names with
  | nil => cases inner <;> rfl
  | cons next names => simp only [put, h]

mutual

/-- All files at or under a node that stands at a path, by their paths. -/
def files (path : String) : Node → List (String × ByteArray)
  | .file content => [(path, content)]
  | .directory entries => filesIn path entries

def filesIn (path : String) : List (String × Node) → List (String × ByteArray)
  | [] => []
  | (name, node) :: rest => node.files (Path.child path name) ++ filesIn path rest

end

/-- No two entries of a directory have one name, here or at any depth. -/
inductive WellNamed : Node → Prop
  | file (content : ByteArray) : WellNamed (.file content)
  | directory {entries : List (String × Node)} (hnodup : (entries.map Prod.fst).Nodup)
      (hinside : ∀ entry ∈ entries, entry.2.WellNamed) : WellNamed (.directory entries)

section

variable {entries : List (String × Node)} {name : String} {node root : Node}

@[simp] theorem wellNamed_file (content : ByteArray) : (Node.file content).WellNamed :=
  .file content

@[simp] theorem wellNamed_directory_iff : (Node.directory entries).WellNamed ↔
    (entries.map Prod.fst).Nodup ∧ ∀ entry ∈ entries, entry.2.WellNamed := by
  constructor
  · intro h
    cases h with
    | directory hnodup hinside => exact ⟨hnodup, hinside⟩
  · rintro ⟨hnodup, hinside⟩
    exact .directory hnodup hinside

/-- An entry of a new name, or in place of the one of its name, keeps names apart. -/
theorem WellNamed.insert (h : (Node.directory entries).WellNamed) (hnode : node.WellNamed) :
    (Node.directory (Keyed.insert Prod.fst (name, node) entries)).WellNamed := by
  obtain ⟨hnodup, hinside⟩ := wellNamed_directory_iff.mp h
  refine .directory (Keyed.nodup_keys_insert hnodup _) fun entry hentry => ?_
  obtain rfl | ⟨hentry, -⟩ := Keyed.mem_insert.mp hentry
  · exact hnode
  · exact hinside entry hentry

/-- What a directory holds is well-named as the directory is. -/
theorem WellNamed.of_lookup (h : (Node.directory entries).WellNamed)
    (hlookup : entries.lookup name = some node) : node.WellNamed := by
  obtain ⟨before, after, rfl, -⟩ := List.lookup_eq_some_iff.mp hlookup
  exact (wellNamed_directory_iff.mp h).2 (name, node) (by simp)

/-- A well-named tree stays one wherever a well-named one is put. -/
theorem WellNamed.put (h : root.WellNamed) (hnode : node.WellNamed) (place : List String) :
    (root.put place node).WellNamed := by
  induction place generalizing root with
  | nil => cases h <;> exact hnode
  | cons name names ih =>
    cases root with
    | file content => cases names <;> exact .file content
    | directory entries =>
      cases hlookup : entries.lookup name with
      | some inner =>
        rw [put_cons hlookup]
        exact h.insert (ih (h.of_lookup hlookup))
      | none =>
        cases names with
        | nil => exact h.insert hnode
        | cons next names =>
          simp only [Node.put, hlookup]
          exact h

end

end Node

/-- A node that is well-named. -/
structure Tree where
  node : Node
  wellNamed : node.WellNamed

namespace Tree

def file (content : ByteArray) : Tree := ⟨.file content, .file content⟩

def directory (entries : List (String × Node))
    (wellNamed : (Node.directory entries).WellNamed := by simp) : Tree :=
  ⟨.directory entries, wellNamed⟩

/-- A directory without entries. -/
def empty : Tree := .directory [] (.directory .nil nofun)

/-- The tree with another one where the names lead to. Only the last name may be new. -/
def put (tree : Tree) (place : List String) (inner : Tree) : Tree :=
  ⟨tree.node.put place inner.node, tree.wellNamed.put inner.wellNamed place⟩

end Tree

end Disk

/-- Files and directories, as far as the program works on them, and the directory that relative
    paths start from. -/
structure Disk where
  root : Disk.Tree
  /-- The names from the root down to the working directory. -/
  workingDirectory : List String

namespace Disk

/-- Why an operation on a path failed. -/
inductive Fault
  | notFound
  | alreadyExists
  | notADirectory
  | isADirectory
  /-- The content is no UTF-8 text. -/
  | notText
deriving DecidableEq, Repr

def Fault.message : Fault → String
  | .notFound => "No such file or directory (os error 2)"
  | .alreadyExists => "File exists (os error 17)"
  | .notADirectory => "Not a directory (os error 20)"
  | .isADirectory => "Is a directory (os error 21)"
  | .notText => "stream did not contain valid UTF-8"

/-- Follows names from a place in the tree to another, which need not exist while the one above it
    does. -/
def walk (disk : Disk) (place : List String) : List String → Except Fault (List String)
  | [] => .ok place
  | name :: names =>
    match disk.root.node.find? place with
    | none => .error .notFound
    | some (.file _) => .error .notADirectory
    | some (.directory _) =>
      walk disk (if name == ".." then place.dropLast else place ++ [name]) names

/-- The place in the tree that names lead to, from the root or the working directory. -/
def locate (disk : Disk) (absolute : Bool) (names : List String) : Except Fault (List String) :=
  disk.walk (if absolute then [] else disk.workingDirectory) names

/-- The place in the tree that a path names. The empty path names none. -/
def resolve (disk : Disk) (path : String) : Except Fault (List String) := do
  if path == "" then throw .notFound
  let place ← disk.locate (Path.isAbsolute path) (Path.names path)
  match disk.root.node.find? place with
  | some (.file _) => if Path.namesDirectory path then throw .notADirectory else return place
  | _ => return place

/-- The node that a path names. -/
def node (disk : Disk) (path : String) : Except Fault Node := do
  match disk.root.node.find? (← disk.resolve path) with
  | some node => return node
  | none => throw .notFound

def contains (disk : Disk) (path : String) : Bool := (disk.node path).toBool

def isDirectory (disk : Disk) (path : String) : Bool :=
  match disk.node path with
  | .ok node => node.isDirectory
  | .error _ => false

/-- The text of UTF-8 bytes. -/
def decode (content : ByteArray) : Except Fault String :=
  match String.fromUTF8? content with
  | some s => .ok s
  | none => .error .notText

/-- The text in a file. -/
def read (disk : Disk) (path : String) : Except Fault String := do
  match ← disk.node path with
  | .directory _ => throw .isADirectory
  | .file content => decode content

/-- Writes a file in a directory that exists, over the one that was there. -/
def writeBytes (disk : Disk) (path : String) (content : ByteArray) : Except Fault Disk := do
  let place ← disk.resolve path
  match disk.root.node.find? place with
  | some (.directory _) => throw .isADirectory
  | some (.file _) => return { disk with root := disk.root.put place (.file content) }
  | none =>
    if Path.namesDirectory path then throw .isADirectory
    else return { disk with root := disk.root.put place (.file content) }

def write (disk : Disk) (path text : String) : Except Fault Disk :=
  disk.writeBytes path text.toUTF8

/-- Makes a directory in one that exists. -/
def makeDirectoryAt (disk : Disk) (absolute : Bool) (names : List String) : Except Fault Disk := do
  let place ← disk.locate absolute names
  match disk.root.node.find? place with
  | some _ => throw .alreadyExists
  | none => return { disk with root := disk.root.put place .empty }

def isDirectoryAt (disk : Disk) (absolute : Bool) (names : List String) : Bool :=
  match disk.locate absolute names with
  | .ok place => (disk.root.node.find? place).any Node.isDirectory
  | .error _ => false

/-- Makes a directory and those above it, given by the names that lead to it, last name first. A
    directory that is there already is as good as made. -/
def makeAllAt (absolute : Bool) : List String → Disk → Except Fault Unit × Disk
  | [], disk => (.ok (), disk)
  | last :: above, disk =>
    let names := (last :: above).reverse
    let settle (disk : Disk) (fault : Fault) : Except Fault Unit × Disk :=
      if disk.isDirectoryAt absolute names then (.ok (), disk) else (.error fault, disk)
    match disk.makeDirectoryAt absolute names with
    | .ok disk => (.ok (), disk)
    | .error .notFound =>
      match makeAllAt absolute above disk with
      | (.error fault, disk) => (.error fault, disk)
      | (.ok (), disk) =>
        match disk.makeDirectoryAt absolute names with
        | .ok disk => (.ok (), disk)
        | .error fault => settle disk fault
    | .error fault => settle disk fault

/-- Makes a directory and those above it. -/
def makeAll (disk : Disk) (path : String) : Except Fault Unit × Disk :=
  makeAllAt (Path.isAbsolute path) (Path.names path).reverse disk

/-- Makes the directories above a file. -/
def makeAbove (disk : Disk) (path : String) : Except Fault Unit × Disk :=
  makeAllAt (Path.isAbsolute path) (Path.names path).dropLast.reverse disk

/-- Why a file was not saved: a directory above it could not be made, or it could not be
    written. -/
inductive SaveFault
  | directory (fault : Fault)
  | file (fault : Fault)
deriving DecidableEq, Repr

/-- Writes a file together with the directories above it. Directories that were made stay where
    the rest fails. -/
def save (disk : Disk) (path text : String) : Except SaveFault Unit × Disk :=
  match disk.makeAbove path with
  | (.error fault, disk) => (.error (.directory fault), disk)
  | (.ok (), disk) =>
    match disk.write path text with
    | .ok disk => (.ok (), disk)
    | .error fault => (.error (.file fault), disk)

end Disk

end Quizmaster
