import Quizmaster.Disk

namespace Quizmaster.Disk

/-- A step that makes one disk into another, at the place that names lead to from the root. Nothing
    is ever removed from a disk. -/
inductive Change
  | makeDirectory (names : List String)
  | write (names : List String) (content : ByteArray)

/-- Whether a node is the file of a content. -/
def Node.isFile (content : ByteArray) : Node → Bool
  | .file found => found == content
  | .directory _ => false

/-- The entry of a name, if the node is a directory and has one. -/
def Node.entry? (name : String) : Node → Option Node
  | .directory entries => entries.lookup name
  | .file _ => none

mutual

/-- The steps to a node from the one that stood in its place; a directory comes before what is in
    it. -/
def Node.changesFrom (names : List String) (old : Option Node) : Node → List Change
  | .file content => if old.any (Node.isFile content) then [] else [.write names content]
  | .directory entries =>
    let inside := entryChanges names old entries
    if old.any Node.isDirectory then inside else .makeDirectory names :: inside

def entryChanges (names : List String) (old : Option Node) : List (String × Node) → List Change
  | [] => []
  | (name, node) :: rest =>
    node.changesFrom (names ++ [name]) (old.bind (Node.entry? name)) ++ entryChanges names old rest

end

/-- The steps from an earlier disk to a later one. -/
def changes (before after : Disk) : List Change :=
  after.root.node.changesFrom [] (some before.root.node)

end Quizmaster.Disk
