import Quizmaster.Text.Pieces

namespace Quizmaster.Path

/-- The pieces between slashes. -/
def pieces (path : String) : List String := Text.split '/' path

/-- The names that a path goes through. Empty ones and `.` name nothing. -/
def names (path : String) : List String :=
  (pieces path).filter fun name => name != "" && name != "."

def isAbsolute (path : String) : Bool := path.toList.head? == some '/'

/-- Whether a path can only name a directory: it ends in a slash, in `.` or in `..`. -/
def namesDirectory (path : String) : Bool :=
  match (pieces path).getLast? with
  | some last => last == "" || last == "." || last == ".."
  | none => false

/-- The path of an entry in a directory. -/
def child (directory name : String) : String :=
  if directory == "" || directory.toList.getLast? == some '/' then directory ++ name
  else directory ++ "/" ++ name

/-- The last name of a path, unless it leads upwards. -/
def fileName? (path : String) : Option String :=
  (names path).getLast?.filter (· != "..")

/-- What follows the last point of a file's name; a point at the very start marks no extension. -/
def extension? (name : String) : Option String :=
  match (Text.split '.' name).reverse with
  | last :: before@(_ :: _) => if before == [""] then none else some last
  | _ => none

end Quizmaster.Path
