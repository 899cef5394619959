import Quizmaster.Proofs.Store.File
import Quizmaster.Proofs.Store.Lawful

namespace Quizmaster.Store

/-- What is done with a store: calls, and loading it anew. -/
inductive Use
  | get (key : String)
  | set (key value : String)
  | remove (key : String)
  | reload
deriving DecidableEq, Repr

section

variable {ε σ : Type} [Store ε σ] (reload : ExceptT ε (StateM σ) Unit)

/-- Does what is asked, and gives what is read by it. -/
def Use.perform : Use → ExceptT ε (StateM σ) (List (Option String))
  | .get key => return [← Store.get key]
  | .set key value => do
    Store.set key value
    return []
  | .remove key => do
    Store.remove key
    return []
  | .reload => do
    reload
    return []

/-- All that is read in a run, which ends early where a call fails. -/
def readings : List Use → ExceptT ε (StateM σ) (List (Option String))
  | [] => return []
  | use :: uses => return (← use.perform reload) ++ (← readings uses)

end

namespace File

/-- Loads the store anew from its path. -/
def reload : ExceptT Failure (StateM File) Unit :=
  ExceptT.mk fun file =>
    match load file.path file.disk with
    | .ok file => (.ok (), file)
    | .error failure => (.error failure, file)

variable {disk : Disk} {path : String} {file after : File}

end File

end Quizmaster.Store
