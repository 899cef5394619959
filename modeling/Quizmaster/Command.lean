import Quizmaster.Command.Upkeep

namespace Quizmaster

/-- The commands of the program. -/
inductive Command
  | take (options : Command.TakeOptions)
  | add (origin : Option Command.Origin) (config : Option String)
  | bank (clear : Bool) (config : Option String)
  | validate (path : String)
  | progress (reset : Bool) (config : Option String)
  | samples
deriving DecidableEq, Repr

/-- Runs a command. Only tests read input and need a stamp for their report. -/
def Command.run {m : Type → Type} [Monad m] (setting : Command.Setting m)
    (lines : List (Option String)) (stamp : Command.Stamp) : Command → Command.Shell m Unit
  | .take options => Command.takeTest setting options lines stamp
  | .add origin config => Command.addToBank setting origin config
  | .bank clear config => Command.showBank setting clear config
  | .validate path => Command.checkFiles path
  | .progress reset config => Command.showProgress setting reset config
  | .samples => Command.setUp

end Quizmaster
