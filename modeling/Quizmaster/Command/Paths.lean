import Quizmaster.Command

namespace Quizmaster.Command

/-- The configuration option of the commands that have one. -/
def configOption? : Command → Option (Option String)
  | .take options => some options.config
  | .add _ config | .bank _ config | .progress _ config => some config
  | .validate _ | .samples => none

/-- The file or directory that questions are read from, which has to be on the desk. -/
def questionPath? : Command → Option String
  | .take options =>
    match options.pool with
    | .files path => some path
    | .saved | .published _ => none
  | .add (some (.files path)) _ => some path
  | .validate path => some path
  | _ => none

/-- The files that a command may read as its configuration. -/
def configPaths (env : Environment) (c : Command) : List String :=
  (c.configOption?.map (Config.candidates · env)).getD []

/-- The variables that a command heeds beside those that are heeded always. -/
def references (env : Environment) (disk : Disk) (c : Command) : List String :=
  match c.configOption?.map (Config.loadWritten · env disk) with
  | some (.ok config) => config.references
  | _ => []

/-- The file of the store that the configuration names. -/
def storePath? (env : Environment) (disk : Disk) (c : Command) : Option String :=
  c.configOption?.bind fun named => (Config.load named env disk).toOption.map Config.storePath

/-- The files that a command writes besides its store. -/
def outputPaths : Command → List String
  | .take options => options.output.toList
  | .samples => [Config.localPath, samplePath]
  | _ => []

end Quizmaster.Command
